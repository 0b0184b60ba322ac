/-!
# The classes that every program has

Names, ancestors and modules of the classes that scripts and templates meet without defining
them. A class outside the ordinary ones is named with its module in front.
-/

namespace Stepwise.Classes

/-- The nearest ancestor of a class, if it is not the root. -/
def parents : String → List String
  | "object" => []
  | "bool" => ["int"]
  | "markupsafe.Markup" => ["str"]
  | "datetime.datetime" => ["datetime.date"]
  | "datetime.timezone" => ["datetime.tzinfo"]
  | "jinx.context.ExecutionContext" => ["dict"]
  | "collections.OrderedDict" => ["dict"]
  | "collections.defaultdict" => ["dict"]
  | "collections.Counter" => ["dict"]
  | "jinja2.runtime.StrictUndefined" => ["jinja2.runtime.Undefined"]
  | "jinja2.runtime.ChainableUndefined" => ["jinja2.runtime.Undefined"]
  -- errors
  | "Exception" => ["BaseException"]
  | "SystemExit" => ["BaseException"]
  | "KeyboardInterrupt" => ["BaseException"]
  | "GeneratorExit" => ["BaseException"]
  | "asyncio.exceptions.CancelledError" => ["BaseException"]
  | "StopIteration" => ["Exception"]
  | "StopAsyncIteration" => ["Exception"]
  | "ArithmeticError" => ["Exception"]
  | "FloatingPointError" => ["ArithmeticError"]
  | "OverflowError" => ["ArithmeticError"]
  | "ZeroDivisionError" => ["ArithmeticError"]
  | "AssertionError" => ["Exception"]
  | "AttributeError" => ["Exception"]
  | "BufferError" => ["Exception"]
  | "EOFError" => ["Exception"]
  | "ImportError" => ["Exception"]
  | "ModuleNotFoundError" => ["ImportError"]
  | "LookupError" => ["Exception"]
  | "IndexError" => ["LookupError"]
  | "KeyError" => ["LookupError"]
  | "MemoryError" => ["Exception"]
  | "NameError" => ["Exception"]
  | "UnboundLocalError" => ["NameError"]
  | "OSError" => ["Exception"]
  | "BlockingIOError" => ["OSError"]
  | "ChildProcessError" => ["OSError"]
  | "ConnectionError" => ["OSError"]
  | "BrokenPipeError" => ["ConnectionError"]
  | "ConnectionAbortedError" => ["ConnectionError"]
  | "ConnectionRefusedError" => ["ConnectionError"]
  | "ConnectionResetError" => ["ConnectionError"]
  | "FileExistsError" => ["OSError"]
  | "FileNotFoundError" => ["OSError"]
  | "InterruptedError" => ["OSError"]
  | "IsADirectoryError" => ["OSError"]
  | "NotADirectoryError" => ["OSError"]
  | "PermissionError" => ["OSError"]
  | "ProcessLookupError" => ["OSError"]
  | "TimeoutError" => ["OSError"]
  | "ReferenceError" => ["Exception"]
  | "RuntimeError" => ["Exception"]
  | "NotImplementedError" => ["RuntimeError"]
  | "RecursionError" => ["RuntimeError"]
  | "SyntaxError" => ["Exception"]
  | "IndentationError" => ["SyntaxError"]
  | "TabError" => ["IndentationError"]
  | "SystemError" => ["Exception"]
  | "TypeError" => ["Exception"]
  | "ValueError" => ["Exception"]
  | "UnicodeError" => ["ValueError"]
  | "UnicodeDecodeError" => ["UnicodeError"]
  | "UnicodeEncodeError" => ["UnicodeError"]
  | "UnicodeTranslateError" => ["UnicodeError"]
  | "Warning" => ["Exception"]
  | "DeprecationWarning" => ["Warning"]
  | "PendingDeprecationWarning" => ["Warning"]
  | "RuntimeWarning" => ["Warning"]
  | "SyntaxWarning" => ["Warning"]
  | "UserWarning" => ["Warning"]
  | "FutureWarning" => ["Warning"]
  | "ImportWarning" => ["Warning"]
  | "UnicodeWarning" => ["Warning"]
  | "BytesWarning" => ["Warning"]
  | "ResourceWarning" => ["Warning"]
  | "EncodingWarning" => ["Warning"]
  | "json.decoder.JSONDecodeError" => ["ValueError"]
  | "re.error" => ["Exception"]
  | "jinja2.exceptions.TemplateError" => ["Exception"]
  | "jinja2.exceptions.TemplateNotFound" => ["LookupError", "jinja2.exceptions.TemplateError"]
  | "jinja2.exceptions.TemplatesNotFound" => ["jinja2.exceptions.TemplateNotFound"]
  | "jinja2.exceptions.TemplateSyntaxError" => ["jinja2.exceptions.TemplateError"]
  | "jinja2.exceptions.TemplateAssertionError" => ["jinja2.exceptions.TemplateSyntaxError"]
  | "jinja2.exceptions.TemplateRuntimeError" => ["jinja2.exceptions.TemplateError"]
  | "jinja2.exceptions.UndefinedError" => ["jinja2.exceptions.TemplateRuntimeError"]
  | "jinja2.exceptions.SecurityError" => ["jinja2.exceptions.TemplateRuntimeError"]
  | "jinja2.exceptions.FilterArgumentError" => ["jinja2.exceptions.TemplateRuntimeError"]
  | "jinx.errors.JinxError" => ["Exception"]
  | "jinx.errors.ValidationError" => ["jinx.errors.JinxError", "ValueError"]
  | "jinx.errors.StepExecutionError" => ["jinx.errors.JinxError"]
  | "jinx.errors.ScriptCompilationError" => ["jinx.errors.JinxError"]
  | "jinx.errors.ContextTypeError" => ["jinx.errors.JinxError", "TypeError"]
  | "jinx.errors.ToolchainInitializationError" => ["jinx.errors.JinxError"]
  | "pydantic_core._pydantic_core.ValidationError" => ["ValueError"]
  | _ => ["object"]

/-- A class and everything above it, nearest first; no chain is longer than eight. -/
def lineage (name : String) : List String :=
  go 8 [name]
where
  go : Nat → List String → List String
    | 0, l => l
    | fuel + 1, l =>
      let above := (l.flatMap parents).filter (fun p => !l.contains p)
      if above.isEmpty then l else go fuel (l ++ above.eraseDups)

/-- Is the first class the second or below it? -/
def isBelow (name above : String) : Bool := (lineage name).contains above

def isError (name : String) : Bool := isBelow name "BaseException"

/-- The name without its module. -/
def shortName (name : String) : String :=
  String.ofList ((name.toList.reverse.takeWhile (· != '.')).reverse)

/-- The module in front of a name, if there is one. -/
def moduleOf? (name : String) : Option String :=
  let n := name.length - (shortName name).length
  if n = 0 then none else some (String.ofList (name.toList.take (n - 1)))

/-- Errors that a library's own code names shortly, by their full names. -/
def validationError := "jinx.errors.ValidationError"
def stepExecutionError := "jinx.errors.StepExecutionError"
def scriptCompilationError := "jinx.errors.ScriptCompilationError"
def contextTypeError := "jinx.errors.ContextTypeError"
def toolchainError := "jinx.errors.ToolchainInitializationError"
def undefinedError := "jinja2.exceptions.UndefinedError"
def securityError := "jinja2.exceptions.SecurityError"
def templateRuntimeError := "jinja2.exceptions.TemplateRuntimeError"
def filterArgumentError := "jinja2.exceptions.FilterArgumentError"
def templateSyntaxError := "jinja2.exceptions.TemplateSyntaxError"
def templateAssertionError := "jinja2.exceptions.TemplateAssertionError"

end Stepwise.Classes
