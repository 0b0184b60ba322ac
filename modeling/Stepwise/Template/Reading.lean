import Stepwise.Template.Token
import Stepwise.Template.Tree
/-!
# Reading the tokens of templates

A reader takes tokens from the front of a list and answers with a part of the tree, or with the
fault that it found.
-/

namespace Stepwise.Template

abbrev Reading := StateT (List Lexeme) (Except Fault)

namespace Reading

def malformed {α : Type} : Reading α := throw .malformed

/-- The next token; behind the last one there is only the end. -/
def peek : Reading Token := do
  match ← get with
  | l :: _ => return l.token
  | [] => return .done

def peekSecond : Reading Token := do
  match ← get with
  | _ :: l :: _ => return l.token
  | _ => return .done

def advance : Reading Unit := modify List.tail

/-- The line of the next token. -/
def line : Reading Nat := do
  match ← get with
  | l :: _ => return l.line
  | [] => return 1

def Token.isWord (t : Token) (s : String) : Bool :=
  match t with
  | .name w => w == s
  | _ => false

def isOp (s : String) : Reading Bool := do
  match ← peek with
  | .op t => return t == s
  | _ => return false

def isWord (s : String) : Reading Bool := do return Token.isWord (← peek) s

def isWordIn (ws : List String) : Reading Bool := do return ws.any (Token.isWord (← peek))

/-- Takes a sign if it comes next. -/
def takeOp (s : String) : Reading Bool := do
  if ← isOp s then
    advance
    return true
  else return false

/-- Takes a word if it comes next. -/
def takeWord (s : String) : Reading Bool := do
  if ← isWord s then
    advance
    return true
  else return false

def needOp (s : String) : Reading Unit := do
  if !(← takeOp s) then malformed

def needWord (s : String) : Reading Unit := do
  if !(← takeWord s) then malformed

def needName : Reading String := do
  match ← peek with
  | .name s =>
    advance
    return s
  | _ => malformed

def needTagEnd : Reading Unit := do
  match ← peek with
  | .tagEnd => advance
  | _ => malformed

def isTagEnd : Reading Bool := do
  match ← peek with
  | .tagEnd => return true
  | _ => return false

def needPrintEnd : Reading Unit := do
  match ← peek with
  | .printEnd => advance
  | _ => malformed

def repeatFor {σ α : Type} (step : σ → Reading (σ ⊕ α)) : Nat → σ → Reading α
  | 0, _ => malformed
  | n + 1, s => do
    match ← step s with
    | .inl s => repeatFor step n s
    | .inr a => return a

/-- Repeats a step until it yields a result; every step takes a token at least. -/
def loop {σ α : Type} (s : σ) (step : σ → Reading (σ ⊕ α)) : Reading α := do
  repeatFor step ((← get).length + 2) s

/-- Names joined by points. -/
def dottedName : Reading String := do
  loop (← needName) fun n => do
    if ← takeOp "." then return .inl (n ++ "." ++ (← needName)) else return .inr n

end Reading

end Stepwise.Template
