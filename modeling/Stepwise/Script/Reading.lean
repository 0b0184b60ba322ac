import Stepwise.Script.Token
/-!
# Reading tokens

A reader takes tokens from the front of a list and answers with a part of the tree, or with the
line at which the text stops being a script.
-/

namespace Stepwise.Script

abbrev Reading := StateT (List Lexeme) (Except Fault)

namespace Reading

def keywords : List String :=
  ["False", "None", "True", "and", "as", "assert", "async", "await", "break", "class", "continue",
    "def", "del", "elif", "else", "except", "finally", "for", "from", "global", "if", "import",
    "in", "is", "lambda", "nonlocal", "not", "or", "pass", "raise", "return", "while", "with",
    "yield"] ++ ["try"]

/-- The next token; behind the last one there is only the end. -/
def peek : Reading Lexeme := do return (← get).headD ⟨.done, 0, 0⟩

/-- The token after the next one. -/
def peekSecond : Reading Token := do
  match ← get with
  | _ :: l :: _ => return l.token
  | _ => return .done

def advance : Reading Unit := modify List.tail

/-- The line of the next token. -/
def line : Reading Nat := do return (← peek).line

/-- Stops at a line of its own choice. -/
def failAt {α : Type} (n : Nat) : Reading α := do
  throw ⟨.malformed, n, ← line⟩

/-- Stops because the next token does not fit. -/
def stray {α : Type} : Reading α := do
  let l ← peek
  let kind := match l.token with
    | .stuck k => k
    | .indent | .dedent => .indentation
    | _ => .malformed
  throw ⟨kind, l.line, l.line⟩

/-- Stops because lines further in were expected. -/
def unindented {α : Type} : Reading α := do
  let l ← peek
  throw ⟨.indentation, l.line, l.line⟩

def isOp (s : String) : Reading Bool := do
  match (← peek).token with
  | .op t => return t == s
  | _ => return false

def isWord (s : String) : Reading Bool := do
  match (← peek).token with
  | .name t => return t == s
  | _ => return false

/-- Takes a sign if it comes next. -/
def takeOp (s : String) : Reading Bool := do
  if ← isOp s then
    advance
    return true
  else return false

/-- Takes a keyword if it comes next. -/
def takeWord (s : String) : Reading Bool := do
  if ← isWord s then
    advance
    return true
  else return false

def needOp (s : String) : Reading Unit := do
  if !(← takeOp s) then stray

def needWord (s : String) : Reading Unit := do
  if !(← takeWord s) then stray

/-- The next token, if it is a name and no keyword. -/
def name? : Reading (Option String) := do
  match (← peek).token with
  | .name s => return if keywords.contains s then none else some s
  | _ => return none

def needName : Reading String := do
  match ← name? with
  | some s =>
    advance
    return s
  | none => stray

def isNewline : Reading Bool := do
  match (← peek).token with
  | .newline => return true
  | _ => return false

def repeatFor {σ α : Type} (step : σ → Reading (σ ⊕ α)) : Nat → σ → Reading α
  | 0, _ => stray
  | n + 1, s => do
    match ← step s with
    | .inl s => repeatFor step n s
    | .inr a => return a

/-- Repeats a step until it yields a result; every step takes a token at least. -/
def loop {σ α : Type} (s : σ) (step : σ → Reading (σ ⊕ α)) : Reading α := do
  repeatFor step ((← get).length + 2) s

/-- Tries a reader; if it fails, nothing has been taken. -/
def attempt {α : Type} (r : Reading α) : Reading (Option α) := fun s =>
  match r s with
  | .ok (a, s') => .ok (some a, s')
  | .error _ => .ok (none, s)

/-- What comes between a first thing and a closing sign, separated by commas; a comma may stand
behind the last one. The second part says whether one did. -/
def commaList {α : Type} (closes : Reading Bool) (item : Reading α) : Reading (List α × Bool) :=
  loop ([] : List α) fun acc => do
    if ← closes then return .inr (acc.reverse, !acc.isEmpty)
    let x ← item
    if ← takeOp "," then return .inl (x :: acc)
    else return .inr ((x :: acc).reverse, false)

end Reading

end Stepwise.Script
