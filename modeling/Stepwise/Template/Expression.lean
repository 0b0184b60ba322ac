import Stepwise.Template.Reading
/-!
# Reading expressions of templates

Expressions nest, so every reader here is given the reader of whole expressions and that of
operands one level further in; `expressions` ties them together with a bound on the nesting.
-/

namespace Stepwise.Template

open Reading

/-- The readers that the others fall back on. -/
structure Inner where
  expr : Reading Expr
  /-- An operand with its sign, without filters and tests. -/
  operand : Reading Expr

/-- What ends a list without brackets, besides the end of the tag. -/
abbrev Stops := List String

namespace Expr

/-- Can a value be assigned to it? -/
def isTarget : Expr → Bool
  | .name id => !(["true", "false", "none", "True", "False", "None"].contains id)
  | .fieldRef .. => true
  | .tuple es => es.attach.all fun ⟨e, _⟩ => isTarget e
  | _ => false

end Expr

/-! ## Lists and arguments -/

/-- Things between commas up to a closing sign; a comma may stand behind the last one. -/
private def items {α : Type} (close : String) (item : Reading α) : Reading (List α) :=
  loop ([] : List α) fun acc => do
    if ← takeOp close then return .inr acc.reverse
    if !acc.isEmpty then needOp ","
    if ← takeOp close then return .inr acc.reverse
    return .inl ((← item) :: acc)

private def listOf (k : Inner) : Reading Expr := do
  return .list (← items "]" k.expr)

private def dictOf (k : Inner) : Reading Expr := do
  return .dict (← items "\x7d" do
    let key ← k.expr
    needOp ":"
    return .pair key (← k.expr))

/-- The arguments of a call: values by position come first, then those by name; a source of more values
and a mapping of more names may each stand once, and nothing but a comma follows the mapping. -/
def arguments (k : Inner) : Reading (List Expr) := do
  needOp "("
  let has (p : Expr → Bool) (acc : List Expr) : Bool := acc.any p
  let isStar : Expr → Bool := fun e => match e with
    | .starred _ => true
    | _ => false
  let isDouble : Expr → Bool := fun e => match e with
    | .doubleStarred _ => true
    | _ => false
  let isKeyword : Expr → Bool := fun e => match e with
    | .keyword .. => true
    | _ => false
  let allowed (b : Bool) : Reading Unit := if b then pure () else malformed
  loop ([] : List Expr) fun acc => do
    if ← takeOp ")" then return .inr acc.reverse
    if !acc.isEmpty then needOp ","
    if ← takeOp ")" then return .inr acc.reverse
    if ← takeOp "*" then
      allowed (!has isStar acc && !has isDouble acc)
      return .inl (.starred (← k.expr) :: acc)
    else if ← takeOp "**" then
      allowed (!has isDouble acc)
      return .inl (.doubleStarred (← k.expr) :: acc)
    else
      match ← peek, ← peekSecond with
      | .name id, .op "=" =>
        allowed (!has isDouble acc)
        advance
        advance
        return .inl (.keyword id (← k.expr) :: acc)
      | _, _ =>
        allowed (!has isDouble acc && !has isStar acc && !has isKeyword acc)
        return .inl ((← k.expr) :: acc)

/-- One thing or, with commas, a tuple. Nothing at all is a tuple only in brackets. -/
def tupleOf (item : Reading Expr) (stops : Stops) (inBrackets : Bool) : Reading Expr := do
  let atEnd : Reading Bool := do
    match ← peek with
    | .printEnd | .tagEnd | .op ")" => return true
    | t => return stops.any (Token.isWord t)
  loop ([] : List Expr) fun acc => do
    if ← atEnd then
      if acc.isEmpty && !inBrackets then malformed
      return .inr (.tuple acc.reverse)
    let e ← item
    if ← takeOp "," then return .inl (e :: acc)
    else return .inr (match acc with
      | [] => e
      | _ => .tuple (e :: acc).reverse)

/-! ## Operands -/

def joinedText (first : String) : Reading Expr :=
  loop first fun s => do
    match ← peek with
    | .str t =>
      advance
      return .inl (s ++ t)
    | _ => return .inr (.lit (.str s))

/-- A name, a literal, or something in brackets. -/
def primary (k : Inner) (withFields : Bool) : Reading Expr := do
  match ← peek with
  | .name id =>
    advance
    if id == "true" || id == "True" then return .lit (.bool true)
    else if id == "false" || id == "False" then return .lit (.bool false)
    else if id == "none" || id == "None" then return .lit .null
    else if withFields then
      if ← takeOp "." then return .fieldRef id (← needName) else return .name id
    else return .name id
  | .str s =>
    advance
    joinedText s
  | .int n =>
    advance
    return .lit (.int n)
  | .float x =>
    advance
    return .lit (.float x)
  | .op "(" =>
    advance
    let e ← tupleOf k.expr [] true
    needOp ")"
    return e
  | .op "[" =>
    advance
    listOf k
  | .op "\x7b" =>
    advance
    dictOf k
  | _ => malformed

/-- What stands between the brackets of an index: an expression or a slice. -/
def indexPart (k : Inner) : Reading Expr := do
  let atEnd : Reading Bool := do return (← isOp "]") || (← isOp ",")
  let lo ← if ← isOp ":" then pure .omitted else k.expr
  if !(← takeOp ":") then return lo
  let hi ← if (← isOp ":") || (← atEnd) then pure .omitted else k.expr
  let step ← if ← takeOp ":" then (do if ← atEnd then pure .omitted else k.expr) else pure .omitted
  return .slice lo hi step

def indexOf (k : Inner) : Reading Expr := do
  loop ([] : List Expr) fun acc => do
    if ← takeOp "]" then
      return .inr (match acc with
        | [e] => e
        | es => .tuple es.reverse)
    if !acc.isEmpty then needOp ","
    return .inl ((← indexPart k) :: acc)

/-- Attributes, indexes and calls behind an operand. -/
def withTail (k : Inner) (e : Expr) : Reading Expr :=
  loop e fun e => do
    if ← takeOp "." then
      match ← peek with
      | .name id =>
        advance
        return .inl (.attr e id)
      | .int n =>
        advance
        return .inl (.index e (.lit (.int n)))
      | _ => malformed
    else if ← takeOp "[" then return .inl (.index e (← indexOf k))
    else if ← isOp "(" then return .inl (.call e (← arguments k))
    else return .inr e

/-- A filter behind its bar. -/
def filterOf (k : Inner) (e : Expr) : Reading Expr := do
  let id ← dottedName
  let args ← if ← isOp "(" then arguments k else pure []
  return .filter e id args

/-- The arguments of a test: in brackets, or a single operand. -/
private def testArguments (k : Inner) : Reading (List Expr) := do
  if ← isOp "(" then arguments k
  else
    let one : Reading (List Expr) := do return [← withTail k (← primary k false)]
    match ← peek with
    | .name w =>
      if ["else", "or", "and"].contains w then return []
      else if w == "is" then malformed
      else one
    | .str _ | .int _ | .float _ | .op "[" | .op "\x7b" => one
    | _ => return []

/-- Filters and tests behind an operand. -/
def withFilters (k : Inner) (e : Expr) : Reading Expr :=
  loop e fun e => do
    if ← takeOp "|" then return .inl (← filterOf k e)
    else if ← takeWord "is" then
      let negated ← takeWord "not"
      let id ← dottedName
      let t := Expr.test e id (← testArguments k)
      return .inl (if negated then .unary .negate t else t)
    else if ← isOp "(" then return .inl (.call e (← arguments k))
    else return .inr e

/-- An operand with its sign and what stands behind it, but without filters and tests. -/
def operandOf (k : Inner) : Reading Expr := do
  let e ← if ← takeOp "-" then (do pure (.unary .minus (← k.operand)))
    else if ← takeOp "+" then (do pure (.unary .plus (← k.operand)))
    else primary k false
  withTail k e

/-! ## Operators -/

def leftJoined (ops : List (String × BinaryOp)) (next : Reading Expr) : Reading Expr := do
  loop (← next) fun l => do
    match ← peek with
    | .op s =>
      match ops.lookup s with
      | some op =>
        advance
        return .inl (.binary op l (← next))
      | none => return .inr l
    | _ => return .inr l

def power (k : Inner) : Reading Expr :=
  leftJoined [("**", .pow)] do withFilters k (← operandOf k)

def product (k : Inner) : Reading Expr :=
  leftJoined [("*", .mul), ("/", .div), ("//", .floorDiv), ("%", .mod)] (power k)

def joined (k : Inner) : Reading Expr := do
  loop [← product k] fun es => do
    if ← takeOp "~" then return .inl ((← product k) :: es)
    else return .inr (match es with
      | [e] => e
      | es => .concat es.reverse)

def sum (k : Inner) : Reading Expr := leftJoined [("+", .add), ("-", .sub)] (joined k)

def compareSign? : Reading (Option CompareOp) := do
  match ← peek with
  | .op s =>
    let found : Option CompareOp := match s with
      | "==" => some .eq | "!=" => some .ne | "<" => some .lt | "<=" => some .le
      | ">" => some .gt | ">=" => some .ge | _ => none
    if found.isSome then advance
    return found
  | .name "in" =>
    advance
    return some .member
  | .name "not" =>
    if Token.isWord (← peekSecond) "in" then
      advance
      advance
      return some .notMember
    else return none
  | _ => return none

def comparison (k : Inner) : Reading Expr := do
  let first ← sum k
  let more ← loop ([] : List (CompareOp × Expr)) fun acc => do
    match ← compareSign? with
    | some op => return .inl ((op, ← sum k) :: acc)
    | none => return .inr acc.reverse
  return if more.isEmpty then first else .compare (more.map (·.1)) (first :: more.map (·.2))

def negation (k : Inner) : Reading Expr := do
  let n ← loop 0 fun n => do if ← takeWord "not" then return .inl (n + 1) else return .inr n
  return (List.range n).foldl (fun e _ => .unary .negate e) (← comparison k)

def conjunction (k : Inner) : Reading Expr := do
  loop (← negation k) fun l => do
    if ← takeWord "and" then return .inl (.both l (← negation k)) else return .inr l

/-- An expression without a condition. -/
def disjunction (k : Inner) : Reading Expr := do
  loop (← conjunction k) fun l => do
    if ← takeWord "or" then return .inl (.either l (← conjunction k)) else return .inr l

/-- A whole expression: a value, perhaps under a condition, and then another one otherwise. -/
def conditional (k : Inner) : Reading Expr := do
  let start ← line
  let first ← disjunction k
  loop (first, start) fun (e, start) => do
    if ← takeWord "if" then
      let test ← disjunction k
      let no ← if ← takeWord "else" then k.expr else pure .omitted
      return .inl (.cond test e no start, ← line)
    else return .inr e

/-! ## The readers together -/

/-- Readers that reach so many levels deep. -/
def expressions : Nat → Inner
  | 0 => ⟨malformed, malformed⟩
  | n + 1 => ⟨conditional (expressions n), operandOf (expressions n)⟩

/-- How deeply expressions may be nested. -/
def depth : Nat := 400

def inner : Inner := expressions depth

/-- An expression, or a tuple without brackets. -/
def expressionList : Reading Expr := tupleOf inner.expr [] false

/-- As `expressionList`, but conditions belong to what comes behind. -/
def plainList (stops : Stops) : Reading Expr := tupleOf (disjunction inner) stops false

/-- What is assigned to: names, in brackets or with commas. -/
def target (stops : Stops) (withFields : Bool) : Reading Expr := do
  let e ← tupleOf (primary inner withFields) stops false
  if e.isTarget then return e else malformed

end Stepwise.Template
