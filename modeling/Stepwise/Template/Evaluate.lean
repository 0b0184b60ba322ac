import Stepwise.Template.Apply
import Stepwise.Template.Macro
/-!
# Evaluating expressions

The value of an expression at a place of a template. Operands are evaluated from left to right, and
each once; a branch that is not taken is not evaluated.
-/

namespace Stepwise.Template

/-! ## Constants -/

mutual

/-- Is an expression one whose value is known before anything else is? Names and calls never are. -/
def Expr.isConstant : Expr → Bool
  | .omitted | .lit _ | .data _ => true
  | .tuple es | .list es | .dict es | .concat es | .compare _ es => allConstant es
  | .pair a b | .index a b | .binary _ a b | .both a b | .either a b => a.isConstant && b.isConstant
  | .slice a b c => a.isConstant && b.isConstant && c.isConstant
  | .cond _ _ .omitted _ => false
  | .cond a b c _ => a.isConstant && b.isConstant && c.isConstant
  | .filter .omitted _ _ => false
  | .filter e id args =>
    e.isConstant && allConstant args &&
      (match filterCallings.lookup id with
      | some c => c.hidden != .context
      | none => false)
  | .test e id args => e.isConstant && isTest id && allConstant args
  | .keyword _ e | .starred e | .doubleStarred e | .attr e _ | .unary _ e => e.isConstant
  | .name _ | .call .. | .fieldRef .. => false

def allConstant : List Expr → Bool
  | [] => true
  | e :: es => e.isConstant && allConstant es

end

/-- Is the value of an expression settled at a place? Where only the page says what is escaped,
nothing is. -/
def settled (place : Place) (e : Expr) : Bool := place.escaping != .asPage && e.isConstant

/-! ## Arguments -/

/-- Names that make all arguments by name be collected before the call. -/
private def reservedNames : List String :=
  ["False", "None", "True", "and", "as", "assert", "async", "await", "break", "class", "continue", "def", "del",
   "elif", "else", "except", "finally", "for", "from", "global", "if", "import", "in", "is", "lambda", "nonlocal",
   "not", "or", "pass", "raise", "return", "try", "while", "with", "yield"]

private def byPosition (m : Machine) (place : Place) (args : List Expr) : Run (List Value) := do
  let found ← args.mapM fun e => do
    match e with
    | .keyword .. | .doubleStarred _ => return []
    | .starred e =>
      let v ← m.expr place e
      if ← isIterable v then m.collect v
      else Run.typeError ("Value after * must be an iterable, not " ++ (← v.kindName))
    | e => return [← m.expr place e]
  return found.flatten

/-- Adds the items of a mapping to arguments by name. -/
private def withMapping (label : String) (given : List (String × Value)) (v : Value) :
    Run (List (String × Value)) := do
  let reserved := given.any fun (k, _) => reservedNames.contains k
  match ← v.dict? with
  | none =>
    match ← Run.object? v with
    | some (.undefined u) => failUndefined u
    | _ =>
      Run.typeError ((if reserved then "dict()" else label) ++ " argument after ** must be a mapping, not " ++
        (← v.kindName))
  | some (_, _, d) =>
    d.pairs.foldlM (fun given (k, v) => do
      match k.text? with
      | none => Run.typeError "keywords must be strings"
      | some id =>
        if (given.lookup id).isNone then return given ++ [(id, v)]
        else if reserved then return given.map fun (n, x) => if n == id then (n, v) else (n, x)
        else Run.typeError (label ++ " got multiple values for keyword argument '" ++ id ++ "'")) given

/-- The arguments of a call, after those that are handed over anyway. -/
private def argumentsOf (m : Machine) (place : Place) (label : String) (args : List Expr)
    (handedOver : List (String × Value)) : Run Args := do
  let pos ← byPosition m place args
  let named ← args.filterMapM fun e => do
    match e with
    | .keyword id e => return some (id, ← m.expr place e)
    | _ => return none
  let named := (OrderedMap.ofList (named ++ handedOver)).entries
  let mapping? := args.findSome? fun e => match e with
    | .doubleStarred e => some e
    | _ => none
  match mapping? with
  | none => return ⟨pos, named⟩
  | some e => return ⟨pos, ← withMapping label named (← m.expr place e)⟩

/-! ## Calls -/

/-- Calls a value from within a template. What a macro answers counts as escaped if the page of
the caller says so, and the end of a source is an undefined value. -/
private def callFrom (m : Machine) (place : Place) (f : Value) (a : Args) : Run Value := do
  let act := do
    match ← Run.object? f with
    | some (.macro' mac) => callMacro m mac (← pageAt place.page).escapes a
    | _ => m.call f a
  match ← Run.outcome act with
  | .ok v => return v
  | .error e =>
    if ← Value.isSubclass (← Run.errorClass e) (.cls "StopIteration") then
      place.because "value was undefined because a callable raised a StopIteration exception"
    else Run.raiseObject e

/-- The value of a call, to which arguments by name may be added. -/
def evaluateCall (m : Machine) (place : Place) (f : Expr) (args : List Expr)
    (handedOver : List (String × Value)) : Run Value := do
  let g ← m.expr place f
  callFrom m place g
    (← argumentsOf m place "jinja2.sandbox.SandboxedEnvironment.call()" args handedOver)

/-- Applies a filter to a value that is evaluated already. -/
private def filtered (m : Machine) (place : Place) (v : Value) (id : String) (args : List Expr) : Run Value := do
  let label := "jinja2.filters." ++ ((filterCallings.lookup id).map (·.label)).getD id ++ "()"
  applyFilter m place id v (← argumentsOf m place label args [])

/-- The value of a chain of filters that starts at a given value. -/
def evaluateChain (m : Machine) (place : Place) (start : Value) : Expr → Run Value
  | .filter e id args => do filtered m place (← evaluateChain m place start e) id args
  | _ => return start

/-! ## Values of expressions -/

def literal : Literal → Value
  | .null => .null
  | .bool b => .bool b
  | .int n => .int n
  | .float x => .float x
  | .str s => .str s

private def compareBy (m : Machine) (op : CompareOp) (a b : Value) : Run Value := do
  match op with
  | .eq => m.compare .eq a b
  | .ne => m.compare .ne a b
  | .lt => m.compare .lt a b
  | .le => m.compare .le a b
  | .gt => m.compare .gt a b
  | .ge => m.compare .ge a b
  | .member => return .bool (← isMember m a b)
  | .notMember => return .bool !(← isMember m a b)

/-- Compares neighbours as long as the answers are true. -/
private def compareChain (m : Machine) (place : Place) (v : Value) : List CompareOp → List Expr → Run Value
  | [op], e :: _ => do compareBy m op v (← m.expr place e)
  | op :: ops, e :: es => do
    let w ← m.expr place e
    let answer ← compareBy m op v w
    if ← answer.truthy then compareChain m place w ops es else return answer
  | _, _ => return v

/-- Puts texts together, of which the first that counts as escaped makes the whole escaped. -/
private def joinMarked (m : Machine) (vs : List Value) : Run Value := do
  let texts ← vs.mapM softText
  if ← texts.anyM hasHtml then callOwn m (.markup "") "join" [← Run.list texts]
  else return .str (String.join (texts.filterMap Value.text?))

private def concatenate (m : Machine) (place : Place) (es : List Expr) : Run Value := do
  let vs ← es.mapM (m.expr place)
  if place.escaping == .always && !es.all Expr.isConstant then joinMarked m vs
  else return .str (String.join (← vs.mapM Value.plain))

/-- The value of an expression at a place. -/
def evaluate (m : Machine) (place : Place) (e : Expr) : Run Value := do
  match e with
  | .omitted | .keyword .. | .starred _ | .doubleStarred _ | .fieldRef .. => return .null
  | .lit l => return literal l
  | .data s => return textValue (← place.escapesNow) s
  | .name id => valueOf place id
  | .tuple es => Run.tuple (← es.mapM (m.expr place))
  | .list es => Run.list (← es.mapM (m.expr place))
  | .pair k v => Run.tuple [← m.expr place k, ← m.expr place v]
  | .dict es =>
    let pairs ← es.filterMapM fun e => do
      match e with
      | .pair k v => return some (← m.expr place k, ← m.expr place v)
      | _ => return none
    Run.dict (← Dict.putAll Dict.empty pairs)
  | .cond test yes no line =>
    if ← (← m.expr place test).truthy then m.expr place yes
    else match no with
      | .omitted =>
        let reason := "the inline if-expression on line " ++ toString line ++
          " evaluated to false and no else section was defined."
        Run.new (.undefined ⟨some reason, none, .null, .plain, false⟩)
      | no => m.expr place no
  | .filter e id args => filtered m place (← m.expr place e) id args
  | .test e id args =>
    let v ← m.expr place e
    let label := "jinja2.tests." ++ ((testCallings.lookup id).map (·.label)).getD id ++ "()"
    applyTest m place id v (← argumentsOf m place label args [])
  | .call f args => evaluateCall m place f args []
  | .attr e id => attributeOf m place (← m.expr place e) id
  | .index e (.slice lo hi step) =>
    let v ← m.expr place e
    getItem m v (← Run.new (.slice (← m.expr place lo) (← m.expr place hi) (← m.expr place step)))
  | .index e i =>
    let v ← m.expr place e
    itemOf m place v (← m.expr place i)
  | .slice lo hi step => Run.new (.slice (← m.expr place lo) (← m.expr place hi) (← m.expr place step))
  | .concat es => concatenate m place es
  | .compare ops (e :: es) => compareChain m place (← m.expr place e) ops es
  | .compare _ [] => return .null
  | .binary op l r =>
    let x ← m.expr place l
    operate op x (← m.expr place r)
  | .unary op e => operateUnary op (← m.expr place e)
  | .both l r =>
    let x ← m.expr place l
    if ← x.truthy then m.expr place r else return x
  | .either l r =>
    let x ← m.expr place l
    if ← x.truthy then return x else m.expr place r

end Stepwise.Template
