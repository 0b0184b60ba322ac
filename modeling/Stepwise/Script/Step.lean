import Stepwise.Library.Modules
import Stepwise.Script.Guard
import Stepwise.Script.Lookup
import Stepwise.Script.Scope
/-!
# Running scripts

A script runs step by step on its explicit stack: `step` looks at the control and at the topmost
frame and says what comes next. An error that is raised on the way becomes a way out, which the
frames below may take up.
-/

namespace Stepwise.Script

/-- How a piece of a run ends: with a value, or for a time with a value that it hands out. -/
inductive Signal where
  | finished (v : Value)
  | yielded (v : Value) (rest : State)
  deriving Inhabited

/-- What a step leads to. -/
abbrev Next := Run (State ⊕ Signal)

namespace State

/-- Goes on with another control. -/
def go (s : State) (c : Control) : State := { s with control := c }

/-- Goes on with a control above one more frame. -/
def goAbove (s : State) (f : Frame) (c : Control) : State := { s with control := c, stack := f :: s.stack }

end State

def next (s : State) : Next := return .inl s

/-! ## Operands -/

/-- How an operand takes part. -/
private def partOf : Expr → Part
  | .starred .. => .spread
  | .keyword _ id _ => .named id
  | .doubleStarred _ => .spreadNamed
  | _ => .plain

/-- The expression of an operand. -/
private def exprOf : Expr → Expr
  | .starred _ e | .keyword _ _ e | .doubleStarred e => e
  | e => e

private def isByPosition (e : Expr) : Bool :=
  match partOf e with
  | .plain | .spread => true
  | _ => false

/-- Operands by position come before those by name. -/
private def ordered (es : List Expr) : List Expr :=
  es.filter isByPosition ++ es.filter fun e => !isByPosition e

private def isGiven : Expr → Bool
  | .omitted => false
  | _ => true

def literal : Literal → Run Value
  | .null => return .null
  | .bool b => return .bool b
  | .int n => return .int n
  | .float x => return .float x
  | .imaginary x => Run.new (.complex 0.0 x)
  | .str s => return .str s
  | .bytes b => return .bytes b
  | .ellipsis => return .ellipsis

/-! ## Calls -/

/-- The label under which spread arguments are refused. -/
private def spreadLabel : String := "jinx.script._apply()"

/-- The arguments of a call from the values of its operands. -/
private def argsOf (m : Machine) (parts : List Part) (vs : List Value) : Run Args := do
  (parts.zip vs).foldlM (fun (a : Args) (p, v) => do
    match p with
    | .plain => return { a with pos := a.pos ++ [v] }
    | .spread =>
      match ← Run.outcome v.reader with
      | .ok r => return { a with pos := a.pos ++ (← m.drain r) }
      | .error _ =>
        Run.typeError (spreadLabel ++ " argument after * must be an iterable, not " ++ (← v.kindName))
    | .named id =>
      if (a.named.lookup id).isSome then repeated id
      return { a with named := a.named ++ [(id, v)] }
    | .spreadNamed =>
      match ← v.dict? with
      | none =>
        Run.typeError (spreadLabel ++ " argument after ** must be a mapping, not " ++ (← v.kindName))
      | some (_, _, d) =>
        let named ← d.pairs.foldlM (fun (named : List (String × Value)) (k, x) => do
          match k with
          | .str id | .markup id =>
            if (named.lookup id).isSome then repeated id
            return named ++ [(id, x)]
          | _ => Run.typeError "keywords must be strings") a.named
        return { a with named }) ⟨[], []⟩
where
  repeated (id : String) : Run Unit :=
    Run.typeError (spreadLabel ++ " got multiple values for keyword argument '" ++ id ++ "'")

/-- How deeply functions of scripts may be nested in each other. -/
def depthLimit : Nat := 985

/-- A new scope for a call of a function. -/
def openScope (c : Closure) (a : Args) : Run Addr := do
  let vars ← c.sig.assign c.path c.defaults c.keywordDefaults a
  let printer ← if c.prints then do pure (some (← Run.alloc (.printer []))) else pure none
  let kind := match c.body with
    | .block _ => ScopeKind.function
    | .expr _ => .lambda
  Run.alloc (.scope
    { kind, path := c.path, bound := c.bound, globals := c.globals, vars, parent := some c.scope, printer })

def bodyOf : Body → Control
  | .block ss => .exec ss
  | .expr e => .eval e

def deeper : Run Unit := do
  if (← Run.world).depth ≥ depthLimit then Run.raise "RecursionError" "maximum recursion depth exceeded"
  Run.adjust fun w => { w with depth := w.depth + 1 }

def shallower : Run Unit := Run.adjust fun w => { w with depth := w.depth - 1 }

private def newGenerator (id : String) (state : State) : Run Value :=
  Run.new (.generator id ⟨.fresh, state⟩)

/-- A function with the arguments that come from itself. -/
private def unfoldCall (f : Value) (a : Args) : Run (Value × Args) :=
  Run.iterate (fun (f, a) => do
    match ← Run.object? f with
    | some (.method self g) => return .inl (g, { a with pos := self :: a.pos })
    | _ => return .inr (f, a)) 1000 (f, a)

/-- Calls a function: one of a script goes on on the same stack. -/
def enter (m : Machine) (s : State) (f : Value) (a : Args) : Next := do
  let (f, a) ← unfoldCall f a
  match ← Run.object? f with
  | some (.function c) =>
    let scope ← openScope c a
    if c.yields then
      next (s.go (.value (← newGenerator c.id ⟨bodyOf c.body, [], scope⟩)))
    else
      deeper
      next { control := bodyOf c.body, stack := .function s.scope :: s.stack, scope }
  | _ => next (s.go (.value (← m.call f a)))

/-! ## Definitions -/

/-- Makes a function in a scope. -/
private def makeClosure (s : State) (id : String) (sig : Signature) (defaults : List Value)
    (keywordDefaults : List (String × Value)) (body : Body) : Run Value := do
  let path ← pathIn s.scope id
  let (bound, globals, yields, prints) := match body with
    | .block ss => (sig.names ++ Scope.bound ss, Scope.globalsInAll ss, Scope.yieldsIn ss, Scope.printsIn ss)
    | .expr e => (sig.names ++ Scope.namedIn e, [], Scope.exprUses true e, false)
  Run.new (.function
    { id, path, sig, defaults, keywordDefaults, body, scope := s.scope, bound, globals, yields, prints })

/-- Splits the defaults of a function from what was evaluated before and after them. -/
private def splitDefaults (vs : List Value) (before count : Nat) (named : List String) :
    List Value × List Value × List (String × Value) :=
  let rest := vs.drop before
  (vs.take before, rest.take count, named.zip (rest.drop count))

/-- The bases of a class: classes, and nothing else. -/
private def basesOf (parts : List Part) (vs : List Value) (m : Machine) : Run (List Value) := do
  let bases ← (parts.zip vs).foldlM (fun (acc : List Value) (p, v) => do
    match p with
    | .plain => return acc ++ [v]
    | .spread => return acc ++ (← m.collect v)
    | _ => return acc) []
  bases.forM fun b => do
    match b with
    | .cls n =>
      if ["bool", "range", "slice"].contains n then
        Run.typeError ("type '" ++ n ++ "' is not an acceptable base type")
    | .ref a =>
      match ← Run.load a with
      | .cls _ => pure ()
      | _ => refuse b
    | _ => refuse b
  return bases
where
  refuse (b : Value) : Run Unit := do
    let kind ← b.kindName
    match b with
    | .fn _ | .host _ =>
      Run.typeError (kind ++ "() argument 'code' must be code, not str")
    | _ => Run.typeError (kind ++ "() takes at most 2 arguments (3 given)")

/-! ## Collections -/

/-- The members of a display with those that are spread. -/
private def spread (m : Machine) (parts : List Part) (vs : List Value) : Run (List Value) := do
  let many ← (parts.zip vs).mapM fun (p, v) => do
    match p with
    | .spread =>
      match ← Run.outcome v.reader with
      | .ok r => m.drain r
      | .error _ => Run.typeError ("Value after * must be an iterable, not " ++ (← v.kindName))
    | _ => return [v]
  return many.flatten

private def setOf (vs : List Value) : Run Value := do
  let d ← vs.foldlM (fun (d : Dict) v => do
    let k ← v.key
    return if OrderedMap.contains d k then d else Dict.put d k v .null) Dict.empty
  Run.new (.set false d)

private def makeDisplay (m : Machine) (shape : Shape) (parts : List Part) (vs : List Value) : Run Value := do
  let all ← spread m parts vs
  match shape with
  | .list => Run.list all
  | .set => setOf all
  | _ => Run.tuple all

/-- The operands of a dictionary display: keys and values in turn. -/
private def dictOperands : List Expr → List (Expr × Part)
  | [] => []
  | .pair k v :: rest => (k, .plain) :: (v, .plain) :: dictOperands rest
  | e :: rest => (exprOf e, .spreadNamed) :: dictOperands rest

private def makeDict : List Part → List Value → Dict → Run Value
  | .spreadNamed :: parts, v :: vs, d => do
    match ← v.dict? with
    | some (_, _, e) => makeDict parts vs (← Dict.putAll d e.pairs)
    | none => Run.typeError ("'" ++ (← v.kindName) ++ "' object is not a mapping")
  | _ :: _ :: parts, k :: v :: vs, d => do
    makeDict parts vs (Dict.put d (← k.key) k v)
  | _, _, d => Run.dict d

/-- The collection of the nearest comprehension. -/
def collection? (stack : List Frame) : Option Value :=
  stack.findSome? fun f => match f with
    | .comprehension _ v => some v
    | _ => none

/-- Adds to a collection. -/
private def addTo (collection : Value) (vs : List Value) : Run Unit := do
  match collection, vs with
  | .ref a, [v] =>
    match ← Run.load a with
    | .list _ => Run.pushItem a v
    | .set frozen d =>
      let k ← v.key
      Run.save a (.set frozen (if OrderedMap.contains d k then d else Dict.put d k v .null))
    | _ => pure ()
  | .ref a, [k, v] => Run.putItem a k v
  | _, _ => pure ()

/-- The loops behind the first clause of a comprehension, around the item. -/
private def innerLoops (shape : Shape) (item : Expr) : List Expr → List Stmt
  | [] => [.collect shape item]
  | .clause _ target source conditions :: rest =>
    [.forLoop 0 target source (guarded conditions (innerLoops shape item rest)) []]
  | _ :: rest => innerLoops shape item rest
where
  guarded (conditions : List Expr) (body : List Stmt) : List Stmt :=
    conditions.foldr (fun c ss => [.ite c ss []]) body

private def comprehensionName : Shape → String
  | .list => "<listcomp>" | .set => "<setcomp>" | .dict => "<dictcomp>" | _ => "<genexpr>"

/-! ## Errors -/

/-- The error that is being handled. -/
def handled? (stack : List Frame) : Option Addr :=
  stack.findSome? fun f => match f with
    | .handling e _ | .finishing (some (.raised e)) => some e
    | _ => none

/-- The error that a raised value stands for. -/
private def errorOf (m : Machine) (v : Value) (refusal : String) : Run Addr := do
  let bad : Run Addr := Run.typeError refusal
  match v with
  | .cls n => if Classes.isError n then fromCall v else bad
  | .ref a =>
    match ← Run.load a with
    | .error .. => return a
    | .cls _ => if ← Value.isErrorClass v then fromCall v else bad
    | _ => bad
  | _ => bad
where
  fromCall (c : Value) : Run Addr := do
    match ← m.apply c [] with
    | .ref a => return a
    | _ => Run.typeError refusal

/-- Does a handler of this kind take an error of this class? -/
private def takes (cls : Value) : Nat → Value → Run Bool
  | 0, _ => return false
  | fuel + 1, kind => do
    let refuse : Run Bool := Run.typeError "catching classes that do not inherit from BaseException is not allowed"
    match kind with
    | .cls n => if Classes.isError n then Value.isSubclass cls kind else refuse
    | .ref a =>
      match ← Run.load a with
      | .cls _ => if ← Value.isErrorClass kind then Value.isSubclass cls kind else refuse
      | .tuple _ ks =>
        let found ← ks.mapM fun k => do
          match k with
          | .cls n => if Classes.isError n then Value.isSubclass cls k else refuse
          | .ref _ => if ← Value.isErrorClass k then Value.isSubclass cls k else refuse
          | _ => takes cls fuel k
        return found.any fun b => b
      | _ => refuse
    | _ => refuse

/-- Goes through the handlers that are left. -/
def handle (s : State) (e : Addr) : List Stmt → State
  | .handler _ .omitted _ body :: _ => s.goAbove (.handling e none) (.exec body)
  | .handler _ kind id body :: rest => s.goAbove (.matching e id body rest) (.eval kind)
  | _ => s.go (.exit (.raised e))

/-! ## Modules -/

/-- Modules inside of others. -/
private def innerModules : List String :=
  ["collections.abc", "json.decoder", "json.encoder", "json.scanner", "json.tool", "re._casefix", "re._compiler",
   "re._constants", "re._parser"]

/-- The module of a name, the same object for all scripts. -/
private def moduleNamed (name : String) : Run Value := do
  let found := (← Run.world).store.findIdx? fun o => match o with
    | .module n => n == name
    | _ => false
  match found with
  | some a => return .ref a
  | none => Run.new (.module name)

private def topOf (name : String) : String := String.ofList (name.toList.takeWhile (· ≠ '.'))

private def admit' (name : String) (level : Nat) : Run Unit := do
  if level ≠ 0 || !Modules.allowed.contains (topOf name) then
    Run.raiseWith "ImportError" [.str ("Import of '" ++ name ++ "' is not allowed in jinx scripts")]
  if name != topOf name && !innerModules.contains name then
    let why := if Modules.isPackage (topOf name) then "" else "; '" ++ topOf name ++ "' is not a package"
    Run.raiseWith "ModuleNotFoundError" [.str ("No module named '" ++ name ++ "'" ++ why)]
      [("name", .str name)]

/-- Where a module comes from, as messages have it. -/
private def placeOf (name : String) : String :=
  if ["math", "itertools"].contains name then "unknown location"
  else if Modules.isPackage name then "/usr/local/lib/python3.11/" ++ name ++ "/__init__.py"
  else "/usr/local/lib/python3.11/" ++ name ++ ".py"

private def importModules (scope : Addr) (names : List Alias) : Run Unit :=
  names.forM fun n => do
    admit' n.name 0
    match n.as? with
    | some id => bind scope id (← moduleNamed n.name)
    | none => bind scope (topOf n.name) (← moduleNamed (topOf n.name))

private def importFrom (scope : Addr) (name : String) (names : List Alias) (level : Nat) : Run Unit := do
  admit' name level
  names.forM fun n => do
    match Modules.member? name n.name with
    | some v => bind scope (n.as?.getD n.name) v
    | none =>
      if innerModules.contains (name ++ "." ++ n.name) then
        bind scope (n.as?.getD n.name) (← moduleNamed (name ++ "." ++ n.name))
      else
        Run.raiseWith "ImportError"
          [.str ("cannot import name '" ++ n.name ++ "' from '" ++ name ++ "' (" ++ placeOf name ++ ")")]
          [("name", .str name)]

/-! ## Printing -/

/-- What a script prints goes to the collection of the function around it. -/
private def printFunction (scope : Addr) : Run Value := do
  match ← printerOf scope with
  | some p => Run.new (.builtinMethod (.ref p) "print")
  | none => Run.new (.builtinMethod .null "print")

private def printedText (scope : Addr) : Run Value := do
  match ← printerOf scope with
  | some p =>
    match ← Run.load p with
    | .printer ts => return .str (String.join ts)
    | _ => return .str ""
  | none => return .str ""

/-! ## Formatted texts -/

private def convert (conversion : Option Char) (v : Value) : Run Value := do
  match conversion with
  | some 'r' => return .str (← v.display)
  | some 's' => return .str (← v.plain)
  | some 'a' => return .str (String.ofList (Text.escapeNonAscii (← v.display).toList))
  | _ => return v

/-! ## The steps -/

/-- Evaluates operands one after the other. -/
def operands (m : Machine) (perform : State → List Value → Action → Next) (s : State) (es : List Expr)
    (action : Action) : Next :=
  let _ := m
  match es with
  | [] => perform s [] action
  | e :: rest => next (s.goAbove (.operands [] rest action) (.eval e))

def evalStep (m : Machine) (perform : State → List Value → Action → Next) (s : State) (e : Expr) : Next := do
  let withOperands := operands m perform s
  match e with
  | .omitted => next (s.go (.value .null))
  | .lit l => next (s.go (.value (← literal l)))
  | .name _ "print" => next (s.go (.value (← printFunction s.scope)))
  | .name _ "printed" => next (s.go (.value (← printedText s.scope)))
  | .name _ id => next (s.go (.value (← lookup s.scope id)))
  | .unary op e => withOperands [e] (.unary op)
  | .binary op l r => withOperands [l, r] (.binary op)
  | .logic c (e :: es) => next (s.goAbove (.logic c es) (.eval e))
  | .logic _ [] => next (s.go (.value .null))
  | .compare ops (e :: es) => next (s.goAbove (.compareLeft ops es) (.eval e))
  | .compare _ [] => next (s.go (.value .null))
  | .cond test yes no => next (s.goAbove (.choose yes no) (.eval test))
  | .lambda _ sig defaults keywordDefaults body =>
    let named := (sig.keywordOnly.zip keywordDefaults).filter fun (_, e) => isGiven e
    withOperands (defaults ++ named.map (·.2)) (.makeLambda sig body defaults.length (named.map (·.1)))
  | .call _ f args =>
    let args := ordered args
    withOperands (f :: args.map exprOf) (.call (args.map partOf))
  | .attr _ e id => withOperands [e] (.attr id)
  | .index _ e i => withOperands [e, i] .index
  | .slice lo hi step => withOperands [lo, hi, step] .slice
  | .starred _ e | .keyword _ _ e | .doubleStarred e => next (s.go (.eval e))
  | .display .dict es =>
    let es := dictOperands es
    withOperands (es.map (·.1)) (.dict (es.map (·.2)))
  | .display shape es => withOperands (es.map exprOf) (.display shape (es.map partOf))
  | .pair k v => withOperands [k, v] (.display .tuple [.plain, .plain])
  | .comprehension _ shape item clauses =>
    match clauses with
    | .clause _ target source conditions :: rest =>
      let body := conditions.foldr (fun c ss => [Stmt.ite c ss []]) (innerLoops shape item rest)
      withOperands [source] (.gather shape (Scope.clauseNames clauses) target body)
    | _ => next (s.go (.value .null))
  | .clause .. => next (s.go (.value .null))
  | .named _ id e => withOperands [e] (.bind id)
  | .yield _ e => withOperands [e] .yield
  | .yieldFrom _ e => withOperands [e] .yieldFrom
  | .await _ e => next (s.go (.eval e))
  | .joined parts => withOperands parts .join
  | .field e conversion spec => withOperands [e, spec] (.format conversion)

private def isTupleTarget : Expr → Bool
  | .display .tuple _ => true
  | _ => false

def execStep (m : Machine) (perform : State → List Value → Action → Next) (s : State) (st : Stmt) : Next := do
  let withOperands := operands m perform s
  match st with
  | .expr _ e => withOperands [e] .discard
  | .assign line targets value =>
    -- a target in parentheses takes the value of its own evaluation
    if targets.length > 1 && targets.any isTupleTarget then
      next (s.go (.exec (targets.map fun t => .assign line [t] value)))
    else withOperands [value] (.assign targets)
  | .augment _ target op value =>
    match target with
    | .name line id => withOperands [.name line id, value] (.inPlace id op)
    | _ => next (s.go .done)
  | .ret _ e => withOperands [e] .ret
  | .delete _ targets => next (s.goAbove (.delete targets) .done)
  | .pass | .global .. | .refused .. | .handler .. => next (s.go .done)
  | .leave _ => next (s.go (.exit .leave))
  | .next _ => next (s.go (.exit .next))
  | .ite test yes no => next (s.goAbove (.branch yes no) (.eval test))
  | .whileLoop test body otherwise => next (s.goAbove (.whileTest test body otherwise) (.eval test))
  | .forLoop _ target source body otherwise => withOperands [source] (.iterate target body otherwise)
  | .attempt _ body handlers otherwise final => next (s.goAbove (.attempt handlers otherwise final) (.exec body))
  | .withBlock _ items _ =>
    match items with
    | .pair e _ :: _ => withOperands [e] .manage
    | e :: _ => withOperands [e] .manage
    | [] => next (s.go .done)
  | .raise _ error cause =>
    match error, cause with
    | .omitted, _ =>
      match handled? s.stack with
      | some e => Run.raiseObject e
      | none => Run.raise "RuntimeError" "No active exception to reraise"
    | e, .omitted => withOperands [e] (.raise false)
    | e, c => withOperands [e, c] (.raise true)
  | .assert _ test message => next (s.goAbove (.assertTest message) (.eval test))
  | .importModules _ names => do importModules s.scope names; next (s.go .done)
  | .importFrom _ module names level => do importFrom s.scope module names level; next (s.go .done)
  | .function _ id sig defaults keywordDefaults annotations decorators body =>
    let named := (sig.keywordOnly.zip keywordDefaults).filter fun (_, e) => isGiven e
    withOperands (decorators ++ defaults ++ named.map (·.2) ++ annotations.filter isGiven)
      (.makeFunction id sig body decorators.length defaults.length (named.map (·.1)))
  | .classDef _ id bases decorators body =>
    let bases := bases.filter isByPosition
    withOperands (decorators ++ bases.map exprOf) (.makeClass id body decorators.length (bases.map partOf))
  | .collect shape item =>
    match shape, item with
    | .dict, .pair k v => withOperands [k, v] (.collect shape)
    | _, e => withOperands [e] (.collect shape)

/-- Gives what was defined its name, the decorators applied last to first. -/
private def decorated (s : State) (decorators : List Value) (id : String) (v : Value) : State :=
  s.goAbove (.decorate decorators.reverse id) (.value v)

/-- Does what is to be done with the values of all operands. -/
def perform (m : Machine) (s : State) (vs : List Value) (action : Action) : Next := do
  let v := vs.headD .null
  let w := (vs.drop 1).headD .null
  let answer (r : Value) : Next := next (s.go (.value r))
  let done : Next := next (s.go .done)
  match action with
  | .discard => done
  | .unary op => answer (← operateUnary op v)
  | .binary op => answer (← operate op v w)
  | .inPlace id op =>
    let r ← Run.recover (operateInPlace m op v w) fun e => do
      if ← Value.isSubclass (← Run.errorClass e) (.cls "KeyError") then
        Run.raise "SyntaxError" ("Unsupported in-place operator: " ++ op.sign ++ "=")
      else Run.raiseObject e
    bind s.scope id r
    done
  | .attr id => answer (← readAttribute m v id)
  | .index => answer (← getItem m v w)
  | .slice => answer (← Run.new (.slice v w ((vs.drop 2).headD .null)))
  | .display shape parts => answer (← makeDisplay m shape parts vs)
  | .dict parts => answer (← makeDict parts vs Dict.empty)
  | .call parts => enter m s v (← argsOf m parts (vs.drop 1))
  | .format conversion =>
    let spec ← match w with
      | .str t | .markup t => pure t
      | _ => pure ""
    answer (.str (← formatValue (← convert conversion v) spec))
  | .join => answer (.str (String.join (vs.map fun v => v.text?.getD "")))
  | .collect shape =>
    match shape, collection? s.stack with
    | .generator, _ => return .inr (.yielded v (s.go .done))
    | _, some c => do addTo c vs; done
    | _, none => done
  | .yield => return .inr (.yielded v s)
  | .yieldFrom => next (s.goAbove (.delegate (← v.reader)) (.value .null))
  | .ret => next (s.go (.exit (.ret v)))
  | .raise hasCause =>
    let e ← errorOf m v "exceptions must derive from BaseException"
    if hasCause && !w.isNull then
      let _ ← errorOf m w "exception causes must derive from BaseException"
    Run.raiseObject e
  | .assertion => Run.raiseWith "AssertionError" [v]
  | .assign targets =>
    let met ← targets.mapM fun t => do return (t, ← metBy m t v)
    next (s.goAbove (.store met) .done)
  | .setAttr id x => do writeAttribute v id x; done
  | .setIndex x => do writeItem m v w x; done
  | .deleteAttr id => do eraseAttribute v id; done
  | .deleteIndex => do eraseItem v w; done
  | .bind id => do bind s.scope id v; answer v
  | .manage =>
    -- no value that a script can have manages blocks
    Run.typeError ("'" ++ (← v.kindName) ++ "' object does not support the context manager protocol")
  | .iterate target body otherwise => next (s.goAbove (.forBody (← v.reader) target body otherwise) .done)
  | .gather shape names target body =>
    let path ← pathIn s.scope (comprehensionName shape)
    let r ← v.reader
    let scope ← Run.alloc (.scope
      { kind := .comprehension, path, bound := names, globals := [], vars := [], parent := some s.scope,
        printer := none })
    let loop : Frame := .forBody r target body []
    match shape with
    | .list | .set | .dict =>
      let collected ← match shape with
        | .list => Run.list []
        | .set => Run.new (.set false Dict.empty)
        | _ => Run.dict Dict.empty
      next { control := .done, stack := loop :: .comprehension s.scope collected :: s.stack, scope }
    | _ => answer (← newGenerator "<genexpr>" ⟨.done, [loop], scope⟩)
  | .makeFunction id sig body before count named =>
    let (decorators, defaults, keywordDefaults) := splitDefaults vs before count named
    let f ← makeClosure s id sig defaults keywordDefaults (.block body)
    next (decorated s decorators id f)
  | .makeLambda sig body count named =>
    let (_, defaults, keywordDefaults) := splitDefaults vs 0 count named
    answer (← makeClosure s "<lambda>" sig defaults keywordDefaults (.expr body))
  | .makeClass id body count parts =>
    let bases ← basesOf parts (vs.drop count) m
    let scope ← Run.alloc (.scope
      { kind := .cls, path := ← pathIn s.scope id, bound := Scope.bound body, globals := Scope.globalsInAll body,
        vars := [], parent := some s.scope, printer := none })
    next { control := .exec body, stack := .classBody s.scope id bases (vs.take count) :: s.stack, scope }

/-- A value arrives at the topmost frame. -/
def valueStep (m : Machine) (s : State) (f : Frame) (v : Value) : Next := do
  match f with
  | .operands before (e :: rest) action => next (s.goAbove (.operands (v :: before) rest action) (.eval e))
  | .operands before [] action => perform m s (v :: before).reverse action
  | .logic conjunction rest =>
    match rest with
    | [] => next (s.go (.value v))
    | e :: es =>
      if (← v.truthy) == conjunction then next (s.goAbove (.logic conjunction es) (.eval e))
      else next (s.go (.value v))
  | .compareLeft (op :: ops) (e :: es) => next (s.goAbove (.compareRight v op ops es) (.eval e))
  | .compareLeft .. => next (s.go (.value v))
  | .compareRight left op ops es =>
    let r ← compareWith left op v
    match ops, es with
    | op' :: ops, e :: es =>
      if ← r.truthy then next (s.goAbove (.compareRight v op' ops es) (.eval e)) else next (s.go (.value r))
    | _, _ => next (s.go (.value r))
  | .choose yes no => next (s.go (.eval (if ← v.truthy then yes else no)))
  | .branch yes no => next (s.go (.exec (if ← v.truthy then yes else no)))
  | .assertTest message =>
    if ← v.truthy then next (s.go .done)
    else match message with
      | .omitted => Run.raiseWith "AssertionError" []
      | e => next (s.goAbove (.operands [] [] .assertion) (.eval e))
  | .whileTest test body otherwise =>
    if ← v.truthy then next (s.goAbove (.whileBody test body otherwise) (.exec body))
    else next (s.go (.exec otherwise))
  | .matching e id body rest =>
    if ← takes (← Run.errorClass e) 100 v then
      match id with
      | some n => bind s.scope n (.ref e)
      | none => pure ()
      next (s.goAbove (.handling e id) (.exec body))
    else next (handle s e rest)
  | .function scope => do
    shallower
    next { s with control := .value v, scope }
  | .decorate [] id => do
    bind s.scope id v
    next (s.go .done)
  | .decorate (d :: rest) id => enter m { s with stack := .decorate rest id :: s.stack } d ⟨[v], []⟩
  | .delegate source =>
    match source with
    | .ref a =>
      match ← Run.load a with
      | .generator .. =>
        match ← m.resume a (.ok v) with
        | .yielded x => return .inr (.yielded x (s.goAbove f .done))
        | .finished x => next (s.go (.value x))
      | _ =>
        match ← m.advance source with
        | some x => return .inr (.yielded x (s.goAbove f .done))
        | none => next (s.go (.value .null))
    | _ => next (s.go (.value .null))
  | _ => next (s.go (.value v))
where
  compareWith (left : Value) (op : CompareOp) (right : Value) : Run Value := do
    match op with
    | .eq => m.compare .eq left right
    | .ne => m.compare .ne left right
    | .lt => m.compare .lt left right
    | .le => m.compare .le left right
    | .gt => m.compare .gt left right
    | .ge => m.compare .ge left right
    | .same => return .bool (left.same right)
    | .notSame => return .bool !(left.same right)
    | .member => return .bool (← isMember m left right)
    | .notMember => return .bool !(← isMember m left right)

/-- What ran above the topmost frame has come to its end. -/
def doneStep (m : Machine) (s : State) (f : Frame) : Next := do
  match f with
  | .seq [] => next (s.go .done)
  | .seq ss => next (s.go (.exec ss))
  | .store [] => next (s.go .done)
  | .store ((target, v) :: rest) =>
    let s := { s with stack := .store rest :: s.stack }
    match target with
    | .name _ id => do
      bind s.scope id v
      next (s.go .done)
    | .attr _ e id => next (s.goAbove (.operands [] [] (.setAttr id v)) (.eval e))
    | .index _ e i => next (s.goAbove (.operands [] [i] (.setIndex v)) (.eval e))
    | .display _ es => next (s.goAbove (.store (← membersFor m es v)) .done)
    | _ => next (s.go .done)
  | .delete [] => next (s.go .done)
  | .delete (target :: rest) =>
    let s := { s with stack := .delete rest :: s.stack }
    match target with
    | .name _ id => do
      delete s.scope id
      next (s.go .done)
    | .attr _ e id => next (s.goAbove (.operands [] [] (.deleteAttr id)) (.eval e))
    | .index _ e i => next (s.goAbove (.operands [] [i] .deleteIndex) (.eval e))
    | .display _ es => next (s.goAbove (.delete es) .done)
    | _ => next (s.go .done)
  | .whileBody test body otherwise => next (s.goAbove (.whileTest test body otherwise) (.eval test))
  | .forBody iter target body otherwise =>
    match ← m.advance iter with
    | none => next (s.go (.exec otherwise))
    | some v =>
      let v ← metBy m target v
      next { s with control := .done, stack := .store [(target, v)] :: .seq body :: f :: s.stack }
  | .attempt _ otherwise final => next (s.goAbove (.closing final) (.exec otherwise))
  | .handling _ id => do
    id.forM (unbind s.scope)
    next (s.go .done)
  | .closing [] => next (s.go .done)
  | .closing final => next (s.goAbove (.finishing none) (.exec final))
  | .finishing none => next (s.go .done)
  | .finishing (some why) => next (s.go (.exit why))
  | .function scope => do
    shallower
    next { s with control := .value .null, scope }
  | .comprehension scope collected => next { s with control := .value collected, scope }
  | .classBody scope id bases decorators =>
    match ← Run.load s.scope with
    | .scope inner =>
      let bases := if bases.isEmpty then [Value.cls "object"] else bases
      let cls ← Run.new (.cls { id, path := inner.path, bases, members := inner.vars })
      next (decorated { s with scope } decorators id cls)
    | _ => next { s with control := .done, scope }
  | .delegate _ => next (s.goAbove f (.value .null))
  | _ => next (s.go .done)

/-- A way out reaches the topmost frame. -/
def exitStep (m : Machine) (s : State) (f : Frame) (why : Exit) : Next := do
  match f, why with
  | .whileBody .., .leave | .forBody .., .leave => next (s.go .done)
  | .whileBody test body otherwise, .next => next (s.goAbove (.whileTest test body otherwise) (.eval test))
  | .forBody .., .next => next (s.goAbove f .done)
  | .attempt handlers _ final, .raised e => next (handle { s with stack := .closing final :: s.stack } e handlers)
  | .attempt _ _ final, _ | .closing final, _ =>
    if final.isEmpty then next (s.go (.exit why)) else next (s.goAbove (.finishing (some why)) (.exec final))
  | .handling _ id, _ => do
    id.forM (unbind s.scope)
    next (s.go (.exit why))
  | .function scope, .ret v => do
    shallower
    next { s with control := .value v, scope }
  | .function scope, _ => do
    shallower
    next { s with control := .exit why, scope }
  | .comprehension scope _, _ | .classBody scope .., _ => next { s with control := .exit why, scope }
  | .delegate (.ref a), .raised e =>
    match ← Run.load a with
    | .generator .. =>
      match ← m.resume a (.error e) with
      | .yielded x => return .inr (.yielded x (s.goAbove f .done))
      | .finished x => next (s.go (.value x))
    | _ => next (s.go (.exit why))
  | _, _ => next (s.go (.exit why))

/-- A step that may raise an error. -/
def tryStep (m : Machine) (s : State) : Next := do
  match s.control, s.stack with
  | .eval e, _ => evalStep m (perform m) s e
  | .exec [], _ => next (s.go .done)
  | .exec [st], _ => execStep m (perform m) s st
  | .exec (st :: rest), _ => execStep m (perform m) { s with stack := .seq rest :: s.stack } st
  | .value v, f :: stack => valueStep m { s with stack } f v
  | .done, f :: stack => doneStep m { s with stack } f
  | .exit why, f :: stack => exitStep m { s with stack } f why
  | .value v, [] => return .inr (.finished v)
  | .done, [] => return .inr (.finished .null)
  | .exit (.ret v), [] => return .inr (.finished v)
  | .exit (.raised e), [] => Run.raiseObject e
  | .exit _, [] => return .inr (.finished .null)

/-- What is left when an error comes up in a step: a frame that was at work is gone. -/
def afterError (s : State) : List Frame :=
  match s.control with
  | .eval _ | .exec _ => s.stack
  | _ => s.stack.drop 1

/-- One step of a script. An error that nothing below can take up ends the run. -/
def step (m : Machine) (s : State) : Next := do
  match ← Run.outcome (tryStep m s) with
  | .ok r => return r
  | .error e =>
    match afterError s with
    | [] => Run.raiseObject e
    | stack => return .inl { s with control := .exit (.raised e), stack }

/-- Runs to the end, or to the next value that is handed out. -/
def run (m : Machine) (s : State) : Run Signal := Run.iterate (step m) Run.patience s

/-! ## From outside -/

/-- Keeps count of the functions that run inside each other. -/
def nested {α : Type} (act : Run α) : Run α := do
  let before := (← Run.world).depth
  deeper
  match ← Run.outcome act with
  | .ok r => do
    Run.adjust fun w => { w with depth := before }
    return r
  | .error e => do
    Run.adjust fun w => { w with depth := before }
    Run.raiseObject e

/-- Calls a function of a script. -/
def callFunction (m : Machine) (c : Closure) (a : Args) : Run Value := do
  let scope ← openScope c a
  if c.yields then newGenerator c.id ⟨bodyOf c.body, [], scope⟩
  else
    match ← nested (run m ⟨bodyOf c.body, [], scope⟩) with
    | .finished v => return v
    | .yielded .. => return .null

private def setGenerator (a : Addr) (g : Generator) : Run Unit :=
  Run.update a fun o => match o with
    | .generator id _ => .generator id g
    | o => o

/-- Lets a generator go on. -/
def resume (m : Machine) (a : Addr) (arrival : Except Addr Value) : Run Turn := do
  match ← Run.load a with
  | .generator _ g =>
    match g.status, arrival with
    | .running, _ => Run.valueError "generator already executing"
    | .finished, .ok _ => return .finished .null
    | .finished, .error e => Run.raiseObject e
    | .fresh, .error e => do
      setGenerator a ⟨.finished, default⟩
      Run.raiseObject e
    | .fresh, .ok v =>
      if !v.isNull then Run.typeError "can't send non-None value to a just-started generator"
      go g.state
    | .suspended, .ok v =>
      -- what a comprehension hands out is not an expression and takes no value
      match g.state.control with
      | .done => go (match g.state.stack with
        | .delegate _ :: _ => g.state.go (.value v)
        | _ => g.state)
      | _ => go (g.state.go (.value v))
    | .suspended, .error e => go (g.state.go (.exit (.raised e)))
  | _ => return .finished .null
where
  go (s : State) : Run Turn := do
    setGenerator a ⟨.running, default⟩
    match ← Run.outcome (nested (run m s)) with
    | .ok (.finished v) => do
      setGenerator a ⟨.finished, default⟩
      return .finished v
    | .ok (.yielded v rest) => do
      setGenerator a ⟨.suspended, rest⟩
      return .yielded v
    | .error e => do
      setGenerator a ⟨.finished, default⟩
      if ← Value.isSubclass (← Run.errorClass e) (.cls "StopIteration") then
        Run.raise "RuntimeError" "generator raised StopIteration"
      else Run.raiseObject e

/-- The function that the body of a script is, in a scope of its own with the given names. -/
def mainFunction (body : List Stmt) (given : List (String × Value)) : Run (Addr × Closure) := do
  let top ← Run.alloc (.scope
    { kind := .module, path := "", bound := [], globals := [], vars := given, parent := none, printer := none })
  let c : Closure :=
    { id := "run_step", path := "run_step", sig := {}, defaults := [], keywordDefaults := [], body := .block body,
      scope := top, bound := Scope.bound body, globals := Scope.globalsInAll body, yields := Scope.yieldsIn body,
      prints := Scope.printsIn body }
  let f ← Run.alloc (.function c)
  bind top "run_step" (.ref f)
  return (f, c)

end Stepwise.Script
