import Stepwise.Calendar.Basic
import Stepwise.Value.Key
import Stepwise.Data.Picks
import Stepwise.Engine.Loading
import Stepwise.Script.Frame
import Stepwise.Settings.Engine
import Stepwise.Template.Tree
/-!
# Objects of the store

Everything that has an identity, can change, or is too large to be a value of its own.
-/

namespace Stepwise

/-! ## Parts of objects -/

/-- What a dictionary is besides its pairs. -/
inductive DictFlavour where
  | plain
  /-- The context of a run, with the attributes that scripts gave it. -/
  | context (attributes : List (String × Value))
  | ordered
  | defaulting (factory : Value)
  | counter
  | derived (cls : Addr)
  deriving Inhabited

/-- A class made by a script, or a record class. -/
structure ClassInfo where
  id : String
  /-- The dotted path of definitions that leads to the class. -/
  path : String
  bases : List Value
  members : List (String × Value)
  /-- The names of the fields, if this is a class of records. -/
  fields : Option (List String) := none
  /-- Is a record displayed without the names of its fields? -/
  bare : Bool := false
  module : String := "jinx_script"
  deriving Inhabited

/-- The body of a function. -/
inductive Body where
  | block (ss : List Script.Stmt)
  | expr (e : Script.Expr)
  deriving Inhabited

structure Closure where
  id : String
  /-- The dotted path of definitions that leads to the function. -/
  path : String
  sig : Script.Signature
  /-- Defaults of the last positional parameters. -/
  defaults : List Value
  keywordDefaults : List (String × Value)
  body : Body
  scope : Addr
  bound : List String
  globals : List String
  yields : Bool
  prints : Bool
  deriving Inhabited

inductive ScopeKind where
  | module | function | lambda | comprehension | cls
  deriving DecidableEq, Inhabited

/-- The names of one function, comprehension, class body or module. -/
structure Scope where
  kind : ScopeKind
  path : String
  /-- Names that belong to this scope whether or not they have a value yet. -/
  bound : List String
  globals : List String
  vars : List (String × Value)
  parent : Option Addr
  /-- Where `print` collects. -/
  printer : Option Addr
  deriving Inhabited

inductive GeneratorStatus where
  | fresh | suspended | running | finished
  deriving DecidableEq, Inhabited

structure Generator where
  status : GeneratorStatus
  state : Script.State
  deriving Inhabited

/-- Which side of a dictionary a view shows. -/
inductive ViewKind where
  | keys | values | items
  deriving DecidableEq, Inhabited

/-- A source of values and how far it has been read. -/
inductive Cursor where
  | done
  | values (rest : List Value)
  /-- A list read at an index, forward, or backward when `back`. -/
  | listAt (list : Addr) (index : Nat) (back : Bool)
  | dictAt (kind : ViewKind) (dict : Addr) (index size : Nat) (back : Bool)
  | setAt (set : Addr) (index size : Nat)
  | range (next step : Int) (left : Nat)
  | enumerate (source : Value) (next : Int)
  | map (f : Value) (sources : List Value)
  | filter (f source : Value) (keep : Bool)
  | chain (now : Option Value) (rest : List Value) (more : Option Value)
  | slice (source : Value) (position next : Nat) (stop : Option Nat) (step : Nat)
  | takeWhile (f source : Value)
  | dropWhile (f source : Value) (started : Bool)
  | count (next step : Value)
  | cycle (source : Option Value) (seen : List Value) (rest : List Value)
  | repeat (v : Value) (left : Option Nat)
  | accumulate (f : Value) (source : Value) (total : Option Value) (started : Bool)
  | groupBy (shared : Addr)
  | group (shared : Addr) (number : Nat)
  | starMap (f source : Value)
  | compress (data selectors : Value)
  | pairwise (source : Value) (last : Option Value)
  | zip (sources : List Value) (fill : Option Value)
  | tee (shared : Addr) (index : Nat)
  | untilEqual (f sentinel : Value)
  /-- The values of a list that a function makes when it is first asked. -/
  | deferred (f : Value)
  | unique (f source : Value) (seen : List Key)
  /-- Members of pools by their places, which are none at the end. -/
  | picks (kind : PickKind) (pools : List (List Value)) (places : Option (List Nat))
  deriving Inhabited

/-- The shared state of a grouping iteration. -/
structure Grouping where
  f : Value
  source : Value
  /-- The key of the group that is being read. -/
  key : Option Value
  /-- A value that has been read and not handed out, with its key. -/
  pending : Option (Value × Value)
  number : Nat
  deriving Inhabited

/-! ## Parts of templates -/

/-- How a template environment treats output and missing names. -/
structure TemplateSettings where
  autoescape : Bool
  strict : Bool
  deriving DecidableEq, Inhabited

/-- A parsed template, and the toolchain whose environment it belongs to. -/
structure Template where
  settings : TemplateSettings
  body : List Template.Node
  toolchain : Addr
  deriving Inhabited

/-- The names of one part of a template; a name without value is known to be unset. -/
structure Names where
  vars : List (String × Option Value)
  /-- The names that this part gives values to. -/
  stored : List String
  parent : Option Addr
  deriving Inhabited

/-- A block of a template. -/
structure Block where
  id : String
  body : List Template.Node
  deriving Inhabited

/-- What one rendering of a template shares: the variables that it was given and that every template has,
those set at the top level, the blocks, and whether what macros return now counts as escaped. -/
structure Page where
  settings : TemplateSettings
  given : List (String × Value)
  set : List (String × Value)
  exported : List String
  blocks : List Block
  escapes : Bool
  deriving Inhabited

/-- Whether printed values are escaped at a place: always, never, or as the page says when they are
printed. -/
inductive Escaping where
  | always | never | asPage
  deriving DecidableEq, Inhabited

/-- Where a piece of a template is evaluated. -/
structure Place where
  page : Addr
  names : Addr
  escaping : Escaping
  /-- Inside no part that has names of its own, so that assignments are seen outside. -/
  topLevel : Bool
  deriving Inhabited

structure Macro where
  id : Option String
  params : List String
  /-- Defaults of the last parameters. -/
  defaults : List Template.Expr
  body : List Template.Node
  place : Place
  takesNamed : Bool
  takesRest : Bool
  takesCaller : Bool
  /-- Does what it returns count as escaped, unless the caller says otherwise? -/
  escapes : Bool
  deriving Inhabited

/-- How much an undefined value puts up with: attributes of its own, being printed and read, or nothing. -/
inductive Lenience where
  | chainable | plain | strict
  deriving DecidableEq, Inhabited

def Lenience.ofStrict (strict : Bool) : Lenience := if strict then .strict else .chainable

/-- Why a value is undefined. -/
structure Undefined where
  hint : Option String
  owner : Option Value
  name : Value
  lenience : Lenience
  /-- The value is there, but templates may not see it. -/
  hidden : Bool := false
  deriving Inhabited

def Undefined.strict (u : Undefined) : Bool := u.lenience == .strict

/-- A part of a template's vocabulary as a function of one value. -/
inductive Fitting where
  | filter (id : Value) (args : List Value) (named : List (String × Value))
  /-- The attribute along a path, and what stands for a missing one. -/
  | attr (path : List Value) (default : Option Value) (ignoreCase : Bool)
  /-- A test, on an attribute if there is a path; no test asks for truth. -/
  | test (path : Option (List Value)) (id : Option Value) (args : List Value)
      (named : List (String × Value))
  /-- The list of what a filter hands out, which is made when it is asked for; it takes no argument. -/
  | listed (id : String) (args : Args)
  /-- A text with places for values. -/
  | format (text : Value) (fromMapping : Bool)
  /-- The condition of a loop, for a value of its source. -/
  | condition (target test : Template.Expr)
  /-- A value of a source as a loop takes it apart. -/
  | rebuilt (target : Template.Expr)
  deriving Inhabited

/-- A loop of a template as it is written, without its source. -/
structure LoopShape where
  target : Template.Expr
  body : List Template.Node
  otherwise : List Template.Node
  test : Template.Expr
  place : Place
  deriving Inhabited

/-- A loop of a template and how far it has come. -/
structure Loop where
  iterable : Value
  reader : Value
  current : Option Value := none
  /-- A value that was read ahead; none inside if the reader is at its end. -/
  upcoming : Option (Option Value) := none
  previous : Option Value := none
  /-- Counted from zero; before the first value it is -1. -/
  index : Int := -1
  depth : Nat := 0
  length : Option Nat := none
  changed : Option Value := none
  /-- What a recursive loop runs again. -/
  recursion : Option LoopShape := none
  strict : Bool := false
  deriving Inhabited

/-! ## Toolchains -/

/-- What a loader hands over as an environment for templates: settings for them, or something that
is no environment, of a class with this name. -/
inductive Environment where
  | templates (s : TemplateSettings)
  | other (kind : String)
  deriving DecidableEq, Inhabited

/-- How an attempt to load an environment ends: with that of the settings, with nothing, with something
else, or with a failure. -/
inductive LoadOutcome where
  | environment
  | nothing
  | other (kind : String)
  | failed (reason : String)
  deriving DecidableEq, Inhabited

/-- Where a toolchain gets its environment from: the outcomes of the attempts, which are counted from zero. -/
abbrev Loader := Nat → LoadOutcome

/-- The loader that always succeeds. -/
def Loader.ordinary : Loader := fun _ => .environment

/-- What turns the text of a render step into a component. -/
structure Toolchain where
  settings : EngineSettings
  loader : Loader := Loader.ordinary
  loading : Loading Environment := {}
  /-- The environment as an object, once it has been asked for. -/
  shown : Option Addr := none
  deriving Inhabited

/-! ## Objects -/

inductive Obj where
  | list (items : Array Value)
  /-- A tuple; records have a class. -/
  | tuple (cls : Option Addr) (items : List Value)
  | dict (flavour : DictFlavour) (d : Dict)
  | set (frozen : Bool) (members : Dict)
  | deque (items : List Value) (limit : Option Nat)
  | range (start stop step : Int)
  | slice (lo hi step : Value)
  | complex (re im : Float)
  | date (d : Calendar.Date)
  | datetime (t : Calendar.DateTime)
  | time (t : Calendar.Time) (offset : Option Calendar.Offset)
  | span (s : Calendar.Span)
  | zone (offset : Calendar.Offset) (name : Option String)
  | function (c : Closure)
  | method (self f : Value)
  | builtinMethod (self : Value) (id : String)
  | cls (c : ClassInfo)
  | instance (cls : Addr) (payload : Value)
  | error (cls : Value) (args : List Value) (fields : List (String × Value))
  | generator (id : String) (g : Generator)
  | cursor (label : String) (c : Cursor)
  | grouping (g : Grouping)
  | tee (source : Value) (seen : List Value)
  | view (kind : ViewKind) (dict : Addr)
  | module (id : String)
  | scope (s : Scope)
  | printer (texts : List String)
  | partial' (f : Value) (args : List Value) (named : List (String × Value))
  | cached (f : Value) (limit : Option Nat) (store : List (Key × Value)) (hits misses : Nat)
  | comparable (f v : Value)
  | pattern (text : String) (flags : Nat)
  | match_ (pattern : Addr) (subject : String) (groups : List (Option (Nat × Nat)))
      (names : List (String × Nat)) (lastGroup : Option Nat) (start stop : Nat)
  /-- A call of a host function that has not run yet. -/
  | pendingCall (id : String) (args : List Value) (named : List (String × Value)) (spent : Bool)
  | templateText (s : String)
  | undefined (u : Undefined)
  | macro' (m : Macro)
  | component (template : Addr) (context : Value)
  | template (t : Template)
  /-- The environment of a toolchain: the dictionary of the variables that all its templates have. -/
  | environment (globals : Addr)
  | names (n : Names)
  | page (p : Page)
  | loop (l : Loop)
  | cycler (items : List Value) (position : Nat)
  | joiner (separator : Value) (used : Bool)
  | namespaceObj (members : List (String × Value))
  | selfRef (page : Addr)
  | blockRef (id : String) (page : Addr)
  /-- What a template exports, and the pieces of its text. -/
  | templateModule (members : List (String × Value)) (pieces : List Value)
  | fitting (f : Fitting) (place : Place)
  | toolchain (t : Toolchain)
  deriving Inhabited

namespace Obj

/-! ## What objects stay -/

/-- The kind of an object, which it never changes: for a dictionary also what it is besides its pairs. -/
def kind : Obj → Nat × Nat
  | dict f d => ((dict f d).ctorIdx, f.ctorIdx)
  | o => (o.ctorIdx, 0)

/-- Is the object for good what it is? Whatever can be written to is named here. -/
def isFixed : Obj → Bool
  | list _ | dict .. | set false _ | deque .. | cls _ | error .. | generator .. | cursor .. | grouping _
  | tee .. | scope _ | printer _ | cached .. | pendingCall .. | names _ | page _ | loop _ | cycler ..
  | joiner .. | namespaceObj _ | toolchain _ => false
  | _ => true

/-- What can become of an object: another one of its kind, and of a fixed one nothing else. -/
structure Becomes (o o' : Obj) : Prop where
  kind_eq : o'.kind = o.kind
  eq_of_fixed : o.isFixed = true → o' = o

namespace Becomes

theorem refl (o : Obj) : o.Becomes o := ⟨rfl, fun _ => rfl⟩

theorem trans {a b c : Obj} (hab : a.Becomes b) (hbc : b.Becomes c) : a.Becomes c where
  kind_eq := hbc.kind_eq.trans hab.kind_eq
  eq_of_fixed h := by
    have hb : b = a := hab.eq_of_fixed h
    rw [← hb] at h ⊢
    exact hbc.eq_of_fixed h

end Becomes

/-- The new object in the place of an old one, if the old one can become it. -/
def replacedBy (new old : Obj) : Obj := if !old.isFixed && old.kind == new.kind then new else old

/-- The changed object, if the old one is not fixed. -/
@[inline] def changedBy (f : Obj → Obj) (old : Obj) : Obj := if old.isFixed then old else f old

theorem becomes_replacedBy (new old : Obj) : old.Becomes (replacedBy new old) := by
  rw [replacedBy]
  split
  case isTrue h =>
    simp only [Bool.and_eq_true, Bool.not_eq_true', beq_iff_eq] at h
    exact ⟨h.2.symm, fun hf => by rw [h.1] at hf; cases hf⟩
  case isFalse => exact .refl old

theorem becomes_changedBy {f : Obj → Obj} (keeps : ∀ o : Obj, (f o).kind = o.kind) (old : Obj) :
    old.Becomes (changedBy f old) := by
  rw [changedBy]
  split
  case isTrue => exact .refl old
  case isFalse h => exact ⟨keeps old, fun hf => absurd hf h⟩

end Obj

end Stepwise
