import Stepwise.Run.Source
import Stepwise.Template.Names
/-!
# Pages and names

What a name holds at a place of a template. A name belongs to the innermost part that knows it;
a name that no part knows is the variable of that name: one set at the top level of the page,
one that was given to it, or one that every template has.
-/

namespace Stepwise

open Template

/-! ## Pages -/

/-- The page with an address. -/
def Template.pageAt (a : Addr) : Run Page := do
  match ← Run.load a with
  | .page p => return p
  | _ => return default

def Template.updatePage (a : Addr) (f : Page → Page) : Run Unit :=
  Run.update a fun o => match o with
    | .page p => .page (f p)
    | o => o

/-- The variable of a page. -/
def Page.variable? (p : Page) (id : String) : Option Value := (p.set.lookup id).orElse fun _ => p.given.lookup id

/-- Sets a variable of a page; names that begin with an underscore are not exported. -/
def Page.assign (p : Page) (id : String) (v : Value) : Page :=
  let set := if (p.set.lookup id).isSome then p.set.map fun (k, x) => if k == id then (k, v) else (k, x)
    else p.set ++ [(id, v)]
  { p with
    set := set
    exported := if id.startsWith "_" || p.exported.contains id then p.exported else p.exported ++ [id] }

/-- The variables that a page exports. -/
def Page.exports (p : Page) : List (String × Value) := p.set.filter fun (k, _) => p.exported.contains k

/-- Do printed values and what blocks and macros return count as escaped at a place? -/
def Place.escapesNow (place : Place) : Run Bool := do
  match place.escaping with
  | .always => return true
  | .never => return false
  | .asPage => return (← pageAt place.page).escapes

/-! ## Undefined values -/

/-- How lenient undefined values of a place are. -/
def Place.lenience (place : Place) : Run Lenience := do
  return .ofStrict (← pageAt place.page).settings.strict

/-- A value that an owner does not have. -/
def Place.missing (place : Place) (owner : Option Value) (name : Value) : Run Value := do
  Run.new (.undefined ⟨none, owner, name, ← place.lenience, false⟩)

/-- A value that is undefined for a reason of its own. -/
def Place.because (place : Place) (reason : String) : Run Value := do
  Run.new (.undefined ⟨some reason, none, .null, ← place.lenience, false⟩)

/-- A value that an owner has but templates may not see. -/
def Place.hidden (place : Place) (owner : Value) (id : String) : Run Value := do
  let reason := "access to attribute " ++ Text.quoted id ++ " of " ++ Text.quoted (← owner.kindName) ++
    " object is unsafe."
  Run.new (.undefined ⟨some reason, some owner, .str id, ← place.lenience, true⟩)

def Template.isUndefined (v : Value) : Run Bool := do
  match ← Run.object? v with
  | some (.undefined _) => return true
  | _ => return false

/-! ## Names -/

def Template.namesAt (a : Addr) : Run Names := do
  match ← Run.load a with
  | .names n => return n
  | _ => return default

/-- The names of a part and of those around it, innermost first. -/
def Template.chainFrom (a : Addr) : Run (List Names) :=
  Run.iterate (fun (a, acc) => do
    let n ← namesAt a
    match n.parent with
    | some p => return .inl (p, n :: acc)
    | none => return .inr (n :: acc).reverse) Run.patience (a, [])

/-- What a name holds at a place: nothing at all if no part knows it. -/
def Template.lookup? (place : Place) (id : String) : Run (Option (Option Value)) :=
  Run.iterate (fun a => do
    let n ← namesAt a
    match n.vars.lookup id with
    | some v => return .inr (some v)
    | none =>
      match n.parent with
      | some p => return .inl p
      | none => return .inr none) Run.patience place.names

/-- The names that are known at a place. -/
def Template.knownAt (place : Place) : Run (List String) := do
  return (← chainFrom place.names).flatMap fun n => n.vars.map (·.1)

/-- The value of a name. -/
def Template.valueOf (place : Place) (id : String) : Run Value := do
  match ← lookup? place id with
  | some (some v) => return v
  | some none => place.missing none (.str id)
  | none =>
    Run.raise "AssertionError"
      ("Tried to resolve a name to a reference that was unknown to the frame (" ++ Text.quoted id ++ ")")

/-- What the names of a part hold when it is entered. -/
def Template.startValues (place : Place) (s : Symbols) (given : List (String × Option Value)) :
    Run (List (String × Option Value)) := do
  let page ← pageAt place.page
  s.starts.mapM fun (id, start) => do
    match start with
    | .given => return (id, (given.lookup id).getD none)
    | .fromPage => return (id, page.variable? id)
    | .fromOutside => return (id, (← lookup? place id).getD none)
    | .unset => return (id, none)

/-- Enters a part with names of its own. -/
def Template.enter (place : Place) (s : Symbols) (given : List (String × Option Value)) : Run Place := do
  let vars ← startValues place s given
  let a ← Run.alloc (.names ⟨vars, s.stored, some place.names⟩)
  return { place with names := a, topLevel := false }

/-- Enters a part again, in the names that it had before. -/
def Template.reenter (outer inner : Place) (s : Symbols) (given : List (String × Option Value)) : Run Unit := do
  let vars ← startValues outer s given
  Run.save inner.names (.names ⟨vars, s.stored, some outer.names⟩)

/-- Leaves a part: its names hold nothing any more, also for those who still see them. -/
def Template.leave (inner : Place) : Run Unit :=
  Run.update inner.names fun o => match o with
    | .names n => .names { n with vars := n.vars.map fun (k, _) => (k, none) }
    | o => o

/-- Gives a name a value, in the part that knows it; at the top level the page has it too. -/
def Template.assignName (place : Place) (id : String) (v : Value) : Run Unit := do
  let _ ← Run.iterate (fun a => do
    let n ← namesAt a
    if (n.vars.lookup id).isSome then
      Run.save a (.names { n with vars := n.vars.map fun (k, x) => if k == id then (k, some v) else (k, x) })
      return .inr ()
    else match n.parent with
      | some p => return .inl p
      | none => return .inr ()) Run.patience place.names
  if place.topLevel then updatePage place.page (·.assign id v)

/-- The names that parts around a place have given values to, innermost first, without unset ones. -/
def Template.storedAt (place : Place) : Run (List (String × Value)) := do
  let chain ← chainFrom place.names
  let stored := (chain.flatMap (·.stored)).eraseDups
  stored.filterMapM fun id => do
    match ← lookup? place id with
    | some (some v) => return some (id, v)
    | _ => return none

end Stepwise
