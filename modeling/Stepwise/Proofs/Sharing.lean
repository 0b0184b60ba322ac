import Mathlib.Logic.Basic
import Stepwise.Proofs.Isolation
/-!
# What a recipe shares with its runs

The context of a run holds the default values of the recipe themselves and not copies of them, so a
step can write to whatever they reach that can be written to. `World.Steady` says that there is no such
thing, and `keepsDefinition_iff` that this is what it takes: then no number of runs changes the recipe,
and a run that is repeated in the same state ends the same; and otherwise some run changes it, unless
there is no step to run.
-/

namespace Stepwise

/-! ## What an object holds -/

def DictFlavour.parts : DictFlavour → List Value
  | plain | ordered | counter => []
  | context attributes => attributes.map (·.2)
  | defaulting factory => [factory]
  | derived cls => [.ref cls]

def Fitting.parts : Fitting → List Value
  | filter id args named => id :: args ++ named.map (·.2)
  | attr path default _ => path ++ default.toList
  | test path id args named => path.getD [] ++ id.toList ++ args ++ named.map (·.2)
  | listed _ args => args.pos ++ args.named.map (·.2)
  | format text _ => [text]
  | condition .. | rebuilt _ => []

namespace Obj

/-- What an object holds: the members of a container, and all that an object holds that is fixed. -/
def parts : Obj → List Value
  | list items => items.toList
  | dict flavour d => flavour.parts ++ d.entries.flatMap fun (_, spelling, v) => [spelling, v]
  | set _ members => members.entries.map fun (_, spelling, _) => spelling
  | deque items _ => items
  | tuple owner items => owner.toList.map Value.ref ++ items
  | slice lo hi step => [lo, hi, step]
  | function c => .ref c.scope :: c.defaults ++ c.keywordDefaults.map (·.2)
  | method self f => [self, f]
  | builtinMethod self _ => [self]
  | .instance owner payload => [.ref owner, payload]
  | view _ d => [.ref d]
  | partial' f args named => f :: args ++ named.map (·.2)
  | comparable f v => [f, v]
  | match_ p .. => [.ref p]
  | undefined u => u.owner.toList ++ [u.name]
  | macro' m => [.ref m.place.page, .ref m.place.names]
  | component t context => [.ref t, context]
  | template t => [.ref t.toolchain]
  | environment globals => [.ref globals]
  | selfRef p | blockRef _ p => [.ref p]
  | templateModule members pieces => members.map (·.2) ++ pieces
  | fitting f place => .ref place.page :: .ref place.names :: f.parts
  | _ => []

/-- One of two objects is another one than a third. -/
theorem exists_ne {o : Obj} (x y : Obj) (hx : x.kind = o.kind) (hy : y.kind = o.kind)
    (hfx : x.isFixed = false) (hfy : y.isFixed = false) (hne : x ≠ y) :
    ∃ o', o'.kind = o.kind ∧ o'.isFixed = false ∧ o' ≠ o := by
  by_cases h : x = o
  · exact ⟨y, hy, hfy, fun hyo => hne (h.trans hyo.symm)⟩
  · exact ⟨x, hx, hfx, h⟩

/-- **What is not fixed can become something else.** -/
theorem exists_change {o : Obj} (h : o.isFixed = false) :
    ∃ o', o'.kind = o.kind ∧ o'.isFixed = false ∧ o' ≠ o := by
  cases o with
  | list => exact exists_ne (.list #[]) (.list #[.null]) rfl rfl rfl rfl (by simp)
  | dict f => exact exists_ne (.dict f ⟨[]⟩) (.dict f ⟨[([], .null, .null)]⟩) rfl rfl rfl rfl (by simp)
  | set frozen =>
    cases frozen with
    | true => cases h
    | false => exact exists_ne (.set false ⟨[]⟩) (.set false ⟨[([], .null, .null)]⟩) rfl rfl rfl rfl (by simp)
  | deque => exact exists_ne (.deque [] none) (.deque [.null] none) rfl rfl rfl rfl (by simp)
  | cls =>
    exact exists_ne (.cls ⟨"", "", [], [], none, false, ""⟩) (.cls ⟨"", "", [], [], none, true, ""⟩)
      rfl rfl rfl rfl (by simp)
  | error => exact exists_ne (.error .null [] []) (.error .null [.null] []) rfl rfl rfl rfl (by simp)
  | generator => exact exists_ne (.generator "" default) (.generator "a" default) rfl rfl rfl rfl (by simp)
  | cursor => exact exists_ne (.cursor "" .done) (.cursor "a" .done) rfl rfl rfl rfl (by simp)
  | grouping =>
    exact exists_ne (.grouping ⟨.null, .null, none, none, 0⟩) (.grouping ⟨.null, .null, none, none, 1⟩)
      rfl rfl rfl rfl (by simp)
  | tee => exact exists_ne (.tee .null []) (.tee .null [.null]) rfl rfl rfl rfl (by simp)
  | scope =>
    exact exists_ne (.scope ⟨.module, "", [], [], [], none, none⟩)
      (.scope ⟨.function, "", [], [], [], none, none⟩) rfl rfl rfl rfl (by simp)
  | printer => exact exists_ne (.printer []) (.printer [""]) rfl rfl rfl rfl (by simp)
  | cached => exact exists_ne (.cached .null none [] 0 0) (.cached .null none [] 0 1) rfl rfl rfl rfl (by simp)
  | pendingCall =>
    exact exists_ne (.pendingCall "" [] [] false) (.pendingCall "" [] [] true)
      rfl rfl rfl rfl (by simp)
  | names => exact exists_ne (.names ⟨[], [], none⟩) (.names ⟨[], [""], none⟩) rfl rfl rfl rfl (by simp)
  | page =>
    exact exists_ne (.page ⟨⟨false, false⟩, [], [], [], [], false⟩)
      (.page ⟨⟨false, false⟩, [], [], [], [], true⟩) rfl rfl rfl rfl (by simp)
  | loop =>
    exact exists_ne (.loop { iterable := .null, reader := .null })
      (.loop { iterable := .null, reader := .null, depth := 1 }) rfl rfl rfl rfl (by simp)
  | cycler => exact exists_ne (.cycler [] 0) (.cycler [] 1) rfl rfl rfl rfl (by simp)
  | joiner => exact exists_ne (.joiner .null false) (.joiner .null true) rfl rfl rfl rfl (by simp)
  | namespaceObj => exact exists_ne (.namespaceObj []) (.namespaceObj [("", .null)]) rfl rfl rfl rfl (by simp)
  | toolchain =>
    exact exists_ne (.toolchain { settings := {} })
      (.toolchain { settings := {}, loading := { begun := 1 } }) rfl rfl rfl rfl (by simp)
  | _ => cases h

/-- An object of the right kind takes the place of one that is not fixed. -/
theorem replacedBy_eq {new old : Obj} (hf : old.isFixed = false) (hk : new.kind = old.kind) :
    replacedBy new old = new := by
  rw [replacedBy, if_pos]
  rw [hf, hk, Bool.not_false, Bool.true_and, beq_self_eq_true]

end Obj

/-! ## What a recipe reaches -/

namespace World

/-- The object at the address is a part of the value, at whatever depth. -/
inductive Reaches (w : World) : Value → Addr → Prop
  | here (a : Addr) : Reaches w (.ref a) a
  | part {a b : Addr} {o : Obj} {v : Value} : w.store[a]? = some o → v ∈ o.parts →
      Reaches w v b → Reaches w (.ref a) b

/-- The object belongs to a value that the recipe gives by default. -/
def InDefaults (w : World) (recipe : Recipe) (a : Addr) : Prop :=
  ∃ pair ∈ recipe.inputs.flatMap Input.pairs, w.Reaches pair.2 a

/-- No default value of the recipe has a part that can be written to. -/
def Steady (w : World) (recipe : Recipe) : Prop :=
  ∀ a o, w.InDefaults recipe a → w.store[a]? = some o → o.isFixed = true

/-- In the second world the default values of the recipe are what they are in the first, at every depth. -/
def Keeps (w w' : World) (recipe : Recipe) : Prop :=
  ∀ a o, w.InDefaults recipe a → w.store[a]? = some o → w'.store[a]? = some o

/-- The third world is the first one again, but with the default values as they are in the second. -/
structure Resumes (w w' v : World) (recipe : Recipe) : Prop where
  surroundings : v = { w with store := v.store }
  other (a : Addr) : ¬ (∃ o, w.InDefaults recipe a ∧ w.store[a]? = some o) → v.store[a]? = w.store[a]?
  defaults (a : Addr) (o : Obj) : w.InDefaults recipe a → w.store[a]? = some o → v.store[a]? = w'.store[a]?

/-- Where the default values are kept, it is the first world itself. -/
theorem Resumes.eq {w w' v : World} {recipe : Recipe} (h : w.Resumes w' v recipe)
    (hk : w.Keeps w' recipe) : v = w := by
  have hstore : v.store = w.store := by
    refine Array.ext_getElem? fun a => ?_
    by_cases ha : ∃ o, w.InDefaults recipe a ∧ w.store[a]? = some o
    · obtain ⟨o, hin, ho⟩ := ha
      rw [h.defaults a o hin ho, hk a o hin ho, ho]
    · exact h.other a ha
  rw [h.surroundings, hstore]

end World

/-! ## Runs, one after the other -/

/-- The platform's evaluator is the one that is defined here, with its host's functions. -/
def Platform.IsProper (p : Platform) : Prop := ∃ n, p.machine = Machine.at p.host n

namespace Engine

/-- The world comes about from another one by runs of the recipe over mappings, by runs of its component,
and by objects that are made between them. -/
inductive Later (recipe : Recipe) (w : World) : World → Prop
  | start : Later recipe w w
  | made {w' : World} (o : Obj) : Later recipe w w' →
      Later recipe w { w' with store := w'.store.push o }
  | run {w' : World} {p : Platform} {inputs extra : Value} {ins ext : List (Key × Value × Value)}
      (e : Engine) : Later recipe w w' → p.IsProper → w'.Layer inputs ins → w'.Layer extra ext →
      Later recipe w ((e.execute p recipe inputs extra).act w').world
  | component {w' : World} {p : Platform} {inputs extra : Value} {ins ext : List (Key × Value × Value)}
      (e : Engine) : Later recipe w w' → p.IsProper → w'.Layer inputs ins → w'.Layer extra ext →
      Later recipe w ((e.rendering? p recipe inputs extra).act w').world

theorem Later.grows {recipe : Recipe} {w w' : World} (h : Later recipe w w') : w.Grows w' := by
  induction h with
  | start => exact .refl w
  | made o _ ih => exact ih.trans (.push _ o)
  | run e _ _ _ _ ih => exact ih.trans ((e.execute _ recipe _ _).grows _)
  | component e _ _ _ _ ih => exact ih.trans ((e.rendering? _ recipe _ _).grows _)

/-- **What cannot be written to is kept**, whatever runs there are. -/
theorem Later.keeps_of_steady {recipe : Recipe} {w w' : World} (h : Later recipe w w')
    (hs : w.Steady recipe) : w.Keeps w' recipe :=
  fun a o hin ho => h.grows.fixed ho (hs a o hin ho)

/-! ## A recipe without steps -/

/-- Every object is as it was. -/
def Untouched (w w' : World) : Prop := ∀ (a : Addr) (o : Obj), w.store[a]? = some o → w'.store[a]? = some o

theorem Untouched.push {w w' : World} (h : Untouched w w') (o : Obj) :
    Untouched w { w' with store := w'.store.push o } :=
  fun a x hx => World.get_push (h a x hx) o

theorem untouched_withContext {w w' : World} (h : Untouched w w') (recipe : Recipe)
    (ins ext : List (Key × Value × Value)) : Untouched w (withContext w' recipe ins ext) :=
  (h.push _).push _

/-- **Without steps a run touches nothing**: it only makes a context. -/
theorem Later.untouched {recipe : Recipe} {w w' : World} (h : Later recipe w w')
    (hsteps : recipe.steps = []) : Untouched w w' := by
  induction h with
  | start => exact fun _ _ h => h
  | made o _ ih => exact ih.push o
  | @run w' p inputs extra ins ext e _ _ hin hext ih =>
    have hrun : ((e.execute p recipe inputs extra).act w').world.store = (opened w' recipe ins ext).store := by
      rw [execute, Run.bind_act, openRun_act hin hext, hsteps]
      rfl
    intro a o ho
    rw [hrun]
    exact untouched_withContext ih recipe ins ext a o ho
  | @component w' p inputs extra ins ext e _ _ hin hext ih =>
    have hrun : ((e.rendering? p recipe inputs extra).act w').world.store =
        (withContext w' recipe ins ext).store := by
      rw [rendering?, Run.bind_act, buildContext_act p recipe hin hext, hsteps]
      rfl
    intro a o ho
    rw [hrun]
    exact untouched_withContext ih recipe ins ext a o ho

/-! ## A step that writes -/

/-- A platform whose executors put an object at an address. -/
def writingPlatform (a : Addr) (o : Obj) : Platform :=
  { barePlatform with executor := fun _ => ⟨false, fun _ _ => Run.save a o⟩ }

/-- An engine that hands every step to an executor of the host. -/
def hostEngine : Engine := ⟨{}, 0, true, { fallback := .host "own" }⟩

variable {a : Addr} {o x : Obj} {w : World}

theorem writing_runStep (context : Addr) (step : Step) (hx : w.store[a]? = some x) (hf : x.isFixed = false)
    (hk : o.kind = x.kind) :
    ∃ w', (hostEngine.runStep (writingPlatform a o) context step).act w = .ok () w' ∧
      w'.store[a]? = some o := by
  refine ⟨_, rfl, ?_⟩
  change (w.store.modify a (Obj.replacedBy o))[a]? = some o
  rw [Array.getElem?_modify, if_pos rfl, hx, Option.map_some, Obj.replacedBy_eq hf hk]

/-- Each step writes again what the first one has written. -/
theorem writing_runSteps (context : Addr) (steps : List Step) (hx : w.store[a]? = some x) (hf : x.isFixed = false)
    (hk : o.kind = x.kind) (hfo : o.isFixed = false) (hne : steps ≠ []) :
    ∃ after w', (hostEngine.runSteps (writingPlatform a o) context steps).act w = .ok after w' ∧
      w'.store[a]? = some o := by
  induction steps generalizing w x with
  | nil => exact absurd rfl hne
  | cons step rest ih =>
    obtain ⟨w₁, hrun, ho⟩ := writing_runStep context step hx hf hk
    rw [runSteps_cons_act hrun]
    by_cases hrest : rest = []
    · subst hrest
      exact ⟨[w₁], w₁, rfl, ho⟩
    · obtain ⟨after, w₂, hruns, ho₂⟩ := ih ho hfo rfl hrest
      exact ⟨w₁ :: after, w₂, by rw [hruns], ho₂⟩

/-- **What can be written to is not kept by every run** of a recipe with steps. -/
theorem exists_later_not_keeps {recipe : Recipe} (hsteps : recipe.steps ≠ []) (hs : ¬ w.Steady recipe) :
    ∃ w', Later recipe w w' ∧ ¬ w.Keeps w' recipe := by
  simp only [World.Steady, not_forall] at hs
  obtain ⟨a, x, hin, hx, hfixed⟩ := hs
  have hf : x.isFixed = false := Bool.eq_false_iff.2 hfixed
  obtain ⟨o, hk, hfo, hne⟩ := Obj.exists_change hf
  have hx' : (opened w recipe [] []).store[a]? = some x :=
    untouched_withContext (fun _ _ h => h) recipe [] [] a x hx
  obtain ⟨after, w₁, hrun, ho⟩ :=
    writing_runSteps (w.store.size + 1) recipe.steps hx' hf hk hfo hsteps
  have hworld : ((hostEngine.execute (writingPlatform a o) recipe .null .null).act w).world.store[a]? =
      some o := by
    rw [execute, Run.bind_act, openRun_act .nothing .nothing]
    simp only [Run.bind_act]
    rw [hrun]
    exact ho
  have hproper : (writingPlatform a o).IsProper := ⟨64, rfl⟩
  refine ⟨_, .run hostEngine .start hproper .nothing .nothing, fun hkeeps => hne ?_⟩
  have hsame := hkeeps a x hin hx
  rw [hworld] at hsame
  exact Option.some.inj hsame

/-! ## The recipe after its runs -/

/-- A context that is built later begins with what the recipe and the mappings say, and the default
values in it are what they were. -/
theorem Later.buildContext {recipe : Recipe} {w w' : World} {inputs extra : Value}
    {ins ext : List (Key × Value × Value)} (p : Platform) (hk : w.Keeps w' recipe)
    (hin : w'.Layer inputs ins) (hext : w'.Layer extra ext) :
    ∃ context w'', (Engine.buildContext p recipe inputs extra).act w' = .ok context w'' ∧
      w''.store[context]? = some (.dict (.context []) (firstContents recipe ins ext)) ∧
      w.Keeps w'' recipe := by
  refine ⟨_, _, buildContext_act p recipe hin hext, ?_, fun a o hin' ho => ?_⟩
  · have hsize : (w'.store.push (.dict .plain (Dict.ofTexts recipe.defaults.entries))).size =
        w'.store.size + 1 := Array.size_push _
    rw [withContext, ← hsize, Array.getElem?_push_size]
  · exact untouched_withContext (fun _ _ h => h) recipe ins ext a o (hk a o hin' ho)

/-- **A recipe is kept by all its runs exactly when no default value has a part that can be written to**, or
when it has no steps. Then every later run begins with the contents that the recipe and its mappings say, over
default values that are what they were; and a run in the state of the first world, with the default values as
they are later, ends as in the first world: with an equal context. -/
theorem keepsDefinition_iff (recipe : Recipe) (w : World) :
    ((∀ w', Later recipe w w' → w.Keeps w' recipe) ↔ recipe.steps = [] ∨ w.Steady recipe) ∧
    (recipe.steps = [] ∨ w.Steady recipe → ∀ w', Later recipe w w' →
      (∀ p inputs extra ins ext, w'.Layer inputs ins → w'.Layer extra ext →
        ∃ context w'', (Engine.buildContext p recipe inputs extra).act w' = .ok context w'' ∧
          w''.store[context]? = some (.dict (.context []) (firstContents recipe ins ext)) ∧
          w.Keeps w'' recipe) ∧
      (∀ v, w.Resumes w' v recipe → ∀ (p : Platform) (e : Engine) (inputs extra : Value),
        (e.execute p recipe inputs extra).act v = (e.execute p recipe inputs extra).act w ∧
        (e.rendering? p recipe inputs extra).act v = (e.rendering? p recipe inputs extra).act w)) := by
  have hkeeps : recipe.steps = [] ∨ w.Steady recipe → ∀ w', Later recipe w w' → w.Keeps w' recipe := by
    rintro (hsteps | hs) w' hl
    · exact fun a o _ ho => hl.untouched hsteps a o ho
    · exact hl.keeps_of_steady hs
  refine ⟨⟨fun hall => ?_, hkeeps⟩, fun hsafe w' hl => ⟨?_, fun v hv p e inputs extra => ?_⟩⟩
  · by_cases hsteps : recipe.steps = []
    · exact .inl hsteps
    · refine .inr (by_contra fun hs => ?_)
      obtain ⟨w', hl, hnot⟩ := exists_later_not_keeps hsteps hs
      exact hnot (hall w' hl)
  · exact fun p inputs extra ins ext hin hext => Later.buildContext p (hkeeps hsafe w' hl) hin hext
  · rw [hv.eq (hkeeps hsafe w' hl)]
    exact ⟨rfl, rfl⟩

/-! ## A default value that a script writes to -/

/-- The world with an empty list behind the toolchain, which is the default value of an input. -/
def listWorld : World := { bareWorld with store := bareWorld.store.push (.list #[]) }

/-- A recipe whose only step appends to its default value. -/
def appending : Recipe :=
  ⟨"appending", "", [.defaults ⟨[("items", .ref 1)]⟩],
    [⟨"step", "python", "context['items'].append(1)"⟩], .null⟩

/-- The length of the list at an address. -/
def lengthAt (w : World) (a : Addr) : Option Nat :=
  match w.store[a]? with
  | some (.list items) => some items.size
  | _ => none

/-- **A script changes the recipe that it belongs to**: its default value is empty before the run, which
returns, and not empty after it. -/
theorem appending_not_kept :
    ((bare.execute barePlatform appending .null .null).act listWorld).result?.isSome = true ∧
      lengthAt listWorld 1 = some 0 ∧
      lengthAt ((bare.execute barePlatform appending .null .null).act listWorld).world 1 = some 1 := by
  decide +kernel

end Engine

end Stepwise
