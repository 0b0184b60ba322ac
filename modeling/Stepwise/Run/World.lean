import Stepwise.Value.Object
import Stepwise.Value.Classes
import Stepwise.Settings.Configuration
/-!
# Runs

A run works on a world: the store of objects, the log, the calls that reached the host, the
configuration of the process. It ends with a result or with a failure, and the world is kept in
both cases. An error that was raised is an object of the store.

Every run carries the proof that the world only grows under it (`World.Grows`): an object stays where
it is and keeps its kind, a fixed one stays as it is, and what was reported stays reported. The few
functions that change a world prove it here, and whatever is made of them has it from them.

A run goes on in the thread that all share, or in a thread of its own, where it can wait. It carries the
proof that this makes no difference to it, unless it was refused to wait.
-/

namespace Stepwise

inductive Level where
  | debug | info | warning | error
  deriving DecidableEq, Inhabited

def Level.rank : Level → Nat
  | .debug => 10 | .info => 20 | .warning => 30 | .error => 40

def Level.label : Level → String
  | .debug => "DEBUG" | .info => "INFO" | .warning => "WARNING" | .error => "ERROR"

structure LogRecord where
  level : Level
  message : String
  deriving Inhabited

/-- What the process was started with: its variables, and the file of variables where it runs. -/
structure Surroundings where
  processVariables : List (String × String) := []
  filePath : String := ".env"
  file : FileContent := .absent
  deriving Inhabited

structure World where
  store : Array Obj := #[]
  log : Array LogRecord := #[]
  hostCalls : Array Value := #[]
  /-- How many functions of scripts are running inside each other. -/
  depth : Nat := 0
  surroundings : Surroundings := {}
  /-- The settings of the process, once they have been read. -/
  configuration : Option Configuration := none
  /-- The toolchain that engines without one of their own share. -/
  defaultToolchain : Option Addr := none
  /-- How often a run was refused to wait. -/
  refusals : Nat := 0
  deriving Inhabited

namespace World

/-! ## How worlds grow -/

/-- What is in the store stays at its address when an object is put behind. -/
theorem get_push {w : World} {a : Addr} {o : Obj} (h : w.store[a]? = some o) (x : Obj) :
    (w.store.push x)[a]? = some o := by
  rw [Array.getElem?_push, if_neg (Nat.ne_of_lt (Array.getElem?_eq_some_iff.1 h).1), h]

/-- Nothing is lost from one world to the next: an object stays at its address and becomes only what it
can become, and the log, the calls of the host and the refusals are only added to. -/
structure Grows (w w' : World) : Prop where
  becomes (a : Addr) (o : Obj) : w.store[a]? = some o → ∃ o', w'.store[a]? = some o' ∧ o.Becomes o'
  log_prefix : w.log.toList <+: w'.log.toList
  calls_prefix : w.hostCalls.toList <+: w'.hostCalls.toList
  refusals_le : w.refusals ≤ w'.refusals

namespace Grows

theorem refl (w : World) : w.Grows w :=
  ⟨fun _ o h => ⟨o, h, .refl o⟩, List.prefix_refl _, List.prefix_refl _, Nat.le_refl _⟩

theorem trans {u v w : World} (huv : u.Grows v) (hvw : v.Grows w) : u.Grows w where
  becomes a o h := by
    obtain ⟨o', h', hb⟩ := huv.becomes a o h
    obtain ⟨o'', h'', hb'⟩ := hvw.becomes a o' h'
    exact ⟨o'', h'', hb.trans hb'⟩
  log_prefix := huv.log_prefix.trans hvw.log_prefix
  calls_prefix := huv.calls_prefix.trans hvw.calls_prefix
  refusals_le := Nat.le_trans huv.refusals_le hvw.refusals_le

/-- What is neither an object nor reported may change at will. -/
theorem of_eq {w w' : World} (hs : w'.store = w.store) (hl : w'.log = w.log)
    (hc : w'.hostCalls = w.hostCalls) (hr : w.refusals ≤ w'.refusals) : w.Grows w' where
  becomes _ o h := ⟨o, hs ▸ h, .refl o⟩
  log_prefix := hl ▸ List.prefix_refl _
  calls_prefix := hc ▸ List.prefix_refl _
  refusals_le := hr

/-- A fixed object is what it was. -/
theorem fixed {w w' : World} (h : w.Grows w') {a : Addr} {o : Obj} (ho : w.store[a]? = some o)
    (hf : o.isFixed = true) : w'.store[a]? = some o := by
  obtain ⟨o', ho', hb⟩ := h.becomes a o ho
  rw [ho', hb.eq_of_fixed hf]

/-- A new object is put behind the others. -/
theorem push (w : World) (o : Obj) : w.Grows { w with store := w.store.push o } where
  becomes _ x h := ⟨x, get_push h o, .refl x⟩
  log_prefix := List.prefix_refl _
  calls_prefix := List.prefix_refl _
  refusals_le := Nat.le_refl _

/-- One object becomes what it can become. -/
theorem modify (w : World) (a : Addr) {f : Obj → Obj} (hf : ∀ o : Obj, o.Becomes (f o)) :
    w.Grows { w with store := w.store.modify a f } where
  becomes b x h := by
    rw [Array.getElem?_modify, h]
    by_cases hab : a = b
    · exact ⟨f x, by simp [hab], hf x⟩
    · exact ⟨x, by simp [hab], .refl x⟩
  log_prefix := List.prefix_refl _
  calls_prefix := List.prefix_refl _
  refusals_le := Nat.le_refl _

theorem report (w : World) (r : LogRecord) : w.Grows { w with log := w.log.push r } where
  becomes _ o h := ⟨o, h, .refl o⟩
  log_prefix := by
    rw [Array.toList_push]
    exact List.prefix_append _ _
  calls_prefix := List.prefix_refl _
  refusals_le := Nat.le_refl _

theorem call (w : World) (v : Value) : w.Grows { w with hostCalls := w.hostCalls.push v } where
  becomes _ o h := ⟨o, h, .refl o⟩
  log_prefix := List.prefix_refl _
  calls_prefix := by
    rw [Array.toList_push]
    exact List.prefix_append _ _
  refusals_le := Nat.le_refl _

end Grows

end World

/-- Why a run has no result. -/
inductive Failure where
  | raised (error : Addr)
  /-- The run was cut off by a bound of the evaluator. -/
  | exhausted
  deriving Inhabited

/-- How a run ends, and the world that it leaves. -/
abbrev Ending (α : Type) := EStateM.Result Failure World α

/-- The world at the end. -/
def Ending.world {α : Type} : Ending α → World
  | .ok _ w | .error _ w => w

/-- The result, if there is one. -/
def Ending.result? {α : Type} : Ending α → Option α
  | .ok a _ => some a
  | .error .. => none

/-- The error that was raised, if one was. -/
def Ending.raised? {α : Type} : Ending α → Option Addr
  | .error (.raised error) _ => some error
  | _ => none

/-- Where a run goes on: in the thread that all share, or in one of its own, where it can wait. -/
inductive Thread where
  | common
  | own
  deriving DecidableEq, Inhabited

/-- A run: what it makes of a world, which only grows under it. The thread matters only to a run that was
refused to wait. -/
structure Run (α : Type) where
  actIn : Thread → World → Ending α
  grows_in : ∀ (t : Thread) (w : World), w.Grows (actIn t w).world
  agrees : ∀ w : World, (actIn .common w).world.refusals = w.refusals → actIn .own w = actIn .common w := by
    intro _ _; rfl

namespace Run

/-- What a run makes of a world in the thread that all share. -/
@[reducible] def act {α : Type} (x : Run α) (w : World) : Ending α := x.actIn .common w

theorem grows {α : Type} (x : Run α) (w : World) : w.Grows (x.act w).world := x.grows_in .common w

/-! ## Runs as a monad -/

@[always_inline, inline]
protected def pure {α : Type} (a : α) : Run α := ⟨fun _ w => .ok a w, fun _ => .refl, fun _ _ => rfl⟩

@[always_inline, inline]
protected def bind {α β : Type} (x : Run α) (f : α → Run β) : Run β where
  actIn t w := match x.actIn t w with
    | .ok a w' => (f a).actIn t w'
    | .error e w' => .error e w'
  grows_in t w := by
    have hx := x.grows_in t w
    cases h : x.actIn t w with
    | ok a w' => rw [h] at hx; exact hx.trans ((f a).grows_in t w')
    | error e w' => rw [h] at hx; exact hx
  agrees w hquiet := by
    have hx := x.grows_in .common w
    cases h : x.actIn .common w with
    | ok a w' =>
      -- the refusals can only have grown on the way, so there were none in either half
      rw [h] at hx hquiet
      have hrest := (f a).grows_in .common w'
      have hfirst : w'.refusals = w.refusals := Nat.le_antisymm (hquiet ▸ hrest.refusals_le) hx.refusals_le
      rw [x.agrees w (by rw [h]; exact hfirst), h]
      exact (f a).agrees w' (hquiet.trans hfirst.symm)
    | error e w' =>
      rw [h] at hquiet
      rw [x.agrees w (by rw [h]; exact hquiet), h]

/-- Ends without a result. -/
protected def fail {α : Type} (e : Failure) : Run α := ⟨fun _ w => .error e w, fun _ => .refl, fun _ _ => rfl⟩

instance : Monad Run where
  pure := Run.pure
  bind := Run.bind

instance {α : Type} : Inhabited (Run α) := ⟨Run.fail .exhausted⟩

@[ext] protected theorem ext {α : Type} {x y : Run α} (h : ∀ t w, x.actIn t w = y.actIn t w) : x = y := by
  cases x; cases y
  simp only [mk.injEq]
  exact funext fun t => funext (h t)

@[simp] theorem pure_act {α : Type} (a : α) (w : World) : (pure a : Run α).act w = .ok a w := rfl

theorem pure_actIn {α : Type} (a : α) (t : Thread) (w : World) : (pure a : Run α).actIn t w = .ok a w := rfl

theorem bind_actIn {α β : Type} (x : Run α) (f : α → Run β) (t : Thread) (w : World) :
    (x >>= f).actIn t w = match x.actIn t w with
      | .ok a w' => (f a).actIn t w'
      | .error e w' => .error e w' := rfl

theorem bind_act {α β : Type} (x : Run α) (f : α → Run β) (w : World) :
    (x >>= f).act w = match x.act w with
      | .ok a w' => (f a).act w'
      | .error e w' => .error e w' := rfl

protected theorem id_map {α : Type} (x : Run α) : id <$> x = x := by
  refine Run.ext fun t w => ?_
  change (x >>= fun a => pure a).actIn t w = x.actIn t w
  rw [bind_actIn]
  cases x.actIn t w <;> rfl

protected theorem bind_assoc {α β γ : Type} (x : Run α) (f : α → Run β) (g : β → Run γ) :
    x >>= f >>= g = x >>= fun a => f a >>= g := by
  refine Run.ext fun t w => ?_
  rw [bind_actIn, bind_actIn, bind_actIn]
  cases x.actIn t w <;> rfl

instance : LawfulMonad Run := LawfulMonad.mk' Run Run.id_map (fun _ _ => rfl) Run.bind_assoc

/-- The world as it is. -/
def world : Run World := ⟨fun _ w => .ok w w, fun _ => .refl, fun _ _ => rfl⟩

theorem world_act (w : World) : world.act w = .ok w w := rfl

/-- Changes what is neither an object nor reported. -/
@[inline] def adjust (f : World → World)
    (keeps : ∀ w : World, (f w).store = w.store ∧ (f w).log = w.log ∧ (f w).hostCalls = w.hostCalls ∧
      w.refusals ≤ (f w).refusals := by intro w; exact ⟨rfl, rfl, rfl, Nat.le_refl _⟩) : Run Unit :=
  ⟨fun _ w => .ok () (f w), fun _ w => .of_eq (keeps w).1 (keeps w).2.1 (keeps w).2.2.1 (keeps w).2.2.2,
    fun _ _ => rfl⟩

/-! ## The store -/

/-- Puts a new object into the store. -/
def alloc (o : Obj) : Run Addr where
  actIn _ w := .ok w.store.size { w with store := w.store.push o }
  grows_in _ w := .push w o

def new (o : Obj) : Run Value := do return .ref (← alloc o)

/-- The object at an address; an address without object holds an empty module. -/
def load (a : Addr) : Run Obj := do return (← world).store.getD a (.module "")

/-- What is at an address is loaded from there. -/
theorem load_act {w : World} {a : Addr} {o : Obj} (h : w.store[a]? = some o) :
    (load a).act w = .ok o w := by
  have hget : w.store.getD a (.module "") = o := by
    rw [Array.getD_eq_getD_getElem?, h, Option.getD_some]
  exact congrArg (EStateM.Result.ok · w) hget

/-- Puts an object in the place of another one of its kind. -/
def save (a : Addr) (o : Obj) : Run Unit where
  actIn _ w := .ok () { w with store := w.store.modify a (Obj.replacedBy o) }
  grows_in _ w := .modify w a (Obj.becomes_replacedBy o)

/-- Changes an object in place, unless it is fixed. -/
@[inline] def update (a : Addr) (f : Obj → Obj)
    (keeps : ∀ o : Obj, (f o).kind = o.kind := by intro o; cases o <;> rfl) : Run Unit where
  actIn _ w := .ok () { w with store := w.store.modify a (Obj.changedBy f) }
  grows_in _ w := .modify w a (Obj.becomes_changedBy keeps)

/-- Puts a value at the end of a list object. -/
def pushItem (a : Addr) (v : Value) : Run Unit :=
  update a fun o => match o with
    | .list xs => .list (xs.push v)
    | o => o

/-- The object behind a value, if it is a reference. -/
def object? (v : Value) : Run (Option Obj) :=
  match v with
  | .ref a => do return some (← load a)
  | _ => return none

/-! ## Errors -/

/-- Ends with an error that is in the store. -/
def raiseObject {α : Type} (a : Addr) : Run α := .fail (.raised a)

/-- The run is cut off. -/
def exhausted {α : Type} : Run α := .fail .exhausted

/-- Raises a new error with these arguments. -/
def raiseWith {α : Type} (cls : String) (args : List Value)
    (fields : List (String × Value) := []) : Run α := do
  raiseObject (← alloc (.error (.cls cls) args fields))

/-- Raises a new error with a message. -/
def raise {α : Type} (cls message : String) : Run α := raiseWith cls [.str message]

def typeError {α : Type} (message : String) : Run α := raise "TypeError" message
def valueError {α : Type} (message : String) : Run α := raise "ValueError" message
def indexError {α : Type} (message : String) : Run α := raise "IndexError" message
def attributeError {α : Type} (message : String) : Run α := raise "AttributeError" message
def overflowError {α : Type} (message : String) : Run α := raise "OverflowError" message

/-- What a run ends with, an error that was raised being a result as well. -/
def Ending.outcome {α : Type} : Ending α → Ending (Except Addr α)
  | .ok a w => .ok (.ok a) w
  | .error (.raised e) w => .ok (.error e) w
  | .error .exhausted w => .error .exhausted w

theorem Ending.world_outcome {α : Type} (x : Ending α) : (outcome x).world = x.world := by
  rcases x with ⟨a, w⟩ | ⟨e | _, w⟩ <;> rfl

/-- Runs to the end and hands over the error that was raised, if one was. -/
def outcome {α : Type} (act : Run α) : Run (Except Addr α) where
  actIn t w := Ending.outcome (act.actIn t w)
  grows_in t w := by
    rw [Ending.world_outcome]
    exact act.grows_in t w
  agrees w hquiet := by
    rw [Ending.world_outcome] at hquiet
    rw [act.agrees w hquiet]

theorem outcome_act {α : Type} (x : Run α) (w : World) : (outcome x).act w = Ending.outcome (x.act w) := rfl

/-- Runs, and goes on with `handle` if an error was raised. -/
def recover {α : Type} (act : Run α) (handle : Addr → Run α) : Run α := do
  match ← outcome act with
  | .ok a => return a
  | .error e => handle e

/-- The class of an error in the store. -/
def errorClass (e : Addr) : Run Value := do
  match ← load e with
  | .error cls _ _ => return cls
  | _ => return .cls "Exception"

/-! ## The log -/

def log (level : Level) (message : String) : Run Unit where
  actIn _ w := .ok () { w with log := w.log.push ⟨level, message⟩ }
  grows_in _ w := .report w ⟨level, message⟩

/-- Notes that a call reached the host application, and tells how many did. -/
def noteCall (v : Value) : Run Nat where
  actIn _ w := .ok (w.hostCalls.size + 1) { w with hostCalls := w.hostCalls.push v }
  grows_in _ w := .call w v

/-! ## Threads -/

/-- Goes on in a thread of its own. -/
def aside {α : Type} (x : Run α) : Run α := ⟨fun _ => x.actIn .own, fun _ => x.grows_in .own, fun _ _ => rfl⟩

/-- Does what takes waiting. Where nothing can be waited for, the refusal is counted, and something else is
done. -/
def waiting {α : Type} (act otherwise : Run α) : Run α where
  actIn
    | .own, w => act.actIn .own w
    | .common, w => otherwise.actIn .common { w with refusals := w.refusals + 1 }
  grows_in
    | .own, w => act.grows_in .own w
    | .common, w => by
      have hcounted : w.Grows { w with refusals := w.refusals + 1 } := .of_eq rfl rfl rfl (Nat.le_succ _)
      exact hcounted.trans (otherwise.grows_in .common _)
  agrees w hquiet := by
    have hrefused := (otherwise.grows_in .common { w with refusals := w.refusals + 1 }).refusals_le
    exact absurd (hquiet ▸ hrefused) (Nat.not_succ_le_self _)

/-! ## Loops -/

/-- The turns of a loop, at most `n` of them. -/
@[specialize] def turns {σ α : Type} (step : σ → Run (σ ⊕ α)) (t : Thread) : Nat → σ → World → Ending α
  | 0, _, w => .error .exhausted w
  | n + 1, s, w => match (step s).actIn t w with
    | .ok (.inl s') w' => turns step t n s' w'
    | .ok (.inr a) w' => .ok a w'
    | .error e w' => .error e w'

theorem turns_grows {σ α : Type} (step : σ → Run (σ ⊕ α)) (t : Thread) (n : Nat) (s : σ) (w : World) :
    w.Grows (turns step t n s w).world := by
  induction n generalizing s w with
  | zero => exact .refl w
  | succ n ih =>
    have h := (step s).grows_in t w
    rw [turns]
    rcases hr : (step s).actIn t w with ⟨s' | a, w'⟩ | ⟨e, w'⟩ <;> rw [hr] at h
    · exact h.trans (ih s' w')
    · exact h
    · exact h

/-- A loop agrees if its turns do. -/
theorem turns_agrees {σ α : Type} (step : σ → Run (σ ⊕ α)) (n : Nat) (s : σ) (w : World)
    (hquiet : (turns step .common n s w).world.refusals = w.refusals) :
    turns step .own n s w = turns step .common n s w := by
  induction n generalizing s w with
  | zero => rfl
  | succ n ih =>
    have hstep := (step s).grows_in .common w
    rw [turns] at hquiet
    rw [turns, turns]
    rcases hr : (step s).actIn .common w with ⟨s' | a, w'⟩ | ⟨e, w'⟩ <;> rw [hr] at hstep hquiet
    · have hrest := turns_grows step .common n s' w'
      have hfirst : w'.refusals = w.refusals := Nat.le_antisymm (hquiet ▸ hrest.refusals_le) hstep.refusals_le
      rw [(step s).agrees w (by rw [hr]; exact hfirst), hr]
      exact ih s' w' (hquiet.trans hfirst.symm)
    · rw [(step s).agrees w (by rw [hr]; exact hquiet), hr]
    · rw [(step s).agrees w (by rw [hr]; exact hquiet), hr]

/-- Repeats a step until it yields a result, at most `n` times. -/
@[inline] def iterate {σ α : Type} (step : σ → Run (σ ⊕ α)) (n : Nat) (s : σ) : Run α :=
  ⟨fun t => turns step t n s, fun t => turns_grows step t n s, turns_agrees step n s⟩

/-- How often a loop may turn before a run is cut off. -/
def patience : Nat := 1000000000

/-! ## Making objects -/

def list (items : List Value) : Run Value := new (.list items.toArray)
def tuple (items : List Value) : Run Value := new (.tuple none items)
def dict (d : Dict) : Run Value := new (.dict .plain d)

end Run

end Stepwise
