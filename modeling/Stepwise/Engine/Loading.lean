/-!
# Loading once

Something is loaded once and shared. Callers that arrive while a load is on its way wait for that
load; a load that failed or was cancelled is forgotten by the next caller, who starts another one.
What a load hands over is in place as soon as it is over, but those who wait learn of its end a little
later; that is why a stage lies between.
-/

namespace Stepwise

/-- Why a load ended without success. -/
inductive LoadFault where
  | failed (reason : String)
  | cancelled
  deriving DecidableEq, Inhabited

def LoadFault.message : LoadFault → String
  | failed reason => "Render toolchain failed to initialize: " ++ reason
  | cancelled => "Render toolchain initialization was cancelled"

/-- How a load ends: with what the loader hands over, which may be nothing, or with a fault. -/
abbrev LoadEnd (ε : Type) := Except LoadFault (Option ε)

/-- How far a load has come. -/
inductive LoadStage (ε : Type) where
  | created
  | running
  /-- The load is over, and nobody who waits for it has been told. -/
  | ended (e : LoadEnd ε)
  | told (e : LoadEnd ε)
  deriving Inhabited

/-- A load that need not be joined: all know of its fault. -/
def LoadStage.isForgotten {ε : Type} : LoadStage ε → Bool
  | .told (.error _) => true
  | _ => false

/-- What was loaded, and all loads that were ever created, in order. -/
structure Loading (ε : Type) where
  environment : Option ε := none
  loads : List (LoadStage ε) := []
  /-- How many loads began to run. -/
  begun : Nat := 0
  deriving Inhabited

namespace Loading

variable {ε : Type}

/-- Is there no load that a caller could wait for? -/
def needsLoad (l : Loading ε) : Bool :=
  match l.loads.getLast? with
  | none => true
  | some s => s.isForgotten

/-- Joins the load that is on its way, or a new one: its number, and what is then. -/
def join (l : Loading ε) : Nat × Loading ε :=
  if l.needsLoad then (l.loads.length, { l with loads := l.loads ++ [.created] })
  else (l.loads.length - 1, l)

/-- Has the load not begun? -/
def isCreated (l : Loading ε) (number : Nat) : Bool :=
  match l.loads[number]? with
  | some .created => true
  | _ => false

/-- Puts a load into a stage. -/
def put (l : Loading ε) (number : Nat) (s : LoadStage ε) : Loading ε := { l with loads := l.loads.set number s }

/-- A load that was created begins to run. -/
def begin (l : Loading ε) (number : Nat) : Loading ε :=
  match l.loads[number]? with
  | some .created => { l.put number .running with begun := l.begun + 1 }
  | _ => l

/-- A load that runs ends; what it hands over is in place at once. -/
def finish (l : Loading ε) (number : Nat) (e : LoadEnd ε) : Loading ε :=
  match l.loads[number]?, e with
  | some .running, .ok handed => { l.put number (.ended e) with environment := handed }
  | some .running, .error _ => l.put number (.ended e)
  | _, _ => l

/-- A load is called off, before it begins or while it runs. -/
def cancel (l : Loading ε) (number : Nat) : Loading ε :=
  match l.loads[number]? with
  | some .created | some .running => l.put number (.ended (.error .cancelled))
  | _ => l

/-- A load is called off in the very step in which it hands something over: that is in place, and yet
the load counts as called off. -/
def overtake (l : Loading ε) (number : Nat) (handed : Option ε) : Loading ε :=
  match l.loads[number]? with
  | some .running => { l.put number (.ended (.error .cancelled)) with environment := handed }
  | _ => l

/-- Those who wait for a load are told how it ended. -/
def tell (l : Loading ε) (number : Nat) : Loading ε :=
  match l.loads[number]? with
  | some (.ended e) => l.put number (.told e)
  | _ => l

/-- The end of a load, as those know it who wait for it. -/
def known? (l : Loading ε) (number : Nat) : Option (LoadEnd ε) :=
  match l.loads[number]? with
  | some (.told e) => some e
  | _ => none

end Loading

/-! ## Callers -/

/-- Where a caller stands. -/
inductive Caller where
  | away
  /-- Has seen that there is no environment. -/
  | entered
  | waiting (number : Nat)
  | returned
  | refused (number : Nat) (fault : LoadFault)
  /-- Was called off while it waited. -/
  | gone
  deriving DecidableEq, Inhabited

/-- What can happen to a toolchain and its callers, in any order. -/
inductive LoadEvent (ε : Type) where
  | enter (caller : Nat)
  | join (caller : Nat)
  | wake (caller : Nat)
  | leave (caller : Nat)
  | begin (number : Nat)
  | finish (number : Nat) (e : LoadEnd ε)
  | cancel (number : Nat)
  | overtake (number : Nat) (handed : Option ε)
  | tell (number : Nat)

/-- A toolchain with its callers. -/
structure SharedLoading (ε : Type) where
  loading : Loading ε := {}
  callers : Nat → Caller := fun _ => .away

namespace SharedLoading

variable {ε : Type}

/-- Moves one caller. -/
def place (s : SharedLoading ε) (caller : Nat) (c : Caller) : SharedLoading ε :=
  { s with callers := fun n => if n = caller then c else s.callers n }

/-- One event. An event that is not possible where things stand changes nothing. -/
def step (s : SharedLoading ε) : LoadEvent ε → SharedLoading ε
  | .enter c =>
    match s.callers c, s.loading.environment with
    | .away, some _ => s.place c .returned
    | .away, none => s.place c .entered
    | _, _ => s
  | .join c =>
    match s.callers c with
    | .entered =>
      let (number, loading) := s.loading.join
      { s with loading := loading }.place c (.waiting number)
    | _ => s
  | .wake c =>
    match s.callers c with
    | .waiting number =>
      match s.loading.known? number with
      | some (.ok _) => s.place c .returned
      | some (.error fault) => s.place c (.refused number fault)
      | none => s
    | _ => s
  | .leave c =>
    match s.callers c with
    | .waiting _ => s.place c .gone
    | _ => s
  | .begin k => { s with loading := s.loading.begin k }
  | .finish k e => { s with loading := s.loading.finish k e }
  | .cancel k => { s with loading := s.loading.cancel k }
  | .overtake k handed => { s with loading := s.loading.overtake k handed }
  | .tell k => { s with loading := s.loading.tell k }

/-- Everything that happens, one event after the other. -/
def run (events : List (LoadEvent ε)) : SharedLoading ε := events.foldl step {}

end SharedLoading

end Stepwise
