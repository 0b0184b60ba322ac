import Stepwise.Engine.Loading
/-!
# Waiting through futures

Callers of a load do not await its future, which all of them share. Each of them awaits a future of its own
that follows the shared one, link by link. A caller who is called off cancels the future that it awaits; what
is cancelled with it depends on the links. A wrapping future passes the cancellation on to the one that it
follows, and a shield does not. A shared future that is cancelled can be told nothing any more, and the next
caller starts another load.
-/

namespace Stepwise

/-- What a future holds. -/
inductive Cell (ε : Type) where
  | pending
  | settled (e : LoadEnd ε)
  | cancelled
  deriving Inhabited

/-- How a future follows another one. -/
inductive Link where
  | wrap
  | shield
  deriving DecidableEq, Inhabited

/-- What callers await: a shield around a future that wraps the shared one. -/
def Link.ordinary : List Link := [.shield, .wrap]

/-- Cancels the first of some futures, unless it is over, with what its link cancels: the futures afterwards,
and whether the cancellation is passed on to the one that the last of them follows. -/
def cancelFirst {ε : Type} : List Link → List (Cell ε) → List (Cell ε) × Bool
  | .shield :: _, .pending :: rest => (.cancelled :: rest, false)
  | .wrap :: links, .pending :: rest => (.cancelled :: (cancelFirst links rest).1, (cancelFirst links rest).2)
  | [], cells => (cells, true)
  | _, cells => (cells, false)

/-- A caller with its futures: from the one that it awaits to the one that follows the shared one. -/
structure Waiter (ε : Type) where
  stands : Caller := .away
  /-- The load that it has joined. -/
  number : Nat := 0
  cells : List (Cell ε) := []
  deriving Inhabited

/-- What can happen to a toolchain and its callers, or a future takes over what the one that it follows holds. -/
inductive AwaitEvent (ε : Type) where
  | load (e : LoadEvent ε)
  | follow (caller place : Nat)

namespace AwaitEvent

/-- The caller that an event is about, if there is one. -/
def caller? {ε : Type} : AwaitEvent ε → Option Nat
  | load (.enter c) | load (.join c) | load (.wake c) | load (.leave c) | follow c _ => some c
  | load (.begin _) | load (.finish _ _) | load (.cancel _) | load (.overtake _ _) | load (.tell _) => none

end AwaitEvent

/-- The loads and their futures. -/
structure LoadFutures (ε : Type) where
  loading : Loading ε := {}
  /-- The loads whose futures were cancelled. -/
  dropped : Nat → Bool := fun _ => false

namespace LoadFutures

variable {ε : Type}

/-- The future of a load. -/
def shared (s : LoadFutures ε) (number : Nat) : Cell ε :=
  if s.dropped number then .cancelled
  else match s.loading.known? number with
    | some e => .settled e
    | none => .pending

/-- The future at a place takes over what the one behind it holds, or the load's future behind the last. -/
def follow (s : LoadFutures ε) (number : Nat) (cells : List (Cell ε)) (i : Nat) : List (Cell ε) :=
  match cells[i]? with
  | some .pending => cells.set i ((cells[i + 1]?).getD (s.shared number))
  | _ => cells

/-- Joins the load that is on its way, or a new one, which there is also where the future of the last one
was cancelled: its number, and the loads then. -/
def join (s : LoadFutures ε) : Nat × Loading ε :=
  let l := s.loading
  if s.dropped (l.loads.length - 1) then (l.loads.length, { l with loads := l.loads ++ [.created] }) else l.join

/-- What an event makes of the loads, where `entered` says whether its caller is about to join one. -/
def next (s : LoadFutures ε) (entered : Bool) : AwaitEvent ε → Loading ε
  | .load (.join _) => if entered then s.join.2 else s.loading
  | .load (.begin k) => s.loading.begin k
  | .load (.finish k e) => s.loading.finish k e
  | .load (.cancel k) => s.loading.cancel k
  | .load (.overtake k handed) => s.loading.overtake k handed
  | .load (.tell k) => if s.dropped k then s.loading else s.loading.tell k
  | _ => s.loading

end LoadFutures

namespace Waiter

variable {ε : Type}

/-- What an event makes of the caller that it is about. -/
def next (links : List Link) (s : LoadFutures ε) (x : Waiter ε) : AwaitEvent ε → Waiter ε
  | .load (.enter _) =>
    match x.stands with
    | .away => { x with stands := if s.loading.environment.isSome then .returned else .entered }
    | _ => x
  | .load (.join _) =>
    match x.stands with
    | .entered => ⟨.waiting s.join.1, s.join.1, links.map fun _ => .pending⟩
    | _ => x
  | .follow _ i => { x with cells := s.follow x.number x.cells i }
  | .load (.wake _) =>
    match x.stands, (x.cells[0]?).getD (s.shared x.number) with
    | .waiting _, .settled (.ok _) => { x with stands := .returned }
    | .waiting k, .settled (.error fault) => { x with stands := .refused k fault }
    | .waiting _, .cancelled => { x with stands := .gone }
    | _, _ => x
  | .load (.leave _) =>
    match x.stands with
    | .waiting _ => { x with stands := .gone, cells := (cancelFirst links x.cells).1 }
    | _ => x
  | _ => x

/-- Does an event that is about this caller cancel the future of a load? -/
def drops (links : List Link) (s : LoadFutures ε) (x : Waiter ε) (number : Nat) : AwaitEvent ε → Bool
  | .load (.leave _) =>
    match x.stands, s.shared number with
    | .waiting k, .pending => k == number && (cancelFirst links x.cells).2
    | _, _ => false
  | _ => false

end Waiter

/-- A toolchain with its callers and all their futures. -/
structure AwaitedLoading (ε : Type) where
  futures : LoadFutures ε := {}
  waiters : Nat → Waiter ε := fun _ => {}

namespace AwaitedLoading

variable {ε : Type}

/-- One event. An event that is not possible where things stand changes nothing. -/
def step (links : List Link) (s : AwaitedLoading ε) (e : AwaitEvent ε) : AwaitedLoading ε :=
  match e.caller? with
  | none => { s with futures := { s.futures with loading := s.futures.next false e } }
  | some c =>
    let x := s.waiters c
    { futures :=
        { loading := s.futures.next (x.stands = .entered) e
          dropped := fun k => s.futures.dropped k || x.drops links s.futures k e }
      waiters := fun d => if d = c then x.next links s.futures e else s.waiters d }

/-- Everything that happens, one event after the other. -/
def run (links : List Link) (events : List (AwaitEvent ε)) : AwaitedLoading ε := events.foldl (step links) {}

end AwaitedLoading

end Stepwise
