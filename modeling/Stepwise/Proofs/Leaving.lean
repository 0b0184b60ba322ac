import Stepwise.Engine.Futures
import Stepwise.Proofs.Loading
/-!
# Callers that are called off

A caller that waits for a load can be called off. `leaving_is_unseen` compares two runs of one schedule, with
some callers called off and without: the loads are the same at every moment, and so is where every other
caller stands. What makes it so is the shield, behind which no future is cancelled (`drops_shield`), so the
two runs are alike event by event (`Alike.step`, `Alike.leave`). And a run with a shield is a run of
`SharedLoading`, in which there are no futures at all (`exists_run`).
-/

namespace Stepwise

variable {ε : Type}

/-- The caller is neither on its way to a load nor still to come. -/
def Caller.isPast : Caller → Bool
  | .away | .entered => false
  | .waiting _ | .returned | .refused .. | .gone => true

/-! ## Behind a shield -/

/-- **A shield keeps a cancellation to itself**: the shared future is not cancelled, -/
theorem cancelFirst_shield (links : List Link) (cells : List (Cell ε)) :
    (cancelFirst (.shield :: links) cells).2 = false := by
  rcases cells with _ | ⟨_ | _ | _, rest⟩ <;> rfl

/-- nor are the futures behind the one that is awaited. -/
theorem cancelFirst_shield_rest (links : List Link) (cells : List (Cell ε)) :
    (cancelFirst (.shield :: links) cells).1.tail = cells.tail ∧
      (cancelFirst (.shield :: links) cells).1.length = cells.length := by
  rcases cells with _ | ⟨_ | _ | _, rest⟩ <;> exact ⟨rfl, rfl⟩

/-- So no event cancels the future of a load. -/
theorem Waiter.drops_shield (links : List Link) (s : LoadFutures ε) (x : Waiter ε) (number : Nat)
    (e : AwaitEvent ε) : x.drops (.shield :: links) s number e = false := by
  unfold drops
  split
  · split
    · rw [cancelFirst_shield, Bool.and_false]
    · rfl
  · rfl

/-! ## Two runs side by side -/

/-- Futures that differ at most in the first one, which is awaited. -/
def SameRest (cells cells' : List (Cell ε)) : Prop := cells.tail = cells'.tail ∧ cells.length = cells'.length

namespace SameRest

variable {cells cells' : List (Cell ε)}

theorem follow (h : SameRest cells cells') (s : LoadFutures ε) (number i : Nat) :
    SameRest (s.follow number cells i) (s.follow number cells' i) := by
  obtain ⟨htail, hlength⟩ := h
  rcases cells with _ | ⟨a, rest⟩ <;> rcases cells' with _ | ⟨b, rest'⟩
  · exact ⟨rfl, rfl⟩
  · cases hlength
  · cases hlength
  · obtain rfl : rest = rest' := htail
    cases i with
    | zero => cases a <;> cases b <;> exact ⟨rfl, rfl⟩
    | succ i =>
      unfold LoadFutures.follow SameRest
      simp only [List.getElem?_cons_succ]
      split <;> exact ⟨rfl, rfl⟩

theorem cancelFirst (links : List Link) (cells : List (Cell ε)) :
    SameRest (Stepwise.cancelFirst (.shield :: links) cells).1 cells :=
  cancelFirst_shield_rest links cells

theorem trans {a b c : List (Cell ε)} (hab : SameRest a b) (hbc : SameRest b c) : SameRest a c :=
  ⟨hab.1.trans hbc.1, hab.2.trans hbc.2⟩

theorem symm (h : SameRest cells cells') : SameRest cells' cells := ⟨h.1.symm, h.2.symm⟩

end SameRest

/-- Where a caller stands, and where it would stand if it were not called off: at the same place with the same
futures, or it is gone and would have gone on, and only the future that it awaited is another one. -/
inductive Stands (called : Bool) : Waiter ε → Waiter ε → Prop
  | same (x : Waiter ε) : Stands called x x
  | gone {number : Nat} {x : Caller} {cells cells' : List (Cell ε)} : called = true → x.isPast = true →
      SameRest cells cells' → Stands called ⟨.gone, number, cells⟩ ⟨x, number, cells'⟩

namespace Stands

variable {called : Bool} {links : List Link} {x y : Waiter ε}

/-- **The same event leaves a caller alike.** One that is gone stays so, and no event leads back to where a
load is joined. -/
theorem next (h : Stands called x y) (s : LoadFutures ε) (e : AwaitEvent ε) :
    Stands called (x.next (.shield :: links) s e) (y.next (.shield :: links) s e) := by
  cases h with
  | same => exact .same _
  | @gone number x cells cells' hcalled hpast hrest =>
    have hstay : ∀ {y' : Caller}, y'.isPast = true →
        Stands called ⟨.gone, number, cells⟩ (⟨y', number, cells'⟩ : Waiter ε) :=
      fun hy => .gone hcalled hy hrest
    rcases e with e | ⟨c, i⟩
    case follow => exact .gone hcalled hpast (hrest.follow s number i)
    case load =>
      cases e with
      | enter | join =>
        cases x with
        | away | entered => cases hpast
        | _ => exact hstay rfl
      | wake c =>
        simp only [Waiter.next]
        split <;> first | exact hstay rfl | exact hstay hpast
      | leave c =>
        cases x with
        | away | entered => cases hpast
        | waiting k => exact .gone hcalled rfl (hrest.trans (SameRest.cancelFirst links cells').symm)
        | _ => exact hstay rfl
      | _ => exact hstay hpast

/-- **A caller that is called off is alike where it is not.** -/
theorem leave (h : Stands true x y) (s : LoadFutures ε) (c : Nat) :
    Stands true (x.next (.shield :: links) s (.load (.leave c))) y := by
  cases h with
  | gone hcalled hpast hrest => exact .gone hcalled hpast hrest
  | same =>
    obtain ⟨stands, number, cells⟩ := x
    cases stands with
    | waiting k => exact .gone rfl rfl (SameRest.cancelFirst links cells)
    | _ => exact .same _

theorem eq_of_not (h : Stands called x y) (hc : called = false) : x = y := by
  cases h with
  | same => rfl
  | gone hcalled => cases hc.symm.trans hcalled

theorem stands_eq_or_gone (h : Stands called x y) : x.stands = y.stands ∨ x.stands = .gone := by
  cases h with
  | same => exact .inl rfl
  | gone => exact .inr rfl

/-- Both are about to join a load, or neither is. -/
theorem entered_iff (h : Stands called x y) : x.stands = .entered ↔ y.stands = .entered := by
  cases h with
  | same => exact Iff.rfl
  | @gone number x cells cells' _ hpast =>
    refine ⟨fun hx => (nomatch hx), fun hy => ?_⟩
    rw [show x = .entered from hy] at hpast
    cases hpast

end Stands

/-- The loads and their futures are the same, and so are the callers that are not called off. -/
structure Alike (called : Nat → Bool) (s s' : AwaitedLoading ε) : Prop where
  futures : s.futures = s'.futures
  waiters (c : Nat) : Stands (called c) (s.waiters c) (s'.waiters c)

namespace Alike

variable {called : Nat → Bool} {links : List Link} {s s' : AwaitedLoading ε}

/-- **The same event leaves both alike.** -/
theorem step (h : Alike called s s') (e : AwaitEvent ε) :
    Alike called (s.step (.shield :: links) e) (s'.step (.shield :: links) e) := by
  unfold AwaitedLoading.step
  cases e.caller? with
  | none => exact ⟨by simp only [h.futures], h.waiters⟩
  | some c =>
    refine ⟨?_, fun d => ?_⟩
    · simp only [Waiter.drops_shield, Bool.or_false, h.futures]
      rw [decide_eq_decide.2 (h.waiters c).entered_iff]
    · dsimp only
      split
      case isTrue hd =>
        rw [hd, h.futures]
        exact (h.waiters c).next s'.futures e
      case isFalse => exact h.waiters d

/-- **Calling off a caller leaves them alike**, whatever it waits for. -/
theorem leave (h : Alike called s s') {c : Nat} (hc : called c = true) :
    Alike called (s.step (.shield :: links) (.load (.leave c))) s' := by
  refine ⟨?_, fun d => ?_⟩
  · rw [← h.futures]
    simp only [AwaitedLoading.step, AwaitEvent.caller?, Waiter.drops_shield, Bool.or_false]
    rfl
  · simp only [AwaitedLoading.step, AwaitEvent.caller?]
    split
    case isTrue hd =>
      have hstands := h.waiters c
      rw [hc] at hstands
      rw [hd, hc]
      exact hstands.leave s.futures c
    case isFalse => exact h.waiters d

end Alike

/-! ## Runs -/

/-- Does the event call off one of these callers? -/
def callsOff (called : Nat → Bool) : AwaitEvent ε → Bool
  | .load (.leave c) => called c
  | _ => false

/-- The same schedule, with these callers not called off. -/
def undisturbed (called : Nat → Bool) (events : List (AwaitEvent ε)) : List (AwaitEvent ε) :=
  events.filter fun e => !callsOff called e

theorem callsOff_eq_true {called : Nat → Bool} {e : AwaitEvent ε} (h : callsOff called e = true) :
    ∃ c, e = .load (.leave c) ∧ called c = true := by
  rcases e with e | _
  · cases e with
    | leave c => exact ⟨c, rfl, h⟩
    | _ => cases h
  · cases h

namespace AwaitedLoading

/-- The events from a state on. -/
def after (links : List Link) (s : AwaitedLoading ε) (events : List (AwaitEvent ε)) : AwaitedLoading ε :=
  events.foldl (step links) s

/-- The load that begins to run with an event, if one does. -/
def starts? (s : AwaitedLoading ε) : AwaitEvent ε → Option Nat
  | .load (.begin k) => if s.futures.loading.isCreated k then some k else none
  | _ => none

/-- The loads that begin to run in the course of some events, in order. -/
def beginnings (links : List Link) (s : AwaitedLoading ε) : List (AwaitEvent ε) → List Nat
  | [] => []
  | e :: rest => (s.starts? e).toList ++ beginnings links (s.step links e) rest

end AwaitedLoading

open AwaitedLoading

theorem Alike.starts? {called : Nat → Bool} {s s' : AwaitedLoading ε} (h : Alike called s s') (e : AwaitEvent ε) :
    s.starts? e = s'.starts? e := by
  unfold AwaitedLoading.starts?
  rw [h.futures]

/-- **Two runs of one schedule stay alike, and the same loads begin in them, in the same order.** -/
theorem Alike.after {called : Nat → Bool} {s s' : AwaitedLoading ε} (h : Alike called s s') (links : List Link)
    (events : List (AwaitEvent ε)) :
    Alike called (s.after (.shield :: links) events) (s'.after (.shield :: links) (undisturbed called events)) ∧
      s.beginnings (.shield :: links) events = s'.beginnings (.shield :: links) (undisturbed called events) := by
  induction events generalizing s s' with
  | nil => exact ⟨h, rfl⟩
  | cons e rest ih =>
    cases he : callsOff called e with
    | true =>
      obtain ⟨c, rfl, hc⟩ := callsOff_eq_true he
      rw [undisturbed, List.filter_cons_of_neg (by simp [he])]
      exact ih (h.leave hc)
    | false =>
      obtain ⟨halike, hbegin⟩ := ih (h.step e)
      rw [undisturbed, List.filter_cons_of_pos (by simp [he])]
      refine ⟨halike, ?_⟩
      rw [beginnings, beginnings, h.starts? e]
      exact congrArg _ hbegin

namespace AwaitedLoading

/-- **Nobody notices that callers are called off**, where what they await is a shield. In two runs of one
schedule, with any callers called off wherever they wait and with these not called off, the loads and their
futures are the same: those that were created and that began, in their order, how each of them stands or
ended, what was loaded and the count. Every other caller stands at the same place, with the same result. Of
those that are called off each stands where it would have stood or is gone, and one that was waiting is gone. -/
theorem leaving_is_unseen (links : List Link) (called : Nat → Bool) (events : List (AwaitEvent ε)) :
    let left := run (.shield :: links) events
    let kept := run (.shield :: links) (undisturbed called events)
    left.futures = kept.futures ∧
    beginnings (.shield :: links) {} events = beginnings (.shield :: links) {} (undisturbed called events) ∧
    (∀ c, called c = false → left.waiters c = kept.waiters c) ∧
    (∀ c, (left.waiters c).stands = (kept.waiters c).stands ∨ (left.waiters c).stands = .gone) ∧
    (∀ c k, (left.waiters c).stands = .waiting k →
      ((left.step (.shield :: links) (.load (.leave c))).waiters c).stands = .gone) := by
  have hstart : Alike called ({} : AwaitedLoading ε) {} := ⟨rfl, fun _ => .same _⟩
  obtain ⟨halike, hbegin⟩ := hstart.after links events
  refine ⟨halike.futures, hbegin, fun c hc => (halike.waiters c).eq_of_not hc,
    fun c => (halike.waiters c).stands_eq_or_gone, fun c k hk => ?_⟩
  simp only [step, AwaitEvent.caller?, if_true, Waiter.next, hk]

/-- With what callers await the one beside a caller that is called off still waits; without the shield it is
gone as well. -/
example :
    let events : List (AwaitEvent Unit) := [.load (.enter 0), .load (.join 0), .load (.enter 1), .load (.join 1),
      .load (.leave 0), .follow 1 1, .follow 1 0, .load (.wake 1)]
    ((run Link.ordinary events).waiters 1).stands = .waiting 0 ∧ ((run [.wrap] events).waiters 1).stands = .gone := by
  decide

end AwaitedLoading

/-! ## Runs without futures -/

/-- What a future may hold that follows the one of a load: nothing yet, or how the load ended. -/
def Cell.TrueOf (l : Loading ε) (number : Nat) : Cell ε → Prop
  | .pending => True
  | .settled e => l.known? number = some e
  | .cancelled => False

theorem Cell.TrueOf.mono {l l' : Loading ε} {k : Nat} {cell : Cell ε} (h : cell.TrueOf l k)
    (hl : ∀ e, l.known? k = some e → l'.known? k = some e) : cell.TrueOf l' k := by
  cases cell with
  | pending => trivial
  | settled e => exact hl e h
  | cancelled => exact h

/-- What all know of a load they know for good. -/
theorem SharedLoading.known?_after {s : SharedLoading ε} {k : Nat} {e : LoadEnd ε}
    (h : s.loading.known? k = some e) (es : List (LoadEvent ε)) : (s.after es).loading.known? k = some e := by
  induction es generalizing s with
  | nil => exact h
  | cons x rest ih =>
    refine ih ?_
    rw [Loading.known?, (s.moves_step x).told (known?_eq_some h)]

/-- If the caller waits, its futures hold what is true of the load that it has joined. -/
def Waiter.Faithful (l : Loading ε) (x : Waiter ε) : Prop :=
  ∀ k, x.stands = .waiting k → x.number = k ∧ ∀ cell ∈ x.cells, cell.TrueOf l k

/-- No load's future is cancelled, and the futures of the callers that wait hold what is true. -/
structure Faithful (s : AwaitedLoading ε) : Prop where
  dropped (k : Nat) : s.futures.dropped k = false
  waiters (c : Nat) : (s.waiters c).Faithful s.futures.loading

namespace AwaitedLoading

/-- What is seen of the loads and the callers without their futures. -/
def seen (s : AwaitedLoading ε) : SharedLoading ε := ⟨s.futures.loading, fun c => (s.waiters c).stands⟩

end AwaitedLoading

namespace LoadFutures

variable {s : LoadFutures ε}

/-- The future of a load holds what is true of it, unless it was cancelled. -/
theorem shared_trueOf (h : ∀ k, s.dropped k = false) (k : Nat) : (s.shared k).TrueOf s.loading k := by
  rw [shared, h, if_neg Bool.false_ne_true]
  split
  case h_1 hk => exact hk
  case h_2 => trivial

/-- What is awaited holds what is true, if the futures do. -/
theorem awaited_trueOf (h : ∀ k, s.dropped k = false) {k : Nat} {cells : List (Cell ε)}
    (hcells : ∀ cell ∈ cells, cell.TrueOf s.loading k) (i : Nat) :
    ((cells[i]?).getD (s.shared k)).TrueOf s.loading k := by
  cases hi : cells[i]? with
  | none => exact shared_trueOf h k
  | some cell => exact hcells cell (List.mem_of_getElem? hi)

theorem follow_trueOf (h : ∀ k, s.dropped k = false) {k : Nat} {cells : List (Cell ε)}
    (hcells : ∀ cell ∈ cells, cell.TrueOf s.loading k) (i : Nat) :
    ∀ cell ∈ s.follow k cells i, cell.TrueOf s.loading k := by
  unfold follow
  split
  · intro cell hcell
    rcases List.mem_or_eq_of_mem_set hcell with hold | rfl
    · exact hcells cell hold
    · exact awaited_trueOf h hcells (i + 1)
  · exact hcells

end LoadFutures

namespace AwaitedLoading

variable {s : AwaitedLoading ε}

theorem place_stands {c : Nat} {x : Caller} (h : (s.waiters c).stands = x) : s.seen.place c x = s.seen := by
  have hcallers : (fun n => if n = c then x else (s.waiters n).stands) = fun n => (s.waiters n).stands := by
    funext n
    split
    case isTrue hn => rw [hn, h]
    case isFalse => rfl
  exact congrArg (SharedLoading.mk s.futures.loading) hcallers

/-- An event that is about a caller is seen to move that caller, and no other. -/
theorem seen_of_caller {links : List Link} {e : AwaitEvent ε} {c : Nat} (he : e.caller? = some c) :
    (s.step links e).seen =
      { s.seen with loading := s.futures.next (decide ((s.waiters c).stands = Caller.entered)) e }.place c
        ((s.waiters c).next links s.futures e).stands := by
  simp only [step, he, seen, SharedLoading.place, SharedLoading.mk.injEq, true_and]
  funext d
  split <;> rfl

/-- **Every event is seen as one without futures, or nothing is seen of it.** -/
theorem seen_step (h : Faithful s) (links : List Link) (e : AwaitEvent ε) :
    ∃ es : List (LoadEvent ε), (s.step (.shield :: links) e).seen = s.seen.after es := by
  rcases e with e | ⟨c, i⟩
  case follow =>
    refine ⟨[], ?_⟩
    rw [seen_of_caller rfl]
    exact s.place_stands rfl
  case load =>
    cases e with
    | enter c =>
      refine ⟨[.enter c], ?_⟩
      rw [seen_of_caller rfl]
      change _ = s.seen.step (.enter c)
      cases hc : (s.waiters c).stands with
      | away =>
        cases henv : s.futures.loading.environment <;>
          simp only [SharedLoading.step, seen, hc, henv, Waiter.next, LoadFutures.next, Option.isSome] <;> rfl
      | _ =>
        simp only [SharedLoading.step, seen, hc, Waiter.next, LoadFutures.next]
        exact s.place_stands hc
    | join c =>
      refine ⟨[.join c], ?_⟩
      rw [seen_of_caller rfl]
      change _ = s.seen.step (.join c)
      cases hc : (s.waiters c).stands with
      | entered =>
        simp only [SharedLoading.step, seen, hc, Waiter.next, LoadFutures.next, LoadFutures.join, h.dropped]
        rfl
      | _ =>
        simp only [SharedLoading.step, seen, hc, Waiter.next, LoadFutures.next]
        exact s.place_stands hc
    | wake c =>
      rw [seen_of_caller rfl]
      cases hc : (s.waiters c).stands with
      | waiting k =>
        obtain ⟨hnumber, hcells⟩ := h.waiters c k hc
        have htrue := LoadFutures.awaited_trueOf h.dropped hcells 0
        simp only [LoadFutures.next, Waiter.next, hc, hnumber]
        cases hawaited : ((s.waiters c).cells[0]?).getD (s.futures.shared k) with
        | pending =>
          dsimp only
          exact ⟨[], s.place_stands rfl⟩
        | cancelled =>
          rw [hawaited] at htrue
          exact htrue.elim
        | settled e =>
          rw [hawaited] at htrue
          have hknown : s.futures.loading.known? k = some e := htrue
          refine ⟨[.wake c], ?_⟩
          change _ = s.seen.step (.wake c)
          cases e <;> simp only [SharedLoading.step, seen, hc, hknown]
      | _ =>
        refine ⟨[], ?_⟩
        simp only [LoadFutures.next, Waiter.next, hc]
        exact s.place_stands hc
    | leave c =>
      refine ⟨[.leave c], ?_⟩
      rw [seen_of_caller rfl]
      change _ = s.seen.step (.leave c)
      cases hc : (s.waiters c).stands with
      | waiting k => simp only [SharedLoading.step, seen, hc, Waiter.next, LoadFutures.next]
      | _ =>
        simp only [SharedLoading.step, seen, hc, Waiter.next, LoadFutures.next]
        exact s.place_stands hc
    | begin k => exact ⟨[.begin k], rfl⟩
    | finish k e => exact ⟨[.finish k e], rfl⟩
    | cancel k => exact ⟨[.cancel k], rfl⟩
    | overtake k handed => exact ⟨[.overtake k handed], rfl⟩
    | tell k =>
      refine ⟨[.tell k], ?_⟩
      change AwaitedLoading.seen { s with futures := { s.futures with loading := _ } } = _
      simp only [LoadFutures.next, h.dropped]
      rfl

end AwaitedLoading

theorem Waiter.Faithful.next {s : LoadFutures ε} (hs : ∀ k, s.dropped k = false) {x : Waiter ε}
    (h : x.Faithful s.loading) (links : List Link) (e : AwaitEvent ε) :
    (x.next (.shield :: links) s e).Faithful s.loading := by
  obtain ⟨stands, number, cells⟩ := x
  rcases e with e | ⟨c, i⟩
  case follow =>
    intro k hk
    obtain ⟨rfl, hcells⟩ := h k hk
    exact ⟨rfl, LoadFutures.follow_trueOf hs hcells i⟩
  case load =>
    cases e with
    | enter c =>
      cases stands with
      | away =>
        intro k hk
        simp only [Waiter.next] at hk
        split at hk <;> cases hk
      | _ => exact h
    | join c =>
      cases stands with
      | entered =>
        intro k hk
        cases hk
        refine ⟨rfl, fun cell hcell => ?_⟩
        obtain ⟨_, _, rfl⟩ := List.mem_map.1 hcell
        trivial
      | _ => exact h
    | wake c =>
      simp only [Waiter.next]
      split <;> first | exact h | exact fun k hk => nomatch hk
    | leave c =>
      cases stands with
      | waiting k => exact fun k hk => nomatch hk
      | _ => exact h
    | _ => exact h

/-- **Every event keeps it so**, where what callers await is a shield. -/
theorem Faithful.step {s : AwaitedLoading ε} (h : Faithful s) (links : List Link) (e : AwaitEvent ε) :
    Faithful (s.step (.shield :: links) e) := by
  obtain ⟨es, hseen⟩ := AwaitedLoading.seen_step h links e
  have hknown : ∀ k x, s.futures.loading.known? k = some x →
      (s.step (.shield :: links) e).futures.loading.known? k = some x := by
    intro k x hx
    have hafter := SharedLoading.known?_after (s := s.seen) hx es
    rwa [← hseen] at hafter
  have hmono : ∀ {x : Waiter ε}, x.Faithful s.futures.loading →
      x.Faithful (s.step (.shield :: links) e).futures.loading :=
    fun hx k hk => ⟨(hx k hk).1, fun cell hcell => ((hx k hk).2 cell hcell).mono (hknown k)⟩
  refine ⟨fun k => ?_, fun d => hmono ?_⟩
  · unfold AwaitedLoading.step
    split
    · exact h.dropped k
    · simp only [h.dropped, Waiter.drops_shield, Bool.or_false]
  · unfold AwaitedLoading.step
    split
    · exact h.waiters d
    · dsimp only
      split
      · exact (h.waiters _).next h.dropped links e
      · exact h.waiters d

namespace AwaitedLoading

/-- **What is seen of a run is a run without futures.** So what holds of all those, holds of the loads and the
callers here. -/
theorem exists_run (links : List Link) (events : List (AwaitEvent ε)) :
    ∃ es : List (LoadEvent ε), (run (.shield :: links) events).seen = SharedLoading.run es := by
  have key : ∀ (events : List (AwaitEvent ε)) (s : AwaitedLoading ε), Faithful s →
      ∃ es : List (LoadEvent ε), (s.after (.shield :: links) events).seen = s.seen.after es := by
    intro events
    induction events with
    | nil => exact fun s _ => ⟨[], rfl⟩
    | cons e rest ih =>
      intro s hs
      obtain ⟨es, hes⟩ := seen_step hs links e
      obtain ⟨es', hes'⟩ := ih _ (hs.step links e)
      refine ⟨es ++ es', ?_⟩
      rw [SharedLoading.after, List.foldl_append]
      exact hes'.trans (congrArg (SharedLoading.after · es') hes)
  have hstart : Faithful ({} : AwaitedLoading ε) := ⟨fun _ => rfl, fun c k hk => nomatch hk⟩
  exact key events {} hstart

end AwaitedLoading

end Stepwise
