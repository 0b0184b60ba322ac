import Stepwise.Engine.Loading
/-!
# Loading once — what holds in every order of events

A load goes through its stages one way (`LoadStage.Next`), and `SharedLoading.moves_step` says once what an
event can do to the loads: nothing, put a new one behind them, or move one of them on. The invariant is
`Loading.Orderly`: every load but the last is forgotten. It is what keeps two loads from being on their
way at once, and what makes a success the end of all loading.
-/

namespace Stepwise

variable {ε : Type}

/-! ## Stages -/

namespace LoadStage

/-- Is the load still to end? -/
def isOpen : LoadStage ε → Bool
  | .created | .running => true
  | _ => false

def hasSucceeded : LoadStage ε → Bool
  | .ended (.ok _) | .told (.ok _) => true
  | _ => false

/-- Has the load failed, or was it called off? -/
def hasFailed : LoadStage ε → Bool
  | .ended (.error _) | .told (.error _) => true
  | _ => false

/-- The stage behind a stage. -/
inductive Next : LoadStage ε → LoadStage ε → Prop
  | begin : Next .created .running
  | finish (e : LoadEnd ε) : Next .running (.ended e)
  | cancel : Next .created (.ended (.error .cancelled))
  | tell (e : LoadEnd ε) : Next (.ended e) (.told e)

/-- What is forgotten has failed. -/
theorem hasFailed_of_isForgotten {s : LoadStage ε} (h : s.isForgotten = true) : s.hasFailed = true := by
  rcases s with _ | _ | e | ⟨_ | _⟩
  case told.error => rfl
  all_goals cases h

/-- What is open is not forgotten. -/
theorem not_isForgotten_of_isOpen {s : LoadStage ε} (h : s.isOpen = true) : s.isForgotten = false := by
  cases s with
  | created | running => rfl
  | ended | told => cases h

/-- Nor is a success. -/
theorem not_isForgotten_of_hasSucceeded {s : LoadStage ε} (h : s.hasSucceeded = true) :
    s.isForgotten = false := by
  rcases s with _ | _ | e | ⟨_ | _⟩
  case told.error => cases h
  all_goals rfl

/-- A stage with one behind it is not forgotten. -/
theorem Next.not_isForgotten {a b : LoadStage ε} (h : Next a b) : a.isForgotten = false := by
  cases h <;> rfl

/-- Nobody is told twice. -/
theorem Next.ne_told {a b : LoadStage ε} (h : Next a b) (e : LoadEnd ε) : a ≠ .told e := by
  cases h <;> exact fun h => nomatch h

/-- A success stays one, and it does not begin again. -/
theorem Next.success {a b : LoadStage ε} (h : Next a b) (ha : a.hasSucceeded = true) :
    b.hasSucceeded = true ∧ b.isOpen = false := by
  cases h with
  | begin | cancel | finish => cases ha
  | tell e =>
    cases e with
    | ok => exact ⟨rfl, rfl⟩
    | error => cases ha

end LoadStage

/-! ## One load after the other -/

namespace Loading

/-- Every load but the last is forgotten. -/
def Orderly (l : Loading ε) : Prop :=
  ∀ k s, k + 1 < l.loads.length → l.loads[k]? = some s → s.isForgotten = true

/-- A load that is not forgotten is the last. -/
theorem Orderly.eq_last {l : Loading ε} (h : l.Orderly) {k : Nat} {s : LoadStage ε}
    (hk : l.loads[k]? = some s) (hs : s.isForgotten = false) : k + 1 = l.loads.length := by
  have hlt : k < l.loads.length := (List.getElem?_eq_some_iff.1 hk).1
  rcases Nat.lt_or_ge (k + 1) l.loads.length with hless | hge
  · rw [h k s hless hk] at hs
    cases hs
  · omega

/-- So a load is needed only where all are forgotten. -/
theorem Orderly.forgotten_of_needsLoad {l : Loading ε} (h : l.Orderly) (hn : l.needsLoad = true)
    {k : Nat} {s : LoadStage ε} (hk : l.loads[k]? = some s) : s.isForgotten = true := by
  cases hs : s.isForgotten with
  | true => rfl
  | false =>
    have hlast := h.eq_last hk hs
    rw [needsLoad, List.getLast?_eq_getElem?, ← hlast, Nat.add_sub_cancel, hk] at hn
    exact hs.symm.trans hn

/-- **The loads that are created are at most one more than those that failed.** -/
theorem Orderly.length_le {l : Loading ε} (h : l.Orderly) :
    l.loads.length ≤ l.loads.countP LoadStage.hasFailed + 1 := by
  have hall : ∀ s ∈ l.loads.dropLast, s.hasFailed = true := by
    intro s hs
    obtain ⟨k, hk, rfl⟩ := List.getElem_of_mem hs
    rw [List.length_dropLast] at hk
    rw [List.getElem_dropLast]
    exact LoadStage.hasFailed_of_isForgotten (h k _ (by omega) (List.getElem?_eq_getElem (by omega)))
  have hcount : l.loads.dropLast.countP LoadStage.hasFailed = l.loads.length - 1 := by
    rw [List.countP_eq_length.2 hall, List.length_dropLast]
  have hle := List.Sublist.countP_le (List.dropLast_sublist l.loads) (p := LoadStage.hasFailed)
  omega

end Loading

/-! ## What an event can do -/

namespace Loading

/-- What an event makes of the loads: nothing new, a load behind forgotten ones, or a load in its next
stage. Only a load that begins is open afterwards, and only it is counted. -/
inductive Moves (l l' : Loading ε) : Prop
  | same : l'.loads = l.loads → l'.begun = l.begun → Moves l l'
  | create : l.needsLoad = true → l'.loads = l.loads ++ [.created] → l'.begun = l.begun → Moves l l'
  | next {k : Nat} {a b : LoadStage ε} : l.loads[k]? = some a → LoadStage.Next a b →
      l'.loads = l.loads.set k b → l'.begun = l.begun + (if b.isOpen then 1 else 0) → Moves l l'

theorem moves_join (l : Loading ε) : l.Moves l.join.2 := by
  rw [join]
  split
  case isTrue h => exact .create h rfl rfl
  case isFalse => exact .same rfl rfl

theorem moves_begin (l : Loading ε) (k : Nat) : l.Moves (l.begin k) := by
  rw [begin]
  split
  case h_1 h => exact .next h .begin rfl rfl
  case h_2 => exact .same rfl rfl

theorem moves_finish (l : Loading ε) (k : Nat) (e : LoadEnd ε) : l.Moves (l.finish k e) := by
  unfold finish
  split
  case h_1 h => exact .next h (.finish _) rfl rfl
  case h_2 h => exact .next h (.finish _) rfl rfl
  case h_3 => exact .same rfl rfl

theorem moves_cancel (l : Loading ε) (k : Nat) : l.Moves (l.cancel k) := by
  rw [cancel]
  split
  case h_1 h => exact .next h .cancel rfl rfl
  case h_2 h => exact .next h (.finish _) rfl rfl
  case h_3 => exact .same rfl rfl

theorem moves_overtake (l : Loading ε) (k : Nat) (handed : Option ε) : l.Moves (l.overtake k handed) := by
  rw [overtake]
  split
  case h_1 h => exact .next h (.finish _) rfl rfl
  case h_2 => exact .same rfl rfl

theorem moves_tell (l : Loading ε) (k : Nat) : l.Moves (l.tell k) := by
  rw [tell]
  split
  case h_1 h => exact .next h (.tell _) rfl rfl
  case h_2 => exact .same rfl rfl

variable {l l' : Loading ε}

/-- The order of the loads is kept. -/
theorem Orderly.moves (h : l.Orderly) (hm : l.Moves l') : l'.Orderly := by
  intro k s hlt hs
  cases hm with
  | same hl _ => exact h k s (hl ▸ hlt) (hl ▸ hs)
  | create hn hl _ =>
    rw [hl] at hlt hs
    rw [List.length_append, List.length_singleton] at hlt
    rw [List.getElem?_append_left (by omega)] at hs
    exact h.forgotten_of_needsLoad hn hs
  | next hk hab hl _ =>
    have hlast := h.eq_last hk hab.not_isForgotten
    rw [hl, List.length_set] at hlt
    rw [hl, List.getElem?_set_ne (by omega)] at hs
    exact h k s hlt hs

/-- A load that is still to begin, or to be created, was so before. -/
theorem Moves.of_fresh (hm : l.Moves l') {k : Nat} (hk : ∀ s, l'.loads[k]? = some s → s = .created) :
    ∀ s, l.loads[k]? = some s → s = .created := by
  intro s hs
  cases hm with
  | same hl _ => exact hk s (hl ▸ hs)
  | create _ hl _ =>
    refine hk s ?_
    rw [hl, List.getElem?_append_left (List.getElem?_eq_some_iff.1 hs).1, hs]
  | @next j a b ha hab hl _ =>
    by_cases hjk : j = k
    · subst hjk
      have hb := hk b (by rw [hl, List.getElem?_set_self (List.getElem?_eq_some_iff.1 hs).1])
      subst hb
      cases hab
    · exact hk s (by rw [hl, List.getElem?_set_ne hjk, hs])

/-- A load of whose end all know stays as it is. -/
theorem Moves.told (hm : l.Moves l') {k : Nat} {e : LoadEnd ε} (hk : l.loads[k]? = some (.told e)) :
    l'.loads[k]? = some (.told e) := by
  cases hm with
  | same hl _ => rw [hl, hk]
  | create _ hl _ =>
    rw [hl, List.getElem?_append_left (List.getElem?_eq_some_iff.1 hk).1, hk]
  | @next j a b ha hab hl _ =>
    have hne : j ≠ k := by
      rintro rfl
      rw [hk, Option.some.injEq] at ha
      exact hab.ne_told e ha.symm
    rw [hl, List.getElem?_set_ne hne, hk]

/-- **A success is the end of all loading**: it stays, no load is created any more, and none begins. -/
theorem Orderly.success (h : l.Orderly) (hm : l.Moves l') {k : Nat} {s : LoadStage ε}
    (hk : l.loads[k]? = some s) (hs : s.hasSucceeded = true) :
    (∃ s', l'.loads[k]? = some s' ∧ s'.hasSucceeded = true) ∧
      l'.loads.length = l.loads.length ∧ l'.begun = l.begun := by
  have hnot := LoadStage.not_isForgotten_of_hasSucceeded hs
  cases hm with
  | same hl hb => exact ⟨⟨s, hl ▸ hk, hs⟩, by rw [hl], hb⟩
  | create hn _ _ =>
    rw [h.forgotten_of_needsLoad hn hk] at hnot
    cases hnot
  | @next j a b ha hab hl hb =>
    have hj := h.eq_last ha hab.not_isForgotten
    have hk' := h.eq_last hk hnot
    obtain rfl : j = k := by omega
    obtain rfl : a = s := Option.some.inj (ha.symm.trans hk)
    obtain ⟨hsucc, hopen⟩ := hab.success hs
    have hlt : j < l.loads.length := by omega
    rw [hopen] at hb
    exact ⟨⟨b, by rw [hl, List.getElem?_set_self hlt], hsucc⟩, by rw [hl, List.length_set], hb⟩

end Loading

namespace SharedLoading

/-- **Every event moves the loads in one of the three ways.** -/
theorem moves_step (s : SharedLoading ε) (e : LoadEvent ε) : s.loading.Moves (s.step e).loading := by
  cases e with
  | enter c =>
    simp only [step]
    split <;> exact .same rfl rfl
  | join c =>
    simp only [step]
    split
    · exact s.loading.moves_join
    · exact .same rfl rfl
  | wake c =>
    simp only [step]
    split
    · split <;> exact .same rfl rfl
    · exact .same rfl rfl
  | leave c =>
    simp only [step]
    split <;> exact .same rfl rfl
  | begin k => exact s.loading.moves_begin k
  | finish k e => exact s.loading.moves_finish k e
  | cancel k => exact s.loading.moves_cancel k
  | overtake k handed => exact s.loading.moves_overtake k handed
  | tell k => exact s.loading.moves_tell k

/-! ## Runs -/

/-- The events from a state on. -/
def after (s : SharedLoading ε) (events : List (LoadEvent ε)) : SharedLoading ε := events.foldl step s

theorem run_append (events more : List (LoadEvent ε)) : run (events ++ more) = (run events).after more :=
  List.foldl_append

theorem run_concat (events : List (LoadEvent ε)) (e : LoadEvent ε) :
    run (events ++ [e]) = (run events).step e := run_append events [e]

/-- What holds at the start and is kept by every event holds after every run. -/
theorem run_induction {P : List (LoadEvent ε) → SharedLoading ε → Prop} (start : P [] {})
    (step : ∀ events e, P events (run events) → P (events ++ [e]) ((run events).step e))
    (events : List (LoadEvent ε)) : P events (run events) := by
  have key : ∀ n, P (events.take n) (run (events.take n)) := by
    intro n
    induction n with
    | zero => rw [List.take_zero]; exact start
    | succ n ih =>
      rcases Nat.lt_or_ge n events.length with hn | hn
      · rw [← List.take_append_getElem hn, run_concat]
        exact step _ _ ih
      · rw [List.take_of_length_le (by omega)]
        rwa [List.take_of_length_le hn] at ih
  have h := key events.length
  rwa [List.take_length] at h

/-- **The order of the loads holds after every run.** -/
theorem orderly_run (events : List (LoadEvent ε)) : (run events).loading.Orderly :=
  run_induction (P := fun _ s => s.loading.Orderly) (fun _ _ h => absurd h (Nat.not_lt_zero _))
    (fun events e h => h.moves ((run events).moves_step e)) events

/-- Nor does anything load after a success. -/
theorem success_after {s : SharedLoading ε} (h : s.loading.Orderly) {k : Nat} {x : LoadStage ε}
    (hk : s.loading.loads[k]? = some x) (hx : x.hasSucceeded = true) (events : List (LoadEvent ε)) :
    (s.after events).loading.loads.length = s.loading.loads.length ∧
      (s.after events).loading.begun = s.loading.begun := by
  induction events generalizing s x with
  | nil => exact ⟨rfl, rfl⟩
  | cons e rest ih =>
    obtain ⟨⟨x', hk', hx'⟩, hlen, hbegun⟩ := h.success (s.moves_step e) hk hx
    obtain ⟨hlen', hbegun'⟩ := ih (h.moves (s.moves_step e)) hk' hx'
    exact ⟨hlen'.trans hlen, hbegun'.trans hbegun⟩

/-! ## Beginnings -/

/-- The load that begins to run with an event, if one does. -/
def starts? (s : SharedLoading ε) : LoadEvent ε → Option Nat
  | .begin k => if s.loading.isCreated k then some k else none
  | _ => none

/-- The loads that begin to run in the course of some events, in order. -/
def beginnings (s : SharedLoading ε) : List (LoadEvent ε) → List Nat
  | [] => []
  | e :: rest => (s.starts? e).toList ++ (s.step e).beginnings rest

theorem isCreated_iff {l : Loading ε} {k : Nat} : l.isCreated k = true ↔ l.loads[k]? = some .created := by
  unfold Loading.isCreated
  split
  case h_1 h => exact ⟨fun _ => h, fun _ => rfl⟩
  case h_2 h => exact ⟨(nomatch ·), fun hk => absurd hk h⟩

theorem begun_begin (l : Loading ε) (k : Nat) :
    (l.begin k).begun = l.begun + (if l.isCreated k then 1 else 0) := by
  unfold Loading.begin Loading.isCreated
  split <;> rfl

/-- An event counts the load that begins with it, and no other. -/
theorem begun_step (s : SharedLoading ε) (e : LoadEvent ε) :
    (s.step e).loading.begun = s.loading.begun + (s.starts? e).toList.length := by
  cases e with
  | enter c =>
    simp only [step]
    split <;> rfl
  | join c =>
    simp only [step]
    split
    · change s.loading.join.2.begun = _
      unfold Loading.join
      split <;> rfl
    · rfl
  | wake c =>
    simp only [step]
    split
    · split <;> rfl
    · rfl
  | leave c =>
    simp only [step]
    split <;> rfl
  | begin k =>
    refine (begun_begin s.loading k).trans ?_
    simp only [starts?]
    split <;> rfl
  | finish k e =>
    change (s.loading.finish k e).begun = _
    unfold Loading.finish
    split <;> rfl
  | cancel k =>
    change (s.loading.cancel k).begun = _
    unfold Loading.cancel
    split <;> rfl
  | overtake k handed =>
    change (s.loading.overtake k handed).begun = _
    unfold Loading.overtake
    split <;> rfl
  | tell k =>
    change (s.loading.tell k).begun = _
    unfold Loading.tell
    split <;> rfl

theorem begun_after (s : SharedLoading ε) (events : List (LoadEvent ε)) :
    (s.after events).loading.begun = s.loading.begun + (s.beginnings events).length := by
  induction events generalizing s with
  | nil => rfl
  | cons e rest ih =>
    rw [beginnings, List.length_append, ← Nat.add_assoc, ← begun_step]
    exact ih (s.step e)

/-- What begins later has not begun yet. -/
theorem eq_created_of_mem_beginnings {s : SharedLoading ε} {events : List (LoadEvent ε)} {k : Nat}
    (hk : k ∈ s.beginnings events) : ∀ x, s.loading.loads[k]? = some x → x = .created := by
  induction events generalizing s with
  | nil => cases hk
  | cons e rest ih =>
    rw [beginnings, List.mem_append] at hk
    rcases hk with hnow | hlater
    · cases e with
      | begin j =>
        simp only [starts?] at hnow
        split at hnow
        case isTrue h =>
          obtain rfl : k = j := List.mem_singleton.1 hnow
          intro x hx
          rw [isCreated_iff.1 h, Option.some.injEq] at hx
          exact hx.symm
        case isFalse => cases hnow
      | _ => cases hnow
    · exact (s.moves_step e).of_fresh (ih hlater)

/-- **No load begins twice.** -/
theorem nodup_beginnings (s : SharedLoading ε) (events : List (LoadEvent ε)) :
    (s.beginnings events).Nodup := by
  induction events generalizing s with
  | nil => exact List.nodup_nil
  | cons e rest ih =>
    rw [beginnings]
    cases hstart : s.starts? e with
    | none => exact ih _
    | some k =>
      refine List.nodup_cons.2 ⟨fun hmem => ?_, ih _⟩
      cases e with
      | begin j =>
        simp only [starts?] at hstart
        split at hstart
        case isTrue h =>
          obtain rfl : j = k := Option.some.inj hstart
          have hcreated := isCreated_iff.1 h
          have hrunning : (s.step (.begin j)).loading.loads[j]? = some .running := by
            change (s.loading.begin j).loads[j]? = _
            unfold Loading.begin
            rw [hcreated]
            exact List.getElem?_set_self (List.getElem?_eq_some_iff.1 hcreated).1
          cases eq_created_of_mem_beginnings hmem _ hrunning
        case isFalse => cases hstart
      | _ => cases hstart

/-! ## Callers -/

/-- The caller came to wait for the load with this number. -/
def Joined (events : List (LoadEvent ε)) (c k : Nat) : Prop :=
  ∃ before later, events = before ++ .join c :: later ∧ (run before).callers c = .entered ∧
    (run before).loading.join.1 = k

theorem Joined.mono {events : List (LoadEvent ε)} {c k : Nat} (h : Joined events c k) (e : LoadEvent ε) :
    Joined (events ++ [e]) c k := by
  obtain ⟨before, later, rfl, hc, hk⟩ := h
  exact ⟨before, later ++ [e], by rw [List.append_assoc, List.cons_append], hc, hk⟩

theorem known?_eq_some {l : Loading ε} {k : Nat} {e : LoadEnd ε} (h : l.known? k = some e) :
    l.loads[k]? = some (.told e) := by
  unfold Loading.known? at h
  split at h
  case h_1 hk => rw [hk, Option.some.inj h]
  case h_2 => cases h

/-- What an event can do to a caller, from where it stands to where it stands then. -/
inductive CallerMoves (s : SharedLoading ε) (e : LoadEvent ε) (c : Nat) : Caller → Caller → Prop
  | stay (x : Caller) : CallerMoves s e c x x
  | arrive : s.loading.environment.isSome = true → CallerMoves s e c .away .returned
  | enter : s.loading.environment.isSome = false → CallerMoves s e c .away .entered
  | join : e = .join c → CallerMoves s e c .entered (.waiting s.loading.join.1)
  | succeed {k : Nat} {x : Option ε} : s.loading.loads[k]? = some (.told (.ok x)) →
      CallerMoves s e c (.waiting k) .returned
  | refuse {k : Nat} {fault : LoadFault} : s.loading.loads[k]? = some (.told (.error fault)) →
      CallerMoves s e c (.waiting k) (.refused k fault)
  | leave {k : Nat} : CallerMoves s e c (.waiting k) .gone

/-- A move of one caller is a move of that caller, and the others stay. -/
theorem callerMoves_place {s : SharedLoading ε} {l : Loading ε} {e : LoadEvent ε} {c d : Nat} {y : Caller}
    (h : CallerMoves s e d (s.callers d) y) :
    CallerMoves s e c (s.callers c) (({ s with loading := l }.place d y).callers c) := by
  simp only [place]
  split
  case isTrue hcd => exact hcd ▸ h
  case isFalse => exact .stay _

/-- **Every event moves every caller in one of these ways.** -/
theorem callerMoves_step (s : SharedLoading ε) (e : LoadEvent ε) (c : Nat) :
    CallerMoves s e c (s.callers c) ((s.step e).callers c) := by
  cases e with
  | enter d =>
    simp only [step]
    split
    case h_1 hd he => exact callerMoves_place (hd ▸ .arrive (by rw [he]; rfl))
    case h_2 hd he => exact callerMoves_place (hd ▸ .enter (by rw [he]; rfl))
    case h_3 => exact .stay _
  | join d =>
    simp only [step]
    split
    case h_1 hd => exact callerMoves_place (hd ▸ .join rfl)
    case h_2 => exact .stay _
  | wake d =>
    simp only [step]
    split
    case h_1 k hd =>
      split
      case h_1 hk => exact callerMoves_place (hd ▸ .succeed (known?_eq_some hk))
      case h_2 hk => exact callerMoves_place (hd ▸ .refuse (known?_eq_some hk))
      case h_3 => exact .stay _
    case h_2 => exact .stay _
  | leave d =>
    simp only [step]
    split
    case h_1 hd => exact callerMoves_place (hd ▸ .leave)
    case h_2 => exact .stay _
  | begin | finish | cancel | overtake | tell => exact .stay _

/-- **Whoever waits has joined what it waits for.** -/
theorem joined_of_waiting (events : List (LoadEvent ε)) :
    ∀ c k, (run events).callers c = .waiting k → Joined events c k := by
  refine run_induction (P := fun events s => ∀ c k, s.callers c = .waiting k → Joined events c k)
    (fun c k h => nomatch h) (fun events e ih c k h => ?_) events
  have hmoves := callerMoves_step (run events) e c
  rw [h] at hmoves
  generalize hx : (run events).callers c = x at hmoves
  cases hmoves with
  | stay => exact (ih c k hx).mono e
  | join he => exact ⟨events, [], he ▸ rfl, hx, rfl⟩

/-- **Whoever is refused has joined a load that failed**, and has its fault. -/
theorem joined_of_refused (events : List (LoadEvent ε)) :
    ∀ c k fault, (run events).callers c = .refused k fault →
      Joined events c k ∧ (run events).loading.loads[k]? = some (.told (.error fault)) := by
  refine run_induction (P := fun events s => ∀ c k fault, s.callers c = .refused k fault →
    Joined events c k ∧ s.loading.loads[k]? = some (.told (.error fault)))
    (fun c k fault h => nomatch h) (fun events e ih c k fault h => ?_) events
  have hloads := (run events).moves_step e
  have hmoves := callerMoves_step (run events) e c
  rw [h] at hmoves
  generalize hx : (run events).callers c = x at hmoves
  cases hmoves with
  | stay =>
    obtain ⟨hj, htold⟩ := ih c k fault hx
    exact ⟨hj.mono e, hloads.told htold⟩
  | refuse htold => exact ⟨(joined_of_waiting events c k hx).mono e, hloads.told htold⟩

/-- Whoever enters when the environment is there returns, and nothing else happens. -/
theorem step_enter_of_environment {s : SharedLoading ε} {c : Nat} (hc : s.callers c = .away)
    (he : s.loading.environment.isSome = true) : s.step (.enter c) = s.place c .returned := by
  obtain ⟨x, hx⟩ := Option.isSome_iff_exists.1 he
  simp only [step, hc, hx]

/-- **What holds of a shared loading in every order of events**: of callers that enter, join, learn of
the end and leave, and of loads that begin, end, are called off and are told of.

At most one load is open. After a success no load is created and none begins. The loads created are at
most one more than those that failed or were called off, and the count is that of the loads that began,
each of them once. A caller that enters when the environment is there returns at once and loads nothing,
and one that is refused has joined a load that ended with its fault. -/
theorem one_load_at_a_time (events : List (LoadEvent ε)) :
    (∀ (j k : Nat) (a b : LoadStage ε), (run events).loading.loads[j]? = some a → (run events).loading.loads[k]? = some b →
      a.isOpen = true → b.isOpen = true → j = k) ∧
    (∀ (k : Nat) (a : LoadStage ε) (more : List (LoadEvent ε)), (run events).loading.loads[k]? = some a → a.hasSucceeded = true →
      (run (events ++ more)).loading.loads.length = (run events).loading.loads.length ∧
      (run (events ++ more)).loading.begun = (run events).loading.begun) ∧
    (run events).loading.loads.length ≤ (run events).loading.loads.countP LoadStage.hasFailed + 1 ∧
    (run events).loading.begun = (beginnings {} events).length ∧ (beginnings {} events).Nodup ∧
    (∀ c, (run events).callers c = .away → (run events).loading.environment.isSome = true →
      run (events ++ [.enter c]) = (run events).place c .returned) ∧
    (∀ c k fault, (run events).callers c = .refused k fault →
      Joined events c k ∧ (run events).loading.loads[k]? = some (.told (.error fault))) := by
  have horder := orderly_run events
  refine ⟨fun j k a b hj hk ha hb => ?_, fun k a more hk ha => ?_, horder.length_le, ?_,
    nodup_beginnings _ _, fun c hc he => ?_, joined_of_refused events⟩
  · have hj' := horder.eq_last hj (LoadStage.not_isForgotten_of_isOpen ha)
    have hk' := horder.eq_last hk (LoadStage.not_isForgotten_of_isOpen hb)
    omega
  · rw [run_append]
    exact success_after horder hk ha more
  · exact (begun_after {} events).trans (Nat.zero_add _)
  · rw [run_concat]
    exact step_enter_of_environment hc he

end SharedLoading

end Stepwise
