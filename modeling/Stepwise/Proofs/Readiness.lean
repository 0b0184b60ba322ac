import Stepwise.Proofs.Toolchains
/-!
# What callers find who were let go

A success is remembered in two places: the environment is in place, and the load that handed it over counts as
a success. Callers are let go by either. `SharedLoading.reliable_run` says that the two agree in every order of
events as long as the loader hands something over, and `reliable_iff` that this is what it takes: a loader that
may hand over nothing is remembered as a success without an environment, and nobody loads again.
-/

namespace Stepwise

variable {ε : Type}

namespace SharedLoading

/-! ## Loaders -/

/-- The event is possible with a loader whose attempts end so. The load that runs is the attempt that began
last, and it ends as that attempt does; it may be called off before. -/
def Allows (loader : Nat → LoadEnd ε) (s : SharedLoading ε) : LoadEvent ε → Prop
  | .finish k e => s.loading.loads[k]? = some .running → e = loader (s.loading.begun - 1)
  | .overtake k handed => s.loading.loads[k]? = some .running → loader (s.loading.begun - 1) = .ok handed
  | _ => True

/-- Everything that happens from a state on is possible with the loader. -/
def Obeys (loader : Nat → LoadEnd ε) (s : SharedLoading ε) : List (LoadEvent ε) → Prop
  | [] => True
  | e :: rest => s.Allows loader e ∧ (s.step e).Obeys loader rest

theorem obeys_append {loader : Nat → LoadEnd ε} {s : SharedLoading ε} {events more : List (LoadEvent ε)} :
    s.Obeys loader (events ++ more) ↔ s.Obeys loader events ∧ (s.after events).Obeys loader more := by
  induction events generalizing s with
  | nil => exact ⟨fun h => ⟨trivial, h⟩, fun h => h.2⟩
  | cons e rest ih =>
    rw [List.cons_append, Obeys, Obeys, ih, and_assoc]
    exact Iff.rfl

/-! ## What an event does to the environment -/

/-- The event hands something over, or nothing, and so puts it in place. -/
def Hands (s : SharedLoading ε) (handed : Option ε) (e : LoadEvent ε) : Prop :=
  ∃ k, s.loading.loads[k]? = some .running ∧ (e = .finish k (.ok handed) ∨ e = .overtake k handed)

theorem environment_join (l : Loading ε) : l.join.2.environment = l.environment := by
  unfold Loading.join
  split <;> rfl

/-- **The environment is what was handed over last.** -/
theorem environment_step (s : SharedLoading ε) (e : LoadEvent ε) :
    (s.step e).loading.environment = s.loading.environment ∨ s.Hands (s.step e).loading.environment e := by
  cases e with
  | enter c =>
    left
    simp only [step]
    split <;> rfl
  | join c =>
    left
    simp only [step]
    split
    · exact environment_join s.loading
    · rfl
  | wake c =>
    left
    simp only [step]
    split
    · split <;> rfl
    · rfl
  | leave c =>
    left
    simp only [step]
    split <;> rfl
  | begin k =>
    left
    simp only [step, Loading.begin]
    split <;> rfl
  | finish k x =>
    simp only [step, Loading.finish]
    split
    case h_1 hk => exact .inr ⟨k, hk, .inl rfl⟩
    case h_2 => exact .inl rfl
    case h_3 => exact .inl rfl
  | cancel k =>
    left
    simp only [step, Loading.cancel]
    split <;> rfl
  | overtake k handed =>
    simp only [step, Loading.overtake]
    split
    case h_1 hk => exact .inr ⟨k, hk, .inr rfl⟩
    case h_2 => exact .inl rfl
  | tell k =>
    left
    simp only [step, Loading.tell]
    split <;> rfl

/-- The load counts as a success. -/
def Succeeded (l : Loading ε) (k : Nat) : Prop := ∃ x, l.loads[k]? = some x ∧ x.hasSucceeded = true

/-- A stage that is no success makes none. -/
theorem Succeeded.of_put {l : Loading ε} {j k : Nat} {a : LoadStage ε} (h : Succeeded (l.put k a) j)
    (ha : a.hasSucceeded = false) : Succeeded l j := by
  obtain ⟨x, hj, hx⟩ := h
  by_cases hjk : k = j
  · subst hjk
    have hlt := (List.getElem?_eq_some_iff.1 hj).1
    rw [Loading.put, List.length_set] at hlt
    rw [Loading.put, List.getElem?_set_self hlt, Option.some.injEq] at hj
    rw [← hj, ha] at hx
    cases hx
  · rw [Loading.put, List.getElem?_set_ne hjk] at hj
    exact ⟨x, hj, hx⟩

theorem Succeeded.of_join {l : Loading ε} {j : Nat} (h : Succeeded l.join.2 j) : Succeeded l j := by
  unfold Loading.join at h
  split at h
  case isFalse => exact h
  obtain ⟨x, hj, hx⟩ := h
  rcases Nat.lt_or_ge j l.loads.length with hlt | hge
  · exact ⟨x, by rwa [List.getElem?_append_left hlt] at hj, hx⟩
  · -- the new load has not begun
    rw [List.getElem?_append_right hge, List.getElem?_singleton] at hj
    split at hj
    · cases hj
      cases hx
    · cases hj

/-- To tell of a success makes none either. -/
theorem Succeeded.of_tell {l : Loading ε} {j k : Nat} (h : Succeeded (l.tell k) j) : Succeeded l j := by
  unfold Loading.tell at h
  split at h
  case h_2 => exact h
  case h_1 e hk =>
    cases e with
    | error fault => exact h.of_put rfl
    | ok handed =>
      by_cases hjk : j = k
      · exact ⟨_, hjk ▸ hk, rfl⟩
      · obtain ⟨x, hj, hx⟩ := h
        rw [Loading.put, List.getElem?_set_ne (Ne.symm hjk)] at hj
        exact ⟨x, hj, hx⟩

/-- **A load becomes a success only where it hands something over, or nothing.** -/
theorem succeeded_step {s : SharedLoading ε} {e : LoadEvent ε} {j : Nat} (h : Succeeded (s.step e).loading j) :
    Succeeded s.loading j ∨ s.Hands (s.step e).loading.environment e := by
  cases e with
  | enter c | leave c =>
    left
    simp only [step] at h
    split at h <;> exact h
  | join c =>
    left
    simp only [step] at h
    split at h
    · exact Succeeded.of_join h
    · exact h
  | wake c =>
    left
    simp only [step] at h
    split at h
    · split at h <;> exact h
    · exact h
  | begin k =>
    left
    simp only [step, Loading.begin] at h
    split at h
    · exact Succeeded.of_put (k := k) (a := .running) h rfl
    · exact h
  | finish k r =>
    change Succeeded (s.loading.finish k r) j at h
    cases r with
    | ok handed =>
      unfold Loading.finish at h
      split at h
      case h_1 hk heq =>
        cases heq
        exact .inr ⟨k, hk, .inl (by simp only [step, Loading.finish, hk])⟩
      case h_2 heq => cases heq
      case h_3 => exact .inl h
    | error fault =>
      left
      unfold Loading.finish at h
      split at h
      case h_1 heq => cases heq
      case h_2 => exact h.of_put rfl
      case h_3 => exact h
  | cancel k =>
    left
    simp only [step, Loading.cancel] at h
    split at h
    case h_3 => exact h
    all_goals exact Succeeded.of_put h rfl
  | overtake k handed =>
    left
    simp only [step, Loading.overtake] at h
    split at h
    · exact Succeeded.of_put (k := k) (a := .ended (.error .cancelled)) h rfl
    · exact h
  | tell k => exact .inl (Succeeded.of_tell h)

/-! ## Loaders that hand something over -/

variable {loader : Nat → LoadEnd ε} {s : SharedLoading ε} {e : LoadEvent ε}

/-- A loader that never hands over nothing hands over something. -/
theorem Hands.isSome {handed : Option ε} (h : s.Hands handed e) (ha : s.Allows loader e)
    (hl : ∀ n, loader n ≠ .ok none) : handed.isSome = true := by
  obtain ⟨k, hk, rfl | rfl⟩ := h
  · have hend : .ok handed = loader (s.loading.begun - 1) := ha hk
    cases handed with
    | none => exact absurd hend.symm (hl _)
    | some x => rfl
  · have hend : loader (s.loading.begun - 1) = .ok handed := ha hk
    cases handed with
    | none => exact absurd hend (hl _)
    | some x => rfl

/-- So an environment that is there stays there, though another one may take its place. -/
theorem isSome_step (hs : s.loading.environment.isSome = true) (ha : s.Allows loader e)
    (hl : ∀ n, loader n ≠ .ok none) : (s.step e).loading.environment.isSome = true := by
  rcases s.environment_step e with heq | hhands
  · rw [heq, hs]
  · exact hhands.isSome ha hl

theorem isSome_after {events : List (LoadEvent ε)} (hs : s.loading.environment.isSome = true)
    (h : s.Obeys loader events) (hl : ∀ n, loader n ≠ .ok none) :
    (s.after events).loading.environment.isSome = true := by
  induction events generalizing s with
  | nil => exact hs
  | cons e rest ih => exact ih (isSome_step hs h.1 hl) h.2

/-- Whatever counts as a success has left an environment: a load, and the way of a caller who was let go. -/
structure Agrees (s : SharedLoading ε) : Prop where
  succeeded (k : Nat) : Succeeded s.loading k → s.loading.environment.isSome = true
  returned (c : Nat) : s.callers c = .returned → s.loading.environment.isSome = true

theorem Agrees.step (h : s.Agrees) (ha : s.Allows loader e) (hl : ∀ n, loader n ≠ .ok none) :
    (s.step e).Agrees where
  succeeded k hk := by
    rcases succeeded_step hk with hbefore | hhands
    · exact isSome_step (h.succeeded k hbefore) ha hl
    · exact hhands.isSome ha hl
  returned c hc := by
    refine isSome_step ?_ ha hl
    have hmoves := callerMoves_step s e c
    rw [hc] at hmoves
    generalize hx : s.callers c = x at hmoves
    cases hmoves with
    | stay => exact h.returned c hx
    | arrive hthere => exact hthere
    | succeed hk => exact h.succeeded _ ⟨_, hk, rfl⟩

theorem Agrees.after {events : List (LoadEvent ε)} (h : s.Agrees) (ho : s.Obeys loader events)
    (hl : ∀ n, loader n ≠ .ok none) : (s.after events).Agrees := by
  induction events generalizing s with
  | nil => exact h
  | cons e rest ih => exact ih (h.step ho.1 hl) ho.2

/-- Whoever comes where a load is needed starts one and waits for it. -/
theorem after_arrival {c : Nat} (hc : s.callers c = .away) (hnone : s.loading.environment = none)
    (hneeds : s.loading.needsLoad = true) :
    s.after [.enter c, .join c] =
      ({ s with loading := { s.loading with loads := s.loading.loads ++ [.created] } } : SharedLoading ε).place c
        (.waiting s.loading.loads.length) := by
  have henter : s.step (.enter c) = s.place c .entered := by simp only [SharedLoading.step, hc, hnone]
  have hentered : (s.place c .entered).callers c = .entered := if_pos rfl
  have hjoin : (s.place c .entered).loading.join =
      (s.loading.loads.length, { s.loading with loads := s.loading.loads ++ [.created] }) := if_pos hneeds
  have hafter : s.after [.enter c, .join c] = (s.step (.enter c)).step (.join c) := rfl
  rw [hafter, henter]
  simp only [SharedLoading.step, hentered, hjoin]
  simp only [place, mk.injEq, true_and]
  funext d
  by_cases hd : d = c
  · rw [if_pos hd, if_pos hd]
  · rw [if_neg hd, if_neg hd, if_neg hd]

/-- Where no load is on its way and there is no environment, whoever comes starts another load and waits for
it. -/
def Retries (s : SharedLoading ε) : Prop :=
  s.loading.environment = none → (∀ x ∈ s.loading.loads, ∃ e, x = .told e) → ∀ c, s.callers c = .away →
    (s.after [.enter c, .join c]).loading.loads = s.loading.loads ++ [.created] ∧
    (s.after [.enter c, .join c]).callers c = .waiting s.loading.loads.length

/-- **No load is held to be a success that is none**: where none is on its way, a load is needed. -/
theorem Agrees.needsLoad (h : s.Agrees) (hnone : s.loading.environment = none)
    (hall : ∀ x ∈ s.loading.loads, ∃ e, x = .told e) : s.loading.needsLoad = true := by
  unfold Loading.needsLoad
  split
  case h_1 => rfl
  case h_2 x hlast =>
    obtain ⟨e, rfl⟩ := hall x (List.mem_of_getLast? hlast)
    cases e with
    | error fault => rfl
    | ok handed =>
      obtain ⟨k, hk⟩ := List.mem_iff_getElem?.1 (List.mem_of_getLast? hlast)
      have hsome := h.succeeded k ⟨_, hk, rfl⟩
      rw [hnone] at hsome
      cases hsome

/-- So the next caller loads again. -/
theorem Agrees.retries (h : s.Agrees) : s.Retries := by
  intro hnone hall c hc
  rw [after_arrival hc hnone (h.needsLoad hnone hall)]
  exact ⟨rfl, if_pos rfl⟩

/-! ## A loader that hands over nothing -/

/-- A caller starts a load, which begins and is called off. -/
def calledOff (k : Nat) : List (LoadEvent ε) := [.enter k, .join k] ++ [.begin k, .cancel k, .tell k]

/-- Where things stand when so many loads were called off. -/
def tried (n : Nat) : SharedLoading ε where
  loading := { loads := List.replicate n (.told (.error .cancelled)), begun := n }
  callers c := if c < n then .waiting c else .away

/-- Where things stand when the next caller has started a load. -/
def trying (n : Nat) (x : LoadStage ε) : SharedLoading ε where
  loading := { loads := List.replicate n (.told (.error .cancelled)) ++ [x], begun := n }
  callers c := if c < n + 1 then .waiting c else .away

theorem tried_arrival (n : Nat) : (tried n : SharedLoading ε).after [.enter n, .join n] = trying n .created := by
  have hneeds : (tried n : SharedLoading ε).loading.needsLoad = true := by
    cases n with
    | zero => rfl
    | succ n => simp [tried, Loading.needsLoad, List.replicate_succ', LoadStage.isForgotten]
  rw [after_arrival (if_neg (Nat.lt_irrefl n)) rfl hneeds, trying, tried, place]
  simp only [List.length_replicate, mk.injEq, true_and]
  funext c
  rcases Nat.lt_trichotomy c n with h | h | h
  · rw [if_neg (Nat.ne_of_lt h), if_pos h, if_pos (Nat.lt_succ_of_lt h)]
  · rw [if_pos h, if_pos (by omega), h]
  · rw [if_neg (by omega), if_neg (by omega), if_neg (by omega)]

theorem tried_calledOff (n : Nat) : (tried n : SharedLoading ε).after (calledOff n) = tried (n + 1) := by
  rw [calledOff, after, List.foldl_append]
  change ((tried n).after [.enter n, .join n]).after _ = _
  rw [tried_arrival]
  simp only [after, List.foldl_cons, List.foldl_nil, step, trying, tried, Loading.begin, Loading.cancel, Loading.tell,
    Loading.put]
  simp [List.replicate_succ']

/-- So many loads are started and called off, one after the other. -/
def attempts (n : Nat) : List (LoadEvent ε) := (List.range n).flatMap calledOff

theorem attempts_succ (n : Nat) : (attempts (n + 1) : List (LoadEvent ε)) = attempts n ++ calledOff n := by
  rw [attempts, attempts, List.range_succ, List.flatMap_append, List.flatMap_singleton]

theorem run_attempts (n : Nat) : (run (attempts n) : SharedLoading ε) = tried n := by
  induction n with
  | zero => rfl
  | succ n ih => rw [attempts_succ, run_append, ih, tried_calledOff]

/-- Loads can be called off whatever the loader. -/
theorem obeys_attempts (loader : Nat → LoadEnd ε) (n : Nat) : Obeys loader {} (attempts n) := by
  induction n with
  | zero => trivial
  | succ n ih =>
    rw [attempts_succ, obeys_append]
    exact ⟨ih, trivial, trivial, trivial, trivial, trivial, trivial⟩

/-- A caller waits for the load that it has started until it learns that there is nothing. -/
def emptyHanded (n : Nat) : List (LoadEvent ε) :=
  [.enter n, .join n] ++ [.begin n, .finish n (.ok none), .tell n, .wake n]

/-- **A caller of a load that hands over nothing is let go**, and there is no environment. -/
theorem run_emptyHanded (n : Nat) :
    (run (attempts n ++ emptyHanded n) : SharedLoading ε).callers n = .returned ∧
    (run (attempts n ++ emptyHanded n) : SharedLoading ε).loading.environment = none := by
  have hafter : (run (attempts n ++ emptyHanded n) : SharedLoading ε) =
      (trying n .created).after [.begin n, .finish n (.ok none), .tell n, .wake n] := by
    rw [run_append, run_attempts, emptyHanded, ← tried_arrival]
    exact List.foldl_append
  rw [hafter]
  simp [after, step, trying, Loading.begin, Loading.finish, Loading.tell, Loading.put, Loading.known?, place]

/-- The load that it has started is that attempt of the loader. -/
theorem obeys_emptyHanded {loader : Nat → LoadEnd ε} {n : Nat} (h : loader n = .ok none) :
    Obeys loader {} (attempts n ++ emptyHanded n) := by
  rw [obeys_append]
  refine ⟨obeys_attempts loader n, ?_⟩
  change Obeys loader (run (attempts n)) _
  rw [run_attempts, emptyHanded, obeys_append, tried_arrival]
  refine ⟨⟨trivial, trivial, trivial⟩, trivial, ?_, trivial, trivial, trivial⟩
  intro _
  have hbegun : ((trying n .created : SharedLoading ε).step (.begin n)).loading.begun = n + 1 := by
    simp [step, trying, Loading.begin]
  rw [hbegun, Nat.add_sub_cancel, h]

end SharedLoading

/-! ## Reading the environment -/

/-- A toolchain with these loads hands its environment to whoever reads it. -/
def Loading.IsReadable (l : Loading Environment) : Prop :=
  ∀ (w : World) (a : Addr) (t : Toolchain), w.store[a]? = some (.toolchain t) → t.loading = l →
    ∃ x, (Toolchain.environment a).act w = .ok x w

theorem Toolchain.environment_act {w : World} {a : Addr} {t : Toolchain} (h : w.store[a]? = some (.toolchain t)) :
    (environment a).act w = match t.loading.environment with
      | some x => .ok x w
      | none => (Run.raise Classes.toolchainError "Toolchain has not been initialized").act w := by
  rw [environment, Run.bind_act, fetch_act h]
  dsimp only
  cases t.loading.environment <;> rfl

/-- **Reading succeeds exactly when the environment is there.** -/
theorem Loading.isReadable_iff {l : Loading Environment} : l.IsReadable ↔ l.environment.isSome = true := by
  constructor
  · intro h
    obtain ⟨x, hx⟩ := h { store := #[.toolchain { settings := {}, loading := l }] } 0 _ rfl rfl
    rw [Toolchain.environment_act rfl] at hx
    cases he : l.environment with
    | some y => rfl
    | none =>
      simp only [he] at hx
      cases hx
  · intro h w a t ht hl
    obtain ⟨x, hx⟩ := Option.isSome_iff_exists.1 h
    refine ⟨x, ?_⟩
    rw [Toolchain.environment_act ht, hl, hx]

namespace SharedLoading

/-- **Whoever was let go can read the environment from then on, exactly when the loader never hands over
nothing.** With such a loader, in every order of events: where a caller has returned the environment can be read,
then and after whatever else happens; no load counts as a success that has left no environment; and where none is
on its way and there is no environment, the next caller starts another load. With a loader one of whose attempts
may hand over nothing, there is an order of events after which one of these fails. -/
theorem reliable_iff (loader : Nat → LoadEnd Environment) :
    (∀ events more, Obeys loader {} (events ++ more) →
      (∀ c, (run events).callers c = .returned → (run (events ++ more)).loading.IsReadable) ∧
      (∀ k, Succeeded (run events).loading k → (run events).loading.IsReadable) ∧
      (run events).Retries) ↔
    ∀ n, loader n ≠ .ok none := by
  constructor
  · intro h n hn
    obtain ⟨hreturned, hnone⟩ := run_emptyHanded (ε := Environment) n
    have hobeys : Obeys loader {} (attempts n ++ emptyHanded n ++ []) := by
      rw [List.append_nil]
      exact obeys_emptyHanded hn
    have hread := (h _ [] hobeys).1 n hreturned
    rw [List.append_nil, Loading.isReadable_iff, hnone] at hread
    cases hread
  · intro hl events more hobeys
    rw [obeys_append] at hobeys
    have hstart : (({} : SharedLoading Environment)).Agrees :=
      ⟨fun k ⟨x, hx, _⟩ => (nomatch hx), fun c hc => (nomatch hc)⟩
    have hagrees : (run events).Agrees := hstart.after hobeys.1 hl
    refine ⟨fun c hc => ?_, fun k hk => ?_, hagrees.retries⟩
    · rw [Loading.isReadable_iff, run_append]
      exact isSome_after (hagrees.returned c hc) hobeys.2 hl
    · exact Loading.isReadable_iff.2 (hagrees.succeeded k hk)

end SharedLoading

/-! ## A success that is none -/

namespace Toolchain

/-- The world with a toolchain whose loader hands over nothing. -/
def emptyWorld : World := { store := #[.toolchain { settings := {}, loader := fun _ => .nothing }] }

/-- The world when its environment has been asked for so many times. -/
def asked : Nat → World
  | 0 => emptyWorld
  | n + 1 => ((ensureInitialized 0).act (asked n)).world

/-- How many loads of the toolchain began. -/
def begunIn (w : World) : Option Nat :=
  match w.store[(0 : Addr)]? with
  | some (.toolchain t) => some t.loading.begun
  | _ => none

/-- **Nothing is remembered as a success**: both callers return, none of them can read the environment, and the
second one has started no load. -/
theorem nothing_is_remembered :
    ((ensureInitialized 0).act (asked 0)).result? = some () ∧
      ((environment 0).act (asked 1)).raised?.isSome = true ∧ begunIn (asked 1) = some 1 ∧
      ((ensureInitialized 0).act (asked 1)).result? = some () ∧
      ((environment 0).act (asked 2)).raised?.isSome = true ∧ begunIn (asked 2) = some 1 := by
  decide +kernel

end Toolchain

end Stepwise
