import Stepwise.Engine.Toolchain
import Stepwise.Proofs.Contexts
import Stepwise.Proofs.Loading
/-!
# The loads of a toolchain

What a toolchain in the store does to its loads are events of a shared loading: `enter` is the arrival of a
caller, `runLoad` the whole of a load. So a toolchain whose loads have come about by events is one of that
kind after `ensureInitialized` as well, whether the load succeeds or not (`isReached_ensureInitialized`).
-/

namespace Stepwise

namespace Loading

variable {ε : Type} {l : Loading ε}

/-- The loads have come about by events. -/
def IsReached (l : Loading ε) : Prop := ∃ events, (SharedLoading.run events).loading = l

theorem IsReached.orderly (h : l.IsReached) : l.Orderly := by
  obtain ⟨events, rfl⟩ := h
  exact SharedLoading.orderly_run events

theorem IsReached.begin (h : l.IsReached) (k : Nat) : (l.begin k).IsReached := by
  obtain ⟨events, rfl⟩ := h
  exact ⟨events ++ [.begin k], by rw [SharedLoading.run_concat]; rfl⟩

theorem IsReached.finish (h : l.IsReached) (k : Nat) (e : LoadEnd ε) : (l.finish k e).IsReached := by
  obtain ⟨events, rfl⟩ := h
  exact ⟨events ++ [.finish k e], by rw [SharedLoading.run_concat]; rfl⟩

theorem IsReached.tell (h : l.IsReached) (k : Nat) : (l.tell k).IsReached := by
  obtain ⟨events, rfl⟩ := h
  exact ⟨events ++ [.tell k], by rw [SharedLoading.run_concat]; rfl⟩

end Loading

namespace SharedLoading

variable {ε : Type}

/-- An event moves only the caller that it names. -/
theorem exists_named (e : LoadEvent ε) : ∃ d, ∀ (s : SharedLoading ε) (c : Nat), c ≠ d →
    (s.step e).callers c = s.callers c := by
  have hplace : ∀ (s : SharedLoading ε) (l : Loading ε) (c d : Nat) (y : Caller), c ≠ d →
      ({ s with loading := l }.place d y).callers c = s.callers c :=
    fun s l c d y h => if_neg h
  cases e with
  | enter d | join d | wake d | leave d =>
    refine ⟨d, fun s c h => ?_⟩
    simp only [step]
    repeat' split
    all_goals first | exact hplace s _ c d _ h | rfl
  | begin | finish | cancel | overtake | tell => exact ⟨0, fun _ _ _ => rfl⟩

/-- After finitely many events there are callers that have not come yet. -/
theorem exists_away (events : List (LoadEvent ε)) :
    ∃ n, ∀ c, n ≤ c → (run events).callers c = .away := by
  refine run_induction (P := fun _ s => ∃ n, ∀ c, n ≤ c → s.callers c = .away) ⟨0, fun _ _ => rfl⟩
    (fun events e ih => ?_) events
  obtain ⟨n, hn⟩ := ih
  obtain ⟨d, hd⟩ := exists_named e
  refine ⟨max n (d + 1), fun c hc => ?_⟩
  rw [hd (run events) c (by omega)]
  exact hn c (by omega)

end SharedLoading

/-- A caller that finds no environment joins a load. -/
theorem Loading.IsReached.join {ε : Type} {l : Loading ε} (h : l.IsReached) (he : l.environment = none) :
    l.join.2.IsReached := by
  obtain ⟨events, rfl⟩ := h
  obtain ⟨c, hc⟩ := SharedLoading.exists_away events
  have haway := hc c (Nat.le_refl c)
  refine ⟨events ++ [.enter c] ++ [.join c], ?_⟩
  have henter : (SharedLoading.run events).step (.enter c) = (SharedLoading.run events).place c .entered := by
    simp only [SharedLoading.step, haway, he]
  have hentered : ((SharedLoading.run events).place c .entered).callers c = .entered := if_pos rfl
  rw [SharedLoading.run_concat, SharedLoading.run_concat, henter]
  simp only [SharedLoading.step, hentered]
  rfl

namespace Toolchain

variable {a : Addr} {t : Toolchain} {w : World}

theorem fetch_act (h : w.store[a]? = some (.toolchain t)) : (fetch a).act w = .ok t w := by
  simp only [fetch, Run.bind_act, Run.load_act h, Run.pure_act]

/-- A change of the loads is seen at the address. -/
theorem change_act (h : w.store[a]? = some (.toolchain t)) (f : Loading Environment → Loading Environment) :
    ∃ w', (change a f).act w = .ok () w' ∧
      w'.store[a]? = some (.toolchain { t with loading := f t.loading }) := by
  refine ⟨_, rfl, ?_⟩
  change (w.store.modify a _)[a]? = _
  rw [Array.getElem?_modify, if_pos rfl, h]
  rfl

/-- A report leaves the toolchain alone. -/
theorem log_act (h : w.store[a]? = some (.toolchain t)) (level : Level) (message : String) :
    ∃ w', (Run.log level message).act w = .ok () w' ∧ w'.store[a]? = some (.toolchain t) :=
  ⟨_, rfl, h⟩

/-- **A load that is run is over and told**, and so is one that was over before. -/
theorem runLoad_act (h : w.store[a]? = some (.toolchain t)) (k : Nat) :
    ∃ w', (runLoad a k).act w = .ok () w' ∧
      w'.store[a]? = some (.toolchain { t with loading :=
        (if t.loading.isCreated k then (t.loading.begin k).finish k t.nextEnd else t.loading).tell k }) := by
  rw [runLoad, Run.bind_act, fetch_act h]
  cases hc : t.loading.isCreated k with
  | false =>
    simp only [hc, Bool.false_eq_true, if_false]
    exact change_act h _
  | true =>
    simp only [hc, if_true]
    obtain ⟨w₁, h₁, ht₁⟩ := change_act h (·.begin k)
    obtain ⟨w₂, h₂, ht₂⟩ := log_act ht₁ .info "Initializing render toolchain"
    cases he : t.nextEnd with
    | ok handed =>
      obtain ⟨w₃, h₃, ht₃⟩ := change_act ht₂ (·.finish k (.ok handed))
      obtain ⟨w₄, h₄, ht₄⟩ := log_act ht₃ .info "Render toolchain ready"
      obtain ⟨w₅, h₅, ht₅⟩ := change_act ht₄ (·.tell k)
      exact ⟨w₅, by simp only [Run.bind_act, h₁, h₂, h₃, h₄, h₅], ht₅⟩
    | error fault =>
      obtain ⟨w₃, h₃, ht₃⟩ := log_act ht₂ .error fault.message
      obtain ⟨w₄, h₄, ht₄⟩ := change_act ht₃ (·.finish k (.error fault))
      obtain ⟨w₅, h₅, ht₅⟩ := change_act ht₄ (·.tell k)
      exact ⟨w₅, by simp only [Run.bind_act, h₁, h₂, h₃, h₄, h₅], ht₅⟩

/-- What a caller learns leaves the toolchain alone. -/
theorem settle_act (h : w.store[a]? = some (.toolchain t)) (k : Nat) :
    ((settle a k).act w).world.store[a]? = some (.toolchain t) := by
  rw [settle, Run.bind_act, fetch_act h]
  dsimp only
  split
  case h_1 fault _ => exact World.get_push h _
  case h_2 => exact h

/-- A caller that finds an environment does not wait. -/
theorem enter_found (h : w.store[a]? = some (.toolchain t)) {x : Environment}
    (he : t.loading.environment = some x) : (enter a).act w = .ok none w := by
  simp only [enter, Run.bind_act, fetch_act h, he, Option.isSome_some, if_true, Run.pure_act]

/-- A caller that finds none joins a load. -/
theorem enter_joins (h : w.store[a]? = some (.toolchain t)) (he : t.loading.environment = none) :
    ∃ w', (enter a).act w = .ok (some t.loading.join.1) w' ∧
      w'.store[a]? = some (.toolchain { t with loading := t.loading.join.2 }) := by
  obtain ⟨w', hchange, ht⟩ := change_act h fun _ => t.loading.join.2
  refine ⟨w', ?_, ht⟩
  simp only [enter, Run.bind_act, fetch_act h, he, Option.isSome_none, Bool.false_eq_true, if_false, hchange,
    Run.pure_act]

/-- **A toolchain whose loads have come about by events is one afterwards as well**, however the load ends
that it starts. -/
theorem isReached_ensureInitialized (h : w.store[a]? = some (.toolchain t)) (hr : t.loading.IsReached) :
    ∃ t', ((ensureInitialized a).act w).world.store[a]? = some (.toolchain t') ∧ t'.loading.IsReached := by
  rw [ensureInitialized, Run.bind_act]
  cases he : t.loading.environment with
  | some x =>
    rw [enter_found h he]
    exact ⟨t, h, hr⟩
  | none =>
    obtain ⟨w₁, henter, ht₁⟩ := enter_joins h he
    have hr₁ : t.loading.join.2.IsReached := hr.join he
    obtain ⟨w₂, h₂, ht₂⟩ := runLoad_act ht₁ t.loading.join.1
    rw [henter]
    simp only [Run.bind_act, h₂]
    refine ⟨_, settle_act ht₂ _, ?_⟩
    split
    case isTrue => exact ((hr₁.begin _).finish _ _).tell _
    case isFalse => exact hr₁.tell _

end Toolchain

end Stepwise
