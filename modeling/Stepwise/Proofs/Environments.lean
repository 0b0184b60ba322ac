import Stepwise.Engine.Concurrent
import Stepwise.Proofs.Dispatch
/-!
# What runs share through their toolchain

All runs of an engine have one toolchain, and the variables of its templates stand in one dictionary. Whoever
asks for the environment is handed that dictionary (`Template.environmentOf_again`), and what is written to
it every template of the toolchain has from then on (`Template.variablesOf_write`). So a run whose script
writes there is seen by the runs beside it.
-/

namespace Stepwise

namespace World

/-- The toolchain has shown its environment, with the variables of its templates in this dictionary. -/
def Shows (w : World) (toolchain globals : Addr) : Prop :=
  ∃ t env, w.store[toolchain]? = some (.toolchain t) ∧ t.shown = some env ∧
    w.store[env]? = some (.environment globals)

end World

/-- What a variable is called in a dictionary, and its value. -/
def Dict.variables (d : Dict) : List (String × Value) :=
  d.pairs.filterMap fun (k, v) => k.text?.map fun id => (id, v)

namespace Template

variable {w : World} {toolchain globals : Addr}

theorem shown?_act (h : w.Shows toolchain globals) :
    ∃ env, (shown? toolchain).act w = .ok (some env) w ∧ w.store[env]? = some (.environment globals) := by
  obtain ⟨t, env, ht, hshown, henv⟩ := h
  refine ⟨env, ?_, henv⟩
  simp only [shown?, Run.bind_act, Run.load_act ht, Run.pure_act, hshown]

/-- **Every template of the toolchain has the variables of that dictionary.** -/
theorem variablesOf_act (h : w.Shows toolchain globals) {f : DictFlavour} {d : Dict}
    (hd : w.store[globals]? = some (.dict f d)) :
    (variablesOf toolchain).act w = .ok d.variables w := by
  obtain ⟨env, hshown, henv⟩ := shown?_act h
  simp only [variablesOf, variablesAt, Run.bind_act, hshown, Run.load_act henv, Run.load_act hd]
  rfl

/-- **The environment is handed out again** to whoever asks for it. -/
theorem environmentOf_again (h : w.Shows toolchain globals) :
    ∃ env, (environmentOf toolchain).act w = .ok env w ∧ w.store[env]? = some (.environment globals) := by
  obtain ⟨env, hshown, henv⟩ := shown?_act h
  refine ⟨env, ?_, henv⟩
  simp only [environmentOf, Run.bind_act, hshown, Run.pure_act]

/-- Asked for the first time it has the variables that every template has at first. -/
theorem environmentOf_first {t : Toolchain} (ht : w.store[toolchain]? = some (.toolchain t)) (hnone : t.shown = none) :
    ∃ env w', (environmentOf toolchain).act w = .ok env w' ∧ w'.Shows toolchain w.store.size ∧
      w'.store[w.store.size]? = some (.dict .plain (Dict.ofTexts everyone)) := by
  have hlt : toolchain < w.store.size := (Array.getElem?_eq_some_iff.1 ht).1
  have hdict : toolchain ≠ w.store.size := Nat.ne_of_lt hlt
  have henv : toolchain ≠ w.store.size + 1 := Nat.ne_of_lt (Nat.lt_succ_of_lt hlt)
  have hshown : (shown? toolchain).act w = .ok none w := by
    simp only [shown?, Run.bind_act, Run.load_act ht, Run.pure_act, hnone]
  obtain ⟨w', hact, hstore⟩ : ∃ w', (environmentOf toolchain).act w = .ok (w.store.size + 1) w' ∧
      w'.store = ((w.store.push (.dict .plain (Dict.ofTexts everyone))).push (.environment w.store.size)).modify
        toolchain (Obj.changedBy (showing (w.store.size + 1))) := by
    have hsize : (w.store.push (.dict .plain (Dict.ofTexts everyone))).size = w.store.size + 1 := Array.size_push _
    simp only [environmentOf, Run.bind_act, hshown]
    rw [← hsize]
    exact ⟨_, rfl, rfl⟩
  refine ⟨_, w', hact, ⟨{ t with shown := some (w.store.size + 1) }, _, ?_, rfl, ?_⟩, ?_⟩
  · rw [hstore, Array.getElem?_modify, if_pos rfl, Array.getElem?_push, Array.size_push, if_neg henv,
      Array.getElem?_push, if_neg hdict, ht]
    rfl
  · rw [hstore, Array.getElem?_modify, if_neg henv, Array.getElem?_push, Array.size_push, if_pos rfl]
  · rw [hstore, Array.getElem?_modify, if_neg hdict, Array.getElem?_push, Array.size_push,
      if_neg (Nat.ne_of_lt (Nat.lt_succ_self _)), Array.getElem?_push, if_pos rfl]

/-- **What is written to the dictionary every template of the toolchain has from then on.** -/
theorem variablesOf_write (h : w.Shows toolchain globals) {f : DictFlavour} {d : Dict}
    (hd : w.store[globals]? = some (.dict f d)) (id : String) (v : Value) :
    ∃ w', (Run.putItem globals (.str id) v).act w = .ok () w' ∧ w'.Shows toolchain globals ∧
      (variablesOf toolchain).act w' = .ok (d.putText id v).variables w' := by
  obtain ⟨t, env, ht, hshown, henv⟩ := h
  have htoolchain : toolchain ≠ globals := by
    rintro rfl
    cases hd.symm.trans ht
  have henvironment : env ≠ globals := by
    rintro rfl
    cases hd.symm.trans henv
  obtain ⟨w', hact, hwritten, hothers⟩ := Run.putItem_act hd id v
  have hshows : w'.Shows toolchain globals :=
    ⟨t, env, (hothers toolchain htoolchain).trans ht, hshown, (hothers env henvironment).trans henv⟩
  exact ⟨w', hact, hshows, variablesOf_act hshows hwritten⟩

end Template

/-! ## A run that is seen by the run beside it -/

namespace Engine

/-- The engine whose scripts run where the engine runs. -/
def unthreaded : Engine := ⟨{}, 0, false, (ordinaryRegistry {} 0 false).toOption.getD {}⟩

/-- A recipe that makes a component and hands it to a script. -/
def withComponent (code : String) : Recipe := ⟨"component", "", [], [⟨"c", "jinja", "x"⟩, ⟨"s", "python", code⟩], .null⟩

/-- Writes a variable for all templates. -/
def leaving : Recipe := withComponent "context['c'].template.environment.globals.update(mark=1)"

/-- Looks for that variable. -/
def looking : Recipe := withComponent "context.update(seen=context['c'].template.environment.globals.get('mark'))"

/-- The number that a run has put into its context, if what it has put there is one. -/
def seen? (w : World) (context : Addr) : Option (Option Int) := (w.item? context (Dict.textKey "seen")).map Value.int?

/-- What the last of some runs has seen, when they go on side by side. -/
def seenBeside? (recipes : List Recipe) : Option (Option Int) :=
  match (unthreaded.executeAll barePlatform (recipes.map (·, .null))).act bareWorld with
  | .ok contexts w => contexts.getLast?.bind (seen? w)
  | .error .. => none

/-- What a run has seen that goes on alone. -/
def seenAlone? (recipe : Recipe) : Option (Option Int) :=
  match (unthreaded.execute barePlatform recipe .null .null).act bareWorld with
  | .ok run w => seen? w run.context
  | .error .. => none

/-- **A run beside another one ends otherwise than alone**, though they have neither inputs nor values in
common: the variable that the one writes is there for the other. -/
theorem looking_beside_leaving : seenBeside? [leaving, looking] = some (some 1) ∧ seenAlone? looking = some none := by
  decide +kernel

end Engine

end Stepwise
