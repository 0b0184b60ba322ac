import Stepwise.Proofs.Accepting
import Stepwise.Proofs.Precedence
/-!
# All settings of a mapping, or none

Settings are updated from a mapping in three parts: all values are converted, then all are written, then a summary is
made. Only looking is done until the first value does not fit, so that nothing has been written by then, and
`update_summarised_iff` says what that comes to. The summary is made last: where it fails the settings are changed
already, and where a value is refused it fails if the value cannot be displayed.
-/

namespace Stepwise

open Run (Inspects)

/-! ## Values that fit -/

namespace Setting

theorem ofId?_id (k : Setting) : ofId? k.id = some k := by
  cases k <;> decide +kernel

theorem ofId?_eq_some_iff {name : String} {k : Setting} : ofId? name = some k ↔ name = k.id := by
  refine ⟨fun h => ?_, fun h => h ▸ ofId?_id k⟩
  have hname := List.find?_some (p := fun k' : Setting => k'.id == name) h
  exact (eq_of_beq hname).symm

theorem ofKey?_eq_some_iff {key : Value} {k : Setting} : ofKey? key = some k ↔ key.text? = some k.id := by
  rw [ofKey?, Option.bind_eq_bind, Option.bind_eq_some_iff]
  constructor
  · rintro ⟨s, hs, hk⟩
    rw [hs, ofId?_eq_some_iff.1 hk]
  · exact fun h => ⟨_, h, ofId?_id k⟩

/-- **Converting a value is looking.** -/
theorem inspects_ofValue (k : Setting) (v : Value) : (k.ofValue v).Inspects textErrors := by
  unfold ofValue
  split
  · split
    · exact .pure _
    · exact (Value.inspects_display v).bind fun shown => .raise _ (by decide)
  · split
    · exact (Value.inspects_truthy v).bind fun b => .pure _
    · exact (Value.inspects_plain v).bind fun s => .pure _

end Setting

namespace World

/-- What a value comes to as that of a setting, if it can be converted. -/
def fitting? (w : World) (p : Setting × Value) : Option SettingValue := ((p.1.ofValue p.2).act w).result?

theorem act_of_fitting? {w : World} {p : Setting × Value} {x : SettingValue} (h : w.fitting? p = some x) :
    (p.1.ofValue p.2).act w = .ok x w := by
  rw [fitting?] at h
  obtain ⟨y, hy⟩ | ⟨cls, -, message, hraised⟩ := (p.1.inspects_ofValue p.2).act_cases w
  · rw [hy] at h ⊢
    cases h
    rfl
  · rw [hraised] at h
    cases h

theorem act_of_unfit {w : World} {p : Setting × Value} (h : w.fitting? p = none) :
    ∃ cls ∈ textErrors, ∃ message,
      (p.1.ofValue p.2).act w = .error (.raised w.store.size) (w.raising cls message) := by
  rw [fitting?] at h
  obtain ⟨y, hy⟩ | hraised := (p.1.inspects_ofValue p.2).act_cases w
  · rw [hy] at h
    cases h
  · exact hraised

end World

/-! ## What a mapping is about -/

namespace Updates

/-- The settings that the keys of a mapping name, with its values for them. -/
def named (updates : List (Value × Value)) : List (Setting × Value) :=
  updates.filterMap fun p => (Setting.ofKey? p.1).map (·, p.2)

/-- The keys of a mapping that name no setting. -/
def unnamed (updates : List (Value × Value)) : List Value :=
  (updates.map (·.1)).filter fun key => (Setting.ofKey? key).isNone

variable {key v : Value} {rest : List (Value × Value)} {k : Setting}

theorem named_of_none (h : Setting.ofKey? key = none) : named ((key, v) :: rest) = named rest := by simp [named, h]

theorem named_of_some (h : Setting.ofKey? key = some k) : named ((key, v) :: rest) = (k, v) :: named rest := by
  simp [named, h]

theorem unnamed_of_none (h : Setting.ofKey? key = none) : unnamed ((key, v) :: rest) = key :: unnamed rest := by
  simp [unnamed, h]

theorem unnamed_of_some (h : Setting.ofKey? key = some k) : unnamed ((key, v) :: rest) = unnamed rest := by
  simp [unnamed, h]

end Updates

open Updates

namespace World

/-- The first value of a mapping that does not fit. -/
def unfit? (w : World) (updates : List (Value × Value)) : Option (Setting × Value) :=
  (named updates).find? fun p => (w.fitting? p).isNone

/-- The settings that a mapping names, with what its values come to. -/
def changes (w : World) (updates : List (Value × Value)) : List (Setting × SettingValue) :=
  (named updates).filterMap fun p => (w.fitting? p).map (p.1, ·)

end World

/-! ## Converting all of them -/

section

variable {w : World} {key v : Value} {rest updates : List (Value × Value)} {k : Setting}
variable {done : OrderedMap String (Setting × SettingValue)} {unknown : List Value}

theorem convertAll_of_none (hk : Setting.ofKey? key = none) (hplaced : ∃ place, key.key.act w = .ok place w) :
    (convertAll ((key, v) :: rest) done unknown).act w = (convertAll rest done (key :: unknown)).act w := by
  obtain ⟨place, hplace⟩ := hplaced
  rw [convertAll, hk]
  simp only [Run.bind_act, hplace]

theorem convertAll_of_fitting {x : SettingValue} (hk : Setting.ofKey? key = some k) (hx : w.fitting? (k, v) = some x) :
    (convertAll ((key, v) :: rest) done unknown).act w =
      (convertAll rest (done.insert k.id (k, x)) unknown).act w := by
  have hact : (Run.outcome (k.ofValue v)).act w = .ok (.ok x) w := by
    rw [Run.outcome_act, World.act_of_fitting? hx]
    rfl
  rw [convertAll, hk]
  simp only [Run.bind_act, hact]

theorem convertAll_of_unfit {cls message : String} (hk : Setting.ofKey? key = some k)
    (hraised : (k.ofValue v).act w = .error (.raised w.store.size) (w.raising cls message)) :
    (convertAll ((key, v) :: rest) done unknown).act w =
      (Except.error <$> refusal k v w.store.size).act (w.raising cls message) := by
  have hact : (Run.outcome (k.ofValue v)).act w = .ok (.error w.store.size) (w.raising cls message) := by
    rw [Run.outcome_act, hraised]
    rfl
  rw [convertAll, hk]
  simp only [Run.bind_act, hact]
  rfl

/-- **While all values fit, nothing is changed**, and they are collected. -/
theorem convertAll_fitting (hplaced : ∀ p ∈ updates, ∃ place, p.1.key.act w = .ok place w)
    (hfit : w.unfit? updates = none) :
    (convertAll updates done unknown).act w =
      .ok (.ok (done.insertAll ((w.changes updates).map fun p => (p.1.id, p)),
        unknown.reverse ++ unnamed updates)) w := by
  induction updates generalizing done unknown with
  | nil => rw [convertAll, unnamed, List.map_nil, List.filter_nil, List.append_nil]; rfl
  | cons p rest ih =>
    obtain ⟨key, v⟩ := p
    have hrest := fun p hp => hplaced p (List.mem_cons_of_mem _ hp)
    cases hk : Setting.ofKey? key with
    | none =>
      rw [World.unfit?, named_of_none hk] at hfit
      have hchanges : w.changes ((key, v) :: rest) = w.changes rest := by rw [World.changes, named_of_none hk]; rfl
      rw [convertAll_of_none hk (hplaced _ List.mem_cons_self), ih hrest hfit, hchanges, unnamed_of_none hk,
        List.reverse_cons, List.append_assoc]
      rfl
    | some k =>
      rw [World.unfit?, named_of_some hk, List.find?_cons] at hfit
      cases hx : w.fitting? (k, v) with
      | none =>
        rw [hx] at hfit
        cases hfit
      | some x =>
        rw [hx] at hfit
        have hchanges : w.changes ((key, v) :: rest) = (k, x) :: w.changes rest := by
          simp [World.changes, named_of_some hk, hx]
        rw [convertAll_of_fitting hk hx, ih hrest hfit, hchanges, unnamed_of_some hk]
        rfl

/-- **The first value that does not fit decides.** -/
theorem convertAll_unfit (hplaced : ∀ p ∈ updates, ∃ place, p.1.key.act w = .ok place w)
    (hunfit : w.unfit? updates = some (k, v)) {cls message : String}
    (hraised : (k.ofValue v).act w = .error (.raised w.store.size) (w.raising cls message)) :
    (convertAll updates done unknown).act w =
      (Except.error <$> refusal k v w.store.size).act (w.raising cls message) := by
  induction updates generalizing done unknown with
  | nil => cases hunfit
  | cons p rest ih =>
    obtain ⟨key, v'⟩ := p
    have hrest := fun p hp => hplaced p (List.mem_cons_of_mem _ hp)
    cases hk : Setting.ofKey? key with
    | none =>
      rw [World.unfit?, named_of_none hk] at hunfit
      rw [convertAll_of_none hk (hplaced _ List.mem_cons_self)]
      exact ih hrest hunfit
    | some k' =>
      rw [World.unfit?, named_of_some hk, List.find?_cons] at hunfit
      cases hx : w.fitting? (k', v') with
      | none =>
        rw [hx] at hunfit
        cases hunfit
        exact convertAll_of_unfit hk hraised
      | some x =>
        rw [hx] at hunfit
        rw [convertAll_of_fitting hk hx]
        exact ih hrest hunfit

end

/-! ## Summaries -/

/-- The summary says this. -/
def World.Summarises (w : World) (answer : Value) (l : List (String × Value)) : Prop :=
  ∃ a, answer = .ref a ∧ w.store[a]? = some (.dict .plain (Dict.ofTexts l))

theorem summary_act (l : List (String × Value)) (w : World) :
    ∃ answer left, (summary l).act w = .ok answer left ∧ left.Summarises answer l ∧
      left.configuration = w.configuration :=
  ⟨_, _, rfl, ⟨_, rfl, Array.getElem?_push_size⟩, rfl⟩

/-- Why a value does not fit, and how it is displayed: the error is one of those that are expected, and the value can
be displayed. -/
def World.Refuses (w : World) (k : Setting) (v : Value) (reason shown : String) : Prop :=
  (k.ofValue v).act w = .error (.raised w.store.size) (w.raising "ValueError" reason) ∧
    v.display.act (w.raising "ValueError" reason) = .ok shown (w.raising "ValueError" reason)

section

variable {w : World} {k : Setting} {v : Value}

/-- The text of an error is its message. -/
theorem errorMessage_raising (w : World) (message : String) :
    (errorMessage w.store.size).act (w.raising "ValueError" message) =
      .ok message (w.raising "ValueError" message) := by
  have hget : (w.raising "ValueError" message).store[w.store.size]? =
      some (.error (.cls "ValueError") [.str message] []) := Array.getElem?_push_size
  have hdepth : displayDepth = 899 + 1 := rfl
  rw [errorMessage, Value.plain, hdepth, Value.plainAt, Run.bind_act, Run.load_act hget]
  rfl

/-- Of the errors that converting raises one is expected. -/
theorem isExpected_iff : ∀ cls ∈ textErrors,
    ((cls == "TypeError" || Classes.isBelow cls "TypeError") ||
      (cls == "ValueError" || Classes.isBelow cls "ValueError")) = (cls == "ValueError") := by
  decide

/-- An error that is expected is told, with the value; another one is raised again. -/
theorem refusal_act {cls : String} (hcls : cls ∈ textErrors) (message : String) :
    (refusal k v w.store.size).act (w.raising cls message) =
      if cls = "ValueError" then
        (v.display >>= fun shown => summary (refusalOf k message shown)).act (w.raising cls message)
      else .error (.raised w.store.size) (w.raising cls message) := by
  have hget : (w.raising cls message).store[w.store.size]? = some (.error (.cls cls) [.str message] []) :=
    Array.getElem?_push_size
  have hclass : (Run.errorClass w.store.size).act (w.raising cls message) = .ok (.cls cls) (w.raising cls message) := by
    rw [Run.errorClass, Run.bind_act, Run.load_act hget]
    rfl
  have hexpected := isExpected_iff cls hcls
  simp only [refusal, Run.bind_act, hclass, Value.isSubclass, Run.pure_act]
  by_cases h : cls = "ValueError"
  · subst h
    rw [if_pos rfl, if_pos (hexpected.trans (beq_self_eq_true _)), Run.bind_act, errorMessage_raising]
    exact Run.bind_act _ _ _
  · rw [if_neg h, if_neg (by rw [hexpected, beq_false_of_ne h]; exact Bool.false_ne_true)]
    rfl

/-- **What becomes of a value that does not fit.** The settings in force stay. There is a summary exactly if the
error is expected and the value can be displayed. -/
theorem refusal_ends {cls message : String} (hcls : cls ∈ textErrors)
    (hraised : (k.ofValue v).act w = .error (.raised w.store.size) (w.raising cls message)) :
    let ending := (refusal k v w.store.size).act (w.raising cls message)
    ending.world.configuration = w.configuration ∧
      ((∃ answer left, ending = .ok answer left) ↔ ∃ reason shown, w.Refuses k v reason shown) ∧
      ∀ answer left, ending = .ok answer left →
        ∃ reason shown, w.Refuses k v reason shown ∧ left.Summarises answer (refusalOf k reason shown) := by
  have hsame : ∀ {reason}, (k.ofValue v).act w = .error (.raised w.store.size) (w.raising "ValueError" reason) →
      w.raising cls message = w.raising "ValueError" reason := by
    intro reason h
    injection hraised.symm.trans h
  dsimp only
  rw [refusal_act hcls]
  split
  case isTrue hexpected =>
    subst hexpected
    rw [Run.bind_act]
    obtain ⟨shown, hshown⟩ | ⟨cls, -, message', huntold⟩ :=
      (Value.inspects_display v).act_cases (w.raising "ValueError" message)
    · rw [hshown]
      obtain ⟨answer, left, hsummary, hsays, hkept⟩ :=
        summary_act (refusalOf k message shown) (w.raising "ValueError" message)
      simp only [hsummary]
      refine ⟨hkept, iff_of_true ⟨answer, left, rfl⟩ ⟨message, shown, hraised, hshown⟩, fun _ _ h => ?_⟩
      cases h
      exact ⟨message, shown, ⟨hraised, hshown⟩, hsays⟩
    · rw [huntold]
      refine ⟨rfl, iff_of_false Ending.error_not_ok ?_, fun answer left h => absurd h (Ending.error_ne_ok answer left)⟩
      rintro ⟨reason, shown, hreason, hshown⟩
      rw [← hsame hreason, huntold] at hshown
      exact Ending.error_ne_ok _ _ hshown
  case isFalse hne =>
    refine ⟨rfl, iff_of_false Ending.error_not_ok ?_, fun answer left h => absurd h (Ending.error_ne_ok answer left)⟩
    rintro ⟨reason, _, hreason, -⟩
    have hread := congrArg (fun w' : World => w'.store[w.store.size]?) (hsame hreason)
    simp only [World.raising, Array.getElem?_push_size] at hread
    cases hread
    exact hne rfl

end

/-! ## Mappings -/

/-- A text stands in the place of its characters, whatever is known about it besides. -/
theorem key_act_of_text? {v : Value} {s : String} (h : v.text? = some s) (w : World) :
    v.key.act w = .ok (Dict.textKey s) w := by
  cases v with
  | str | markup =>
    cases h
    rfl
  | _ => cases h

theorem Setting.id_injective {k k' : Setting} (h : k.id = k'.id) : k = k' :=
  Option.some.inj ((ofId?_id k).symm.trans (h ▸ ofId?_id k'))

theorem mem_named {updates : List (Value × Value)} {p : Setting × Value} :
    p ∈ named updates ↔ ∃ key, (key, p.2) ∈ updates ∧ Setting.ofKey? key = some p.1 := by
  rw [named, List.mem_filterMap]
  constructor
  · rintro ⟨⟨key, v⟩, hmem, h⟩
    obtain ⟨k, hk, rfl⟩ := Option.map_eq_some_iff.1 h
    exact ⟨key, hmem, hk⟩
  · rintro ⟨key, hmem, hk⟩
    exact ⟨(key, p.2), hmem, Option.map_eq_some_iff.2 ⟨p.1, hk, rfl⟩⟩

namespace World

variable {w : World} {d : Dict} {updates : List (Value × Value)}

/-- **A mapping names no setting twice**: keys that name the same setting are the same text. -/
theorem IsMapping.nodup_named (hd : w.IsMapping d) : ((named d.pairs).map (·.1)).Nodup := by
  obtain ⟨entries⟩ := d
  obtain ⟨hnodup, hplaced⟩ := hd
  change (entries.map (·.1)).Nodup at hnodup
  change ∀ entry ∈ entries, _ at hplaced
  change ((named (entries.map (·.2))).map (·.1)).Nodup
  induction entries with
  | nil => exact .nil
  | cons entry rest ih =>
    obtain ⟨place, key, v⟩ := entry
    rw [List.map_cons, List.nodup_cons] at hnodup
    have hrest := ih hnodup.2 fun e he => hplaced e (List.mem_cons_of_mem _ he)
    rw [List.map_cons]
    cases hk : Setting.ofKey? key with
    | none =>
      rw [named_of_none hk]
      exact hrest
    | some k =>
      have hplace : ∀ {place' key' v'}, (place', key', v') ∈ (place, key, v) :: rest →
          Setting.ofKey? key' = some k → place' = Dict.textKey k.id := by
        intro place' key' v' hmem hkey
        have htext := key_act_of_text? (Setting.ofKey?_eq_some_iff.1 hkey) w
        injection (hplaced _ hmem).symm.trans htext
      rw [named_of_some hk, List.map_cons, List.nodup_cons]
      refine ⟨fun hmem => hnodup.1 ?_, hrest⟩
      obtain ⟨⟨k', v'⟩, hnamed, hsame⟩ := List.mem_map.1 hmem
      obtain rfl : k' = k := hsame
      obtain ⟨key', hin, hkey'⟩ := mem_named.1 hnamed
      obtain ⟨⟨place', key'', v''⟩, hentry, heq⟩ := List.mem_map.1 hin
      cases heq
      have hthere := hplace (List.mem_cons_of_mem _ hentry) hkey'
      rw [hplace List.mem_cons_self hk, ← hthere]
      exact List.mem_map.2 ⟨_, hentry, rfl⟩

theorem fitting?_of_unfit? (hfit : w.unfit? updates = none) {p : Setting × Value} (hp : p ∈ named updates) :
    ∃ x, w.fitting? p = some x := by
  have h := List.find?_eq_none.1 hfit p hp
  rw [Bool.not_eq_true, Option.isNone_eq_false_iff, Option.isSome_iff_exists] at h
  exact h

/-- Where all values fit, all settings that are named are changed, in order. -/
theorem settings_changes (hfit : w.unfit? updates = none) :
    (w.changes updates).map (·.1) = (named updates).map (·.1) := by
  have hall : ∀ p ∈ named updates, ∃ x, w.fitting? p = some x := fun _ => fitting?_of_unfit? hfit
  rw [changes]
  generalize named updates = l at hall ⊢
  induction l with
  | nil => rfl
  | cons p rest ih =>
    obtain ⟨x, hx⟩ := hall p List.mem_cons_self
    simp only [List.filterMap_cons, hx, Option.map_some, List.map_cons]
    rw [ih fun p hp => hall p (List.mem_cons_of_mem _ hp)]

theorem mem_changes {p : Setting × Value} (hp : p ∈ named updates) {x : SettingValue} (hx : w.fitting? p = some x) :
    (p.1, x) ∈ w.changes updates :=
  List.mem_filterMap.2 ⟨p, hp, by rw [hx]; rfl⟩

end World

/-! ## Changing all of them -/

namespace Settings

/-- The settings with others written over them. -/
def setAll (s : Settings) (l : List (Setting × SettingValue)) : Settings := l.foldl (fun s (k, x) => s.set k x) s

variable {l : List (Setting × SettingValue)} {k : Setting}

theorem get_setAll_of_notMem (h : k ∉ l.map (·.1)) (s : Settings) : (s.setAll l).get k = s.get k := by
  induction l generalizing s with
  | nil => rfl
  | cons p rest ih =>
    rw [List.map_cons, List.mem_cons, not_or] at h
    exact (ih h.2 _).trans (by rw [get_set, if_neg h.1])

theorem get_setAll_of_mem (hl : (l.map (·.1)).Nodup) {x : SettingValue} (h : (k, x) ∈ l) (s : Settings) :
    (s.setAll l).get k = x := by
  induction l generalizing s with
  | nil => cases h
  | cons p rest ih =>
    rw [List.map_cons, List.nodup_cons] at hl
    rcases List.mem_cons.1 h with rfl | hrest
    · exact (get_setAll_of_notMem hl.1 _).trans (by rw [get_set, if_pos rfl])
    · exact ih hl.2 hrest _

end Settings

/-! ## What is said of a change -/

/-- The summary tells which settings were changed, and which names are those of no settings. -/
def World.TellsChange (w : World) (answer : Value) (changed : List String) (unknown : List Value) : Prop :=
  ∃ names texts, unknown.map Value.text? = texts.map some ∧ w.list? names = some (changed.map .str) ∧
    w.Summarises answer (changeOf changed names texts)

/-- Joining needs texts. -/
theorem joined_act (v : Value) (place : Nat) (w : World) :
    (∃ s, v.text? = some s ∧ (joined v place).act w = .ok s w) ∨
    (v.text? = none ∧ ∃ message,
      (joined v place).act w = .error (.raised w.store.size) (w.raising "TypeError" message)) := by
  rw [joined]
  cases v.text? with
  | some s => exact .inl ⟨s, rfl, rfl⟩
  | none =>
    obtain ⟨kind, hkind⟩ := v.reads_kindName w
    refine .inr ⟨rfl, "sequence item " ++ toString place ++ ": expected str instance, " ++ kind ++ " found", ?_⟩
    simp only [Run.bind_act, hkind]
    rfl

theorem mapM_joined_act (values : List Value) (start : Nat) (w : World) :
    (∃ texts, values.map Value.text? = texts.map some ∧
      ((values.zipIdx start).mapM fun p => joined p.1 p.2).act w = .ok texts w) ∨
    ((∃ v ∈ values, v.text? = none) ∧ ∃ message,
      ((values.zipIdx start).mapM fun p => joined p.1 p.2).act w =
        .error (.raised w.store.size) (w.raising "TypeError" message)) := by
  induction values generalizing start with
  | nil => exact .inl ⟨[], rfl, rfl⟩
  | cons v rest ih =>
    rw [List.zipIdx_cons, List.mapM_cons]
    simp only [Run.bind_act]
    obtain ⟨s, hs, hjoined⟩ | ⟨hnone, message, hraised⟩ := joined_act v start w
    · rw [hjoined]
      obtain ⟨texts, htexts, hrest⟩ | ⟨⟨v', hv', hnone⟩, message, hraised⟩ := ih (start + 1)
      · refine .inl ⟨s :: texts, by rw [List.map_cons, List.map_cons, hs, htexts], ?_⟩
        simp only [hrest, Run.pure_act]
      · refine .inr ⟨⟨v', List.mem_cons_of_mem _ hv', hnone⟩, message, ?_⟩
        simp only [hraised]
    · rw [hraised]
      exact .inr ⟨⟨v, List.mem_cons_self, hnone⟩, message, rfl⟩

/-- The world with the names of changed settings in a list, and a summary of them. -/
def World.withChange (w : World) (changed unknown : List String) : World :=
  let store := w.store.push (.list (changed.map Value.str).toArray)
  { w with store := store.push (.dict .plain (Dict.ofTexts (changeOf changed (.ref w.store.size) unknown))) }

theorem tellsChange_withChange (w : World) (changed : List String) {unknown : List Value} {texts : List String}
    (htexts : unknown.map Value.text? = texts.map some) :
    (w.withChange changed texts).TellsChange (.ref (w.store.size + 1)) changed unknown := by
  let w₁ : World := { w with store := w.store.push (.list (changed.map Value.str).toArray) }
  have hsize : w₁.store.size = w.store.size + 1 := Array.size_push _
  have hnames : w₁.store[w.store.size]? = some (.list (changed.map Value.str).toArray) := Array.getElem?_push_size
  refine ⟨.ref w.store.size, texts, htexts, ?_, w.store.size + 1, rfl, ?_⟩
  · have hkept : (w.withChange changed texts).store[w.store.size]? = some (.list (changed.map Value.str).toArray) :=
      World.get_push hnames _
    simp only [World.list?, hkept]
  · rw [← hsize]
    exact Array.getElem?_push_size

/-- **What is said of changed settings.** The settings in force stay. There is a summary exactly if all names that
are those of no settings are texts. -/
theorem changeSummary_ends (changed : List String) (unknown : List Value) (w : World) :
    let ending := (changeSummary changed unknown).act w
    ending.world.configuration = w.configuration ∧
      ((∃ answer left, ending = .ok answer left) ↔ ∀ key ∈ unknown, key.text?.isSome) ∧
      ∀ answer left, ending = .ok answer left → left.TellsChange answer changed unknown := by
  let w₁ : World := { w with store := w.store.push (.list (changed.map Value.str).toArray) }
  have hsize : w₁.store.size = w.store.size + 1 := Array.size_push _
  have hsummary : ∀ texts : List String,
      (summary (changeOf changed (.ref w.store.size) texts)).act w₁ =
        .ok (.ref (w.store.size + 1)) (w.withChange changed texts) := fun _ => by rw [← hsize]; rfl
  have hnames : (changeSummary changed unknown).act w =
      ((unknown.zipIdx.mapM fun p => joined p.1 p.2) >>= fun texts =>
        summary (changeOf changed (.ref w.store.size) texts)).act w₁ := rfl
  dsimp only
  rw [hnames, Run.bind_act]
  obtain ⟨texts, htexts, hjoined⟩ | ⟨⟨v, hv, hnone⟩, message, hraised⟩ := mapM_joined_act unknown 0 w₁
  · have hall : ∀ key ∈ unknown, key.text?.isSome := by
      intro key hkey
      obtain ⟨s, -, hs⟩ := List.mem_map.1 (htexts ▸ List.mem_map_of_mem hkey)
      rw [← hs]
      rfl
    simp only [hjoined, hsummary]
    refine ⟨rfl, iff_of_true ⟨_, _, rfl⟩ hall, fun answer left h => ?_⟩
    cases h
    exact tellsChange_withChange w changed htexts
  · simp only [hraised]
    refine ⟨rfl, iff_of_false Ending.error_not_ok fun hall => ?_, fun answer left h => ?_⟩
    · have hsome := hall v hv
      rw [hnone] at hsome
      cases hsome
    · exact absurd h (Ending.error_ne_ok answer left)

/-! ## Updating -/

/-- All settings that a mapping names have the values that its values come to; everything else is as before. -/
structure World.IsUpdated (w : World) (updates : List (Value × Value)) (c c' : Configuration) : Prop where
  written : ∀ p ∈ named updates, w.fitting? p = some (c'.settings.get p.1)
  kept : ∀ k, k ∉ (named updates).map (·.1) → c'.settings.get k = c.settings.get k
  recorded_eq : c'.recorded = c.recorded
  file_eq : c'.file = c.file

section

variable {w : World} {c : Configuration} {d : Dict}

theorem isUpdated_setAll (hd : w.IsMapping d) (hfit : w.unfit? d.pairs = none) (c : Configuration) :
    w.IsUpdated d.pairs c { c with settings := c.settings.setAll (w.changes d.pairs) } := by
  have hsettings := World.settings_changes hfit
  refine ⟨fun p hp => ?_, fun k hk => ?_, rfl, rfl⟩
  · obtain ⟨x, hx⟩ := World.fitting?_of_unfit? hfit hp
    have hnodup : ((w.changes d.pairs).map (·.1)).Nodup := hsettings ▸ hd.nodup_named
    rw [hx, Settings.get_setAll_of_mem hnodup (World.mem_changes hp hx)]
  · exact Settings.get_setAll_of_notMem (hsettings ▸ hk) _

theorem placed_pairs (hd : w.IsMapping d) : ∀ p ∈ d.pairs, ∃ place, p.1.key.act w = .ok place w := by
  intro p hp
  obtain ⟨entry, hentry, rfl⟩ := List.mem_map.1 hp
  exact ⟨_, hd.placed entry hentry⟩

/-- What is collected from a mapping whose values fit. -/
def World.collected (w : World) (updates : List (Value × Value)) : OrderedMap String (Setting × SettingValue) :=
  OrderedMap.empty.insertAll ((w.changes updates).map fun p => (p.1.id, p))

/-- It is what is changed, in order. -/
theorem entries_collected (hd : w.IsMapping d) (hfit : w.unfit? d.pairs = none) :
    (w.collected d.pairs).entries = (w.changes d.pairs).map fun p => (p.1.id, p) := by
  have hnodup : (((w.changes d.pairs).map (·.1)).map Setting.id).Nodup := by
    rw [World.settings_changes hfit]
    exact List.Pairwise.map _ (fun _ _ hne heq => hne (Setting.id_injective heq)) hd.nodup_named
  refine OrderedMap.entries_insertAll_of_nodup (m := OrderedMap.empty) ?_
  change (((w.changes d.pairs).map fun p => (p.1.id, p)).map (·.1)).Nodup
  rw [List.map_map] at hnodup ⊢
  exact hnodup

theorem keys_collected (hd : w.IsMapping d) (hfit : w.unfit? d.pairs = none) :
    (w.collected d.pairs).keys = (named d.pairs).map (·.1.id) := by
  have hids := congrArg (List.map Setting.id) (World.settings_changes hfit)
  rw [List.map_map, List.map_map] at hids
  rw [OrderedMap.keys, entries_collected hd hfit, List.map_map]
  exact hids

theorem values_collected (hd : w.IsMapping d) (hfit : w.unfit? d.pairs = none) :
    (w.collected d.pairs).values = w.changes d.pairs := by
  rw [OrderedMap.values, entries_collected hd hfit, List.map_map]
  exact List.map_id _

/-- **Where all values fit they are all written**, and this is said then. -/
theorem updateSettings_fitting (hc : w.configuration = some c) (hd : w.IsMapping d)
    (hfit : w.unfit? d.pairs = none) :
    (updateSettings d.pairs).act w =
      (changeSummary ((named d.pairs).map (·.1.id)) (unnamed d.pairs)).act
        { w with configuration := some { c with settings := c.settings.setAll (w.changes d.pairs) } } := by
  have hconverted : (convertAll d.pairs OrderedMap.empty []).act w =
      .ok (.ok (w.collected d.pairs, unnamed d.pairs)) w := convertAll_fitting (placed_pairs hd) hfit
  simp only [updateSettings, Run.bind_act, hconverted, keys_collected hd hfit, values_collected hd hfit,
    changeSettings, configuration_act hc]
  rfl

/-- **Where a value does not fit nothing is written**, and it is refused. -/
theorem updateSettings_unfit {k : Setting} {v : Value} (hd : w.IsMapping d) (hunfit : w.unfit? d.pairs = some (k, v)) :
    ∃ cls ∈ textErrors, ∃ message, (k.ofValue v).act w = .error (.raised w.store.size) (w.raising cls message) ∧
      (updateSettings d.pairs).act w = (refusal k v w.store.size).act (w.raising cls message) := by
  have hnone : (w.fitting? (k, v)).isNone = true :=
    List.find?_some (p := fun p => (w.fitting? p).isNone) hunfit
  obtain ⟨cls, hcls, message, hraised⟩ := World.act_of_unfit (Option.isNone_iff_eq_none.1 hnone)
  refine ⟨cls, hcls, message, hraised, ?_⟩
  have hconverted : (convertAll d.pairs OrderedMap.empty []).act w = _ :=
    convertAll_unfit (placed_pairs hd) hunfit hraised
  simp only [updateSettings, Run.bind_act, hconverted, map_eq_pure_bind, Run.pure_act]
  cases (refusal k v w.store.size).act (w.raising cls message) <;> rfl

/-- **Settings are updated all at once or not at all, and when there is a summary.** A mapping with a value that does
not fit leaves all settings as they were, and there is a summary, of that value, exactly if it can be refused. Every
other mapping gives each setting that it names the value that its own comes to, and leaves everything else as it was;
there is a summary then, of the settings that it names in their order and of the other names, exactly if all of these
are texts. -/
theorem update_summarised_iff (hc : w.configuration = some c) (hd : w.IsMapping d) :
    let ending := (updateSettings d.pairs).act w
    match w.unfit? d.pairs with
    | some (k, v) => ending.world.configuration = some c ∧
        ((∃ answer left, ending = .ok answer left) ↔ ∃ reason shown, w.Refuses k v reason shown) ∧
        ∀ answer left, ending = .ok answer left →
          ∃ reason shown, w.Refuses k v reason shown ∧ left.Summarises answer (refusalOf k reason shown)
    | none => (∃ c', ending.world.configuration = some c' ∧ w.IsUpdated d.pairs c c') ∧
        ((∃ answer left, ending = .ok answer left) ↔ ∀ key ∈ unnamed d.pairs, key.text?.isSome) ∧
        ∀ answer left, ending = .ok answer left →
          left.TellsChange answer ((named d.pairs).map (·.1.id)) (unnamed d.pairs) := by
  dsimp only
  split
  case h_1 k v hunfit =>
    obtain ⟨cls, hcls, message, hraised, hend⟩ := updateSettings_unfit hd hunfit
    obtain ⟨hkept, hiff, hsays⟩ := refusal_ends hcls hraised
    rw [hend]
    exact ⟨hkept.trans hc, hiff, hsays⟩
  case h_2 hfit =>
    let c' : Configuration := { c with settings := c.settings.setAll (w.changes d.pairs) }
    obtain ⟨hkept, hiff, hsays⟩ :=
      changeSummary_ends ((named d.pairs).map (·.1.id)) (unnamed d.pairs) { w with configuration := some c' }
    rw [updateSettings_fitting hc hd hfit]
    exact ⟨⟨c', hkept, isUpdated_setAll hd hfit c⟩, hiff, hsays⟩

end

/-! ## Updates without a summary -/

/-- A process with the ordinary settings. -/
def ordinaryWorld : World := { configuration := some {} }

theorem not_told_of_le {n : Nat} (h : Nat.pow 10 maxDigits ≤ n) (w : World) :
    ¬ (Ask.text (.int (Int.ofNat n))).Told w := by
  rw [told_int_iff]
  exact Nat.not_lt.2 h

/-- A whole number that has no text. -/
def tooLong : { n : Nat // Nat.pow 10 maxDigits ≤ n } := ⟨Nat.pow 10 maxDigits, Nat.le_refl _⟩

/-- A number without a text does not fit a setting of texts. -/
theorem fitting?_of_not_told {n : Int} {w : World} (h : ¬ (Ask.text (.int n)).Told w) :
    w.fitting? (.renderEngine, .int n) = none := by
  cases hx : w.fitting? (.renderEngine, .int n) with
  | none => rfl
  | some x =>
    have hact : (Value.plain (.int n) >>= fun s => pure (SettingValue.text s) : Run SettingValue).act w = .ok x w :=
      World.act_of_fitting? hx
    rw [Run.bind_act] at hact
    split at hact
    case h_1 s w' hs =>
      cases hact
      exact absurd ⟨s, hs⟩ h
    case h_2 => cases hact

/-- A number without a text does not fit a setting of texts, and it is not refused either: what refuses it displays
it. -/
theorem tooLong_not_summarised :
    ¬ ∃ answer left,
      (updateSettings (Dict.ofTexts [("render_engine", .int (Int.ofNat tooLong.val))]).pairs).act ordinaryWorld =
        .ok answer left := by
  -- nothing more is needed of the number, and it should not be computed
  suffices hany : ∀ n : Int, (∀ w, ¬ (Ask.text (.int n)).Told w) → ¬ ∃ answer left,
      (updateSettings (Dict.ofTexts [("render_engine", .int n)]).pairs).act ordinaryWorld = .ok answer left from
    hany _ (not_told_of_le tooLong.property)
  intro n huntold
  have hmapping : ordinaryWorld.IsMapping (Dict.ofTexts [("render_engine", .int n)]) :=
    ⟨List.pairwise_singleton .., fun entry hentry => by
      obtain rfl := List.mem_singleton.1 hentry
      rfl⟩
  have hnamed : named (Dict.ofTexts [("render_engine", .int n)]).pairs = [(.renderEngine, .int n)] := rfl
  have hunfit : ordinaryWorld.unfit? (Dict.ofTexts [("render_engine", .int n)]).pairs =
      some (.renderEngine, .int n) := by
    rw [World.unfit?, hnamed, List.find?_cons, fitting?_of_not_told (huntold _)]
    rfl
  have h := update_summarised_iff (w := ordinaryWorld) rfl hmapping
  simp only [hunfit] at h
  intro hsummary
  obtain ⟨_, shown, -, hshown⟩ := h.2.1.1 hsummary
  exact huntold _ ⟨shown, hshown⟩

/-- A name that is no text is not listed: there is no summary, though the settings have been changed by then. -/
theorem number_name_not_summarised :
    let ending := (updateSettings [(.str "render_engine", .str "html"), (.int 5, .int 1)]).act ordinaryWorld
    ending.raisedClass? = some "TypeError" ∧
      ending.world.configuration.map (·.settings.get .renderEngine) = some (.text "html") := by
  decide +kernel

end Stepwise
