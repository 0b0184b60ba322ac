import Stepwise.Proofs.Updating
/-!
# Settings that engines can use

There are four ways for a value to become that of a setting: by default, by a variable, by an update and by a reset.
Each gives it a value of the kind that it takes, so that this holds whatever was called (`IsManaged.isTyped`). What
engines read is checked once more, and there the names of engines and of the component macro may not be empty.
`snapshot_iff` says that nothing else can be wrong then.
-/

namespace Stepwise

/-! ## Values of the right kind -/

namespace SettingValue

def isSwitch : SettingValue → Bool
  | text _ => false
  | switch _ => true

theorem exists_text {x : SettingValue} (h : x.isSwitch = false) : ∃ s, x = text s := by
  cases x with
  | text s => exact ⟨s, rfl⟩
  | switch b => cases h

theorem exists_switch {x : SettingValue} (h : x.isSwitch = true) : ∃ b, x = switch b := by
  cases x with
  | text s => cases h
  | switch b => exact ⟨b, rfl⟩

end SettingValue

namespace Setting

/-- A text that fits gives a value of the kind that the setting takes. -/
theorem isSwitch_of_ofText? {k : Setting} {s : String} {x : SettingValue} (h : k.ofText? s = some x) :
    x.isSwitch = k.isSwitch := by
  rw [ofText?] at h
  split at h
  case isTrue hk =>
    obtain ⟨b, -, rfl⟩ := Option.map_eq_some_iff.1 h
    exact hk.symm
  case isFalse hk =>
    cases h
    exact (Bool.eq_false_iff.2 hk).symm

/-- A value that fits is of the kind that the setting takes. -/
theorem isSwitch_of_ofValue {k : Setting} {v : Value} {x : SettingValue} {w w' : World}
    (h : (k.ofValue v).act w = .ok x w') : x.isSwitch = k.isSwitch := by
  unfold ofValue at h
  split at h
  case h_1 s _ =>
    split at h
    case h_1 x' hx' =>
      cases h
      exact isSwitch_of_ofText? hx'
    case h_2 =>
      rw [Run.bind_act] at h
      split at h <;> cases h
  case h_2 =>
    split at h
    case isTrue hk =>
      rw [Run.bind_act] at h
      split at h
      · cases h
        exact hk.symm
      · cases h
    case isFalse hk =>
      rw [Run.bind_act] at h
      split at h
      · cases h
        exact (Bool.eq_false_iff.2 hk).symm
      · cases h

theorem isSwitch_default (k : Setting) : k.default.isSwitch = k.isSwitch := by
  cases k <;> rfl

theorem isSwitch_of_lastOf? {k : Setting} {l : List (String × String)} {x : SettingValue} (h : k.lastOf? l = some x) :
    x.isSwitch = k.isSwitch := by
  obtain ⟨p, -, hp⟩ := List.mem_filterMap.1 (List.mem_of_getLast? h)
  rw [ofPair?] at hp
  split at hp
  case isTrue => exact isSwitch_of_ofText? hp
  case isFalse => cases hp

end Setting

namespace Configuration

/-- Every setting has a value of the kind that it takes. -/
def Typed (c : Configuration) : Prop := ∀ k : Setting, (c.settings.get k).isSwitch = k.isSwitch

variable {c : Configuration}

theorem typed_default : Typed {} := by
  intro k
  cases k <;> rfl

/-- Loading writes what fits. -/
theorem Typed.loaded (hc : c.Typed) (path : String) (content : FileContent) (l : List (String × String)) :
    (c.loaded path content l).Typed := by
  intro k
  have hget : (c.loaded path content l).settings.get k = (k.lastOf? l).getD (c.settings.get k) := c.get_taking l k
  rw [hget]
  cases hlast : k.lastOf? l with
  | none => exact hc k
  | some x => exact Setting.isSwitch_of_lastOf? hlast

/-- Updating writes what was converted. -/
theorem Typed.updated (hc : c.Typed) {w : World} {updates : List (Value × Value)} {c' : Configuration}
    (h : w.IsUpdated updates c c') : c'.Typed := by
  intro k
  by_cases hk : k ∈ (Updates.named updates).map (·.1)
  · obtain ⟨p, hp, rfl⟩ := List.mem_map.1 hk
    exact Setting.isSwitch_of_ofValue (World.act_of_fitting? (h.written p hp))
  · rw [h.kept k hk]
    exact hc k

theorem Typed.reset (hc : c.Typed) (k : Setting) : Typed { c with settings := c.settings.set k k.default } := by
  intro k'
  rw [Settings.get_set]
  split
  case isTrue h => rw [h]; exact k.isSwitch_default
  case isFalse => exact hc k'

end Configuration

/-! ## Calls and what they keep -/

/-- Settings are in force, and each has a value of the kind that it takes. -/
def World.IsTyped (w : World) : Prop := ∃ c, w.configuration = some c ∧ c.Typed

/-- A file that is no text ends the reading before anything is changed. -/
theorem readConfiguration_of_fault (c : Configuration) (path : String) {content : FileContent}
    (h : content.text? = none) (env : List (String × String)) (w : World) :
    ∃ error left, (readConfiguration c path content env).act w = .error (.raised error) left ∧
      left.configuration = w.configuration := by
  cases content with
  | absent | directory => cases h
  | bytes b =>
    rw [FileContent.text?] at h
    cases hb : Text.decodeUtf8 b with
    | ok text =>
      rw [hb] at h
      cases h
    | error fault =>
      have hread : c.readFile path (.bytes b) = .error fault := by rw [Configuration.readFile, hb]
      simp only [readConfiguration, hread]
      exact ⟨_, _, rfl, rfl⟩

/-- What is read first are the defaults and what fits. -/
theorem configuration_act_of_none {w : World} (hw : w.configuration = none) {text : List Char}
    (htext : w.surroundings.file.text? = some text) :
    ∃ log, configuration.act w = .ok
      (Configuration.loaded {} w.surroundings.filePath w.surroundings.file
        (Configuration.sources text w.surroundings.processVariables))
      (w.configured log (Configuration.loaded {} w.surroundings.filePath w.surroundings.file
        (Configuration.sources text w.surroundings.processVariables))) := by
  obtain ⟨log, hread⟩ := readConfiguration_act {} w.surroundings.filePath htext w.surroundings.processVariables w
  refine ⟨log, ?_⟩
  rw [configuration, Run.bind_act, Run.world_act]
  simp only [hw, Run.bind_act, Run.world_act, hread]
  rfl

namespace World.IsTyped

variable {w : World}

theorem of_eq {w' : World} (hw : w.IsTyped) (h : w'.configuration = w.configuration) : w'.IsTyped :=
  hw.imp fun _ hc => ⟨h.trans hc.1, hc.2⟩

theorem of_first {c : Configuration} {left : World} (hw : w.configuration = none)
    (h : Stepwise.configuration.act w = .ok c left) : left.IsTyped := by
  cases htext : w.surroundings.file.text? with
  | some text =>
    obtain ⟨log, hfirst⟩ := configuration_act_of_none hw htext
    rw [hfirst] at h
    cases h
    exact ⟨_, rfl, Configuration.typed_default.loaded _ _ _⟩
  | none =>
    obtain ⟨error, _, hread, -⟩ :=
      readConfiguration_of_fault {} w.surroundings.filePath htext w.surroundings.processVariables w
    rw [Stepwise.configuration, Run.bind_act, Run.world_act] at h
    simp only [hw, Run.bind_act, Run.world_act, hread] at h
    cases h

theorem load (hw : w.IsTyped) (path : String) (content : FileContent) :
    ((loadConfiguration path content).act w).world.IsTyped := by
  obtain ⟨c, hc, htyped⟩ := hw
  cases htext : content.text? with
  | some text =>
    obtain ⟨log, hload⟩ := loadConfiguration_act hc path htext
    rw [hload]
    exact ⟨_, rfl, htyped.loaded _ _ _⟩
  | none =>
    obtain ⟨error, left, hread, hkept⟩ :=
      readConfiguration_of_fault c path htext w.surroundings.processVariables w
    simp only [loadConfiguration, Run.bind_act, configuration_act hc, Run.world_act, hread]
    exact ⟨c, hkept.trans hc, htyped⟩

theorem update (hw : w.IsTyped) {d : Dict} (hd : w.IsMapping d) : ((updateSettings d.pairs).act w).world.IsTyped := by
  obtain ⟨c, hc, htyped⟩ := hw
  cases hunfit : w.unfit? d.pairs with
  | some p =>
    obtain ⟨cls, hcls, message, hraised, hend⟩ := updateSettings_unfit hd hunfit
    rw [hend]
    exact ⟨c, (refusal_ends hcls hraised).1.trans hc, htyped⟩
  | none =>
    rw [updateSettings_fitting hc hd hunfit]
    exact ⟨_, (changeSummary_ends _ _ _).1, htyped.updated (isUpdated_setAll hd hunfit c)⟩

theorem reset (hw : w.IsTyped) (name : String) : ((resetSetting name).act w).world.IsTyped := by
  obtain ⟨c, hc, htyped⟩ := hw
  rw [resetSetting]
  cases Setting.ofId? name with
  | none => exact ⟨c, hc, htyped⟩
  | some k =>
    let c' : Configuration := { c with settings := c.settings.set k k.default }
    have hchanged : (changeSettings fun s => s.set k k.default).act w = .ok () { w with configuration := some c' } := by
      simp only [changeSettings, Run.bind_act, configuration_act hc]
      rfl
    refine ⟨c', ?_, htyped.reset k⟩
    simp only [Run.bind_act, hchanged]
    obtain ⟨shown, hshown⟩ | ⟨cls, -, message, hraised⟩ :=
      (Value.inspects_plain k.default.toValue).act_cases { w with configuration := some c' }
    · simp only [hshown]
      rfl
    · simp only [hraised]
      rfl

end World.IsTyped

/-- What calls lead to, however many there are, and whether they return or raise. Between them everything but the
settings in force may change. -/
inductive World.IsManaged : World → Prop
  | constructed {w left : World} {c : Configuration} : w.configuration = none →
      Stepwise.configuration.act w = .ok c left → IsManaged left
  | loaded {w : World} (path : String) (content : FileContent) : IsManaged w →
      IsManaged ((loadConfiguration path content).act w).world
  | updated {w : World} {d : Dict} : w.IsMapping d → IsManaged w → IsManaged ((updateSettings d.pairs).act w).world
  | reset {w : World} (name : String) : IsManaged w → IsManaged ((resetSetting name).act w).world
  | elsewhere {w w' : World} : w'.configuration = w.configuration → IsManaged w → IsManaged w'

/-- **Whatever was called, every setting has a value of the kind that it takes.** -/
theorem World.IsManaged.isTyped {w : World} (h : w.IsManaged) : w.IsTyped := by
  induction h with
  | constructed hw hfirst => exact .of_first hw hfirst
  | loaded path content _ ih => exact ih.load path content
  | updated hd _ ih => exact ih.update hd
  | reset name _ ih => exact ih.reset name
  | elsewhere h _ ih => exact ih.of_eq h

/-! ## Checked settings -/

/-- The settings that hold names. -/
def Setting.isName : Setting → Bool
  | renderEngine | scriptEngine | componentName => true
  | _ => false

namespace Configuration

variable {c : Configuration}

/-- Every setting that holds a name has one. -/
def Named (c : Configuration) : Prop := ∀ k : Setting, k.isName → c.settings.get k ≠ .text ""

/-- All settings by name, and where they were last read from. -/
def shown (c : Configuration) : List (String × Value) :=
  Setting.all.map (fun k => (k.id, (c.settings.get k).toValue)) ++
    [("env_file", match c.file with | some f => .str f | none => .null)]

theorem given_id (c : Configuration) (k : Setting) : c.given k.id = some (c.settings.get k).toValue := by
  have hne : (k.id == "env_file") = false := by cases k <;> decide
  rw [given, hne, if_neg Bool.false_ne_true, Setting.ofId?_id]
  rfl

end Configuration

open EngineSettings

/-- A field whose value passes its check has that value and no fault. -/
theorem field_of_ok {α : Type} {given : String → Option Value} {name : String} {v : Value}
    {f : Value → Except FieldFault α} {x : α} (hgiven : given name = some v) (hf : f v = .ok x) (default : α) :
    field given name default f = (x, []) := by
  simp only [field, hgiven, hf]

theorem checkText_zero (s : String) : checkText 0 (.str s) = .ok s := by
  have hcheck : checkText 0 (.str s) = if s.length < 0 then .error .tooShort else .ok s := rfl
  rw [hcheck, if_neg (Nat.not_lt_zero _)]

theorem checkText_one (s : String) : checkText 1 (.str s) = if s = "" then .error .tooShort else .ok s := by
  have hcheck : checkText 1 (.str s) = if s.length < 1 then .error .tooShort else .ok s := rfl
  simp only [hcheck, Nat.lt_one_iff, String.length_eq_zero_iff]

/-- A name is a fault exactly when it is empty. -/
theorem field_name {given : String → Option Value} {name s : String} (hgiven : given name = some (.str s))
    (default : String) :
    field given name default (checkText 1) = if s = "" then (default, [(name, .tooShort)]) else (s, []) := by
  simp only [field, hgiven, checkText_one]
  by_cases hs : s = ""
  · simp only [if_pos hs]
  · simp only [if_neg hs]

/-- **Only empty names are faults.** -/
theorem check_given {c : Configuration} (hc : c.Typed) :
    (c.Named → ∃ s, check c.given = .ok s ∧ s.fields = c.shown) ∧
    (¬ c.Named → ∃ faults, check c.given = .error faults) := by
  obtain ⟨a₁, h₁⟩ := SettingValue.exists_text (hc .renderEngine)
  obtain ⟨a₂, h₂⟩ := SettingValue.exists_text (hc .scriptEngine)
  obtain ⟨a₃, h₃⟩ := SettingValue.exists_text (hc .componentName)
  obtain ⟨b₁, h₄⟩ := SettingValue.exists_switch (hc .autoescape)
  obtain ⟨b₂, h₅⟩ := SettingValue.exists_switch (hc .strictUndefined)
  obtain ⟨b₃, h₆⟩ := SettingValue.exists_switch (hc .runInThread)
  obtain ⟨a₄, h₇⟩ := SettingValue.exists_text (hc .logLevel)
  have hgiven : ∀ {k x}, c.settings.get k = x → c.given k.id = some x.toValue := fun {k x} h => h ▸ c.given_id k
  have f₁ := field_name (hgiven h₁) "jinja"
  have f₂ := field_name (hgiven h₂) "python"
  have f₃ := field_name (hgiven h₃) "component"
  have f₄ := field_of_ok (hgiven h₄) (f := checkSwitch) rfl true
  have f₅ := field_of_ok (hgiven h₅) (f := checkSwitch) rfl false
  have f₆ := field_of_ok (hgiven h₆) (f := checkSwitch) rfl true
  have f₇ := field_of_ok (hgiven h₇) (checkText_zero a₄) "INFO"
  have f₈ : field c.given "env_file" none checkOptional = (c.file, []) := by
    refine field_of_ok (v := match c.file with | some f => .str f | none => .null) rfl ?_ none
    cases c.file with
    | none => rfl
    | some f => exact congrArg (Except.map some) (checkText_zero f)
  simp only [Setting.id] at f₁ f₂ f₃ f₄ f₅ f₆ f₇
  have hname : ∀ {k a}, c.settings.get k = .text a → (c.settings.get k ≠ .text "" ↔ a ≠ "") := by
    intro k a h
    rw [h, Ne, SettingValue.text.injEq]
  have hnamed : c.Named ↔ a₁ ≠ "" ∧ a₂ ≠ "" ∧ a₃ ≠ "" := by
    rw [← hname h₁, ← hname h₂, ← hname h₃]
    refine ⟨fun h => ⟨h _ rfl, h _ rfl, h _ rfl⟩, ?_⟩
    rintro ⟨n₁, n₂, n₃⟩ k hk
    cases k with
    | renderEngine => exact n₁
    | scriptEngine => exact n₂
    | componentName => exact n₃
    | _ => cases hk
  unfold check
  simp only [f₁, f₂, f₃, f₄, f₅, f₆, f₇, f₈]
  rw [hnamed]
  constructor
  · rintro ⟨n₁, n₂, n₃⟩
    simp only [if_neg n₁, if_neg n₂, if_neg n₃]
    refine ⟨_, rfl, ?_⟩
    simp only [fields, Configuration.shown, Setting.all, List.map_cons, List.map_nil, h₁, h₂, h₃, h₄, h₅, h₆, h₇]
    rfl
  · intro hempty
    by_cases n₁ : a₁ = ""
    · simp only [if_pos n₁]
      exact ⟨_, rfl⟩
    by_cases n₂ : a₂ = ""
    · simp only [if_neg n₁, if_pos n₂]
      exact ⟨_, rfl⟩
    by_cases n₃ : a₃ = ""
    · simp only [if_neg n₁, if_neg n₂, if_pos n₃]
      exact ⟨_, rfl⟩
    exact absurd ⟨n₁, n₂, n₃⟩ hempty

/-- Where each member has a result, all of them have. -/
theorem mapM_has_result {α β : Type} {f : α → Run β} (hf : ∀ a w, ∃ b left, (f a).act w = .ok b left) (l : List α)
    (w : World) : ∃ bs left, (l.mapM f).act w = .ok bs left := by
  induction l generalizing w with
  | nil => exact ⟨[], w, rfl⟩
  | cons a rest ih =>
    obtain ⟨b, middle, hfirst⟩ := hf a w
    obtain ⟨bs, left, hrest⟩ := ih middle
    refine ⟨b :: bs, left, ?_⟩
    simp only [List.mapM_cons, Run.bind_act, hfirst, hrest, Run.pure_act]

/-- Faults are raised as one error. -/
theorem make_act_of_error {given : String → Option Value} {faults : List (String × FieldFault)}
    (h : check given = .error faults) (w : World) :
    ∃ error left, (make given).act w = .error (.raised error) left ∧ left.errorClass? error = some faultClass := by
  obtain ⟨details, middle, hdetails⟩ :=
    mapM_has_result (f := fun fault => Run.list [.str fault.1, .str (FieldFault.code fault.2)])
      (fun _ _ => ⟨_, _, rfl⟩) faults w
  obtain ⟨all, middle', hall⟩ : ∃ all middle', (Run.list details).act middle = .ok all middle' := ⟨_, _, rfl⟩
  obtain ⟨error, left, hraised, hclass⟩ :=
    Run.raiseWith_act (α := EngineSettings) faultClass [] [("details", all)] middle'
  refine ⟨error, left, ?_, hclass⟩
  simp only [make, h, Run.bind_act, hdetails, hall, hraised]

/-- **When settings can be used.** Whatever was called and however it ended, settings are in force, and each has a
value of the kind that it takes. Engines are given a snapshot of them exactly if no name is empty, and then it holds
the same values; otherwise it is refused. -/
theorem snapshot_iff {w : World} (hw : w.IsManaged) :
    ∃ c, w.configuration = some c ∧ c.Typed ∧
      let ending := (configuration >>= Configuration.engineSettings).act w
      ((∃ s left, ending = .ok s left) ↔ c.Named) ∧
      (∀ s left, ending = .ok s left → left = w ∧ s.fields = c.shown) ∧
      (¬ c.Named → ∃ error left, ending = .error (.raised error) left ∧ left.errorClass? error = some faultClass) := by
  obtain ⟨c, hc, htyped⟩ := hw.isTyped
  refine ⟨c, hc, htyped, ?_⟩
  obtain ⟨hok, hfault⟩ := check_given htyped
  simp only [Run.bind_act, configuration_act hc, Configuration.engineSettings]
  by_cases hnamed : c.Named
  · obtain ⟨s, hs, hfields⟩ := hok hnamed
    have hmake : (make c.given).act w = .ok s w := by rw [make, hs]; rfl
    simp only [hmake]
    refine ⟨iff_of_true ⟨s, w, rfl⟩ hnamed, fun s' left h => ?_, fun h => absurd hnamed h⟩
    cases h
    exact ⟨rfl, hfields⟩
  · obtain ⟨faults, hfaults⟩ := hfault hnamed
    obtain ⟨error, left, hraised, hclass⟩ := make_act_of_error hfaults w
    simp only [hraised]
    refine ⟨iff_of_false Ending.error_not_ok hnamed, fun s left h => absurd h (Ending.error_ne_ok s left), fun _ => ?_⟩
    exact ⟨error, left, rfl, hclass⟩

/-! ## Names that became empty -/

/-- A process with a variable that leaves nothing of a name. -/
def blankWorld : World := { surroundings := { processVariables := [("JINX_RENDER_ENGINE", " ")] } }

/-- A blank text fits a setting of texts, so that it is taken at once; then there is nothing that can be used. -/
theorem blank_name_not_usable :
    ∃ c w, configuration.act blankWorld = .ok c w ∧
      ¬ ∃ s left, (configuration >>= Configuration.engineSettings).act w = .ok s left := by
  obtain ⟨log, hfirst⟩ := @configuration_act_of_none blankWorld rfl [] rfl
  refine ⟨_, _, hfirst, ?_⟩
  obtain ⟨c, hc, -, hiff, -⟩ := snapshot_iff (.constructed rfl hfirst)
  rw [hiff]
  refine fun hnamed => hnamed .renderEngine rfl ?_
  cases hc
  decide +kernel

/-- A name can be updated to the empty text, and is refused from then on. -/
theorem emptied_name_refused :
    let left := ((updateSettings [(.str "render_engine", .str "")]).act ordinaryWorld).world
    ((configuration >>= Configuration.engineSettings).act left).raisedClass? = some faultClass := by
  decide +kernel

end Stepwise
