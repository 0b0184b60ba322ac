import Stepwise.Proofs.Accepting
import Stepwise.Proofs.Layering
import Stepwise.Recipe.Tool
/-!
# What a tool asks for, and what it hands on

A recipe is described by going through its declarations: each declares one parameter, a bare name requires it, and
what is said about a parameter mentions its default. `Declared.Lists` is what this has found after any number of
declarations. So a tool knows what it requires as long as the defaults that it mentions have texts, and then it runs
its recipe exactly when all of that is given (`Tool.exists_runs_iff`); the run begins with every parameter in its
context.
-/

namespace Stepwise

open Run (Inspects)

theorem nodup_eraseDups {α : Type} [BEq α] [LawfulBEq α] (l : List α) : l.eraseDups.Nodup := by
  induction l using List.reverseRecOn with
  | nil => exact List.nodup_nil
  | append_singleton l a ih =>
    rw [OrderedMap.eraseDups_concat]
    split
    case isTrue => exact ih
    case isFalse h =>
      refine List.nodup_append.2 ⟨ih, by simp, fun b hb c hc => ?_⟩
      rintro rfl
      exact h (List.mem_eraseDups.1 (List.mem_singleton.1 hc ▸ hb))

/-! ## What is declared -/

/-- Nothing and the empty text are not mentioned as defaults. -/
def Value.isSilent : Value → Bool
  | .null => true
  | v => v.text? == some ""

namespace Input

/-- The name that a declaration requires. -/
def requiredName? : Input → Option String
  | required name => some name
  | defaults _ => none

/-- The name of the parameter that a declaration declares: the first of its names. -/
def parameterName? (i : Input) : Option String := i.names.head?

/-- The default that is mentioned: that of the first name. -/
def mentioned? : Input → Option Value
  | required _ => none
  | defaults values => values.entries.head?.bind fun p => if p.2.isSilent then none else some p.2

theorem parameterName?_of_requiredName? {i : Input} {name : String} (h : i.requiredName? = some name) :
    i.parameterName? = some name := by
  cases i with
  | required other => exact h
  | defaults values => cases h

end Input

namespace Recipe

/-- The names of the parameters, each once, in the order of their first declarations. -/
def parameterNames (r : Recipe) : List String := (r.inputs.filterMap Input.parameterName?).eraseDups

/-- The defaults that are mentioned have texts. -/
def Describable (w : World) (r : Recipe) : Prop :=
  ∀ i ∈ r.inputs, ∀ v, i.mentioned? = some v → (Ask.text v).Told w

theorem required_eq (r : Recipe) : r.required = (r.inputs.filterMap Input.requiredName?).eraseDups := by
  rw [required]
  induction r.inputs using List.reverseRecOn with
  | nil => rfl
  | append_singleton inputs i ih =>
    rw [List.foldl_append, ih, List.filterMap_append]
    cases i with
    | required name =>
      have hone : [Input.required name].filterMap Input.requiredName? = [name] := rfl
      rw [hone, OrderedMap.eraseDups_concat]
      simp only [List.foldl_cons, List.foldl_nil, List.contains_iff_mem, List.mem_eraseDups]
    | defaults values => exact (congrArg List.eraseDups (List.append_nil _)).symm

theorem nodup_required (r : Recipe) : r.required.Nodup := by
  rw [required_eq]
  exact nodup_eraseDups _

theorem required_subset (r : Recipe) : r.required ⊆ r.parameterNames := by
  intro name hname
  rw [required_eq, List.mem_eraseDups, List.mem_filterMap] at hname
  obtain ⟨i, hi, hrequired⟩ := hname
  rw [parameterNames, List.mem_eraseDups, List.mem_filterMap]
  exact ⟨i, hi, Input.parameterName?_of_requiredName? hrequired⟩

end Recipe

/-! ## Going through declarations -/

variable {w w' : World}

theorem parameterNote_eq (name : String) (default : Value) :
    parameterNote name default =
      if default.isSilent then pure ("Parameter: " ++ name)
      else do return "Parameter: " ++ name ++ " (default: " ++ (← default.plain) ++ ")" := by
  cases default <;> rfl

theorem inspects_parameterNote (name : String) (default : Value) : (parameterNote name default).Inspects textErrors := by
  rw [parameterNote_eq]
  split
  · exact .pure _
  · exact default.inspects_plain.bind fun _ => .pure _

/-- There is something to say about a parameter exactly when its default has a text, if it is mentioned. -/
theorem parameterNote_told_iff (name : String) (default : Value) :
    (∃ note, (parameterNote name default).act w = .ok note w) ↔
      (default.isSilent = false → (Ask.text default).Told w) := by
  rw [parameterNote_eq]
  cases hsilent : default.isSilent with
  | true => exact iff_of_true ⟨_, rfl⟩ (nomatch ·)
  | false =>
    rw [if_neg Bool.false_ne_true]
    constructor
    · rintro ⟨note, h⟩ -
      obtain ⟨s, hs, -⟩ := default.inspects_plain.bind_ok_iff.1 h
      exact ⟨s, hs⟩
    · intro h
      obtain ⟨s, hs⟩ := h rfl
      exact ⟨_, default.inspects_plain.bind_ok_iff.2 ⟨s, hs, rfl⟩⟩

namespace Declared

theorem inspects_declare (found : Declared) (i : Input) : (found.declare i).Inspects textErrors := by
  cases i with
  | required name => exact (inspects_parameterNote name _).bind fun _ => .pure _
  | defaults values =>
    unfold declare
    dsimp only
    split
    · exact .pure _
    · exact (inspects_parameterNote _ _).bind fun _ => .pure _

/-- What has been found in these declarations: their parameters and what they require. -/
structure Lists (found : Declared) (inputs : List Input) : Prop where
  keys : found.notes.keys = (inputs.filterMap Input.parameterName?).eraseDups
  required : found.required = (inputs.filterMap Input.requiredName?).eraseDups

theorem lists_nil : Lists {} [] := ⟨rfl, rfl⟩

/-- A note is made at the place of its parameter. -/
theorem keys_insert {notes : OrderedMap String String} {names : List String} (h : notes.keys = names.eraseDups)
    (name note : String) : (notes.insert name note).keys = (names ++ [name]).eraseDups :=
  OrderedMap.keys_insertAll h [(name, note)]

/-- **One more declaration is found.** -/
theorem Lists.declare {found next : Declared} {inputs : List Input} (h : found.Lists inputs) {i : Input}
    (hnext : (found.declare i).act w = .ok next w') : next.Lists (inputs ++ [i]) := by
  cases i with
  | required name =>
    obtain ⟨note, -, hpure⟩ := (inspects_parameterNote name _).bind_ok_iff.1 hnext
    cases hpure
    refine ⟨?_, ?_⟩
    · rw [List.filterMap_append]
      exact keys_insert h.keys name note
    · have hone : [Input.required name].filterMap Input.requiredName? = [name] := rfl
      rw [List.filterMap_append, hone, OrderedMap.eraseDups_concat, h.required]
      simp only [List.contains_iff_mem, List.mem_eraseDups]
  | defaults values =>
    have hrequired : next.required = found.required → next.required =
        ((inputs ++ [Input.defaults values]).filterMap Input.requiredName?).eraseDups := fun heq => by
      rw [List.filterMap_append, heq, h.required]
      exact congrArg List.eraseDups (List.append_nil _).symm
    obtain ⟨_ | ⟨p, rest⟩⟩ := values
    · cases hnext
      refine ⟨?_, hrequired rfl⟩
      rw [List.filterMap_append, h.keys]
      exact congrArg List.eraseDups (List.append_nil _).symm
    · obtain ⟨note, -, hpure⟩ := (inspects_parameterNote p.1 p.2).bind_ok_iff.1 hnext
      cases hpure
      refine ⟨?_, hrequired rfl⟩
      rw [List.filterMap_append]
      exact keys_insert h.keys p.1 note

/-- It is, if what it mentions has a text. -/
theorem declare_ok_iff (found : Declared) (i : Input) :
    (∃ next, (found.declare i).act w = .ok next w) ↔ ∀ v, i.mentioned? = some v → (Ask.text v).Told w := by
  cases i with
  | required name => exact iff_of_true ⟨_, rfl⟩ fun v h => nomatch h
  | defaults values =>
    obtain ⟨_ | ⟨p, rest⟩⟩ := values
    · exact iff_of_true ⟨_, rfl⟩ fun v h => nomatch h
    · have hmentioned : (∀ v, Input.mentioned? (.defaults ⟨p :: rest⟩) = some v → (Ask.text v).Told w) ↔
          (p.2.isSilent = false → (Ask.text p.2).Told w) := by
        have hfirst : Input.mentioned? (.defaults ⟨p :: rest⟩) = if p.2.isSilent then none else some p.2 := rfl
        rw [hfirst]
        cases p.2.isSilent with
        | true => exact iff_of_true (fun v h => nomatch h) (nomatch ·)
        | false => exact ⟨fun h _ => h p.2 rfl, fun h v hv => Option.some.inj hv ▸ h rfl⟩
      rw [hmentioned, ← parameterNote_told_iff p.1]
      constructor
      · rintro ⟨next, h⟩
        obtain ⟨note, hnote, -⟩ := (inspects_parameterNote p.1 p.2).bind_ok_iff.1 h
        exact ⟨note, hnote⟩
      · rintro ⟨note, hnote⟩
        exact ⟨_, (inspects_parameterNote p.1 p.2).bind_ok_iff.2 ⟨note, hnote, rfl⟩⟩

/-! ### All declarations -/

theorem inspects_foldlM (found : Declared) (inputs : List Input) :
    (inputs.foldlM declare found).Inspects textErrors := by
  induction inputs generalizing found with
  | nil => exact .pure found
  | cons i rest ih => exact (inspects_declare found i).bind ih

theorem Lists.foldlM {found next : Declared} {before rest : List Input} (h : found.Lists before)
    (hnext : (rest.foldlM Declared.declare found).act w = .ok next w') : next.Lists (before ++ rest) := by
  induction rest generalizing found before with
  | nil =>
    cases hnext
    rwa [List.append_nil]
  | cons i rest ih =>
    obtain ⟨middle, hmiddle, hrest⟩ := (inspects_declare found i).bind_ok_iff.1 hnext
    have hall := ih (h.declare hmiddle) hrest
    rwa [List.append_assoc] at hall

theorem foldlM_ok_iff (found : Declared) (inputs : List Input) :
    (∃ next, (inputs.foldlM declare found).act w = .ok next w) ↔
      ∀ i ∈ inputs, ∀ v, i.mentioned? = some v → (Ask.text v).Told w := by
  induction inputs generalizing found with
  | nil => exact iff_of_true ⟨found, rfl⟩ (List.forall_mem_nil _)
  | cons i rest ih =>
    rw [List.forall_mem_cons, ← declare_ok_iff found]
    constructor
    · rintro ⟨next, h⟩
      obtain ⟨middle, hmiddle, hrest⟩ := (inspects_declare found i).bind_ok_iff.1 h
      exact ⟨⟨middle, hmiddle⟩, (ih middle).1 ⟨next, hrest⟩⟩
    · rintro ⟨⟨middle, hmiddle⟩, hrest⟩
      obtain ⟨next, hnext⟩ := (ih middle).2 hrest
      exact ⟨next, (inspects_declare found i).bind_ok_iff.2 ⟨middle, hmiddle, hnext⟩⟩

end Declared

namespace Recipe

theorem inspects_describe (r : Recipe) : r.describe.Inspects textErrors :=
  (Declared.inspects_foldlM {} r.inputs).bind fun _ => .pure _

/-- **A recipe can be described exactly when the defaults that are mentioned have texts.** -/
theorem describe_ok_iff (r : Recipe) : (∃ d, r.describe.act w = .ok d w) ↔ r.Describable w := by
  rw [Describable, ← Declared.foldlM_ok_iff {}, describe]
  constructor
  · rintro ⟨d, h⟩
    obtain ⟨found, hfound, -⟩ := (Declared.inspects_foldlM {} r.inputs).bind_ok_iff.1 h
    exact ⟨found, hfound⟩
  · rintro ⟨found, hfound⟩
    exact ⟨_, (Declared.inspects_foldlM {} r.inputs).bind_ok_iff.2 ⟨found, hfound, rfl⟩⟩

/-- **What a descriptor says**: the parameters are the first names of the declarations, each once and in the order
in which they are first declared, and the bare names are required. -/
theorem describe_says {r : Recipe} {d : Descriptor} (h : r.describe.act w = .ok d w') :
    d.parameters.keys = r.parameterNames ∧ d.required = r.required := by
  obtain ⟨found, hfound, hpure⟩ := (Declared.inspects_foldlM {} r.inputs).bind_ok_iff.1 h
  cases hpure
  have hlists := Declared.lists_nil.foldlM hfound
  exact ⟨hlists.keys, hlists.required.trans r.required_eq.symm⟩

end Recipe

/-! ## Engines that are made -/

open Run (Retaining)

theorem retaining_readConfiguration (c : Configuration) (path : String) (content : FileContent)
    (env : List (String × String)) : (readConfiguration c path content env).Retaining := by
  unfold readConfiguration
  extract_lets bytes rest
  have hrest : (rest ⟨⟩).Retaining := by
    dsimp only [rest]
    split
    · exact .raiseWith _ _ _
    · exact (Retaining.forM (.log .warning) _).bind fun _ => (Retaining.forM (.log .warning) _).bind fun _ => .pure _
  split
  · exact (Retaining.log _ _).bind fun _ => hrest
  · exact hrest

theorem retaining_configuration : configuration.Retaining := by
  refine Retaining.world.bind fun w => ?_
  split
  · exact .pure _
  · refine Retaining.world.bind fun w => ?_
    exact (retaining_readConfiguration _ _ _ _).bind fun c => Retaining.bind (fun w => .refl w) fun _ => .pure c

theorem retaining_makeSettings (given : String → Option Value) : (EngineSettings.make given).Retaining := by
  unfold EngineSettings.make
  split
  · exact .pure _
  · refine (Retaining.mapM (fun _ => .new _) _).bind fun details => ?_
    exact (Retaining.new _).bind fun all => .raiseWith _ _ _

theorem retaining_shared : Toolchain.shared.Retaining := by
  refine Retaining.world.bind fun w => ?_
  split
  · exact .pure _
  · refine retaining_configuration.bind fun c => (retaining_makeSettings _).bind fun settings => ?_
    exact (Retaining.alloc _).bind fun a => Retaining.bind (fun w => .refl w) fun _ => .pure a

/-- **Making an engine changes no object.** -/
theorem Engine.retaining_make : Engine.make.Retaining := by
  unfold make
  dsimp only
  refine retaining_configuration.bind fun c => (retaining_makeSettings _).bind fun settings => ?_
  refine retaining_shared.bind fun toolchain => ?_
  split
  · exact .pure _
  · exact .raiseWith _ _ _

/-! ## Calling a tool -/

/-- The mapping tells its members itself: no class of a script does it with a method of its own. -/
def World.TellsMembers (w : World) (a : Addr) : Prop := (ownMethod? (.ref a) "__contains__").act w = .ok none w

namespace Tool

/-- A mapping of no class of a script tells its members itself. -/
theorem tellsMembers_of_ordinary {a : Addr} {f : DictFlavour} {d : Dict} (h : w.store[a]? = some (.dict f d))
    (hf : ∀ c, f ≠ .derived c) : w.TellsMembers a := by
  rw [World.TellsMembers, ownMethod?, Run.bind_ok (Run.load_act h)]
  cases f with
  | derived c => exact absurd rfl (hf c)
  | _ => rfl

/-- Membership of a text in a mapping is that of its key. -/
theorem isMember_act (m : Machine) {a : Addr} {f : DictFlavour} {d : Dict} (h : w.store[a]? = some (.dict f d))
    (hown : w.TellsMembers a) (name : String) :
    (isMember m (.str name) (.ref a)).act w = .ok (d.contains (Dict.textKey name)) w := by
  have hpayload : (Value.ref a).payload.act w = .ok (.ref a) w := by
    rw [Value.payload, Run.bind_ok (Run.load_act h)]
    rfl
  rw [isMember, Run.bind_ok hown]
  dsimp only
  rw [Run.bind_ok hpayload]
  dsimp only
  rw [Run.bind_ok (Run.load_act h)]
  rfl

theorem filterAuxM_act {α : Type} {f : α → Run Bool} {b : α → Bool} (hf : ∀ x, (f x).act w = .ok (b x) w) (l kept : List α) :
    (l.filterAuxM f kept).act w = .ok ((l.filter b).reverse ++ kept) w := by
  induction l generalizing kept with
  | nil => rfl
  | cons x rest ih =>
    rw [List.filterAuxM, Run.bind_ok (hf x), ih, List.filter_cons]
    cases b x with
    | true => simp
    | false => simp

theorem filterM_act {α : Type} {f : α → Run Bool} {b : α → Bool} (hf : ∀ x, (f x).act w = .ok (b x) w) (l : List α) :
    (l.filterM f).act w = .ok (l.filter b) w := by
  rw [List.filterM, Run.bind_ok (filterAuxM_act hf l [])]
  simp

/-- The required names that a mapping does not have. -/
def lacking (t : Tool) (given : Dict) : List String :=
  t.recipe.required.filter fun name => !given.contains (Dict.textKey name)

/-- **A tool that can be described knows what is missing.** -/
theorem missing_act (m : Machine) {t : Tool} {a : Addr} {f : DictFlavour} {given : Dict}
    (h : w.store[a]? = some (.dict f given)) (hown : w.TellsMembers a) (hdescribed : t.recipe.Describable w) :
    (t.missing m (.ref a)).act w = .ok (t.lacking given) w := by
  obtain ⟨d, hd⟩ := t.recipe.describe_ok_iff.2 hdescribed
  have hmember (name : String) : (do return !(← isMember m (.str name) (.ref a)) : Run Bool).act w =
      .ok (!given.contains (Dict.textKey name)) w := by
    rw [Run.bind_ok (isMember_act m h hown name)]
    rfl
  rw [missing, Run.bind_ok hd, (Recipe.describe_says hd).2]
  exact filterM_act hmember _

/-- The world when it has been told that a tool is invoked. -/
def invoking (w : World) (t : Tool) : World :=
  { w with log := w.log.push ⟨.info, "Invoking jinx tool '" ++ t.name ++ "'"⟩ }

/-- The call is a run of the recipe: the tool has this engine, or has got it newly, and ends as the report of a run
that begins in this world. -/
structure Runs (p : Platform) (t : Tool) (arguments extra : Value) (w : World) (e : Engine) (begun : World) : Prop where
  engine : t.summon.act (invoking w t) = .ok e begun
  ends : (t.call p arguments extra).act w = (do
    let result ← report p e t.recipe arguments extra
    return (result, { t with engine := some e }) : Run (ToolResult × Tool)).act begun

theorem retaining_summon (t : Tool) : t.summon.Retaining := by
  unfold summon
  split
  · exact .pure _
  · exact Engine.retaining_make

/-- A call that is a run tells so. -/
theorem Runs.told {p : Platform} {t : Tool} {arguments extra : Value} {e : Engine} {begun : World}
    (h : t.Runs p arguments extra w e begun) :
    (invoking w t).log.toList <+: ((t.call p arguments extra).act w).world.log.toList := by
  have hsummon := t.summon.grows (invoking w t)
  rw [h.engine] at hsummon
  rw [h.ends]
  exact hsummon.log_prefix.trans ( World.Grows.log_prefix (Run.grows _ begun))

/-- So a call after which nothing new has been told is none. -/
theorem not_runs_of_log {p : Platform} {t : Tool} {arguments extra : Value} {e : Engine} {begun : World}
    (hlog : ((t.call p arguments extra).act w).world.log = w.log) : ¬ t.Runs p arguments extra w e begun := by
  intro h
  have hlength := h.told.length_le
  rw [hlog, invoking, Array.toList_push, List.length_append] at hlength
  exact absurd hlength (Nat.not_le.2 (Nat.lt_succ_self _))

variable {p : Platform} {t : Tool} {a : Addr} {f : DictFlavour} {given : Dict} {extra : Value}

/-- Without a descriptor the call raises its error, and nothing runs. -/
theorem call_undescribed (p : Platform) (arguments extra : Value) (hnot : ¬ t.recipe.Describable w) :
    ∃ cls ∈ textErrors, ∃ message,
      (t.call p arguments extra).act w = .error (.raised w.store.size) (w.raising cls message) := by
  obtain ⟨d, hd⟩ | ⟨cls, hcls, message, hraised⟩ := t.recipe.inspects_describe.act_cases w
  · exact absurd (t.recipe.describe_ok_iff.1 ⟨d, hd⟩) hnot
  · refine ⟨cls, hcls, message, ?_⟩
    have hmissing : (t.missing p.machine arguments).act w = .error (.raised w.store.size) (w.raising cls message) := by
      rw [missing, Run.bind_act, hraised]
    rw [call, Run.bind_act, hmissing]

/-- What is missing is answered, and nothing runs. -/
theorem call_lacking (p : Platform) (harguments : w.store[a]? = some (.dict f given)) (hown : w.TellsMembers a)
    (extra : Value) (hdescribed : t.recipe.Describable w) (hlacking : t.lacking given ≠ []) :
    (t.call p (.ref a) extra).act w = .ok (.lacking (t.lacking given), t) w := by
  rw [call, Run.bind_ok (missing_act p.machine harguments hown hdescribed)]
  cases hnames : t.lacking given with
  | nil => exact absurd hnames hlacking
  | cons name rest => rfl

/-- Where nothing is missing, the tool is invoked. -/
theorem call_invokes (p : Platform) (harguments : w.store[a]? = some (.dict f given)) (hown : w.TellsMembers a)
    (extra : Value) (hdescribed : t.recipe.Describable w) (hlacking : t.lacking given = []) :
    (t.call p (.ref a) extra).act w = (t.invoke p (.ref a) extra).act w := by
  rw [call, Run.bind_ok (missing_act p.machine harguments hown hdescribed), hlacking]

/-- And where it gets an engine then, its recipe is run. -/
theorem Runs.of_summon (p : Platform) (harguments : w.store[a]? = some (.dict f given)) (hown : w.TellsMembers a)
    (extra : Value) (hdescribed : t.recipe.Describable w) (hlacking : t.lacking given = []) {e : Engine} {begun : World}
    (hengine : t.summon.act (invoking w t) = .ok e begun) : t.Runs p (.ref a) extra w e begun := by
  refine ⟨hengine, ?_⟩
  rw [call_invokes p harguments hown extra hdescribed hlacking, invoke]
  exact Run.bind_ok hengine

/-- **A tool runs its recipe exactly when it can be described, nothing is missing, and there is an engine.** -/
theorem exists_runs_iff (p : Platform) (harguments : w.store[a]? = some (.dict f given)) (hown : w.TellsMembers a)
    (extra : Value) :
    (∃ e begun, t.Runs p (.ref a) extra w e begun) ↔
      t.recipe.Describable w ∧ t.lacking given = [] ∧ ∃ e begun, t.summon.act (invoking w t) = .ok e begun := by
  constructor
  · rintro ⟨e, begun, hruns⟩
    have hdescribed : t.recipe.Describable w := by
      refine Classical.byContradiction fun hnot => ?_
      obtain ⟨cls, -, message, hcall⟩ := call_undescribed p (.ref a) extra hnot
      exact not_runs_of_log (by rw [hcall]; rfl) hruns
    refine ⟨hdescribed, Classical.byContradiction fun hlacking => ?_, e, begun, hruns.engine⟩
    exact not_runs_of_log (by rw [call_lacking p harguments hown extra hdescribed hlacking]; rfl) hruns
  · rintro ⟨hdescribed, hlacking, e, begun, hengine⟩
    exact ⟨e, begun, .of_summon p harguments hown extra hdescribed hlacking hengine⟩

/-- A name that is required is given, or is missing. -/
theorem lacking_eq_nil_iff : t.lacking given = [] ↔ ∀ name ∈ t.recipe.required, given.contains (Dict.textKey name) = true := by
  rw [lacking, List.filter_eq_nil_iff]
  simp only [Bool.not_eq_true, Bool.not_eq_false']

end Tool

/-- A mapping that is kept is one later on. -/
theorem World.Maps.kept {v : Value} {d : Dict} (h : w.Maps v d) (hkept : w.Retains w') (hgrown : w.Grows w') :
    w'.Maps v d := by
  cases h with
  | nothing => exact .nothing
  | mapping ha hnodup hkeys => exact .mapping (hkept _ _ ha) hnodup fun entry he => (hkeys entry he).grows hgrown

namespace Engine

/-- **Every parameter is in the context with which a run begins**, if what is required is given. -/
theorem openRun_holds (p : Platform) (recipe : Recipe) {inputs extra : Value} {ins ext : Dict} (hin : w.Maps inputs ins)
    (hext : w.Maps extra ext) (hrequired : ∀ name ∈ recipe.required, ins.contains (Dict.textKey name) = true) :
    ∃ context left, (openRun p recipe inputs extra).act w = .ok context left ∧
      ∀ name ∈ recipe.parameterNames, (left.item? context (Dict.textKey name)).isSome = true := by
  refine ⟨_, _, openRun_act hin.layer hext.layer, fun name hname => ?_⟩
  have hkeys := (firstContents_begins recipe hin.nodup hext.nodup).inOrder.mem_keys_iff (k := Dict.textKey name)
  rw [World.item?, World.contents?, opened_get, Option.bind_some, Dict.get?, Option.isSome_map]
  refine OrderedMap.contains_iff.2 (hkeys.2 ?_)
  rw [Recipe.parameterNames, List.mem_eraseDups, List.mem_filterMap] at hname
  obtain ⟨i, hi, hfirst⟩ := hname
  simp only [List.cons_append, List.map_cons, List.map_append, List.mem_cons, List.mem_append]
  cases i with
  | required other =>
    -- a bare name has no default, so that it must have been given
    cases hfirst
    have hneeded : name ∈ recipe.required := by
      rw [Recipe.required_eq, List.mem_eraseDups, List.mem_filterMap]
      exact ⟨_, hi, rfl⟩
    have hgiven := OrderedMap.contains_iff.1 (hrequired name hneeded)
    rw [OrderedMap.keys] at hgiven
    obtain ⟨entry, hentry, hkey⟩ := List.mem_map.1 hgiven
    exact .inr (.inl (.inr (List.mem_map.2 ⟨_, List.mem_map.2 ⟨entry, hentry, rfl⟩, hkey⟩)))
  | defaults values =>
    obtain ⟨p, hp, rfl⟩ := List.mem_map.1 (List.mem_of_mem_head? hfirst)
    have hdeclared : (Dict.textKey p.1, Value.str p.1) ∈ recipe.declaredNames :=
      List.mem_flatMap.2 ⟨_, hi, List.mem_map.2 ⟨p, hp, rfl⟩⟩
    exact .inr (.inl (.inl (List.mem_map.2 ⟨_, hdeclared, rfl⟩)))

end Engine

namespace Tool

/-- **Schema, required list and execution agree, as long as the defaults that are mentioned have texts.** Whatever the
recipe, a descriptor has the first names of the declarations as its parameters, each once and in the order of first
declaration, and requires the bare names, which are among them. Over any mappings, with arguments that tell their
members themselves, a call of the tool runs the recipe exactly when there is a descriptor, every required name is
given, and there is an engine; and the run then begins with a context that has every parameter. -/
theorem call_agrees (p : Platform) (t : Tool) {a : Addr} {f : DictFlavour} {given ext : Dict} {extra : Value}
    (harguments : w.store[a]? = some (.dict f given)) (hown : w.TellsMembers a) (hgiven : w.Maps (.ref a) given)
    (hextra : w.Maps extra ext) :
    (t.recipe.required.Nodup ∧ t.recipe.required ⊆ t.recipe.parameterNames ∧
      ((∃ d, t.recipe.describe.act w = .ok d w) ↔ t.recipe.Describable w) ∧
      ∀ d left, t.recipe.describe.act w = .ok d left →
        d.parameters.keys = t.recipe.parameterNames ∧ d.required = t.recipe.required) ∧
    ((∃ e begun, t.Runs p (.ref a) extra w e begun) ↔
      t.recipe.Describable w ∧ (∀ name ∈ t.recipe.required, given.contains (Dict.textKey name) = true) ∧
        ∃ e begun, t.summon.act (invoking w t) = .ok e begun) ∧
    ∀ e begun, t.Runs p (.ref a) extra w e begun →
      ∃ context left, (Engine.openRun p t.recipe (.ref a) extra).act begun = .ok context left ∧
        ∀ name ∈ t.recipe.parameterNames, (left.item? context (Dict.textKey name)).isSome = true := by
  have hruns := exists_runs_iff (t := t) p harguments hown extra
  rw [lacking_eq_nil_iff] at hruns
  refine ⟨⟨t.recipe.nodup_required, t.recipe.required_subset, t.recipe.describe_ok_iff, fun _ _ => Recipe.describe_says⟩,
    hruns, fun e begun hrun => ?_⟩
  -- the arguments are in the world where the run begins what they were in the call
  have hgrows := t.summon.grows (invoking w t)
  have hretains := t.retaining_summon (invoking w t)
  rw [hrun.engine] at hgrows hretains
  have htold : w.Retains (invoking w t) := .refl w
  have hkept : w.Retains begun := htold.trans hretains
  have hgrown : w.Grows begun := (World.Grows.report w _).trans hgrows
  exact Engine.openRun_holds p t.recipe (hgiven.kept hkept hgrown) (hextra.kept hkept hgrown) (hruns.1 ⟨e, begun, hrun⟩).2.1

/-! ## A tool that runs and one that does not -/

/-- A recipe that requires a name and then gives it a default. -/
def asking : Recipe :=
  ⟨"asking", "", [.required "q", .defaults ⟨[("x", .int 1), ("y", .int 2)]⟩, .defaults ⟨[("q", .int 3)]⟩], [], .null⟩

/-- A world with a toolchain and with arguments. -/
def askedWorld : World :=
  { store := #[.toolchain { settings := {}, loader := Loader.ordinary }, .dict .plain (Dict.ofTexts [("q", .str "cats")])] }

/-- Given what it requires, the tool runs, and its context has the parameters; a second default is none of them. -/
theorem call_agrees_of_asking : ∃ e begun context left,
    Runs Engine.barePlatform ⟨asking, some Engine.bare⟩ (.ref 1) .null askedWorld e begun ∧
    (Engine.openRun Engine.barePlatform asking (.ref 1) .null).act begun = .ok context left ∧
    (left.item? context (Dict.textKey "q")).isSome = true ∧ (left.item? context (Dict.textKey "x")).isSome = true := by
  have harguments : askedWorld.store[1]? = some (.dict .plain (Dict.ofTexts [("q", .str "cats")])) := rfl
  have hgiven : askedWorld.Maps (.ref 1) (Dict.ofTexts [("q", .str "cats")]) := by
    refine .mapping harguments (by decide +kernel) fun entry he => ?_
    cases List.mem_singleton.1 he
    exact fun _ _ => rfl
  have hdescribed : asking.Describable askedWorld := by
    intro i hi v hv
    simp only [asking, List.mem_cons, List.not_mem_nil, or_false] at hi
    obtain rfl | rfl | rfl := hi
    · cases hv
    · cases hv
      exact ⟨"1", rfl⟩
    · cases hv
      exact ⟨"3", rfl⟩
  obtain ⟨-, hiff, hholds⟩ := call_agrees Engine.barePlatform ⟨asking, some Engine.bare⟩ harguments
    (tellsMembers_of_ordinary harguments fun _ h => nomatch h) hgiven (.nothing : askedWorld.Maps .null Dict.empty)
  obtain ⟨e, begun, hruns⟩ := hiff.2 ⟨hdescribed, by decide +kernel, Engine.bare, _, rfl⟩
  obtain ⟨context, left, hopen, hall⟩ := hholds e begun hruns
  exact ⟨e, begun, context, left, hruns, hopen, hall "q" (by decide +kernel), hall "x" (by decide +kernel)⟩

/-- A recipe with a default that has too many digits to be shown. -/
def overlong : Recipe := ⟨"overlong", "", [.defaults ⟨[("n", .int (Int.ofNat (Nat.pow 10 maxDigits)))]⟩], [], .null⟩

/-- **A tool that requires nothing need not run**: what cannot be described is not called. -/
theorem overlong_not_run :
    (∀ name ∈ overlong.required, (Dict.ofTexts [("q", .str "cats")]).contains (Dict.textKey name) = true) ∧
    ¬ ∃ e begun, Runs Engine.barePlatform ⟨overlong, some Engine.bare⟩ (.ref 1) .null askedWorld e begun := by
  refine ⟨fun name h => (nomatch h), fun hruns => ?_⟩
  have harguments : askedWorld.store[1]? = some (.dict .plain (Dict.ofTexts [("q", .str "cats")])) := rfl
  obtain ⟨hdescribed, -, -⟩ := (exists_runs_iff Engine.barePlatform harguments
    (tellsMembers_of_ordinary harguments fun _ h => nomatch h) .null).1 hruns
  have hlong (n : Nat) (hn : Nat.pow 10 maxDigits ≤ n) : ¬ (Ask.text (.int (Int.ofNat n))).Told askedWorld :=
    fun htold => absurd ((told_int_iff _).1 htold) (Nat.not_lt.2 hn)
  exact hlong _ (Nat.le_refl _) (hdescribed _ List.mem_cons_self _ rfl)

end Tool

end Stepwise
