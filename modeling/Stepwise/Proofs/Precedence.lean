import Stepwise.Settings.Update
/-!
# Where a setting has its value from

Loading takes the variables of a file, line by line, and then those of the process, and a text that does not fit
its setting is passed over. `load_precedence` says what that comes to, without an order of steps: the variable of
the process counts if its text fits, else the last line of the file whose text fits, else the setting stays as it
was. Loading the same a second time changes nothing.
-/

namespace Stepwise

/-! ## Variables and settings -/

namespace Setting

theorem ofVariable?_variableName (k : Setting) : ofVariable? k.variableName = some k := by
  cases k <;> decide +kernel

/-- Settings have different variables. -/
theorem ofVariable?_eq_some_iff {name : String} {k : Setting} : ofVariable? name = some k ↔ name = k.variableName := by
  refine ⟨fun h => ?_, fun h => h ▸ ofVariable?_variableName k⟩
  have hname := List.find?_some (p := fun k' : Setting => k'.variableName == name) h
  exact (eq_of_beq hname).symm

/-- The variable of a setting belongs to this program. -/
theorem startsWith_variableName (k : Setting) :
    Text.startsWith variableStart.toList k.variableName.toList = true := by
  cases k <;> decide +kernel

/-- The value that a variable gives to a setting, if it is the variable of the setting and its text fits. -/
def ofPair? (k : Setting) (p : String × String) : Option SettingValue :=
  if p.1 = k.variableName then k.ofText? p.2 else none

/-- The value that the last fitting one of some variables gives to a setting. -/
def lastOf? (k : Setting) (l : List (String × String)) : Option SettingValue := (l.filterMap k.ofPair?).getLast?

theorem lastOf?_append (k : Setting) (l l' : List (String × String)) :
    k.lastOf? (l ++ l') = (k.lastOf? l').or (k.lastOf? l) := by
  rw [lastOf?, List.filterMap_append, List.getLast?_append]
  rfl

end Setting

namespace Settings

/-- Settings with the same values are the same. -/
theorem ext_get {s s' : Settings} (h : ∀ k, s.get k = s'.get k) : s = s' := by
  obtain ⟨a, b, c, d, e, f, g⟩ := s
  obtain ⟨a', b', c', d', e', f', g'⟩ := s'
  obtain rfl : a = a' := h .renderEngine
  obtain rfl : b = b' := h .scriptEngine
  obtain rfl : c = c' := h .componentName
  obtain rfl : d = d' := h .autoescape
  obtain rfl : e = e' := h .strictUndefined
  obtain rfl : f = f' := h .runInThread
  obtain rfl : g = g' := h .logLevel
  rfl

/-- Settings after a variable: its text counts if it fits. -/
def take (s : Settings) (p : String × String) : Settings :=
  match Setting.ofVariable? p.1 with
  | none => s
  | some k =>
    match k.ofText? p.2 with
    | some v => s.set k v
    | none => s

theorem get_take (s : Settings) (p : String × String) (k : Setting) :
    (s.take p).get k = (k.ofPair? p).getD (s.get k) := by
  rw [take, Setting.ofPair?]
  cases hp : Setting.ofVariable? p.1 with
  | none =>
    have hne : p.1 ≠ k.variableName := fun h => by
      rw [Setting.ofVariable?_eq_some_iff.2 h] at hp
      cases hp
    rw [if_neg hne]
    rfl
  | some k' =>
    rw [Setting.ofVariable?_eq_some_iff] at hp
    by_cases hk : k = k'
    · subst hk
      rw [if_pos hp]
      cases hv : k.ofText? p.2 with
      | none => simp only [hv]; rfl
      | some v => simp only [hv, get_set, if_pos]; rfl
    · have hne : p.1 ≠ k.variableName := fun h => hk <| by
        have hsome := Setting.ofVariable?_eq_some_iff.2 h
        rw [hp, Setting.ofVariable?_variableName] at hsome
        exact (Option.some.inj hsome).symm
      rw [if_neg hne]
      cases hv : k'.ofText? p.2 with
      | none => simp only [hv]; rfl
      | some v => simp only [hv, get_set, if_neg hk]; rfl

/-- **Of many variables the last fitting one counts.** -/
theorem get_foldl_take (s : Settings) (l : List (String × String)) (k : Setting) :
    ((l.foldl take s).get k) = (k.lastOf? l).getD (s.get k) := by
  induction l generalizing s with
  | nil => rfl
  | cons p r ih =>
    rw [List.foldl_cons, ih, get_take, Setting.lastOf?, Setting.lastOf?, List.filterMap_cons]
    cases k.ofPair? p with
    | none => rfl
    | some v =>
      rw [List.getLast?_cons]
      cases (r.filterMap k.ofPair?).getLast? <;> rfl

end Settings

/-! ## The two sources -/

namespace Setting

/-- The value that the process gives to a setting: its variable must be there, and its text must fit. -/
def ofProcess? (k : Setting) (env : List (String × String)) : Option SettingValue :=
  ((OrderedMap.mk env).find? k.variableName).bind k.ofText?

/-- The lines of a file that are about a setting. -/
def linesIn (k : Setting) (text : List Char) : List (List Char) :=
  (Text.splitChars '\n' (Configuration.unifyLineEnds text)).filter fun line =>
    (Configuration.variableOfLine? line).any fun p => p.1 = k.variableName

/-- The value that a file gives to a setting: that of the last line about it whose text fits. -/
def ofFile? (k : Setting) (text : List Char) : Option SettingValue :=
  ((k.linesIn text).filterMap fun line =>
    (Configuration.variableOfLine? line).bind fun p => k.ofText? p.2).getLast?

theorem lastOf?_variablesOfText (k : Setting) (text : List Char) :
    k.lastOf? (Configuration.variablesOfText text) = k.ofFile? text := by
  rw [lastOf?, Configuration.variablesOfText, ofFile?, linesIn, List.filterMap_filterMap, List.filterMap_filter]
  refine congrArg (fun f => (List.filterMap f _).getLast?) (funext fun line => ?_)
  cases Configuration.variableOfLine? line with
  | none => rfl
  | some p => by_cases h : p.1 = k.variableName <;> simp [ofPair?, h]

/-- A process gives what it gives in whatever order its variables stand. -/
theorem ofProcess?_perm (k : Setting) {env env' : List (String × String)} (hperm : env'.Perm env)
    (henv : (env.map (·.1)).Nodup) : k.ofProcess? env' = k.ofProcess? env :=
  congrArg (Option.bind · _) (OrderedMap.find?_perm hperm henv _)

/-- Where every name stands once, the last fitting variable is the variable. -/
theorem lastOf?_of_nodup (k : Setting) {env : List (String × String)} (henv : (env.map (·.1)).Nodup) :
    k.lastOf? env = k.ofProcess? env := by
  change (env.filterMap k.ofPair?).getLast? = (OrderedMap.findIn k.variableName env).bind k.ofText?
  induction env with
  | nil => rfl
  | cons p r ih =>
    obtain ⟨name, text⟩ := p
    rw [List.map_cons, List.nodup_cons] at henv
    by_cases hname : name = k.variableName
    · subst hname
      have hrest : r.filterMap k.ofPair? = [] := by
        refine List.filterMap_eq_nil_iff.2 fun p hp => if_neg fun h => henv.1 ?_
        exact List.mem_map.2 ⟨p, hp, h⟩
      have hfirst : k.ofPair? (k.variableName, text) = k.ofText? text := if_pos rfl
      rw [List.filterMap_cons, hfirst, hrest, OrderedMap.findIn, if_pos (beq_self_eq_true _), Option.bind_some]
      cases k.ofText? text <;> rfl
    · have hfirst : k.ofPair? (name, text) = none := if_neg hname
      rw [List.filterMap_cons, hfirst, OrderedMap.findIn, if_neg (by simpa using Ne.symm hname)]
      exact ih henv.2

theorem lastOf?_ownVariables (k : Setting) (env : List (String × String)) :
    k.lastOf? (Configuration.ownVariables env) = k.lastOf? env := by
  rw [lastOf?, lastOf?, Configuration.ownVariables, List.filterMap_filter]
  refine congrArg (fun f => (List.filterMap f env).getLast?) (funext fun p => ?_)
  by_cases h : p.1 = k.variableName
  · have hown : Text.startsWith variableStart.toList p.1.toList = true := by
      rw [h]
      exact k.startsWith_variableName
    exact if_pos hown
  · have hnone : k.ofPair? p = none := if_neg h
    rw [hnone, ite_self]

end Setting

/-! ## Loading -/

/-- The text that is read at a path; where there is no file there is none. -/
def FileContent.text? : FileContent → Option (List Char)
  | .absent | .directory => some []
  | .bytes b => (Text.decodeUtf8 b).toOption

/-- The path of the last file that was read, when there is this at a path. -/
def FileContent.lastRead (path : String) (before : Option String) : FileContent → Option String
  | .absent | .directory => before
  | .bytes _ => some path

namespace Configuration

/-- A configuration that has taken variables. -/
def taking (c : Configuration) (l : List (String × String)) : Configuration :=
  { c with settings := l.foldl Settings.take c.settings, recorded := c.recorded.insertAll l }

theorem takeVariable_eq (c : Configuration) (name text : String) :
    (c.takeVariable name text).1 = c.taking [(name, text)] := by
  rw [takeVariable, applyVariable, taking, List.foldl_cons, List.foldl_nil, Settings.take]
  cases Setting.ofVariable? name with
  | none => rfl
  | some k =>
    cases hv : k.ofText? text with
    | none => simp only [hv]; rfl
    | some v => simp only [hv]; rfl

theorem takeVariables_eq (c : Configuration) (l : List (String × String)) : (c.takeVariables l).1 = c.taking l := by
  rw [takeVariables]
  generalize ([] : List String) = reports
  induction l generalizing c reports with
  | nil => rfl
  | cons p r ih =>
    obtain ⟨name, text⟩ := p
    rw [List.foldl_cons, ih, takeVariable_eq]
    rfl

theorem taking_append (c : Configuration) (l l' : List (String × String)) :
    c.taking (l ++ l') = (c.taking l).taking l' := by
  rw [taking, taking, taking, List.foldl_append, OrderedMap.insertAll_append]

theorem get_taking (c : Configuration) (l : List (String × String)) (k : Setting) :
    (c.taking l).settings.get k = (k.lastOf? l).getD (c.settings.get k) :=
  Settings.get_foldl_take c.settings l k

/-- **Taking the same variables a second time changes nothing.** -/
theorem taking_taking (c : Configuration) (l : List (String × String)) : (c.taking l).taking l = c.taking l := by
  have hsettings : ((c.taking l).taking l).settings = (c.taking l).settings := by
    refine Settings.ext_get fun k => ?_
    rw [get_taking, get_taking]
    cases k.lastOf? l <;> rfl
  have hrecorded : ((c.taking l).taking l).recorded = (c.taking l).recorded :=
    c.recorded.insertAll_insertAll l
  calc (c.taking l).taking l
      = ⟨((c.taking l).taking l).settings, ((c.taking l).taking l).recorded, c.file⟩ := rfl
    _ = c.taking l := by rw [hsettings, hrecorded]; rfl

theorem nodup_ownVariables {env : List (String × String)} (henv : (env.map (·.1)).Nodup) :
    ((ownVariables env).map (·.1)).Nodup :=
  henv.sublist (List.filter_sublist.map _)

/-- The variables that are taken from a file and a process, in order. -/
def sources (text : List Char) (env : List (String × String)) : List (String × String) :=
  variablesOfText text ++ ownVariables env

/-- What is recorded is what the process has, or what was there when the file had been taken. -/
theorem find?_recorded_sources (c : Configuration) (text : List Char) {env : List (String × String)}
    (henv : (env.map (·.1)).Nodup) (name : String) :
    (c.taking (sources text env)).recorded.find? name =
      ((OrderedMap.mk (ownVariables env)).find? name).or ((c.taking (variablesOfText text)).recorded.find? name) := by
  rw [sources, taking_append]
  exact OrderedMap.find?_insertAll_of_nodup (nodup_ownVariables henv) _ name

theorem find?_recorded_perm (c : Configuration) (text : List Char) {env env' : List (String × String)}
    (hperm : env'.Perm env) (henv : (env.map (·.1)).Nodup) (name : String) :
    (c.taking (sources text env')).recorded.find? name = (c.taking (sources text env)).recorded.find? name := by
  have henv' : (env'.map (·.1)).Nodup := (hperm.map _).nodup_iff.2 henv
  have hown : (ownVariables env').Perm (ownVariables env) := hperm.filter _
  have hsame : (OrderedMap.mk (ownVariables env')).find? name = (OrderedMap.mk (ownVariables env)).find? name :=
    OrderedMap.find?_perm hown (nodup_ownVariables henv) name
  rw [find?_recorded_sources c text henv', find?_recorded_sources c text henv, hsame]

/-- A configuration behind a file at a path and a process. -/
def loaded (c : Configuration) (path : String) (content : FileContent) (l : List (String × String)) : Configuration :=
  { c.taking l with file := content.lastRead path c.file }

theorem loaded_append (c : Configuration) (path : String) (content : FileContent) (l l' : List (String × String)) :
    c.loaded path content (l ++ l') = (c.loaded path content l).taking l' := by
  rw [loaded, taking_append]
  rfl

/-- **Loading the same a second time changes nothing.** -/
theorem loaded_loaded (c : Configuration) (path : String) (content : FileContent) (l : List (String × String)) :
    (c.loaded path content l).loaded path content l = c.loaded path content l := by
  have htaken : (c.loaded path content l).taking l =
      { (c.taking l).taking l with file := content.lastRead path c.file } := rfl
  rw [loaded, htaken, taking_taking]
  cases content <;> rfl

theorem readFile_of_text (c : Configuration) (path : String) {content : FileContent} {text : List Char}
    (htext : content.text? = some text) :
    ∃ reports, c.readFile path content =
      .ok (c.loaded path content (variablesOfText text), reports) := by
  cases content with
  | absent | directory =>
    cases htext
    exact ⟨[], rfl⟩
  | bytes b =>
    rw [FileContent.text?] at htext
    cases hb : Text.decodeUtf8 b with
    | error fault =>
      rw [hb] at htext
      cases htext
    | ok decoded =>
      rw [hb] at htext
      cases htext
      refine ⟨(c.takeVariables (variablesOfText text)).2, ?_⟩
      rw [readFile, hb, loaded, ← takeVariables_eq]
      rfl

end Configuration

/-- Reports only add to the log. -/
theorem forM_log_act (level : Level) (reports : List String) (w : World) :
    ∃ log, (reports.forM (Run.log level)).act w = .ok () { w with log } := by
  induction reports generalizing w with
  | nil => exact ⟨w.log, rfl⟩
  | cons r rest ih => exact ih { w with log := w.log.push ⟨level, r⟩ }

/-- A world in which only reports and the settings in force are others. -/
def World.configured (w : World) (log : Array LogRecord) (c : Configuration) : World :=
  { w with log, configuration := some c }

/-- **A file that is a text and the variables of the process are read to the end.** -/
theorem readConfiguration_act (c : Configuration) (path : String) {content : FileContent} {text : List Char}
    (htext : content.text? = some text) (env : List (String × String)) (w : World) :
    ∃ log, (readConfiguration c path content env).act w =
      .ok (c.loaded path content (Configuration.sources text env)) { w with log } := by
  obtain ⟨reports, hread⟩ := c.readFile_of_text path htext
  let c₁ : Configuration := c.loaded path content (Configuration.variablesOfText text)
  have hrest : ∀ w : World, ∃ log, (do
      reports.forM (Run.log .warning)
      (c₁.readProcess env).2.forM (Run.log .warning)
      return (c₁.readProcess env).1 : Run Configuration).act w =
        .ok (c.loaded path content (Configuration.sources text env)) { w with log } := by
    intro w
    obtain ⟨log, h⟩ := forM_log_act .warning reports w
    obtain ⟨log', h'⟩ := forM_log_act .warning (c₁.readProcess env).2 { w with log }
    refine ⟨log', ?_⟩
    simp only [Run.bind_act, h, h', Run.pure_act]
    rw [Configuration.readProcess, Configuration.takeVariables_eq, Configuration.sources, Configuration.loaded_append]
  cases content with
  | absent | directory =>
    simp only [readConfiguration, hread]
    exact hrest w
  | bytes b =>
    simp only [readConfiguration, hread]
    exact hrest { w with log := w.log.push _ }

/-- The settings in force are not read again. -/
theorem configuration_act {w : World} {c : Configuration} (hc : w.configuration = some c) :
    configuration.act w = .ok c w := by
  rw [configuration, Run.bind_act, Run.world_act]
  simp only [hc, Run.pure_act]

/-- **Loading over settings in force changes them and adds reports**, and nothing else. -/
theorem loadConfiguration_act {w : World} {c : Configuration} (hc : w.configuration = some c) (path : String)
    {content : FileContent} {text : List Char} (htext : content.text? = some text) :
    ∃ log, (loadConfiguration path content).act w = .ok () (w.configured log
      (c.loaded path content (Configuration.sources text w.surroundings.processVariables))) := by
  obtain ⟨log, hread⟩ := readConfiguration_act c path htext w.surroundings.processVariables w
  refine ⟨log, ?_⟩
  simp only [loadConfiguration, Run.bind_act, configuration_act hc, Run.world_act, hread]
  rfl

namespace World

/-- The world in which the process was started with other variables. -/
def withVariables (w : World) (env : List (String × String)) : World :=
  { w with surroundings := { w.surroundings with processVariables := env } }

/-- Loading ends, and this configuration is in force then. -/
def Loads (w : World) (path : String) (content : FileContent) (c : Configuration) (left : World) : Prop :=
  (loadConfiguration path content).act w = .ok () left ∧ left.configuration = some c

end World

/-- **The process goes before the file, and the file before what was**, each as far as its text fits. Over any
settings in force, with a file that is a text or none, and over any variables of the process, loading ends. Then every
setting has the value of its variable in the process if that fits it, else that of the last line about it that fits,
else the one it had. What was recorded and each setting are the same in whatever order the process has its variables,
and a setting is the same whatever stands in lines that are not about it. Loading once more changes nothing. -/
theorem load_precedence {w : World} {c : Configuration} {path : String} {content : FileContent} {text : List Char}
    (hc : w.configuration = some c) (htext : content.text? = some text)
    (henv : (w.surroundings.processVariables.map (·.1)).Nodup) :
    ∃ c' left, w.Loads path content c' left ∧
      (∀ k : Setting, c'.settings.get k =
        ((k.ofProcess? w.surroundings.processVariables).or (k.ofFile? text)).getD (c.settings.get k)) ∧
      (∀ env, env.Perm w.surroundings.processVariables → ∃ c'' left',
        (w.withVariables env).Loads path content c'' left' ∧ c''.settings = c'.settings ∧
          ∀ name, c''.recorded.find? name = c'.recorded.find? name) ∧
      (∀ (k : Setting) (other : FileContent) (text' : List Char), other.text? = some text' →
        k.linesIn text' = k.linesIn text →
        ∃ c'' left', w.Loads path other c'' left' ∧ c''.settings.get k = c'.settings.get k) ∧
      ∃ again, left.Loads path content c' again := by
  have hget : ∀ (k : Setting) (t : List Char) {env : List (String × String)}, (env.map (·.1)).Nodup →
      (c.taking (Configuration.sources t env)).settings.get k =
        ((k.ofProcess? env).or (k.ofFile? t)).getD (c.settings.get k) := by
    intro k t env hnames
    rw [Configuration.get_taking, Configuration.sources, Setting.lastOf?_append, Setting.lastOf?_ownVariables,
      Setting.lastOf?_of_nodup k hnames, Setting.lastOf?_variablesOfText]
  obtain ⟨log, hload⟩ := loadConfiguration_act hc path htext
  refine ⟨_, _, ⟨hload, rfl⟩, fun k => hget k text henv, fun env hperm => ?_, fun k other text' htext' hlines => ?_, ?_⟩
  · have hnames : (env.map (·.1)).Nodup := (hperm.map _).nodup_iff.2 henv
    obtain ⟨log', hload'⟩ := loadConfiguration_act (w := w.withVariables env) hc path htext
    refine ⟨_, _, ⟨hload', rfl⟩, Settings.ext_get fun k => ?_, fun name => ?_⟩
    · refine (hget k text hnames).trans ?_
      rw [k.ofProcess?_perm hperm henv]
      exact (hget k text henv).symm
    · exact c.find?_recorded_perm text hperm henv name
  · obtain ⟨log', hload'⟩ := loadConfiguration_act hc path htext'
    refine ⟨_, _, ⟨hload', rfl⟩, (hget k text' henv).trans ?_⟩
    rw [Setting.ofFile?, hlines]
    exact (hget k text henv).symm
  · obtain ⟨log', hagain⟩ := loadConfiguration_act (w := w.configured log _) rfl path htext
    refine ⟨_, hagain, congrArg some ?_⟩
    exact c.loaded_loaded path content _

/-! ## Texts that do not fit -/

/-- A process with a variable that does not fit its setting and one that does. -/
def undecided : World :=
  { configuration := some {}
    surroundings := { processVariables :=
      [("JINX_SCRIPT_RUN_IN_THREAD", "sometimes"), ("JINX_RENDER_ENGINE", "tsx")] } }

/-- Behind the fitting line about a setting stands one that does not fit. -/
def undecidedFile : List Char :=
  "JINX_SCRIPT_RUN_IN_THREAD = 'no'\nJINX_RENDER_ENGINE=html\nJINX_SCRIPT_RUN_IN_THREAD=maybe".toList

/-- What does not fit hides neither the line before it nor the file. -/
theorem unfit_texts_hide_nothing :
    ∃ c left, undecided.Loads ".env" (.bytes (Text.encodeUtf8 (String.ofList undecidedFile))) c left ∧
      c.settings.get .runInThread = .switch false ∧ c.settings.get .renderEngine = .text "tsx" := by
  have htext : (FileContent.bytes (Text.encodeUtf8 (String.ofList undecidedFile))).text? = some undecidedFile := by
    decide +kernel
  have henv : (undecided.surroundings.processVariables.map (·.1)).Nodup := by decide
  obtain ⟨c, left, hload, hget, -⟩ := @load_precedence undecided {} ".env" _ _ rfl htext henv
  refine ⟨c, left, hload, ?_, ?_⟩
  · rw [hget]
    decide +kernel
  · rw [hget]
    decide +kernel

end Stepwise
