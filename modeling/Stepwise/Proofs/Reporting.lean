import Stepwise.Proofs.Accessors
import Stepwise.Proofs.Describing
import Stepwise.Proofs.Output
/-!
# When a tool tells of a failure

A tool knows of a failed step only by the text that the failure left as the output. `Engine.LastChange` says what
changed the output last in a run: the code of a step, or the report of a failure. As long as no code leaves a text
like that of a report, the output at the end tells which of the two it was (`Engine.tells_of_runSteps`), and the tool
answers so if it asks a context whose ways of answering no script has replaced (`Tool.call_reports`).
-/

namespace Stepwise

/-- **The text of a failed step is known by its beginning**, whatever the step and the message. -/
theorem isStepError_stepErrorText (step message : String) : isStepError (.str (stepErrorText step message)) = true := by
  have hstarts : stepErrorStart.toList <+: (stepErrorText step message).toList := by
    simp only [stepErrorText, String.toList_append, List.append_assoc]
    exact List.prefix_append _ _
  exact String.startsWith_string_iff.2 hstarts

namespace World

/-- The output of a context, if there is one. -/
def output? (w : World) (context : Addr) : Option Value := w.item? context (Dict.textKey Context.outputKey)

/-- The output tells of no failed step. -/
def IsSilent (w : World) (context : Addr) : Prop := (w.output? context).any isStepError = false

instance (w : World) (context : Addr) : Decidable (w.IsSilent context) := inferInstanceAs (Decidable (_ = _))

end World

namespace Engine

variable {p : Platform} {e : Engine} {context : Addr} {w w' : World}

/-! ## The last change -/

/-- A change of the output: by the code of a step, or by the report of its failure. -/
inductive Change where
  | own
  | reported (step : Step) (message : String)

/-- What changes the output last in a step. Its code can write it or remove it, and the report of a failure comes
after all that. -/
inductive StepChange (p : Platform) (e : Engine) (context : Addr) (step : Step) (w : World) : Option Change → Prop
  | nothing {left : World} : (attempt p e context step).act w = .ok () left →
      left.output? context = w.output? context → StepChange p e context step w none
  | own {left : World} : (attempt p e context step).act w = .ok () left →
      left.output? context ≠ w.output? context → StepChange p e context step w (some .own)
  | reported {error : Addr} {left : World} {message : String} :
      (attempt p e context step).act w = .error (.raised error) left →
      (errorMessage error).act left = .ok message left → StepChange p e context step w (some (.reported step message))

/-- What changes the output last in a run: of two steps that change it, the later one. -/
inductive LastChange (p : Platform) (e : Engine) (context : Addr) : World → List Step → Option Change → Prop
  | none (w : World) : LastChange p e context w [] none
  | next {w w' : World} {step : Step} {rest : List Step} {first last : Option Change} :
      StepChange p e context step w first → (e.runStep p context step).act w = .ok () w' →
      LastChange p e context w' rest last → LastChange p e context w (step :: rest) (last.or first)

/-- No code leaves a text like that of a report as the output, unless it was there. -/
def Honest (p : Platform) (e : Engine) (context : Addr) : List Step → World → Prop
  | [], _ => True
  | step :: rest, w =>
      (((attempt p e context step).act w).world.output? context = w.output? context ∨
        ((attempt p e context step).act w).world.IsSilent context) ∧
      Honest p e context rest ((e.runStep p context step).act w).world

/-- What the output is, by what changed it last. -/
def Tells (context : Addr) (w w' : World) : Option Change → Prop
  | none => w'.output? context = w.output? context
  | some .own => w'.IsSilent context
  | some (.reported step message) => w'.output? context = some (.str (stepErrorText step.name message))

/-- What the rest of a run does not change is what the step left. -/
theorem Tells.trans {middle : World} {first last : Option Change} (hfirst : Tells context w middle first)
    (hlast : Tells context middle w' last) : Tells context w w' (last.or first) := by
  cases last with
  | none =>
    have hkept : w'.output? context = middle.output? context := hlast
    cases first with
    | none => exact hkept.trans hfirst
    | some change =>
      cases change with
      | own =>
        change (w'.output? context).any isStepError = false
        rw [hkept]
        exact hfirst
      | reported step message => exact hkept.trans hfirst
  | some change => cases change <;> exact hlast

/-- Where nothing told of a failed step before, the output tells of one exactly if a report changed it last. -/
theorem Tells.failed_iff {last : Option Change} (h : Tells context w w' last) (hsilent : w.IsSilent context) :
    isStepError ((w'.output? context).getD .null) = true ↔ ∃ step message, last = some (.reported step message) := by
  have hany : isStepError ((w'.output? context).getD .null) = (w'.output? context).any isStepError := by
    cases w'.output? context <;> rfl
  rw [hany]
  match last, h with
  | none, h =>
    have hkept : w'.output? context = w.output? context := h
    have hw' : (w'.output? context).any isStepError = false := hkept ▸ hsilent
    exact iff_of_false (Bool.eq_false_iff.1 hw') (fun ⟨_, _, h⟩ => nomatch h)
  | some .own, h => exact iff_of_false (Bool.eq_false_iff.1 h) (fun ⟨_, _, h⟩ => nomatch h)
  | some (.reported step message), h =>
    have hreport : w'.output? context = some (.str (stepErrorText step.name message)) := h
    rw [hreport]
    exact iff_of_true (isStepError_stepErrorText step.name message) ⟨step, message, rfl⟩

/-- **After a step that is survived the output is told by what changed it last in the step.** -/
theorem tells_of_runStep {step : Step} (hw : w.HasContext context)
    (hrun : (e.runStep p context step).act w = .ok () w')
    (hhonest : ((attempt p e context step).act w).world.output? context = w.output? context ∨
      ((attempt p e context step).act w).world.IsSilent context) :
    ∃ change, StepChange p e context step w change ∧ Tells context w w' change ∧
      ∀ s message, change = some (.reported s message) → s = step := by
  have hsettles := settles_runStep p e context step w
  have hgrows := (attempt p e context step).grows w
  rw [hrun] at hsettles
  cases hend : (attempt p e context step).act w with
  | ok u left =>
    rw [hend] at hsettles hhonest
    cases hsettles
    by_cases hsame : w'.output? context = w.output? context
    · exact ⟨none, .nothing hend hsame, hsame, fun _ _ h => nomatch h⟩
    · exact ⟨some .own, .own hend hsame, hhonest.resolve_left hsame, fun _ _ h => nomatch h⟩
  | error failure left =>
    rw [hend] at hsettles hgrows
    cases hsettles with
    | reported hordinary hmessage hreport =>
      -- telling the message changes nothing, so the report is written over what the code left
      obtain rfl := eq_of_errorMessage hmessage
      obtain ⟨_, hact, hitems, -⟩ := report_act (hw.grows hgrows) step _
      cases hact.symm.trans hreport
      refine ⟨_, .reported hend hmessage, (hitems _).trans (if_pos (beq_self_eq_true _)), fun s message h => ?_⟩
      cases h
      rfl

/-- **After a run that is survived the output is told by what changed it last.** -/
theorem tells_of_runSteps {steps : List Step} {after : List World} (hw : w.HasContext context)
    (hrun : (e.runSteps p context steps).act w = .ok after w') (hhonest : Honest p e context steps w) :
    ∃ last, LastChange p e context w steps last ∧ Tells context w w' last ∧
      ∀ step message, last = some (.reported step message) → step ∈ steps := by
  induction steps generalizing w after with
  | nil =>
    cases hrun
    exact ⟨none, .none _, rfl, fun _ _ h => nomatch h⟩
  | cons step rest ih =>
    cases hstep : (e.runStep p context step).act w with
    | error f w₁ =>
      rw [runSteps, Run.bind_act, hstep] at hrun
      cases hrun
    | ok u w₁ =>
      rw [runSteps_cons_act hstep] at hrun
      rw [Honest, hstep] at hhonest
      have hgrows := (e.runStep p context step).grows w
      rw [hstep] at hgrows
      obtain ⟨first, hfirst, htold, hnamed⟩ := tells_of_runStep hw hstep hhonest.1
      cases hrest : (e.runSteps p context rest).act w₁ with
      | error f w₂ =>
        rw [hrest] at hrun
        cases hrun
      | ok later w₂ =>
        rw [hrest] at hrun
        cases hrun
        obtain ⟨last, hlast, htells, hmem⟩ := ih (hw.grows hgrows) hrest hhonest.2
        refine ⟨last.or first, .next hfirst hstep hlast, htold.trans htells, fun s message h => ?_⟩
        cases last with
        | some change => exact List.mem_cons_of_mem step (hmem s message h)
        | none => exact hnamed s message h ▸ List.mem_cons_self

/-! ## What hides a report -/

/-- A step changes the output in one way. -/
theorem StepChange.unique {step : Step} {change other : Option Change} (h : StepChange p e context step w change)
    (h' : StepChange p e context step w other) : change = other := by
  cases h with
  | nothing hend hsame =>
    cases h' with
    | nothing => rfl
    | own hend' hother =>
      cases hend.symm.trans hend'
      exact absurd hsame hother
    | reported hend' => cases hend.symm.trans hend'
  | own hend hother =>
    cases h' with
    | nothing hend' hsame =>
      cases hend.symm.trans hend'
      exact absurd hsame hother
    | own => rfl
    | reported hend' => cases hend.symm.trans hend'
  | reported hend hmessage =>
    cases h' with
    | nothing hend' => cases hend.symm.trans hend'
    | own hend' => cases hend.symm.trans hend'
    | reported hend' hmessage' =>
      cases hend.symm.trans hend'
      cases hmessage.symm.trans hmessage'
      rfl

/-- Behind the first steps, the next one changes the output so. -/
def ChangesBehind (p : Platform) (e : Engine) (context : Addr) (w : World) (first : List Step) (step : Step)
    (change : Option Change) : Prop :=
  ∃ after left, (e.runSteps p context first).act w = .ok after left ∧ StepChange p e context step left change

/-- What a step does behind others it does behind those and the step in front of them. -/
theorem ChangesBehind.cons {front step : Step} {first : List Step} {change : Option Change}
    (hfront : (e.runStep p context front).act w = .ok () w') (h : ChangesBehind p e context w' first step change) :
    ChangesBehind p e context w (front :: first) step change := by
  obtain ⟨after, left, hrun, hchange⟩ := h
  refine ⟨w' :: after, left, ?_, hchange⟩
  rw [runSteps_cons_act hfront, hrun]

/-- If code changed the output last, then that of one of the steps. -/
theorem LastChange.exists_own {steps : List Step} {last : Option Change} (h : LastChange p e context w steps last)
    (hown : last = some .own) :
    ∃ before step behind, steps = before ++ step :: behind ∧ ChangesBehind p e context w before step (some .own) := by
  induction h with
  | none => cases hown
  | @next w w₁ front rest first last hfirst hrun hrest ih =>
    cases last with
    | some change =>
      obtain ⟨before, step, behind, rfl, hchange⟩ := ih hown
      exact ⟨front :: before, step, behind, rfl, hchange.cons hrun⟩
    | none =>
      cases hown
      exact ⟨[], front, rest, rfl, [], _, rfl, hfirst⟩

/-- **A report is hidden only by the code of a later step that changes the output.** -/
theorem LastChange.hidden {before behind : List Step} {step : Step} {message : String} {last : Option Change}
    (h : LastChange p e context w (before ++ step :: behind) last)
    (hreported : ChangesBehind p e context w before step (some (.reported step message)))
    (hhidden : ∀ s text, last ≠ some (.reported s text)) :
    ∃ between later rest, behind = between ++ later :: rest ∧
      ChangesBehind p e context w (before ++ step :: between) later (some .own) := by
  -- the induction is on the steps in front of the report, since the run is taken apart from its first step on
  induction before generalizing w last with
  | nil =>
    obtain ⟨_, _, hnone, hchange⟩ := hreported
    cases hnone
    cases h with
    | @next _ w₁ _ _ first last hfirst hrun hrest =>
      obtain rfl := hfirst.unique hchange
      match last, hrest, hhidden with
      | .none, _, hhidden => exact absurd rfl (hhidden step message)
      | .some (.reported s text), _, hhidden => exact absurd rfl (hhidden s text)
      | .some .own, hrest, _ =>
        obtain ⟨between, later, rest, rfl, hlater⟩ := hrest.exists_own rfl
        exact ⟨between, later, rest, rfl, hlater.cons hrun⟩
  | cons front before ih =>
    cases h with
    | @next _ w₁ _ _ first last hfirst hrun hrest =>
      have hbehind : ChangesBehind p e context w₁ before step (some (.reported step message)) := by
        obtain ⟨after, left, hall, hchange⟩ := hreported
        rw [runSteps_cons_act hrun] at hall
        cases hends : (e.runSteps p context before).act w₁ with
        | error f w₂ =>
          rw [hends] at hall
          cases hall
        | ok later w₂ =>
          rw [hends] at hall
          cases hall
          exact ⟨later, _, hends, hchange⟩
      have hlast : ∀ s text, last ≠ some (.reported s text) := by
        rintro s text rfl
        exact hhidden s text rfl
      obtain ⟨between, later, rest, hsplit, hlater⟩ := ih hrest hbehind hlast
      exact ⟨between, later, rest, hsplit, hlater.cons hrun⟩

end Engine

/-! ## What the tool answers -/

namespace World

/-- What scripts have given a context as attributes of its own. -/
def attributesOf? (w : World) (context : Addr) : Option (List (String × Value)) :=
  match w.store[context]? with
  | some (.dict (.context given) _) => some given
  | _ => none

/-- No script has given the context another way to look up an item or to make a snapshot. -/
def IsUntampered (w : World) (context : Addr) : Prop :=
  (w.attributesOf? context).any (fun given => (given.lookup "get").isNone && (given.lookup "snapshot").isNone) = true

instance (w : World) (context : Addr) : Decidable (w.IsUntampered context) := inferInstanceAs (Decidable (_ = _))

theorem IsUntampered.exists_eq {w : World} {context : Addr} (h : w.IsUntampered context) :
    ∃ given d, w.store[context]? = some (.dict (.context given) d) ∧ given.lookup "get" = none ∧
      given.lookup "snapshot" = none := by
  obtain ⟨given, hgiven, hnone⟩ := (Option.any_eq_true _ _).1 h
  obtain ⟨hget, hsnapshot⟩ := Bool.and_eq_true_iff.1 hnone
  rw [attributesOf?] at hgiven
  split at hgiven
  case h_1 given' d hd =>
    cases hgiven
    exact ⟨given, d, hd, Option.isNone_iff_eq_none.1 hget, Option.isNone_iff_eq_none.1 hsnapshot⟩
  case h_2 => cases hgiven

/-- The context answers by itself, and an output that is a text of a class of a script denies, when it is asked, that
it tells of a failed step. -/
structure AnswersItself (m : Machine) (w : World) (context : Addr) : Prop where
  ordinary : w.IsUntampered context
  denies : ∀ a, w.output? context = some (.ref a) → (w.payload (.ref a)).text?.isSome →
    ∃ left, (tellsFailure m (.ref a)).act w = .ok false left ∧ left.IsUntampered context

end World

namespace Tool

open Engine

variable {w : World} {context : Addr}

/-- **Asked, the output tells of a failed step exactly if its text does.** -/
theorem tellsFailure_act {m : Machine} (h : w.AnswersItself m context) {v : Value}
    (hv : (w.output? context).getD .null = v) :
    ∃ left, (tellsFailure m v).act w = .ok (isStepError v) left ∧ left.IsUntampered context := by
  cases v with
  | ref a =>
    have hout : w.output? context = some (.ref a) := by
      cases hsome : w.output? context with
      | none =>
        rw [hsome] at hv
        cases hv
      | some u =>
        rw [hsome] at hv
        exact congrArg some hv
    cases htext : (w.payload (.ref a)).text? with
    | none =>
      refine ⟨w, ?_, h.ordinary⟩
      rw [tellsFailure, Run.bind_ok (Value.payload_act _ w), htext]
      rfl
    | some s => exact h.denies a hout (htext ▸ rfl)
  | _ => exact ⟨w, rfl, h.ordinary⟩

theorem contextDict_act {f : DictFlavour} {d : Dict} (hd : w.store[context]? = some (.dict f d)) :
    (Context.dict context).act w = .ok d w := by
  rw [Context.dict, Run.bind_ok (Run.load_act hd)]
  rfl

theorem given?_act {given : List (String × Value)} {d : Dict}
    (hd : w.store[context]? = some (.dict (.context given) d)) (name : String) :
    (Context.given? context name).act w = .ok (given.lookup name) w := by
  rw [Context.given?, Run.bind_ok (Run.load_act hd)]
  rfl

/-- A context that answers by itself tells its output. -/
theorem tellOutput_act (m : Machine) (h : w.IsUntampered context) :
    (Context.tellOutput m context).act w = .ok ((w.output? context).getD .null) w := by
  obtain ⟨given, d, hd, hget, -⟩ := h.exists_eq
  rw [Context.tellOutput, Run.bind_ok (given?_act hd "get"), hget, World.output?, World.item?_eq hd]
  dsimp only
  rw [Context.output, Run.bind_ok (contextDict_act hd)]
  rfl

/-- A context that answers by itself gives a snapshot. -/
theorem giveSnapshot_act (m : Machine) (h : w.IsUntampered context) :
    ∃ snapshot left, (Context.giveSnapshot m context).act w = .ok snapshot left := by
  obtain ⟨given, d, hd, -, hsnapshot⟩ := h.exists_eq
  refine ⟨.ref w.store.size, { w with store := w.store.push (.dict .plain d) }, ?_⟩
  rw [Context.giveSnapshot, Run.bind_ok (given?_act hd "snapshot"), hsnapshot]
  dsimp only
  rw [Context.snapshot, Run.bind_ok (contextDict_act hd)]
  rfl

variable {p : Platform} {e : Engine} {t : Tool} {arguments extra : Value} {begun : World}
  {ins ext : List (Key × Value × Value)}

/-- A run whose steps have ended is over. -/
theorem execute_act {recipe : Recipe} {after : List World} {left : World} (hin : w.Layer arguments ins)
    (hext : w.Layer extra ext)
    (hsteps : (e.runSteps p (w.store.size + 1) recipe.steps).act (opened w recipe ins ext) = .ok after left) :
    (e.execute p recipe arguments extra).act w = .ok ⟨w.store.size + 1, after⟩ (left.closing recipe) := by
  rw [execute, Run.bind_ok (openRun_act hin hext), Run.bind_ok hsteps]
  rfl

/-- What is reported of a run that is over is the output of its context, which tells whether it succeeded. -/
theorem report_act {recipe : Recipe} {run : Finished} {left : World}
    (hrun : (e.execute p recipe arguments extra).act w = .ok run left) (h : left.AnswersItself p.machine run.context) :
    let output := (left.output? run.context).getD .null
    ∃ snapshot w', (report p e recipe arguments extra).act w = .ok (.finished (!isStepError output) output snapshot) w' := by
  intro output
  obtain ⟨asked, htells, huntampered⟩ := tellsFailure_act h rfl
  obtain ⟨snapshot, w', hsnapshot⟩ := giveSnapshot_act p.machine huntampered
  refine ⟨snapshot, w', ?_⟩
  rw [report, Run.bind_ok hrun, Run.bind_ok (tellOutput_act p.machine h.ordinary), Run.bind_ok htells,
    Run.bind_ok hsnapshot]
  rfl

/-- **A tool tells of a failure exactly when a report of one is the last change of the output**, as long as no code
leaves a text like that of a report, every failure is contained, and the context that is asked at the end answers by
itself. The output and the error are then the text of the failed step. So it takes the code of a later step, one that
changes the output, to hide the failure of a step. -/
theorem call_reports (hruns : t.Runs p arguments extra w e begun) (hin : begun.Layer arguments ins)
    (hext : begun.Layer extra ext)
    (hall : AllContained p e (begun.store.size + 1) t.recipe.steps (opened begun t.recipe ins ext))
    (hhonest : Honest p e (begun.store.size + 1) t.recipe.steps (opened begun t.recipe ins ext))
    (hanswers : ∀ run left, (e.execute p t.recipe arguments extra).act begun = .ok run left →
      left.AnswersItself p.machine run.context) :
    let context := begun.store.size + 1
    let start := opened begun t.recipe ins ext
    ∃ last success output snapshot left,
      LastChange p e context start t.recipe.steps last ∧
      (t.call p arguments extra).act w = .ok (.finished success output snapshot, { t with engine := some e }) left ∧
      (success = false ↔ ∃ step message, last = some (.reported step message)) ∧
      (∀ step message, last = some (.reported step message) →
        step ∈ t.recipe.steps ∧ output = .str (stepErrorText step.name message) ∧
          (ToolResult.finished success output snapshot).fields.lookup "error" = some output) ∧
      ∀ before step behind message, t.recipe.steps = before ++ step :: behind →
        ChangesBehind p e context start before step (some (.reported step message)) → success = true →
        ∃ between later rest, behind = between ++ later :: rest ∧
          ChangesBehind p e context start (before ++ step :: between) later (some .own) := by
  intro context start
  obtain ⟨-, after, left, hsteps, -⟩ | ⟨hnot, -⟩ := runSteps_cases p e context t.recipe.steps start
  case inr => exact absurd hall hnot
  obtain ⟨last, hlast, htells, hmem⟩ :=
    tells_of_runSteps (hasContext_opened begun t.recipe ins ext) hsteps hhonest
  have hrun := execute_act hin hext hsteps
  -- the run begins with nothing as the output
  have hsilent : start.IsSilent context := by
    have hnull : start.output? context = some .null := by
      rw [World.output?, World.item?_eq (opened_get begun t.recipe ins ext)]
      exact Dict.get?_putText_self ..
    rw [World.IsSilent, hnull]
    rfl
  obtain ⟨snapshot, w', hreport⟩ := report_act hrun (hanswers _ _ hrun)
  have hclosed : (left.closing t.recipe).output? context = left.output? context := rfl
  dsimp only at hreport
  rw [hclosed] at hreport
  have hcall := hruns.ends.trans (Run.bind_ok hreport)
  have hfailed : (!isStepError ((left.output? context).getD .null)) = false ↔
      ∃ step message, last = some (.reported step message) := by
    rw [Bool.not_eq_false', htells.failed_iff hsilent]
  refine ⟨last, _, _, snapshot, w', hlast, hcall, hfailed, fun step message h => ?_,
    fun before step behind message hsplit hreported htrue => ?_⟩
  · have hnot := hfailed.2 ⟨step, message, h⟩
    refine ⟨hmem step message h, ?_, ?_⟩
    · subst h
      have hreport : left.output? context = some (.str (stepErrorText step.name message)) := htells
      rw [hreport]
      rfl
    · rw [hnot]
      rfl
  · refine (hsplit ▸ hlast).hidden hreported fun s text h => ?_
    exact Bool.false_ne_true ((hfailed.2 ⟨s, text, h⟩).symm.trans htrue)

/-! ## A failure that is told, and one that is hidden -/

/-- A tool with scripts as its steps. -/
def scripted (codes : List String) : Tool := ⟨scripts codes, some Engine.bare⟩

/-- What requires nothing runs where it is called. -/
theorem scripted_runs (codes : List String) :
    (scripted codes).Runs barePlatform (.ref 1) .null askedWorld Engine.bare (invoking askedWorld (scripted codes)) := by
  have harguments : askedWorld.store[1]? = some (.dict .plain (Dict.ofTexts [("q", .str "cats")])) := rfl
  exact .of_summon barePlatform harguments (tellsMembers_of_ordinary harguments fun _ h => nomatch h) .null
    (fun _ h => absurd h List.not_mem_nil) rfl rfl

/-- The steps of the tool begin in this world. -/
def scriptedStart (codes : List String) : World :=
  opened (invoking askedWorld (scripted codes)) (scripts codes) (Dict.ofTexts [("q", .str "cats")]).entries []

/-- How the run of the steps ends. -/
def scriptedRun (codes : List String) : Ending Finished :=
  (Engine.bare.execute barePlatform (scripts codes) (.ref 1) .null).act (invoking askedWorld (scripted codes))

theorem hasContext_scriptedStart (codes : List String) : (scriptedStart codes).HasContext 3 :=
  hasContext_opened (invoking askedWorld (scripted codes)) (scripts codes) (Dict.ofTexts [("q", .str "cats")]).entries []

theorem layer_asked (codes : List String) :
    (invoking askedWorld (scripted codes)).Layer (.ref 1) (Dict.ofTexts [("q", .str "cats")]).entries := by
  refine .mapping (f := .plain) rfl fun entry he => ?_
  cases List.mem_singleton.1 he
  exact fun _ _ => rfl

/-- An untampered context whose output is no object answers by itself. -/
theorem scripted_answers (codes : List String)
    (h : (scriptedRun codes).result?.map Finished.context = some 3 ∧ (scriptedRun codes).world.IsUntampered 3 ∧
      ((scriptedRun codes).world.output? 3).bind Value.addr? = none) {run : Finished} {left : World}
    (hrun : (Engine.bare.execute barePlatform (scripted codes).recipe (.ref 1) .null).act
      (invoking askedWorld (scripted codes)) = .ok run left) : left.AnswersItself barePlatform.machine run.context := by
  have hending : scriptedRun codes = .ok run left := hrun
  rw [hending] at h
  obtain ⟨hcontext, huntampered, hsmall⟩ := h
  have hthree : run.context = 3 := Option.some.inj hcontext
  rw [hthree]
  refine ⟨huntampered, fun a ha => ?_⟩
  have hnone : (left.output? 3).bind Value.addr? = none := hsmall
  rw [ha] at hnone
  cases hnone

/-- A step that writes the output, and one that divides by zero. -/
def failing : List String := ["context['output'] = 1", "1 / 0"]

/-- The failure of the second step is told. -/
theorem call_reports_of_failing : ∃ step message snapshot left,
    ((scripted failing).call barePlatform (.ref 1) .null).act askedWorld =
      .ok (.finished false (.str (stepErrorText step.name message)) snapshot, scripted failing) left ∧
    step ∈ (scripts failing).steps := by
  have hall : AllContained barePlatform Engine.bare 3 (scripts failing).steps (scriptedStart failing) := by
    decide +kernel
  have hhonest : Honest barePlatform Engine.bare 3 (scripts failing).steps (scriptedStart failing) :=
    ⟨.inr (by decide +kernel), .inr (by decide +kernel), trivial⟩
  obtain ⟨last, success, output, snapshot, left, -, hcall, hsuccess, htold, -⟩ :=
    call_reports (scripted_runs failing) (layer_asked failing) .nothing hall hhonest
      fun _ _ => scripted_answers failing (by decide +kernel)
  have hfailed : (((scripted failing).call barePlatform (.ref 1) .null).act askedWorld).result?.map (·.1.isSuccess) =
      some false := by decide +kernel
  rw [hcall] at hfailed
  cases hfailed
  obtain ⟨step, message, rfl⟩ := hsuccess.1 rfl
  obtain ⟨hmem, rfl, -⟩ := htold step message rfl
  exact ⟨step, message, snapshot, left, hcall, hmem⟩

/-- A step that makes the context answer in another way, and one that divides by zero. -/
def replacing : List String := ["context.get = lambda k: 'fine'", "1 / 0"]

/-- **A failure can be hidden** by a step that does not touch the output. -/
theorem failure_hidden_of_replaced_get : ∃ step message result t left,
    Honest barePlatform Engine.bare 3 (scripts replacing).steps (scriptedStart replacing) ∧
    LastChange barePlatform Engine.bare 3 (scriptedStart replacing) (scripts replacing).steps
      (some (.reported step message)) ∧
    ((scripted replacing).call barePlatform (.ref 1) .null).act askedWorld = .ok (result, t) left ∧
    result.isSuccess = true := by
  have hhonest : Honest barePlatform Engine.bare 3 (scripts replacing).steps (scriptedStart replacing) :=
    ⟨.inr (by decide +kernel), .inr (by decide +kernel), trivial⟩
  obtain ⟨-, after, left, hsteps, -⟩ | ⟨hnot, -⟩ :=
    runSteps_cases barePlatform Engine.bare 3 (scripts replacing).steps (scriptedStart replacing)
  case inr =>
    have hall : AllContained barePlatform Engine.bare 3 (scripts replacing).steps (scriptedStart replacing) := by
      decide +kernel
    exact absurd hall hnot
  obtain ⟨last, hlast, htells, -⟩ := tells_of_runSteps (hasContext_scriptedStart replacing) hsteps hhonest
  have hsilent : (scriptedStart replacing).IsSilent 3 := by decide +kernel
  have houtput : isStepError ((((Engine.bare.runSteps barePlatform 3 (scripts replacing).steps).act
      (scriptedStart replacing)).world.output? 3).getD .null) = true := by decide +kernel
  rw [hsteps] at houtput
  obtain ⟨step, message, rfl⟩ := (htells.failed_iff hsilent).1 houtput
  have hsuccess : (((scripted replacing).call barePlatform (.ref 1) .null).act askedWorld).result?.map (·.1.isSuccess) =
      some true := by decide +kernel
  obtain ⟨⟨result, t⟩, called, hcall, htrue⟩ := Ending.exists_of_result? hsuccess
  exact ⟨step, message, result, t, called, hhonest, hlast, hcall, htrue⟩

end Tool

end Stepwise
