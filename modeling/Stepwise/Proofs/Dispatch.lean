import Stepwise.Proofs.Messages
/-!
# Who runs a step, and what is left of it

A registry is what was asked of it: `Registry.get_made` says which executor stands for an engine after any
requests. A run is one turn of such an executor after the other (`Engine.Turn`, `Engine.Turns`): it is
invoked once, on the world that the step before left, and what it leaves stays, but for the output of a step
that raised. `execute_dispatches` puts the two together.
-/

namespace Stepwise

namespace Registry

/-! ## What is asked of a registry -/

inductive Request where
  | register (engine : String) (x : Executor)
  | unregister (engine : String)

namespace Request

/-- Is the request about the engine? Nothing is registered without a name. -/
def concerns (engine : String) : Request → Bool
  | register name _ => engine == name && !name.isEmpty
  | unregister name => engine == name

/-- What stands for the engine when nothing is asked about it any more. -/
def leaves? : Request → Option Executor
  | register _ x => some x
  | unregister _ => none

end Request

/-- What a request makes of a registry; one that is refused changes nothing. -/
def meet (r : Registry) : Request → Registry
  | .register name x => (r.register name x).toOption.getD r
  | .unregister name => (r.unregister name).2

/-- The registry that is made with a fallback and these requests. -/
def made (fallback : Executor) (requests : List Request) : Registry := requests.foldl meet { fallback }

/-- The executor that was registered last for an engine and has not been removed since: the last request
about the engine decides. -/
def standing? (requests : List Request) (engine : String) : Option Executor :=
  (requests.filter (·.concerns engine)).getLast?.bind Request.leaves?

variable {r : Registry}

theorem nodup_meet (hr : r.executors.keys.Nodup) (q : Request) : (r.meet q).executors.keys.Nodup := by
  cases q with
  | register name x =>
    rw [meet, register]
    split
    · exact hr
    · exact OrderedMap.nodup_insert hr name x
  | unregister name => exact OrderedMap.nodup_erase hr name

theorem fallback_meet (r : Registry) (q : Request) : (r.meet q).fallback = r.fallback := by
  cases q with
  | register name x =>
    rw [meet, register]
    split <;> rfl
  | unregister name => rfl

/-- A request decides for the engine that it is about, and for no other. -/
theorem find?_meet (hr : r.executors.keys.Nodup) (q : Request) (engine : String) :
    (r.meet q).executors.find? engine =
      if q.concerns engine then q.leaves? else r.executors.find? engine := by
  cases q with
  | register name x =>
    by_cases hname : name.isEmpty = true
    · simp [meet, register, Request.concerns, hname, Except.toOption]
    · simpa [meet, register, Request.concerns, Request.leaves?, hname, Except.toOption] using
        OrderedMap.find?_insert r.executors engine name x
  | unregister name => exact OrderedMap.find?_erase hr engine name

theorem find?_foldl_meet (hr : r.executors.keys.Nodup) (requests : List Request) (engine : String) :
    (requests.foldl meet r).executors.find? engine =
      match (requests.filter (·.concerns engine)).getLast? with
      | some q => q.leaves?
      | none => r.executors.find? engine := by
  induction requests generalizing r with
  | nil => rfl
  | cons q rest ih =>
    rw [List.foldl_cons, ih (nodup_meet hr q), find?_meet hr]
    cases hq : q.concerns engine with
    | true =>
      rw [List.filter_cons_of_pos (by simpa using hq), List.getLast?_cons]
      cases (rest.filter (·.concerns engine)).getLast? <;> rfl
    | false =>
      rw [List.filter_cons_of_neg (by simp [hq])]
      rfl

theorem fallback_made (fallback : Executor) (requests : List Request) :
    (made fallback requests).fallback = fallback :=
  List.foldlRecOn (motive := fun r => r.fallback = fallback) requests meet rfl fun r hr q _ =>
    (fallback_meet r q).trans hr

/-- **A registry hands over the executor that stands for an engine, and its fallback where none does.** -/
theorem get_made (fallback : Executor) (requests : List Request) (engine : String) :
    (made fallback requests).get engine = (standing? requests engine).getD fallback := by
  have hfind := find?_foldl_meet (r := { fallback }) List.nodup_nil requests engine
  rw [get, fallback_made, made, hfind, standing?]
  cases (requests.filter (·.concerns engine)).getLast? <;> rfl

end Registry

/-! ## One turn -/

namespace World

/-- The contents of a dictionary object. -/
def contents? (w : World) (a : Addr) : Option Dict :=
  match w.store[a]? with
  | some (.dict _ d) => some d
  | _ => none

/-- What stands under a key of a context. -/
def item? (w : World) (context : Addr) (k : Key) : Option Value := (w.contents? context).bind (·.get? k)

theorem item?_eq {w : World} {a : Addr} {f : DictFlavour} {d : Dict} (h : w.store[a]? = some (.dict f d)) (k : Key) :
    w.item? a k = d.get? k := by
  rw [item?, contents?, h]
  rfl

/-- There is a context at the address. -/
def HasContext (w : World) (a : Addr) : Prop := ∃ names d, w.store[a]? = some (.dict (.context names) d)

/-- A context stays one. -/
theorem HasContext.grows {w w' : World} {a : Addr} (h : w.HasContext a) (hw : w.Grows w') : w'.HasContext a := by
  obtain ⟨names, d, ha⟩ := h
  obtain ⟨o, ho, hbecomes⟩ := hw.becomes a _ ha
  have hkind := hbecomes.kind_eq
  cases o with
  | dict f d' =>
    cases f with
    | context names' => exact ⟨names', d', ho⟩
    | _ => cases hkind
  | _ => cases hkind

/-- The world when it has been told that a step begins. -/
def telling (w : World) (step : Step) : World :=
  { w with log := w.log.push ⟨.debug,
      "Executing step '" ++ step.name ++ "' with engine '" ++ step.engine ++ "'"⟩ }

/-- The world when it has been told that a run is over. -/
def closing (w : World) (recipe : Recipe) : World :=
  { w with log := w.log.push ⟨.info, "Jinx '" ++ recipe.name ++ "' finished"⟩ }

end World

namespace Dict

theorem get?_put (d : Dict) (k k' : Key) (spelling v : Value) :
    (d.put k' spelling v).get? k = if k == k' then some v else d.get? k := by
  simp only [get?, put]
  split <;> rw [OrderedMap.find?_insert] <;> split <;> rfl

end Dict

/-- Writing an item of a dictionary changes no other object. -/
theorem Run.putItem_act {w : World} {a : Addr} {f : DictFlavour} {d : Dict} (h : w.store[a]? = some (.dict f d))
    (id : String) (v : Value) :
    ∃ w', (Run.putItem a (.str id) v).act w = .ok () w' ∧ w'.store[a]? = some (.dict f (d.putText id v)) ∧
      ∀ b, b ≠ a → w'.store[b]? = w.store[b]? := by
  refine ⟨_, rfl, ?_, fun b hb => ?_⟩
  · exact (Array.getElem?_modify ..).trans (by rw [if_pos rfl, h]; rfl)
  · exact (Array.getElem?_modify ..).trans (if_neg (Ne.symm hb))

namespace Engine

/-- A turn of an executor: it is invoked once, where it has been told that the step begins. -/
inductive Turn (p : Platform) (x : Executor) (context : Addr) (step : Step) (w w' : World) : Prop
  /-- It returned, and all is what it left. -/
  | returned : (x.execute p step context).act (w.telling step) = .ok () w' → Turn p x context step w w'
  /-- It raised an error. The output tells of it, and everything else is what the executor left. -/
  | raised {error : Addr} {left : World} {message : String} :
      (x.execute p step context).act (w.telling step) = .error (.raised error) left →
      (errorMessage error).act left = .ok message left →
      w'.item? context (Dict.textKey "output") =
        some (.str ("Error in step '" ++ step.name ++ "': " ++ message)) →
      (∀ k, k ≠ Dict.textKey "output" → w'.item? context k = left.item? context k) →
      (∀ a, a ≠ context → w'.store[a]? = left.store[a]?) → Turn p x context step w w'

/-- A report writes the output of the context, and no other item and no other object. -/
theorem report_act {w : World} {context : Addr} (hw : w.HasContext context) (step : Step) (message : String) :
    ∃ w', (report context step message).act w = .ok () w' ∧
      (∀ k, w'.item? context k =
        if k == Dict.textKey "output" then some (.str (stepErrorText step.name message))
        else w.item? context k) ∧
      ∀ a, a ≠ context → w'.store[a]? = w.store[a]? := by
  obtain ⟨names, d, hd⟩ := hw
  let told : World :=
    { w with log := w.log.push ⟨.error, "Error executing step '" ++ step.name ++ "': " ++ message⟩ }
  have htold : told.store[context]? = some (.dict (.context names) d) := hd
  obtain ⟨w', hact, hwritten, hothers⟩ :=
    Run.putItem_act htold Context.outputKey (.str (stepErrorText step.name message))
  refine ⟨w', hact, fun k => ?_, hothers⟩
  simp only [World.item?, World.contents?, hwritten, hd, Option.bind_some]
  exact Dict.get?_put d k _ _ _

variable {p : Platform} {e : Engine} {context : Addr}

/-- **A step that ends is a turn of the executor for its engine.** -/
theorem turn_of_runStep {step : Step} {w w' : World} (hw : w.HasContext context)
    (h : (e.runStep p context step).act w = .ok () w') :
    Turn p (e.registry.get step.engine) context step w w' := by
  have hattempt : (attempt p e context step).act w =
      ((e.registry.get step.engine).execute p step context).act (w.telling step) := rfl
  have hsettles := settles_runStep p e context step w
  have hgrows := (attempt p e context step).grows w
  rw [h] at hsettles
  cases hx : (attempt p e context step).act w with
  | ok u left =>
    rw [hx] at hsettles
    cases hsettles
    exact .returned (hattempt ▸ hx)
  | error f left =>
    rw [hx] at hsettles hgrows
    cases hsettles with
    | reported hordinary hmessage hreport =>
      obtain rfl := eq_of_errorMessage hmessage
      obtain ⟨_, hact, hitems, hothers⟩ := report_act (hw.grows hgrows) step _
      cases hact.symm.trans hreport
      refine .raised (hattempt ▸ hx) hmessage ?_ (fun k hk => ?_) hothers
      · rw [hitems, if_pos (beq_self_eq_true _)]
        rfl
      · rw [hitems, if_neg fun heq => hk (eq_of_beq heq)]
        rfl

/-! ## All turns -/

/-- The turns of the executors that stand for the engines of the steps, in order, each on the world that the
one before left. -/
inductive Turns (p : Platform) (standing : String → Executor) (context : Addr) :
    World → List Step → World → Prop
  | none (w : World) : Turns p standing context w [] w
  | next {w w₁ w' : World} {step : Step} {rest : List Step} :
      Turn p (standing step.engine) context step w w₁ → Turns p standing context w₁ rest w' →
      Turns p standing context w (step :: rest) w'

/-- **The steps of a run that ends are turns.** -/
theorem turns_of_runSteps {steps : List Step} {w w' : World} {after : List World} (hw : w.HasContext context)
    (h : (e.runSteps p context steps).act w = .ok after w') :
    Turns p e.registry.get context w steps w' := by
  induction steps generalizing w after with
  | nil =>
    cases h
    exact .none _
  | cons step rest ih =>
    cases hrun : (e.runStep p context step).act w with
    | error f w₁ =>
      rw [runSteps, Run.bind_act, hrun] at h
      cases h
    | ok u w₁ =>
      rw [runSteps_cons_act hrun] at h
      have hgrows := (e.runStep p context step).grows w
      rw [hrun] at hgrows
      cases hrest : (e.runSteps p context rest).act w₁ with
      | error f w₂ =>
        rw [hrest] at h
        cases h
      | ok later w₂ =>
        rw [hrest] at h
        cases h
        exact .next (turn_of_runStep hw hrun) (ih (hw.grows hgrows) hrest)

/-- Steps behind others run where those ended. -/
theorem runSteps_append (p : Platform) (e : Engine) (context : Addr) (xs ys : List Step) :
    e.runSteps p context (xs ++ ys) = do
      let first ← e.runSteps p context xs
      return first ++ (← e.runSteps p context ys) := by
  induction xs with
  | nil => simp [runSteps]
  | cons step rest ih => simp [runSteps, ih]

/-- So the steps of a run that ends can be divided at any place. -/
theorem runSteps_append_ok {xs ys : List Step} {w w' : World} {after : List World}
    (h : (e.runSteps p context (xs ++ ys)).act w = .ok after w') :
    ∃ first w₁ second, (e.runSteps p context xs).act w = .ok first w₁ ∧
      (e.runSteps p context ys).act w₁ = .ok second w' ∧ after = first ++ second := by
  rw [runSteps_append, Run.bind_act] at h
  cases hxs : (e.runSteps p context xs).act w with
  | error f w₁ =>
    rw [hxs] at h
    cases h
  | ok first w₁ =>
    rw [hxs] at h
    simp only [Run.bind_act] at h
    cases hys : (e.runSteps p context ys).act w₁ with
    | error f w₂ =>
      rw [hys] at h
      cases h
    | ok second w₂ =>
      rw [hys] at h
      cases h
      exact ⟨first, w₁, second, rfl, hys, rfl⟩

/-- A run begins with its context behind all that was there and behind the defaults. -/
theorem opened_get (w : World) (recipe : Recipe) (ins ext : List (Key × Value × Value)) :
    (opened w recipe ins ext).store[w.store.size + 1]? =
      some (.dict (.context []) (firstContents recipe ins ext)) := by
  have hsize : (w.store.push (.dict .plain (Dict.ofTexts recipe.defaults.entries))).size = w.store.size + 1 :=
    Array.size_push _
  rw [opened, withContext, ← hsize]
  exact Array.getElem?_push_size

theorem hasContext_opened (w : World) (recipe : Recipe) (ins ext : List (Key × Value × Value)) :
    (opened w recipe ins ext).HasContext (w.store.size + 1) :=
  ⟨[], firstContents recipe ins ext, opened_get w recipe ins ext⟩

/-- **A run is one turn after the other, each of the executor that stands for its step.** After any requests
to the registry, over any mappings and for any executors whose errors the run survives, the run returns its
context. Each step is a turn of the executor that was registered last for its engine and not removed since,
or else of the fallback: invoked once, on the world that the step before left. What it leaves is kept, only
the output is the text of the error that it raised, if it raised one. So steps behind others run where those
ended. -/
theorem execute_dispatches (p : Platform) {e : Engine} {fallback : Executor} {requests : List Registry.Request}
    (he : e.registry = Registry.made fallback requests) (recipe : Recipe) {inputs extra : Value} {w : World}
    {ins ext : List (Key × Value × Value)} (hin : w.Layer inputs ins) (hext : w.Layer extra ext)
    (hall : AllContained p e (w.store.size + 1) recipe.steps (opened w recipe ins ext)) :
    let standing := fun engine => (Registry.standing? requests engine).getD fallback
    ∃ run w', (e.execute p recipe inputs extra).act w = .ok run (w'.closing recipe) ∧
      run.context = w.store.size + 1 ∧
      Turns p standing run.context (opened w recipe ins ext) recipe.steps w' ∧
      ∀ xs ys, recipe.steps = xs ++ ys → ∃ first w₁ second,
        (e.runSteps p run.context xs).act (opened w recipe ins ext) = .ok first w₁ ∧
        (e.runSteps p run.context ys).act w₁ = .ok second w' ∧ run.after = first ++ second ∧
        Turns p standing run.context (opened w recipe ins ext) xs w₁ ∧
        Turns p standing run.context w₁ ys w' := by
  have hstanding : e.registry.get = fun engine => (Registry.standing? requests engine).getD fallback := by
    rw [he]
    exact funext (Registry.get_made fallback requests)
  have hcontext := hasContext_opened w recipe ins ext
  obtain ⟨-, after, w', hrun, -⟩ | ⟨hnot, -⟩ :=
    runSteps_cases p e (w.store.size + 1) recipe.steps (opened w recipe ins ext)
  case inr => exact absurd hall hnot
  refine ⟨⟨w.store.size + 1, after⟩, w', ?_, rfl, hstanding ▸ turns_of_runSteps hcontext hrun,
    fun xs ys hsplit => ?_⟩
  · rw [execute, Run.bind_act, openRun_act hin hext]
    simp only [Run.bind_act, hrun]
    rfl
  · rw [hsplit] at hrun
    obtain ⟨first, w₁, second, hxs, hys, hafter⟩ := runSteps_append_ok hrun
    have hgrows := (e.runSteps p (w.store.size + 1) xs).grows (opened w recipe ins ext)
    rw [hxs] at hgrows
    exact ⟨first, w₁, second, hxs, hys, hafter, hstanding ▸ turns_of_runSteps hcontext hxs,
      hstanding ▸ turns_of_runSteps (hcontext.grows hgrows) hys⟩

/-! ## A run with executors of a host -/

/-- A host whose executor marks the context and then fails. -/
def markingPlatform : Platform :=
  { barePlatform with
    executor := fun _ => ⟨true, fun step context => do
      Run.putItem context (.str step.name) (.bool true)
      Run.valueError "stop"⟩ }

/-- Two registrations, of which the first one is removed again. -/
def markingRequests : List Registry.Request :=
  [.register "mark" (.host "mark"), .register "brief" (.host "mark"), .unregister "brief"]

def markingEngine : Engine := ⟨{}, 0, true, Registry.made .skip markingRequests⟩

/-- Steps for both engines. The mark of the first one is overwritten by its own error. -/
def marking : Recipe :=
  ⟨"marking", "", [], [⟨"output", "mark", ""⟩, ⟨"kept", "mark", ""⟩, ⟨"none", "brief", ""⟩], .null⟩

theorem execute_dispatches_marking : ∃ run w',
    (markingEngine.execute markingPlatform marking .null .null).act bareWorld = .ok run (w'.closing marking) ∧
      run.context = 2 ∧
      Turns markingPlatform (fun engine => (Registry.standing? markingRequests engine).getD .skip) 2
        (opened bareWorld marking [] []) marking.steps w' := by
  have he : markingEngine.registry = Registry.made .skip markingRequests := rfl
  have hall : AllContained markingPlatform markingEngine (bareWorld.store.size + 1) marking.steps
      (opened bareWorld marking [] []) := by
    decide +kernel
  obtain ⟨run, w', hrun, hcontext, hturns, -⟩ :=
    execute_dispatches markingPlatform he marking .nothing .nothing hall
  have htwo : run.context = 2 := hcontext
  exact ⟨run, w', hrun, htwo, htwo ▸ hturns⟩

end Engine

end Stepwise
