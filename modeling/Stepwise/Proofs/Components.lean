import Stepwise.Proofs.Failing
/-!
# Templates as components

A template that exports no component is one as a whole. It is evaluated twice, with different variables: once with the
context alone, for what it exports, and whenever it is called with the context and a copy of the properties.
`Toolchain.whole_template_renders` says what the two have to do with each other: the first evaluation decides whether
there is a component at all, and the second is all that calling it does, however much has happened in between.
-/

namespace Stepwise

/-! ## Copies of mappings -/

/-- A mapping that is written anew is the same. -/
theorem Dict.putAll_act {w : World} {entries : List (Key × Value × Value)} {done : Dict}
    (hnodup : (done.keys ++ entries.map (·.1)).Nodup)
    (hplaced : ∀ entry ∈ entries, entry.2.1.key.act w = .ok entry.1 w) :
    (Dict.putAll done (entries.map (·.2))).act w = .ok ⟨done.entries ++ entries⟩ w := by
  induction entries generalizing done with
  | nil => rw [List.append_nil]; rfl
  | cons entry rest ih =>
    obtain ⟨place, key, v⟩ := entry
    have hplace : key.key.act w = .ok place w := hplaced _ List.mem_cons_self
    have hnew : place ∉ done.keys := fun hmem => (List.nodup_append.1 hnodup).2.2 _ hmem _ List.mem_cons_self rfl
    have hput : done.put place key v = done.insert place (key, v) := by
      rw [Dict.put, OrderedMap.find?_eq_none hnew]
    have hentries := OrderedMap.entries_insert_of_notMem hnew (key, v)
    have hrest : ((done.insert place (key, v)).keys ++ rest.map (·.1)).Nodup := by
      rw [OrderedMap.keys, hentries, List.map_append, List.append_assoc]
      exact hnodup
    have h := ih hrest fun e he => hplaced e (List.mem_cons_of_mem _ he)
    rw [hentries, List.append_assoc] at h
    rw [Dict.putAll, List.map_cons, List.foldlM_cons]
    simp only [Run.bind_act, hplace, Run.pure_act, hput]
    exact h

/-- The value holds these properties: it is nothing and there are none, or it is a mapping. -/
inductive World.Holds (w : World) : Value → Dict → Prop
  | nothing : Holds w .null Dict.empty
  | mapping {a : Addr} {f : DictFlavour} {d : Dict} :
      w.store[a]? = some (.dict f d) → w.IsMapping d → Holds w (.ref a) d

/-- **The copy of properties is what they are.** -/
theorem Template.copied_act {w : World} {props : Value} {d : Dict} (h : w.Holds props d) (m : Machine) :
    (Template.copied m props).act w = .ok d w := by
  cases h with
  | nothing => rfl
  | @mapping a f d ha hd =>
    have htruthy : (Value.ref a).truthy.act w = .ok (!d.isEmpty) w := by
      simp only [Value.truthy, Run.bind_act, Run.load_act ha, Run.pure_act]
    have hpairs : (m.pairsOf (.ref a)).act w = .ok d.pairs w := by
      simp only [Machine.pairsOf, Value.dict?, Run.bind_act, Run.load_act ha, Run.pure_act]
    have hcopy : (Dict.putAll Dict.empty d.pairs).act w = .ok d w := Dict.putAll_act hd.nodup hd.placed
    simp only [Template.copied, Run.bind_act, htruthy]
    cases he : d.isEmpty with
    | false =>
      simp only [Bool.not_false, if_true, Run.bind_act, hpairs]
      exact hcopy
    | true =>
      have hnil : d = Dict.empty := congrArg OrderedMap.mk (List.isEmpty_iff.1 he)
      rw [hnil]
      rfl

/-! ## Calling a component -/

/-- What stands at an address is the component of a template with a context. -/
def World.IsComponent (w : World) (k : Addr) (t : Template) (context : Value) : Prop :=
  ∃ a, w.store[k]? = some (.component a context) ∧ w.store[a]? = some (.template t)

/-- A component is for good what it is. -/
theorem World.IsComponent.grows {w w' : World} {k : Addr} {t : Template} {context : Value}
    (h : w.IsComponent k t context) (hw : w.Grows w') : w'.IsComponent k t context := by
  obtain ⟨a, hk, ha⟩ := h
  exact ⟨a, hw.fixed hk rfl, hw.fixed ha rfl⟩

/-- **Calling a component with properties is rendering its template**, with its context and a copy of them. -/
theorem World.IsComponent.apply_act {w : World} {k : Addr} {t : Template} {context props : Value} {d : Dict}
    (h : w.IsComponent k t context) (hprops : w.Holds props d) (host : Host) (n : Nat) :
    ((Machine.at host (n + 1)).apply (.ref k) [props]).act w =
      (Run.dict d >>= Template.rendered (Machine.at host n) t context).act w := by
  obtain ⟨a, hk, ha⟩ := h
  have htemplate : (Template.templateAt a).act w = .ok t w := by
    simp only [Template.templateAt, Run.bind_act, Run.load_act ha, Run.pure_act]
  have hgiven : (Args.assignedOf ⟨[props], []⟩ "TemplateComponent.__call__" [] [("props", .null)]).act w =
      .ok [("props", props)] w := rfl
  have hcall : ((Machine.at host (n + 1)).apply (.ref k) [props]).act w =
      (Template.callComponent (Machine.at host n) a context ⟨[props], []⟩).act w := by
    change (callValue (Machine.at host n) host (.ref k) ⟨[props], []⟩).act w = _
    simp only [callValue, Run.bind_act, Run.load_act hk]
    rfl
  have hcopy : (Template.copied (Machine.at host n) ((List.lookup "props" [("props", props)]).getD .null)).act w =
      .ok d w := Template.copied_act hprops _
  rw [hcall]
  simp only [Template.callComponent, Run.bind_act, htemplate, hgiven, hcopy]

namespace Toolchain

variable {m : Machine} {a : Addr} {source : String} {t : Template} {tc : Toolchain} {context : Value}
variable {w begun left : World}

/-- The template exports nothing under a name when it is evaluated with the context alone. -/
def ExportsNothing (m : Machine) (t : Template) (context : Value) (name : String) (w : World) : Prop :=
  ∀ exports left, (Template.exportsOf m t context).act w = .ok exports left →
    ((Template.exported? exports name).act left).result? = some none

/-- Its component is then the template as a whole, behind all that the evaluation left. -/
theorem componentOf_whole {exports : Value} {name : String}
    (hevaluated : (Template.exportsOf m t context).act w = .ok exports left)
    (hnothing : ((Template.exported? exports name).act left).result? = some none) :
    ∃ k left', (Template.componentOf m t context name).act w = .ok (.ref k) left' ∧ left.Grows left' ∧
      left'.IsComponent k t context := by
  rcases hexported : (Template.exported? exports name).act left with ⟨found, left₁⟩ | ⟨f, left₁⟩
  case error =>
    rw [hexported] at hnothing
    cases hnothing
  case ok =>
    rw [hexported] at hnothing
    cases hnothing
    have hgrows : left.Grows left₁ := by
      have h := (Template.exported? exports name).grows left
      rw [hexported] at h
      exact h
    let left₂ : World := { left₁ with store := left₁.store.push (.template t) }
    let left₃ : World := { left₂ with store := left₂.store.push (.component left₁.store.size context) }
    have htemplate : left₂.store[left₁.store.size]? = some (.template t) := Array.getElem?_push_size
    have hcomponent : left₃.store[left₂.store.size]? = some (.component left₁.store.size context) :=
      Array.getElem?_push_size
    refine ⟨left₂.store.size, left₃, ?_, ?_, left₁.store.size, hcomponent, World.get_push htemplate _⟩
    · simp only [Template.componentOf, Run.bind_act, hevaluated, hexported]
      rfl
    · exact hgrows.trans ((World.Grows.push left₁ _).trans (World.Grows.push left₂ _))

/-- Where the evaluation fails there is no component, whatever becomes of the error. -/
theorem produce_not_some {f : Failure} (step : String) (hcompile : (compile a source).act begun = .ok t begun)
    (hfetch : (fetch a).act begun = .ok tc begun)
    (hfailed : (Template.exportsOf m t context).act begun = .error f left) (v : Value) (w : World) :
    (produce m a source context step).act begun ≠ .ok (some v) w := by
  have hbody : (do
      let t ← compile a source
      return some (← Template.componentOf m t context (← fetch a).settings.componentName) :
        Run (Option Value)).act begun = .error f left := by
    simp only [Run.bind_act, hcompile, hfetch, Template.componentOf, hfailed]
  intro h
  rw [produce] at h
  cases f with
  | exhausted =>
    rw [Run.recoverOrdinary_exhausted hbody] at h
    cases h
  | raised error =>
    by_cases ho : left.IsOrdinary error
    case neg =>
      rw [Run.recoverOrdinary_passed hbody ho] at h
      cases h
    case pos =>
      rw [Run.recoverOrdinary_handled hbody ho, Run.bind_act] at h
      split at h <;> cases h

/-- **There is a component exactly if the template can be evaluated with the context alone**, and then it is the
template as a whole. -/
theorem invoke_whole (step : String) (hbegun : (ensureInitialized a).act w = .ok () begun)
    (hcompile : (compile a source).act begun = .ok t begun) (hfetch : (fetch a).act begun = .ok tc begun)
    (hnothing : ExportsNothing m t context tc.settings.componentName begun) :
    ((∃ v left, (invoke m a source context step).act w = .ok (some v) left) ↔
      ∃ exports left, (Template.exportsOf m t context).act begun = .ok exports left) ∧
    ∀ v left, (invoke m a source context step).act w = .ok (some v) left →
      ∃ k, v = .ref k ∧ left.IsComponent k t context := by
  have hinvoke : (invoke m a source context step).act w = (produce m a source context step).act begun := by
    rw [invoke, Run.bind_act, hbegun]
  rw [hinvoke]
  rcases hevaluated : (Template.exportsOf m t context).act begun with ⟨exports, evaluated⟩ | ⟨f, evaluated⟩
  case ok =>
    obtain ⟨k, made, hcomponent, -, hmade⟩ := componentOf_whole hevaluated (hnothing _ _ hevaluated)
    have hproduce : (produce m a source context step).act begun = .ok (some (.ref k)) made := by
      refine Run.recoverOrdinary_ok ?_
      simp only [Run.bind_act, hcompile, hfetch, hcomponent, Run.pure_act]
    rw [hproduce]
    refine ⟨iff_of_true ⟨_, _, rfl⟩ ⟨_, _, rfl⟩, fun v left h => ?_⟩
    cases h
    exact ⟨k, rfl, hmade⟩
  case error =>
    have hnone := fun v left => produce_not_some step hcompile hfetch hevaluated v left
    refine ⟨iff_of_false ?_ Ending.error_not_ok, fun v left h => absurd h (hnone v left)⟩
    rintro ⟨v, left, h⟩
    exact hnone v left h

/-- **A template as a component renders what it says.** A source that can be compiled, to a template that exports
nothing under the name of components, has a component exactly if the template can be evaluated with the context
alone. Calling that component with properties, in any world from then on, is rendering the template with that context
and a copy of the properties. -/
theorem whole_template_renders (m : Machine) {a : Addr} {source : String} {t : Template} {tc : Toolchain}
    {context : Value} {w begun : World} (step : String)
    (hbegun : (ensureInitialized a).act w = .ok () begun) (hcompile : (compile a source).act begun = .ok t begun)
    (hfetch : (fetch a).act begun = .ok tc begun)
    (hnothing : ExportsNothing m t context tc.settings.componentName begun) :
    ((∃ v left, (invoke m a source context step).act w = .ok (some v) left) ↔
      ∃ exports left, (Template.exportsOf m t context).act begun = .ok exports left) ∧
    ∀ v left, (invoke m a source context step).act w = .ok (some v) left →
      ∀ w', left.Grows w' → ∀ props d, w'.Holds props d → ∀ host n,
        ((Machine.at host (n + 1)).apply v [props]).act w' =
          (Run.dict d >>= Template.rendered (Machine.at host n) t context).act w' := by
  obtain ⟨hiff, hwhole⟩ := invoke_whole step hbegun hcompile hfetch hnothing
  refine ⟨hiff, fun v left h w' hgrows props d hprops host n => ?_⟩
  obtain ⟨k, rfl, hcomponent⟩ := hwhole v left h
  exact (hcomponent.grows hgrows).apply_act hprops host n

end Toolchain

namespace Engine

/-! ## Whole templates -/

/-- The toolchain and the context when the environment has been loaded. -/
def readyFor (code : String) : World := ((Toolchain.ensureInitialized 0).act (beforeTemplate code)).world

/-- The dictionary at an address has the same keys and values in both worlds. -/
def keepsContents (w w' : World) (a : Addr) : Bool :=
  match w.contents? a, w'.contents? a with
  | some d, some d' => d.keys == d'.keys && (d.pairs.zip d'.pairs).all fun ((_, x), (_, y)) => x.same y
  | _, _ => false

/-- The text of a template with the context and properties, if rendering it leaves both as they were. -/
def textWith (code : String) (props : Run Addr) : Option String :=
  match (do return (← Toolchain.compile 0 code, ← props) : Run (Template × Addr)).act (readyFor code) with
  | .error .. => none
  | .ok (t, b) w =>
    match (Template.rendered barePlatform.machine t (.ref 2) (.ref b)).act w with
    | .error .. => none
    | .ok v w' => if keepsContents w w' 2 && keepsContents w w' b then v.text? else none

/-- The text that calling the component of a template gives. -/
def textOfCall (code : String) (props : Value) : Option String :=
  ((Toolchain.invoke barePlatform.machine 0 code (.ref 2) "s" >>= fun v =>
    barePlatform.machine.apply (v.getD .null) [props]).act (beforeTemplate code)).result?.bind Value.text?

/-- A template that can do without its properties. -/
def greeting : String := "Hello {{ props.name }}"

/-- It is a component, and renders what it says. -/
theorem greeting_renders : ∃ t v left,
    (Toolchain.invoke barePlatform.machine 0 greeting (.ref 2) "s").act (beforeTemplate greeting) =
      .ok (some v) left ∧
    ∀ w', left.Grows w' → ∀ props d, w'.Holds props d → ∀ host n,
      ((Machine.at host (n + 1)).apply v [props]).act w' =
        (Run.dict d >>= Template.rendered (Machine.at host n) t (.ref 2)).act w' := by
  have hbegun : (Toolchain.ensureInitialized 0).act (beforeTemplate greeting) = .ok () (readyFor greeting) := rfl
  obtain ⟨tc, hfetch⟩ := (Toolchain.inspects_fetch [] 0).reads (readyFor greeting)
  obtain ⟨t, hcompile⟩ | ⟨_, -, _, hnone⟩ := (Toolchain.inspects_compile 0 greeting).act_cases (readyFor greeting)
  case inr =>
    have hsome : ((Toolchain.compile 0 greeting).act (readyFor greeting)).result?.isSome := by decide +kernel
    rw [hnone] at hsome
    cases hsome
  have hevaluated : ((Toolchain.compile 0 greeting >>= fun t => Toolchain.fetch 0 >>= fun tc =>
      Template.exportsOf barePlatform.machine t (.ref 2) >>= fun exports =>
        Template.exported? exports tc.settings.componentName).act
          (readyFor greeting)).result?.map Option.isNone = some true := by
    decide +kernel
  simp only [Run.bind_act, hcompile, hfetch] at hevaluated
  rcases hexports : (Template.exportsOf barePlatform.machine t (.ref 2)).act (readyFor greeting) with
    ⟨exports, left⟩ | ⟨f, left⟩ <;> rw [hexports] at hevaluated
  case error => cases hevaluated
  obtain ⟨found, hfound, hnone⟩ := Option.map_eq_some_iff.1 hevaluated
  have hnothing : Toolchain.ExportsNothing barePlatform.machine t (.ref 2) tc.settings.componentName
      (readyFor greeting) := by
    intro exports' left' h
    cases hexports.symm.trans h
    rw [hfound, Option.isNone_iff_eq_none.1 hnone]
  obtain ⟨hiff, hcalls⟩ :=
    Toolchain.whole_template_renders barePlatform.machine "s" hbegun hcompile hfetch hnothing
  obtain ⟨v, made, hmade⟩ := hiff.2 ⟨exports, left, hexports⟩
  exact ⟨t, v, made, hmade, hcalls v made hmade⟩

/-- The world with a toolchain that looks for components under a name, and with a context. -/
def namingWorld (name : String) : World :=
  let toolchain : Toolchain := { settings := { componentName := name }, loader := Loader.ordinary }
  { store := #[.toolchain toolchain, .dict .plain Dict.empty] }

/-- **A template is not always the component that renders what it says.** One that fails without its properties has no
component; where components have the name of a method, that method is the component; and a template can tell the
properties from their copy. -/
theorem whole_template_not_rendered :
    (textWith "{{ props.n + 1 }}" (Run.alloc (.dict .plain (Dict.ofTexts [("n", .int 1)]))) = some "2" ∧
      (templateEnd "{{ props.n + 1 }}").result?.map Option.isNone = some true) ∧
    (textWith "{{ props is sameas context }}" (pure 2) = some "True" ∧
      textOfCall "{{ props is sameas context }}" (.ref 2) = some "False") ∧
    ((Toolchain.invoke barePlatform.machine 0 "x" (.ref 1) "s" >>= fun v => (v.getD .null).kindName).act
      (namingWorld "__html__")).result? = some "method" := by
  decide +kernel

end Engine

end Stepwise
