import Stepwise.Proofs.Describing
import Stepwise.Proofs.Normalising
/-!
# Names of inputs

A bare name is looked at before it is accepted: a blank one is refused. The keys of a mapping are not, and each of
them becomes a name as it is. So the names that a recipe requires are never blank, and the others are not exactly as
long as no key of a mapping has a blank text (`Recipe.load_named_iff`).
-/

namespace Stepwise

/-- Not empty, and not only blanks. -/
def IsNamed (name : String) : Prop := Text.isBlankText name = false

instance : DecidablePred IsNamed := fun _ => inferInstanceAs (Decidable (_ = _))

theorem forall_mem_iff_of_forall₂ {α β : Type} {R : α → β → Prop} {P : α → Prop} {Q : β → Prop} {l : List α} {l' : List β}
    (h : List.Forall₂ R l l') (hR : ∀ a b, R a b → (P a ↔ Q b)) : (∀ a ∈ l, P a) ↔ ∀ b ∈ l', Q b := by
  induction h with
  | nil => exact iff_of_true (List.forall_mem_nil _) (List.forall_mem_nil _)
  | cons hfirst _ ih => rw [List.forall_mem_cons, List.forall_mem_cons, hR _ _ hfirst, ih]

/-- The first name of a list stands first. -/
theorem OrderedMap.head?_ofList {ν : Type} (l : List (String × ν)) : (ofList l).keys.head? = (l.map (·.1)).head? := by
  rw [keys_ofList]
  cases l with
  | nil => rfl
  | cons p rest => rw [List.map_cons, List.eraseDups_cons, List.head?_cons, List.head?_cons]

namespace World

variable {w : World} {v : Value} {i : Input}

/-! ## Keys and names -/

/-- No key of the mapping that a value is has a blank text. -/
def KeysNamed (w : World) (v : Value) : Prop :=
  ∀ d, w.dict? v = some d → ∀ p ∈ d.pairs, ∀ name, p.1.plain.act w = .ok name w → IsNamed name

/-- The first key of the mapping that a value is has no blank text. -/
def FirstKeyNamed (w : World) (v : Value) : Prop :=
  ∀ d, w.dict? v = some d → ∀ p ∈ d.pairs.head?, ∀ name, p.1.plain.act w = .ok name w → IsNamed name

/-- A text has no keys. -/
theorem dict?_of_text {s : String} (h : v.text? = some s) : w.dict? v = none := by
  cases v with
  | ref a => cases h
  | _ => rfl

theorem named_iff_of_told {p : Value × Value} {q : String × Value} (h : p.1.plain.act w = .ok q.1 w ∧ q.2 = p.2) :
    (∀ name, p.1.plain.act w = .ok name w → IsNamed name) ↔ IsNamed q.1 := by
  refine ⟨fun hall => hall q.1 h.1, fun hq name hname => ?_⟩
  cases h.1.symm.trans hname
  exact hq

/-- **A declaration has no blank name exactly when no key has a blank text.** -/
theorem Declares.names_iff (h : w.Declares v i) : (∀ name ∈ i.names, IsNamed name) ↔ w.KeysNamed v := by
  cases h with
  | @required name htext hname =>
    have hdict : w.dict? v = none := dict?_of_text htext
    refine iff_of_true (fun n hn => List.mem_singleton.1 hn ▸ hname) fun d hd => ?_
    cases hdict.symm.trans hd
  | @defaults d pairs _ hdict _ hnames =>
    have hkeys : (∀ name ∈ (OrderedMap.ofList pairs).keys, IsNamed name) ↔ ∀ q ∈ pairs, IsNamed q.1 := by
      rw [OrderedMap.keys_ofList]
      simp only [List.mem_eraseDups, List.forall_mem_map]
    have htold : (∀ p ∈ d.pairs, ∀ name, p.1.plain.act w = .ok name w → IsNamed name) ↔ ∀ q ∈ pairs, IsNamed q.1 :=
      forall_mem_iff_of_forall₂ hnames fun _ _ hpair => named_iff_of_told hpair
    rw [Input.names, hkeys, ← htold, KeysNamed, hdict]
    simp only [Option.some.injEq, forall_eq']

/-- **The parameter of a declaration is not blank exactly when the first key has no blank text.** -/
theorem Declares.parameter_iff (h : w.Declares v i) : (∀ name ∈ i.parameterName?, IsNamed name) ↔ w.FirstKeyNamed v := by
  cases h with
  | @required name htext hname =>
    have hdict : w.dict? v = none := dict?_of_text htext
    refine iff_of_true (fun n hn => Option.some.inj hn ▸ hname) fun d hd => ?_
    cases hdict.symm.trans hd
  | @defaults d pairs _ hdict _ hnames =>
    have hkey : (∀ p ∈ d.pairs.head?, ∀ name, p.1.plain.act w = .ok name w → IsNamed name) ↔
        ∀ name ∈ (pairs.map (·.1)).head?, IsNamed name := by
      rw [Names] at hnames
      generalize d.pairs = keyed at hnames ⊢
      cases hnames with
      | nil =>
        simp only [List.head?_nil, List.map_nil, Option.mem_def, reduceCtorEq, false_implies, implies_true]
      | cons hfirst _ =>
        simp only [List.head?_cons, List.map_cons, Option.mem_def, Option.some.injEq, forall_eq']
        exact named_iff_of_told hfirst
    rw [Input.parameterName?, Input.names, OrderedMap.head?_ofList, ← hkey, FirstKeyNamed, hdict]
    simp only [Option.some.injEq, forall_eq']

/-- A bare name is not blank. -/
theorem Declares.required_named (h : w.Declares v i) {name : String} (hname : i.requiredName? = some name) :
    IsNamed name := by
  cases h with
  | required _ hnamed => exact Option.some.inj hname ▸ hnamed
  | defaults => cases hname

end World

namespace Recipe

variable {w : World}

/-- **Which names can be blank.** Whatever is loaded, no name that it requires is blank. The names that it declares
are not exactly when no key of a mapping among its inputs has a blank text, and those of its parameters exactly when
no first key has: the keys are turned into texts and not looked at. And every descriptor has these names. -/
theorem load_named_iff {raw source : Value} {left : World} {r : Recipe} (hload : (load raw source).act w = .ok r left) :
    ∃ v told d members, w.Parses raw v told ∧ told.dict? v = some d ∧ told.FieldList d "inputs" members ∧
      (∀ name ∈ r.required, IsNamed name) ∧
      ((∀ i ∈ r.inputs, ∀ name ∈ i.names, IsNamed name) ↔ ∀ member ∈ members, told.KeysNamed member) ∧
      ((∀ name ∈ r.parameterNames, IsNamed name) ↔ ∀ member ∈ members, told.FirstKeyNamed member) ∧
      ∀ w' d left', r.describe.act w' = .ok d left' → d.parameters.keys = r.parameterNames ∧ d.required = r.required := by
  obtain ⟨v, told, hparses, hvalue⟩ := load_ok_iff.1 hload
  obtain ⟨d, hdict, hpresents, -⟩ := ofValue_ok_iff.1 ⟨left, hvalue⟩
  obtain ⟨members, hmembers, hinputs⟩ := hpresents.inputs
  refine ⟨v, told, d, members, hparses, hdict, hmembers, fun name hname => ?_, ?_, ?_, fun _ _ _ => describe_says⟩
  · rw [required_eq, List.mem_eraseDups, List.mem_filterMap] at hname
    obtain ⟨i, hi, hrequired⟩ := hname
    obtain ⟨member, -, hdeclares⟩ := exists_rel_of_mem hinputs hi
    exact hdeclares.required_named hrequired
  · exact (forall_mem_iff_of_forall₂ hinputs fun _ _ h => h.names_iff.symm).symm
  · have hnames : (∀ name ∈ r.parameterNames, IsNamed name) ↔ ∀ i ∈ r.inputs, ∀ name ∈ i.parameterName?, IsNamed name := by
      simp only [parameterNames, List.mem_eraseDups, List.mem_filterMap, forall_exists_index, and_imp]
      exact ⟨fun h i hi name hname => h name i hi hname, fun h name i hi hname => h i hi name hname⟩
    rw [hnames]
    exact (forall_mem_iff_of_forall₂ hinputs fun _ _ h => h.parameter_iff.symm).symm

/-- A blank key that is not the first of its mapping declares a name, but no parameter. -/
theorem load_named_of_second_key : ∃ r left,
    (load (.str "jinx_name: t\ninputs:\n- q\n- x: 1\n  ' ': 2\n") .null).act {} = .ok r left ∧
    (∀ name ∈ r.required, IsNamed name) ∧ r.parameterNames = ["q", "x"] ∧
    ∃ (told : World) (members : List Value), (∀ member ∈ members, told.FirstKeyNamed member) ∧
      ¬ ∀ member ∈ members, told.KeysNamed member := by
  have hnames : ((load (.str "jinx_name: t\ninputs:\n- q\n- x: 1\n  ' ': 2\n") .null).act {}).result?.map
      (fun r => (r.inputs.map Input.names, r.parameterNames)) = some ([["q"], ["x", " "]], ["q", "x"]) := by
    decide +kernel
  obtain ⟨r, left, hload, hr⟩ := Ending.exists_of_result? hnames
  obtain ⟨hinputs, hparameters⟩ := Prod.mk.inj hr
  obtain ⟨-, told, -, members, -, -, -, hrequired, hdeclared, hfirst, -⟩ := load_named_iff hload
  refine ⟨r, left, hload, hrequired, hparameters, told, members, hfirst.1 ?_, fun hkeys => ?_⟩
  · rw [hparameters]
    decide +kernel
  · have hblank : ∀ names ∈ r.inputs.map Input.names, ∀ name ∈ names, IsNamed name :=
      List.forall_mem_map.2 (hdeclared.2 hkeys)
    rw [hinputs] at hblank
    exact absurd hblank (by decide +kernel)

/-- **A parameter can be nameless**: an empty key is accepted, and the schema has it. -/
theorem nameless_parameter_of_empty_key : ∃ r left,
    (load (.str "jinx_name: t\ninputs:\n- '': 1\n") .null).act {} = .ok r left ∧
    "" ∈ r.parameterNames ∧ ¬ IsNamed "" := by
  have hnames : ((load (.str "jinx_name: t\ninputs:\n- '': 1\n") .null).act {}).result?.map Recipe.parameterNames =
      some [""] := by decide +kernel
  obtain ⟨r, left, hload, hr⟩ := Ending.exists_of_result? hnames
  exact ⟨r, left, hload, hr ▸ List.mem_cons_self, by decide +kernel⟩

end Recipe

end Stepwise
