import Stepwise.Proofs.Accepting
import Stepwise.Proofs.Layering
import Stepwise.Recipe.Descriptor
/-!
# Loading what has been loaded

`Recipe.ofValue_ok_iff` says from which values a recipe is loaded: its parts are the texts, the lists and the
mappings of the value, one by one. So what a loaded recipe is written as is a value that the recipe is loaded
from, and nothing but the recipe itself can come back (`Recipe.load_again`).
-/

namespace Stepwise

open Run (Inspects)

namespace Run.Inspects

variable {α β : Type} {errors : List String} {x : Run α}

/-- The result depends on the objects alone. -/
theorem act_of_store (h : x.Inspects errors) {w w' : World} (hw : w'.store = w.store) {a : α}
    (hx : x.act w = .ok a w) : x.act w' = .ok a w' := by
  obtain ⟨b, hb⟩ | ⟨_, -, hraised⟩ := h.ends w
  · cases hx.symm.trans (hb w rfl)
    exact hb w' hw
  · obtain ⟨_, _, hend, -⟩ := hraised w rfl
    cases hx.symm.trans hend

end Run.Inspects

/-! ## Looking at a value that is loaded -/

/-- The classes of the errors that loading a value may raise. -/
def loadErrors : List String := Classes.validationError :: textErrors

theorem textErrors_subset : textErrors ⊆ loadErrors := List.subset_cons_self _ _

theorem inspects_throw {α : Type} (fault : RecipeFault) : (fault.throw : Run α).Inspects loadErrors :=
  .raise _ List.mem_cons_self

theorem inspects_fieldText (v : Value) : (fieldText v).Inspects loadErrors := by
  cases v with
  | null => exact .pure ""
  | _ => exact (Value.inspects_plain _).mono textErrors_subset

theorem Value.inspects_kindName (v : Value) : v.kindName.Inspects loadErrors :=
  (inspects_classOf v).bind fun c => inspects_classLabel c

theorem Value.inspects_dict? (v : Value) : v.dict?.Inspects loadErrors := by
  cases v with
  | ref a =>
    refine (Inspects.load a).bind fun o => ?_
    split <;> exact .pure _
  | _ => exact .pure none

theorem Value.inspects_list? (v : Value) : v.list?.Inspects loadErrors := by
  cases v with
  | ref a =>
    refine (Inspects.load a).bind fun o => ?_
    split <;> exact .pure _
  | _ => exact .pure none

theorem Step.inspects_ofValue (v : Value) : (Step.ofValue v).Inspects loadErrors := by
  refine v.inspects_dict?.bind fun r => ?_
  split
  · exact v.inspects_kindName.bind fun _ => inspects_throw _
  · exact (inspects_fieldText _).bind fun _ => (inspects_fieldText _).bind fun _ => (inspects_fieldText _).bind fun _ => .pure _

/-- A pair of a mapping with the text of its key. -/
theorem inspects_namedPair (p : Value × Value) : (do return (← p.1.plain, p.2) : Run (String × Value)).Inspects loadErrors :=
  ((Value.inspects_plain p.1).mono textErrors_subset).bind fun _ => .pure _

theorem Input.inspects_ofValue (recipe : String) (v : Value) : (Input.ofValue recipe v).Inspects loadErrors := by
  unfold Input.ofValue
  split
  · split
    · exact inspects_throw _
    · exact .pure _
  · refine v.inspects_dict?.bind fun r => ?_
    split
    · split
      · exact inspects_throw _
      · exact (Inspects.mapM inspects_namedPair _).bind fun _ => .pure _
    · exact v.inspects_kindName.bind fun _ => inspects_throw _

theorem Recipe.inspects_listField (v : Value) (fault : RecipeFault) : (listField v fault).Inspects loadErrors := by
  refine (v.inspects_truthy.mono textErrors_subset).bind fun b => ?_
  split
  · refine v.inspects_list?.bind fun r => ?_
    split
    · exact .pure _
    · exact inspects_throw _
  · exact .pure _

/-! ## What is loaded from a value -/

namespace World

variable {w : World}

/-- The text of a field of a mapping. -/
def FieldText (w : World) (d : Dict) (name text : String) : Prop := (fieldText (d.field name)).act w = .ok text w

/-- The members of a field of a mapping. What has no truth has no members. -/
def FieldList (w : World) (d : Dict) (name : String) (members : List Value) : Prop :=
  (Ask.truth (d.field name)).Told w ∧ w.listField? (d.field name) = some members

/-- The names are the texts of the keys of a mapping, with what stands there. -/
def Names (w : World) (d : Dict) (pairs : List (String × Value)) : Prop :=
  List.Forall₂ (fun p q => p.1.plain.act w = .ok q.1 w ∧ q.2 = p.2) d.pairs pairs

/-- The input that a value declares: a text that is not blank is a name, and a mapping that is not empty has
defaults under the texts of its keys. -/
inductive Declares (w : World) (v : Value) : Input → Prop
  | required {name : String} : v.text? = some name → Text.isBlankText name = false → w.Declares v (.required name)
  | defaults {d : Dict} {pairs : List (String × Value)} : v.text? = none → w.dict? v = some d → d.isEmpty = false →
      w.Names d pairs → w.Declares v (.defaults (OrderedMap.ofList pairs))

/-- The step that a value describes. -/
def Describes (w : World) (v : Value) (s : Step) : Prop :=
  ∃ d, w.dict? v = some d ∧ w.FieldText d "name" s.name ∧ w.FieldText d "engine" s.engine ∧ w.FieldText d "code" s.code

/-- The recipe that the fields of a mapping present. -/
structure Presents (w : World) (d : Dict) (r : Recipe) : Prop where
  name : (d.field "jinx_name").text? = some r.name
  named : Text.isBlankText r.name = false
  inputs : ∃ members, w.FieldList d "inputs" members ∧ List.Forall₂ w.Declares members r.inputs
  steps : ∃ members, w.FieldList d "steps" members ∧ List.Forall₂ w.Describes members r.steps
  description : w.FieldText d "description" r.description

/-- What is loaded from: a value itself, and what a text is read as. -/
inductive Parses (w : World) (raw : Value) : Value → World → Prop
  | parsed : raw.text? = none → w.Parses raw raw w
  | read {text : String} {v : Value} {w' : World} : raw.text? = some text →
      (Document.read text).act w = .ok (.ok v) w' → w.Parses raw v w'

theorem Parses.grows {raw v : Value} {w' : World} (h : w.Parses raw v w') : w.Grows w' := by
  cases h with
  | parsed => exact .refl w
  | @read text v w' _ hread =>
    have hgrows := (Document.read text).grows w
    rwa [hread] at hgrows

/-- The source of a recipe: what is given for it, or else what the mapping has for it. -/
def HasSource (w : World) (d : Dict) (given source : Value) : Prop :=
  ∃ b, given.truthy.act w = .ok b w ∧ source = if b then given else d.field "_source_path"

end World

variable {w : World}

theorem Step.ofValue_ok_iff {v : Value} {s : Step} : (Step.ofValue v).act w = .ok s w ↔ w.Describes v s := by
  obtain ⟨r, hr, hdict⟩ := Value.dict?_act (rfl : w.store = w.store) v
  rw [Step.ofValue, Run.bind_ok hr, World.Describes, ← hdict]
  cases r with
  | none =>
    refine iff_of_false (fun h => ?_) (fun ⟨_, h, _⟩ => nomatch h)
    obtain ⟨_, -, h⟩ := v.inspects_kindName.bind_ok_iff.1 h
    cases h
  | some r =>
    obtain ⟨a, fl, d⟩ := r
    simp only [(inspects_fieldText _).bind_ok_iff, Option.map_some, Option.some.injEq, exists_eq_left']
    constructor
    · rintro ⟨name, hname, engine, hengine, code, hcode, h⟩
      cases h
      exact ⟨hname, hengine, hcode⟩
    · rintro ⟨hname, hengine, hcode⟩
      exact ⟨_, hname, _, hengine, _, hcode, rfl⟩

theorem names_ok_iff {d : Dict} {pairs : List (String × Value)} :
    (d.pairs.mapM fun (k, x) => do return (← k.plain, x) : Run _).act w = .ok pairs w ↔ w.Names d pairs := by
  have hpair (p : Value × Value) (q : String × Value) :
      (do return (← p.1.plain, p.2) : Run (String × Value)).act w = .ok q w ↔ p.1.plain.act w = .ok q.1 w ∧ q.2 = p.2 := by
    rw [((Value.inspects_plain p.1).mono textErrors_subset).bind_ok_iff]
    constructor
    · rintro ⟨s, hs, h⟩
      cases h
      exact ⟨hs, rfl⟩
    · rintro ⟨hs, hsecond⟩
      exact ⟨q.1, hs, by rw [← hsecond]; rfl⟩
  refine (Inspects.mapM_ok_iff inspects_namedPair).trans ?_
  simp only [hpair, true_and, World.Names]

theorem Input.ofValue_ok_iff {recipe : String} {v : Value} {i : Input} :
    (Input.ofValue recipe v).act w = .ok i w ↔ w.Declares v i := by
  obtain ⟨r, hr, hdict⟩ := Value.dict?_act (rfl : w.store = w.store) v
  rw [Input.ofValue]
  cases htext : v.text? with
  | some name =>
    dsimp only
    constructor
    · intro h
      split at h
      · cases h
      case isFalse hname =>
        cases h
        exact .required htext (Bool.not_eq_true _ ▸ hname)
    · intro h
      cases h with
      | required hthis hname =>
        cases htext.symm.trans hthis
        rw [if_neg (by rw [hname]; exact Bool.false_ne_true)]
        rfl
      | defaults hthis => cases htext.symm.trans hthis
  | none =>
    dsimp only
    rw [Run.bind_ok hr]
    cases r with
    | none =>
      refine iff_of_false (fun h => ?_) fun h => ?_
      · obtain ⟨_, -, h⟩ := v.inspects_kindName.bind_ok_iff.1 h
        cases h
      · cases h with
        | required hthis => cases htext.symm.trans hthis
        | defaults _ hthis => cases hdict.trans hthis
    | some r =>
      obtain ⟨a, fl, d⟩ := r
      dsimp only
      cases hempty : d.isEmpty with
      | true =>
        refine iff_of_false (fun h => ?_) fun h => ?_
        · cases h
        · cases h with
          | required hthis => cases htext.symm.trans hthis
          | defaults _ hthis hfull =>
            cases hdict.trans hthis
            cases hempty.symm.trans hfull
      | false =>
        rw [if_neg Bool.false_ne_true, (Inspects.mapM inspects_namedPair _).bind_ok_iff]
        simp only [names_ok_iff]
        constructor
        · rintro ⟨pairs, hpairs, h⟩
          cases h
          exact .defaults htext hdict.symm hempty hpairs
        · intro h
          cases h with
          | required hthis => cases htext.symm.trans hthis
          | defaults _ hthis _ hpairs =>
            cases hdict.trans hthis
            exact ⟨_, hpairs, rfl⟩

namespace Recipe

theorem listField_ok_iff {d : Dict} {name : String} {fault : RecipeFault} {members : List Value} :
    (listField (d.field name) fault).act w = .ok members w ↔ w.FieldList d name members := by
  constructor
  · intro h
    refine ⟨?_, listField_eq rfl h⟩
    obtain ⟨b, hb, -⟩ := ((d.field name).inspects_truthy).bind_ok_iff.1 h
    exact ⟨b, hb⟩
  · rintro ⟨⟨b, hb⟩, hmembers⟩
    rw [listField_act (fun w' hw' => (d.field name).inspects_truthy.act_of_store hw' hb) fault rfl, hmembers]
    rfl

/-- What is reported changes no object. -/
theorem report_act (names : List String) (message : String → String) (w : World) :
    ∃ left, (names.forM fun s => Run.log .warning (message s)).act w = .ok () left ∧ left.store = w.store := by
  induction names generalizing w with
  | nil => exact ⟨w, rfl, rfl⟩
  | cons s names ih => exact ih { w with log := w.log.push ⟨.warning, message s⟩ }

/-- The last of loading: names are reported, and the description and the source are looked at. -/
theorem finish_ok_iff (make : String → Value → Recipe) {names : List String} {message : String → String}
    {field source path : Value} {r : Recipe} :
    (∃ left, (do
      names.forM fun s => Run.log .warning (message s)
      let description ← fieldText field
      let source ← if ← source.truthy then pure source else pure path
      return make description source : Run Recipe).act w = .ok r left) ↔
      ∃ text, (fieldText field).act w = .ok text w ∧ ∃ b, source.truthy.act w = .ok b w ∧
        r = make text (if b then source else path) := by
  obtain ⟨reported, hreport, hstore⟩ := report_act names message w
  rw [Run.bind_ok hreport]
  constructor
  · rintro ⟨left, h⟩
    obtain ⟨text, htext, h⟩ := (inspects_fieldText _).bind_ok_iff.1 h
    obtain ⟨b, hb, h⟩ := source.inspects_truthy.bind_ok_iff.1 h
    refine ⟨text, (inspects_fieldText _).act_of_store hstore.symm htext, b,
      source.inspects_truthy.act_of_store hstore.symm hb, ?_⟩
    cases b
    all_goals
      cases h
      rfl
  · rintro ⟨text, htext, b, hb, rfl⟩
    refine ⟨reported, ?_⟩
    rw [Run.bind_ok ((inspects_fieldText _).act_of_store hstore htext),
      Run.bind_ok (source.inspects_truthy.act_of_store hstore hb)]
    cases b <;> rfl

/-- **A recipe is loaded from the mappings that present it**, and from no other values. -/
theorem ofValue_ok_iff {v source : Value} {r : Recipe} :
    (∃ left, (ofValue v source).act w = .ok r left) ↔
      ∃ d, w.dict? v = some d ∧ w.Presents d r ∧ w.HasSource d source r.source := by
  obtain ⟨found, hfound, hdict⟩ := Value.dict?_act (rfl : w.store = w.store) v
  rw [ofValue, Run.bind_ok hfound, ← hdict]
  cases found with
  | none =>
    refine iff_of_false (fun ⟨_, h⟩ => ?_) (fun ⟨_, h, _⟩ => nomatch h)
    obtain ⟨_, -, h⟩ := v.inspects_kindName.bind_ok_iff.1 h
    cases h
  | some found =>
    obtain ⟨a, fl, d⟩ := found
    simp only [Option.map_some, Option.some.injEq, exists_eq_left']
    cases hname : (d.field "jinx_name").text? with
    | none =>
      refine iff_of_false (fun ⟨_, h⟩ => nomatch h) fun ⟨h, _⟩ => ?_
      cases hname.symm.trans h.name
    | some name =>
      dsimp only
      cases hblank : Text.isBlankText name with
      | true =>
        refine iff_of_false (fun ⟨_, h⟩ => nomatch h) fun ⟨h, _⟩ => ?_
        cases hname.symm.trans h.name
        cases hblank.symm.trans h.named
      | false =>
        simp only [Bool.false_eq_true, if_false, (inspects_listField _ _).bind_ok_iff, listField_ok_iff,
          (Inspects.mapM (Input.inspects_ofValue name) _).bind_ok_iff, Inspects.mapM_ok_iff (Input.inspects_ofValue name),
          Input.ofValue_ok_iff, (Inspects.mapM Step.inspects_ofValue _).bind_ok_iff,
          Inspects.mapM_ok_iff Step.inspects_ofValue, Step.ofValue_ok_iff, true_and]
        constructor
        · rintro ⟨left, members, hmembers, codes, hcodes, inputs, hinputs, steps, hsteps, h⟩
          obtain ⟨text, htext, b, hb, rfl⟩ := (finish_ok_iff _).1 ⟨left, h⟩
          exact ⟨⟨hname, hblank, ⟨members, hmembers, hinputs⟩, ⟨codes, hcodes, hsteps⟩, htext⟩, b, hb, rfl⟩
        · rintro ⟨⟨hthis, -, ⟨members, hmembers, hinputs⟩, ⟨codes, hcodes, hsteps⟩, htext⟩, b, hb, hsource⟩
          cases hname.symm.trans hthis
          obtain ⟨left, hleft⟩ := (finish_ok_iff fun text source => ⟨r.name, text, r.inputs, r.steps, source⟩).2
            ⟨r.description, htext, b, hb, congrArg (Recipe.mk _ _ _ _) hsource⟩
          exact ⟨left, members, hmembers, codes, hcodes, r.inputs, hinputs, r.steps, hsteps, hleft⟩

/-- What is loaded from a text is loaded from what the text is read as. -/
theorem load_act {raw v : Value} {w' : World} (h : w.Parses raw v w') (source : Value) :
    (load raw source).act w = (ofValue v source).act w' := by
  cases h with
  | parsed htext => rw [load, htext]
  | read htext hread =>
    rw [load, htext]
    exact Run.bind_ok hread

/-- **A recipe is loaded from what a text is read as**, and from any other value itself. -/
theorem load_ok_iff {raw source : Value} {r : Recipe} {left : World} :
    (load raw source).act w = .ok r left ↔ ∃ v w', w.Parses raw v w' ∧ (ofValue v source).act w' = .ok r left := by
  constructor
  · intro h
    cases htext : raw.text? with
    | none => exact ⟨raw, w, .parsed htext, load_act (.parsed htext) source ▸ h⟩
    | some text =>
      rw [load, htext] at h
      dsimp only at h
      rw [ofText, Run.bind_act] at h
      cases hread : (Document.read text).act w with
      | error failure middle =>
        rw [hread] at h
        cases h
      | ok found middle =>
        rw [hread] at h
        cases found with
        | error fault =>
          cases fault with
          | malformed => cases h
          | noSuchChar code =>
            dsimp only at h
            split at h <;> cases h
        | ok v => exact ⟨v, middle, .read htext hread, h⟩
  · rintro ⟨v, w', hparses, h⟩
    rw [load_act hparses, h]

end Recipe

/-! ## What a loaded recipe is written as -/

theorem exists_rel_of_mem {α β : Type} {R : α → β → Prop} {l : List α} {l' : List β} (h : List.Forall₂ R l l') {b : β}
    (hb : b ∈ l') : ∃ a ∈ l, R a b := by
  induction h with
  | nil => cases hb
  | @cons a _ _ _ hfirst _ ih =>
    rcases List.mem_cons.1 hb with rfl | hrest
    · exact ⟨a, List.mem_cons_self, hfirst⟩
    · obtain ⟨c, hc, hrel⟩ := ih hrest
      exact ⟨c, List.mem_cons_of_mem _ hc, hrel⟩

/-- A bare name is not blank, and a group of defaults has some, each name once. -/
def Input.Normal : Input → Prop
  | required name => Text.isBlankText name = false
  | defaults values => values.isEmpty = false ∧ values.keys.Nodup

/-- A recipe as loading gives it. -/
structure Recipe.Normal (r : Recipe) : Prop where
  named : Text.isBlankText r.name = false
  inputs : ∀ i ∈ r.inputs, i.Normal

theorem World.Declares.normal {v : Value} {i : Input} (h : w.Declares v i) : i.Normal := by
  cases h with
  | required _ hname => exact hname
  | @defaults d pairs _ _ hfull hnames =>
    refine ⟨?_, OrderedMap.nodup_ofList pairs⟩
    rw [OrderedMap.isEmpty_ofList]
    cases pairs with
    | nil =>
      have hnil : d.entries = [] := List.map_eq_nil_iff.1 (List.forall₂_nil_right_iff.1 hnames)
      rw [OrderedMap.isEmpty, hnil] at hfull
      cases hfull
    | cons => rfl

/-- The source of a recipe stands elsewhere. -/
theorem World.Presents.of_source {d : Dict} {r : Recipe} (h : w.Presents d r) (source : Value) :
    w.Presents d { r with source := source } :=
  ⟨h.name, h.named, h.inputs, h.steps, h.description⟩

/-- **What is loaded is normal.** -/
theorem World.Presents.normal {d : Dict} {r : Recipe} (h : w.Presents d r) : r.Normal := by
  obtain ⟨members, -, hinputs⟩ := h.inputs
  refine ⟨h.named, fun i hi => ?_⟩
  obtain ⟨v, -, hv⟩ := exists_rel_of_mem hinputs hi
  exact hv.normal

/-! ### Writing -/

/-- Where each member has a result that stays one, all of them have. -/
theorem Run.mapM_retains {α β : Type} {f : α → Run β} {P : World → β → α → Prop} {l : List α}
    (hf : ∀ a ∈ l, ∀ w, ∃ b left, (f a).act w = .ok b left ∧ w.Retains left ∧ ∀ later, left.Retains later → P later b a)
    (w : World) : ∃ bs left, (l.mapM f).act w = .ok bs left ∧ w.Retains left ∧
      ∀ later, left.Retains later → List.Forall₂ (P later) bs l := by
  induction l generalizing w with
  | nil => exact ⟨[], w, rfl, .refl w, fun _ _ => .nil⟩
  | cons a l ih =>
    obtain ⟨b, middle, hfirst, hretains, hb⟩ := hf a List.mem_cons_self w
    obtain ⟨bs, left, hrest, hretains', hbs⟩ := ih (fun c hc => hf c (List.mem_cons_of_mem a hc)) middle
    refine ⟨b :: bs, left, ?_, hretains.trans hretains', fun later hlater => ?_⟩
    · rw [List.mapM_cons, bind_ok hfirst, bind_ok hrest]
      rfl
    · exact .cons (hb later (hretains'.trans hlater)) (hbs later hlater)

/-- A new object is there in the end. -/
theorem Run.new_retains (o : Obj) (w : World) : ∃ a left, (Run.new o).act w = .ok (.ref a) left ∧ w.Retains left ∧
    ∀ later, left.Retains later → later.store[a]? = some o :=
  ⟨w.store.size, _, rfl, (World.Retains.refl w).push o, fun _ hlater => hlater _ _ Array.getElem?_push_size⟩

theorem World.dict?_of_get {a : Addr} {f : DictFlavour} {d : Dict} (h : w.store[a]? = some (.dict f d)) :
    w.dict? (.ref a) = some d := by
  rw [dict?, contents?, h]

/-- A list is the list of its members. -/
theorem World.fieldList_of_list {d : Dict} {name : String} {a : Addr} {members : List Value}
    (hfield : d.field name = .ref a) (h : w.store[a]? = some (.list members.toArray)) : w.FieldList d name members := by
  have htruth : (Value.ref a).truthy.act w = .ok (!members.toArray.isEmpty) w := by
    simp only [Value.truthy, Run.bind_act, Run.load_act h, Run.pure_act]
  refine ⟨⟨_, by rw [hfield]; exact htruth⟩, ?_⟩
  rw [hfield, listField?, htruth, list?, h]
  cases members <;> rfl

/-- **What an input is written as declares it.** -/
theorem Input.toValue_act {i : Input} (hi : i.Normal) (w : World) : ∃ v left, i.toValue.act w = .ok v left ∧
    w.Retains left ∧ ∀ later, left.Retains later → later.Declares v i := by
  cases i with
  | required name => exact ⟨.str name, w, rfl, .refl w, fun _ _ => .required rfl hi⟩
  | defaults values =>
    obtain ⟨hfull, hnodup⟩ := hi
    obtain ⟨a, left, hnew, hretains, hlater⟩ := Run.new_retains (.dict .plain (Dict.ofTexts values.entries)) w
    refine ⟨.ref a, left, hnew, hretains, fun later h => ?_⟩
    have hdict := World.dict?_of_get (hlater later h)
    rw [Dict.ofTexts_entries hnodup] at hdict
    have hsame : OrderedMap.ofList values.entries = values :=
      congrArg OrderedMap.mk (OrderedMap.entries_insertAll_of_nodup (m := .empty) hnodup)
    rw [← hsame]
    have hnames : later.Names (Dict.ofMap values) values.entries := by
      rw [World.Names, Dict.pairs, Dict.ofMap, List.map_map, List.forall₂_map_left_iff]
      exact List.forall₂_same.2 fun p _ => ⟨rfl, rfl⟩
    refine .defaults rfl hdict ?_ hnames
    rw [OrderedMap.isEmpty, Dict.ofMap, List.isEmpty_map]
    exact hfull

theorem Step.toValue_act (s : Step) (w : World) : ∃ v left, s.toValue.act w = .ok v left ∧
    w.Retains left ∧ ∀ later, left.Retains later → later.Describes v s := by
  obtain ⟨a, left, hnew, hretains, hlater⟩ := Run.new_retains
    (.dict .plain (Dict.ofTexts [("name", .str s.name), ("engine", .str s.engine), ("code", .str s.code)])) w
  refine ⟨.ref a, left, hnew, hretains, fun later h => ?_⟩
  exact ⟨_, World.dict?_of_get (hlater later h), rfl, rfl, rfl⟩

namespace Recipe

/-- **What a recipe is written as presents it.** -/
theorem toValue_act {r : Recipe} (hr : r.Normal) (w : World) : ∃ a d left, r.toValue.act w = .ok (.ref a) left ∧
    left.dict? (.ref a) = some d ∧ left.Presents d r := by
  obtain ⟨members, w₁, hinputs, -, hmembers⟩ := Run.mapM_retains (fun i hi => Input.toValue_act (hr.inputs i hi)) w
  obtain ⟨ins, w₂, hlist, hretains₂, hins⟩ := Run.new_retains (.list members.toArray) w₁
  obtain ⟨codes, w₃, hsteps, hretains₃, hcodes⟩ := Run.mapM_retains (fun s (_ : s ∈ r.steps) => Step.toValue_act s) w₂
  obtain ⟨sts, w₄, hlist', hretains₄, hsts⟩ := Run.new_retains (.list codes.toArray) w₃
  obtain ⟨a, w₅, hdict, hretains₅, ha⟩ := Run.new_retains (.dict .plain (Dict.ofTexts [("jinx_name", .str r.name),
    ("description", .str r.description), ("inputs", .ref ins), ("steps", .ref sts)])) w₄
  refine ⟨a, _, w₅, ?_, World.dict?_of_get (ha w₅ (.refl w₅)), ⟨rfl, hr.named, ?_, ?_, rfl⟩⟩
  · rw [toValue, inputsValue, bind_assoc, Run.bind_ok hinputs, Run.bind_ok (x := Run.list members) hlist,
      Run.bind_ok hsteps, Run.bind_ok (x := Run.list codes) hlist']
    exact hdict
  · refine ⟨members, ?_, hmembers w₅ (hretains₂.trans (hretains₃.trans (hretains₄.trans hretains₅)))⟩
    exact World.fieldList_of_list rfl (hins w₅ (hretains₃.trans (hretains₄.trans hretains₅)))
  · refine ⟨codes, ?_, hcodes w₅ (hretains₄.trans hretains₅)⟩
    exact World.fieldList_of_list rfl (hsts w₅ hretains₅)

end Recipe

/-! ## Sources -/

/-- The value has a truth in this world, and in all that it grows into. -/
def World.HasTruth (w : World) (v : Value) : Prop := ∀ w', w.Grows w' → (Ask.truth v).Told w'

theorem World.HasTruth.grows {v : Value} {w' : World} (h : w.HasTruth v) (hw : w.Grows w') : w'.HasTruth v :=
  fun _ hlater => h _ (hw.trans hlater)

theorem hasTruth_null (w : World) : w.HasTruth .null := fun _ _ => ⟨false, rfl⟩

/-- What a document is made of has a truth. -/
theorem hasTruth_of_made {base : Addr} {v : Value} (h : Document.Made base w v) : w.HasTruth v := by
  intro w' hw
  cases h.grows hw with
  | @object a o _ ho hmade =>
    have hload : (Value.ref a).truthy.act w' = _ := Run.bind_ok (Run.load_act ho)
    cases o with
    | list | dict | set | date | datetime => exact ⟨_, hload⟩
    | _ => exact absurd hmade id
  | _ => exact ⟨_, rfl⟩

/-- **What a mapping of a document holds has a truth.** -/
theorem hasTruth_field {text : String} {v : Value} {w' : World} {d : Dict}
    (hread : (Document.read text).act w = .ok (.ok v) w') (hd : w'.dict? v = some d) (name : String) :
    w'.HasTruth (d.field name) := by
  have hends := Document.read_ends text w
  rw [hread] at hends
  cases hends with
  | value hfilled hmade =>
    cases hfound : d.find? (Dict.textKey name) with
    | none =>
      have hnull : d.field name = .null := by rw [Dict.field, Dict.getText?, Dict.get?, hfound]; rfl
      rw [hnull]
      exact hasTruth_null w'
    | some entry =>
      have hfield : d.field name = entry.2 := by rw [Dict.field, Dict.getText?, Dict.get?, hfound]; rfl
      rw [hfield]
      cases hmade with
      | @object a o hnew ho _ =>
        rw [World.dict?, World.contents?, ho] at hd
        cases o with
        | dict f contents =>
          cases hd
          exact hasTruth_of_made (hfilled.holds a f d hnew ho _ (OrderedMap.mem_of_find? hfound))
        | _ => cases hd
      | _ => cases hd

namespace Recipe

/-! ## Loading again -/

/-- The recipes are the same but for their sources: their declarations and their steps are, one by one, and so is
what follows from these. -/
structure Restates (again r : Recipe) : Prop where
  name : again.name = r.name
  description : again.description = r.description
  inputs : again.inputs = r.inputs
  steps : again.steps = r.steps
  defaults : again.defaults = r.defaults
  required : again.required = r.required
  descriptor : again.describe = r.describe

theorem restates_of_eq {again r : Recipe} (h : again = { r with source := again.source }) : again.Restates r := by
  rw [h]
  exact ⟨rfl, rfl, rfl, rfl, rfl, rfl, rfl⟩

/-- The source of a loaded recipe has a truth, if what was given for it has, and what stands for it in a value
that was not read from a text. -/
theorem hasTruth_source {raw source : Value} {left : World} {r : Recipe} (hload : (load raw source).act w = .ok r left)
    (hsource : w.HasTruth source) (hpath : ∀ d, w.dict? raw = some d → w.HasTruth (d.field "_source_path")) :
    left.HasTruth r.source := by
  obtain ⟨v, middle, hparses, hvalue⟩ := load_ok_iff.1 hload
  obtain ⟨d, hdict, -, b, -, hgiven⟩ := ofValue_ok_iff.1 ⟨left, hvalue⟩
  have hgrows := (ofValue v source).grows middle
  rw [hvalue] at hgrows
  refine World.HasTruth.grows ?_ hgrows
  rw [hgiven]
  cases b with
  | true => exact hsource.grows hparses.grows
  | false =>
    cases hparses with
    | parsed => exact hpath d hdict
    | read _ hread => exact hasTruth_field hread hdict "_source_path"

/-- **Loading normalises once and for all.** Whatever a recipe is loaded from, it is normal. Loaded again at any later
time, from what it is written as or from itself, it comes back with the same declarations and steps, and so with the
same defaults and descriptor. Only its source is looked at again, which must have a truth. -/
theorem load_again {raw source : Value} {left : World} {r : Recipe} (hload : (load raw source).act w = .ok r left)
    (hsource : w.HasTruth source) (hpath : ∀ d, w.dict? raw = some d → w.HasTruth (d.field "_source_path")) :
    r.Normal ∧ ∀ w', left.Grows w' →
      (∃ again left', (do load (← r.toValue) .null : Run Recipe).act w' = .ok again left' ∧ again.Restates r) ∧
      ∃ again left', (r.reload .null).act w' = .ok again left' ∧ again.Restates r := by
  obtain ⟨v, middle, -, hvalue⟩ := load_ok_iff.1 hload
  obtain ⟨d, -, hpresents, -⟩ := ofValue_ok_iff.1 ⟨left, hvalue⟩
  have hnormal := hpresents.normal
  refine ⟨hnormal, fun w' hw => ?_⟩
  obtain ⟨a, shown, later, hwritten, hdict, hshown⟩ := toValue_act hnormal w'
  have hgrows := r.toValue.grows w'
  rw [hwritten] at hgrows
  have hfrom (source : Value) (hsource : (Ask.truth source).Told later) :
      ∃ again left', (ofValue (.ref a) source).act later = .ok again left' ∧ again.Restates r := by
    obtain ⟨b, hb⟩ := hsource
    let again : Recipe := { r with source := if b then source else shown.field "_source_path" }
    obtain ⟨left', hleft⟩ := ofValue_ok_iff.2 ⟨shown, hdict, hshown.of_source again.source, b, hb, rfl⟩
    exact ⟨again, left', hleft, restates_of_eq rfl⟩
  constructor
  · rw [Run.bind_ok hwritten]
    exact hfrom .null ⟨false, rfl⟩
  · rw [reload, Run.bind_ok hwritten]
    exact hfrom r.source (hasTruth_source hload hsource hpath later (hw.trans hgrows))

/-- **A text whose keys meet when they are turned into texts** is loaded, and loaded again. -/
theorem load_again_of_meeting_keys : ∃ r left,
    (load (.str "jinx_name: t\ninputs:\n- q\n- 1: a\n  '1': b\n") .null).act {} = .ok r left ∧
    r.inputs.map Input.names = [["q"], ["1"]] ∧
    (∃ again left', (do load (← r.toValue) .null : Run Recipe).act left = .ok again left' ∧ again.Restates r) ∧
    ∃ again left', (r.reload .null).act left = .ok again left' ∧ again.Restates r := by
  have hnames : ((load (.str "jinx_name: t\ninputs:\n- q\n- 1: a\n  '1': b\n") .null).act {}).result?.map
      (fun r => r.inputs.map Input.names) = some [["q"], ["1"]] := by decide +kernel
  obtain ⟨r, left, hload, hinputs⟩ := Ending.exists_of_result? hnames
  exact ⟨r, left, hload, hinputs, (load_again hload (hasTruth_null _) fun _ h => nomatch h).2 left (.refl left)⟩

end Recipe

end Stepwise
