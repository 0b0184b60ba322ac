import Mathlib.Data.List.Forall2
import Stepwise.Engine.Basic
/-!
# How a run begins

The context of a run is built from mappings. Over mappings whose keys have their places it is always
built, and `buildContext_act` says what it holds: the defaults, then the inputs, then the rest, and an
empty output. Nothing else in the world changes but that the context is new in it.
-/

namespace Stepwise

/-- The class of an error in the store, if it is not one of a script. -/
def World.errorClass? (w : World) (error : Addr) : Option String :=
  match w.store[error]? with
  | some (.error (.cls name) _ _) => some name
  | _ => none

theorem World.errorClass?_of_get {w : World} {error : Addr} {cls : String} {args : List Value}
    {fields : List (String × Value)} (h : w.store[error]? = some (.error (.cls cls) args fields)) :
    w.errorClass? error = some cls := by
  rw [errorClass?, h]

/-- What failed has no result. -/
theorem Ending.error_ne_ok {α : Type} {f : Failure} {v : World} (a : α) (w : World) :
    (.error f v : Ending α) ≠ .ok a w := by
  intro h
  cases h

theorem Ending.error_not_ok {α : Type} {f : Failure} {v : World} :
    ¬ ∃ a w, (.error f v : Ending α) = .ok a w := by
  rintro ⟨a, w, h⟩
  exact error_ne_ok a w h

/-- What can be said of the result of a run is said of what it ends with. -/
theorem Ending.exists_of_result? {α β : Type} {x : Ending α} {f : α → β} {b : β} (h : x.result?.map f = some b) :
    ∃ a w, x = .ok a w ∧ f a = b := by
  cases x with
  | ok a w => exact ⟨a, w, rfl, Option.some.inj h⟩
  | error e w => cases h

/-- The world in which an error has been raised newly. -/
def World.raising (w : World) (cls message : String) : World :=
  { w with store := w.store.push (.error (.cls cls) [.str message] []) }

namespace World

/-- All that was there before is there as it was. -/
def Retains (w w' : World) : Prop := ∀ (a : Addr) (o : Obj), w.store[a]? = some o → w'.store[a]? = some o

namespace Retains

theorem refl (w : World) : w.Retains w := fun _ _ h => h

theorem trans {u v w : World} (huv : u.Retains v) (hvw : v.Retains w) : u.Retains w :=
  fun a o ha => hvw a o (huv a o ha)

theorem push {w w' : World} (h : w.Retains w') (o : Obj) : w.Retains { w' with store := w'.store.push o } :=
  fun a o' ha => get_push (h a o' ha) o

end Retains

end World

namespace Run

variable {α β : Type}

/-- What is raised newly is an error of its class. -/
theorem raiseWith_act (cls : String) (args : List Value) (fields : List (String × Value)) (w : World) :
    ∃ error left, (raiseWith cls args fields : Run α).act w = .error (.raised error) left ∧
      left.errorClass? error = some cls :=
  ⟨w.store.size, _, rfl, World.errorClass?_of_get Array.getElem?_push_size⟩

/-! ## Runs that only look -/

/-- The run ends with a result and leaves the world as it was. -/
def Reads (x : Run α) : Prop := ∀ w : World, ∃ a, x.act w = .ok a w

theorem reads_pure (a : α) : Reads (pure a : Run α) := fun _ => ⟨a, rfl⟩

theorem Reads.bind {x : Run α} {f : α → Run β} (hx : Reads x) (hf : ∀ a, Reads (f a)) :
    Reads (x >>= f) := by
  intro w
  obtain ⟨a, ha⟩ := hx w
  obtain ⟨b, hb⟩ := hf a w
  exact ⟨b, by rw [bind_act, ha]; exact hb⟩

/-- A run goes on from what its first part leaves. -/
theorem bind_ok {x : Run α} {f : α → Run β} {w w' : World} {a : α} (h : x.act w = .ok a w') :
    (x >>= f).act w = (f a).act w' := by
  rw [bind_act, h]

/-- Runs that leave the world as it is, one after the other. -/
theorem mapM_act {f : α → Run β} {g : α → β} {l : List α} {w : World}
    (h : ∀ a ∈ l, (f a).act w = .ok (g a) w) : (l.mapM f).act w = .ok (l.map g) w := by
  induction l with
  | nil => rfl
  | cons a l ih =>
    have hrest := ih fun b hb => h b (List.mem_cons_of_mem a hb)
    rw [List.mapM_cons]
    simp only [bind_act, h a List.mem_cons_self, hrest, pure_act, List.map_cons]

theorem filterMapM_act {γ : Type} {f : α → Run (Option β)} {e : γ → α} {g : γ → Option β} {l : List γ} {w : World}
    (h : ∀ c ∈ l, (f (e c)).act w = .ok (g c) w) : ((l.map e).filterMapM f).act w = .ok (l.filterMap g) w := by
  induction l with
  | nil => rfl
  | cons c l ih =>
    have hrest := ih fun b hb => h b (List.mem_cons_of_mem c hb)
    rw [List.map_cons, List.filterMapM_cons, List.filterMap_cons]
    simp only [bind_act, h c List.mem_cons_self]
    cases g c with
    | none => exact hrest
    | some b => simp only [bind_act, hrest, pure_act]

theorem reads_load (a : Addr) : Reads (load a) := fun _ => ⟨_, rfl⟩

/-- The run is put together from looking at objects and from raising errors of these classes. -/
inductive Inspects (errors : List String) : {α : Type} → Run α → Prop
  | pure {α : Type} (a : α) : Inspects errors (Pure.pure a : Run α)
  | load (a : Addr) : Inspects errors (Run.load a)
  | raise {α : Type} {cls : String} (message : String) : cls ∈ errors → Inspects errors (Run.raise cls message : Run α)
  | bind {α β : Type} {x : Run α} {f : α → Run β} :
      Inspects errors x → (∀ a, Inspects errors (f a)) → Inspects errors (x >>= f)

namespace Inspects

variable {errors : List String}

theorem mapM {f : α → Run β} (hf : ∀ a, Inspects errors (f a)) (l : List α) : Inspects errors (l.mapM f) := by
  induction l with
  | nil => exact .pure []
  | cons a l ih =>
    rw [List.mapM_cons]
    exact (hf a).bind fun b => ih.bind fun bs => .pure (b :: bs)

/-- What may be raised need not be. -/
theorem mono {errors' : List String} {x : Run α} (h : Inspects errors x) (hsub : errors ⊆ errors') :
    Inspects errors' x := by
  induction h with
  | pure a => exact .pure a
  | load a => exact .load a
  | raise message hcls => exact .raise message (hsub hcls)
  | bind _ _ ihx ihf => exact ihx.bind ihf

/-- **Such a run depends on the objects alone.** Either it has a result and leaves the world as it was, or it
raises an error of one of the classes; and so it is in every world with the same objects. -/
theorem ends {x : Run α} (h : Inspects errors x) (w : World) :
    (∃ a, ∀ w', w'.store = w.store → x.act w' = .ok a w') ∨
    ∃ cls ∈ errors, ∀ w', w'.store = w.store → ∃ error left, x.act w' = .error (.raised error) left ∧
      left.errorClass? error = some cls := by
  induction h with
  | pure a => exact .inl ⟨a, fun _ _ => rfl⟩
  | load a => exact .inl ⟨w.store.getD a (.module ""), fun w' hw' => by rw [← hw']; rfl⟩
  | raise message hcls => exact .inr ⟨_, hcls, fun w' _ => raiseWith_act _ _ _ w'⟩
  | bind _ _ ihx ihf =>
    obtain ⟨a, hx⟩ | ⟨cls, hcls, hx⟩ := ihx
    · refine (ihf a).imp ?_ ?_
      · rintro ⟨b, hf⟩
        refine ⟨b, fun w' hw' => ?_⟩
        rw [bind_act, hx w' hw']
        exact hf w' hw'
      · rintro ⟨cls, hcls, hf⟩
        refine ⟨cls, hcls, fun w' hw' => ?_⟩
        rw [bind_act, hx w' hw']
        exact hf w' hw'
    · refine .inr ⟨cls, hcls, fun w' hw' => ?_⟩
      obtain ⟨error, left, hraised, hclass⟩ := hx w' hw'
      exact ⟨error, left, by rw [bind_act, hraised], hclass⟩

/-- **Such a run changes nothing but that an error may be new.** -/
theorem act_cases {x : Run α} (h : Inspects errors x) (w : World) :
    (∃ a, x.act w = .ok a w) ∨
    ∃ cls ∈ errors, ∃ message, x.act w = .error (.raised w.store.size) (w.raising cls message) := by
  induction h with
  | pure a => exact .inl ⟨a, rfl⟩
  | load a => exact .inl ⟨_, rfl⟩
  | raise message hcls => exact .inr ⟨_, hcls, message, rfl⟩
  | bind _ _ ihx ihf =>
    obtain ⟨a, hx⟩ | ⟨cls, hcls, message, hx⟩ := ihx
    · rw [bind_act, hx]
      exact ihf a
    · exact .inr ⟨cls, hcls, message, by rw [bind_act, hx]⟩

/-- Where there is a result the world is as it was. -/
theorem eq_of_ok {x : Run α} (h : x.Inspects errors) {w w' : World} {a : α} (hx : x.act w = .ok a w') : w' = w := by
  obtain ⟨b, hb⟩ | ⟨_, _, _, hb⟩ := h.act_cases w
  · cases hb.symm.trans hx
    rfl
  · cases hb.symm.trans hx

theorem bind_ok_iff {x : Run α} (h : x.Inspects errors) {f : α → Run β} {w w' : World} {b : β} :
    (x >>= f).act w = .ok b w' ↔ ∃ a, x.act w = .ok a w ∧ (f a).act w = .ok b w' := by
  rw [bind_act]
  constructor
  · intro hbind
    cases hx : x.act w with
    | ok a left =>
      rw [hx] at hbind
      cases h.eq_of_ok hx
      exact ⟨a, rfl, hbind⟩
    | error failure left =>
      rw [hx] at hbind
      cases hbind
  · rintro ⟨a, hx, hf⟩
    rw [hx]
    exact hf

/-- **Looking at a list gives what looking at its members gives.** -/
theorem mapM_ok_iff {f : α → Run β} (hf : ∀ a, Inspects errors (f a)) {l : List α} {bs : List β} {w w' : World} :
    (l.mapM f).act w = .ok bs w' ↔ w' = w ∧ List.Forall₂ (fun a b => (f a).act w = .ok b w) l bs := by
  induction l generalizing bs with
  | nil =>
    rw [List.mapM_nil, List.forall₂_nil_left_iff]
    constructor
    · intro h
      cases h
      exact ⟨rfl, rfl⟩
    · rintro ⟨rfl, rfl⟩
      rfl
  | cons a l ih =>
    rw [List.mapM_cons, (hf a).bind_ok_iff, List.forall₂_cons_left_iff]
    constructor
    · rintro ⟨b, hb, hrest⟩
      obtain ⟨bs', hbs', hpure⟩ := (Inspects.mapM hf l).bind_ok_iff.1 hrest
      cases hpure
      exact ⟨rfl, b, bs', hb, (ih.1 hbs').2, rfl⟩
    · rintro ⟨rfl, b, bs', hb, hall, rfl⟩
      exact ⟨b, hb, (Inspects.mapM hf l).bind_ok_iff.2 ⟨bs', ih.2 ⟨rfl, hall⟩, rfl⟩⟩

/-- Where there is nothing to raise there is a result. -/
theorem reads {x : Run α} (h : Inspects [] x) : Reads x := by
  intro w
  obtain ⟨a, ha⟩ | ⟨_, hcls, -⟩ := h.ends w
  · exact ⟨a, ha w rfl⟩
  · cases hcls

end Inspects

/-! ## Runs that only add -/

/-- All that was there before is there afterwards as it was. -/
def Retaining (x : Run α) : Prop := ∀ w : World, w.Retains (x.act w).world

namespace Retaining

theorem pure (a : α) : (Pure.pure a : Run α).Retaining := fun w => .refl w

theorem world : Run.world.Retaining := fun w => .refl w

theorem alloc (o : Obj) : (Run.alloc o).Retaining := fun w => (World.Retains.refl w).push o

theorem log (level : Level) (message : String) : (Run.log level message).Retaining := fun w => .refl w

theorem bind {x : Run α} {f : α → Run β} (hx : x.Retaining) (hf : ∀ a, (f a).Retaining) : (x >>= f).Retaining := by
  intro w
  have hfirst := hx w
  rw [bind_act]
  cases hend : x.act w with
  | error e w' =>
    rw [hend] at hfirst
    exact hfirst
  | ok a w' =>
    rw [hend] at hfirst
    exact hfirst.trans (hf a w')

theorem raiseWith (cls : String) (args : List Value) (fields : List (String × Value)) :
    (Run.raiseWith cls args fields : Run α).Retaining :=
  (alloc _).bind fun _ => fun w => .refl w

theorem new (o : Obj) : (Run.new o).Retaining := (alloc o).bind fun _ => pure _

theorem forM {f : α → Run Unit} (hf : ∀ a, (f a).Retaining) (l : List α) : (l.forM f).Retaining := by
  induction l with
  | nil => exact pure ()
  | cons a rest ih => exact (hf a).bind fun _ => ih

theorem mapM {f : α → Run β} (hf : ∀ a, (f a).Retaining) (l : List α) : (l.mapM f).Retaining := by
  induction l with
  | nil => exact pure []
  | cons a rest ih =>
    rw [List.mapM_cons]
    exact (hf a).bind fun b => ih.bind fun bs => pure (b :: bs)

end Retaining

end Run

/-! ## Keys and mappings -/

namespace World

/-- The value stands under the key, in this world and in all that it grows into. -/
def HasKey (w : World) (v : Value) (k : Key) : Prop := ∀ w', w.Grows w' → v.key.act w' = .ok k w'

theorem HasKey.grows {w w' : World} {v : Value} {k : Key} (h : w.HasKey v k) (hw : w.Grows w') :
    w'.HasKey v k :=
  fun _ hw' => h _ (hw.trans hw')

/-- A text is its own key. -/
theorem hasKey_str (w : World) (s : String) : w.HasKey (.str s) (Dict.textKey s) := fun _ _ => rfl

/-- The dictionary is a mapping in this world: no key stands in it twice, and each stands in its place. -/
structure IsMapping (w : World) (d : Dict) : Prop where
  nodup : d.keys.Nodup
  placed : ∀ entry ∈ d.entries, entry.2.1.key.act w = .ok entry.1 w

/-- What a value adds to a context: a mapping adds its entries, and nothing adds nothing. -/
inductive Layer (w : World) : Value → List (Key × Value × Value) → Prop
  | nothing : Layer w .null []
  | mapping {a : Addr} {f : DictFlavour} {d : Dict} : w.store[a]? = some (.dict f d) →
      (∀ entry ∈ d.entries, w.HasKey entry.2.1 entry.1) → Layer w (.ref a) d.entries

theorem Layer.push {w : World} {v : Value} {entries : List (Key × Value × Value)}
    (h : w.Layer v entries) (o : Obj) : Layer { w with store := w.store.push o } v entries := by
  cases h with
  | nothing => exact .nothing
  | @mapping a f d ha hkeys =>
    have ha' : (w.store.push o)[a]? = some (.dict f d) := World.get_push ha o
    exact .mapping ha' fun entry he => (hkeys entry he).grows (.push w o)

end World

namespace Dict

/-- Every entry of a dictionary that was written with texts stands under its text. -/
def IsTexts (d : Dict) : Prop := ∀ entry ∈ d.entries, ∃ s, entry.2.1 = .str s ∧ entry.1 = textKey s

theorem insertIn_isTexts {s : String} {x : Value × Value} {l : List (Key × Value × Value)}
    (hx : x.1 = .str s) (hl : IsTexts ⟨l⟩) : IsTexts ⟨OrderedMap.insertIn (textKey s) x l⟩ := by
  induction l with
  | nil =>
    intro entry he
    rw [OrderedMap.insertIn, List.mem_singleton] at he
    subst he
    exact ⟨s, hx, rfl⟩
  | cons p r ih =>
    obtain ⟨k, y⟩ := p
    rw [OrderedMap.insertIn]
    split
    case isTrue h =>
      intro entry he
      rcases List.mem_cons.1 he with rfl | hr
      · exact ⟨s, hx, (eq_of_beq h).symm⟩
      · exact hl entry (List.mem_cons_of_mem _ hr)
    case isFalse =>
      intro entry he
      rcases List.mem_cons.1 he with rfl | hr
      · exact hl _ List.mem_cons_self
      · exact ih (fun e h => hl e (List.mem_cons_of_mem _ h)) entry hr

theorem putText_isTexts {d : Dict} (hd : d.IsTexts) (s : String) (v : Value) : (d.putText s v).IsTexts := by
  rw [putText, put]
  split
  case h_1 first old hf =>
    -- the first spelling stays, and it is the spelling of this text
    have hmem := OrderedMap.mem_of_find? hf
    obtain ⟨t, ht, hk⟩ := hd _ hmem
    cases hk
    exact insertIn_isTexts ht hd
  case h_2 => exact insertIn_isTexts rfl hd

theorem ofTexts_isTexts (l : List (String × Value)) : (ofTexts l).IsTexts := by
  unfold ofTexts
  have hempty : IsTexts empty := List.forall_mem_nil _
  generalize empty = d at hempty ⊢
  induction l generalizing d with
  | nil => exact hempty
  | cons p l ih => exact ih _ (putText_isTexts hempty p.1 p.2)

end Dict

/-! ## Building -/

/-- The keys of entries are where they should be, so that reading them finds the entries again. -/
theorem mapM_key_act {w : World} {entries : List (Key × Value × Value)}
    (h : ∀ entry ∈ entries, w.HasKey entry.2.1 entry.1) :
    ((entries.map (·.2)).mapM fun (k, v) => do return (← k.key, k, v) : Run _).act w = .ok entries w := by
  induction entries with
  | nil => rfl
  | cons entry rest ih =>
    obtain ⟨k, s, v⟩ := entry
    have hk : s.key.act w = .ok k w := h _ List.mem_cons_self w (.refl w)
    have hrest := ih fun e he => h e (List.mem_cons_of_mem _ he)
    rw [List.map_cons, List.mapM_cons]
    simp only [Run.bind_act, hk, Run.pure_act]
    rw [hrest]

/-- A layer is read as its entries. -/
theorem World.Layer.read {w : World} {v : Value} {entries : List (Key × Value × Value)}
    (h : w.Layer v entries) (m : Machine) : (Context.layerOf m v).act w = .ok entries w := by
  cases h with
  | nothing => rfl
  | @mapping a f d ha hkeys =>
    have htruthy : (Value.ref a).truthy.act w = .ok (!d.isEmpty) w := by
      simp only [Value.truthy, Run.bind_act, Run.load_act ha, Run.pure_act]
    have hpairs : (m.pairsOf (.ref a)).act w = .ok d.pairs w := by
      simp only [Machine.pairsOf, Value.dict?, Run.bind_act, Run.load_act ha, Run.pure_act]
    simp only [Context.layerOf, Run.bind_act, htruthy]
    cases he : d.isEmpty with
    | true =>
      have hnil : d.entries = [] := List.isEmpty_iff.1 he
      rw [hnil]
      rfl
    | false =>
      simp only [Bool.not_false, if_true, Run.bind_act, hpairs]
      exact mapM_key_act hkeys

namespace Engine

/-- What the context of a run holds at first: the defaults, then the inputs, then the rest. -/
def firstContents (recipe : Recipe) (inputs extra : List (Key × Value × Value)) : Dict :=
  Context.contents [(Dict.ofTexts recipe.defaults.entries).entries, inputs, extra]

/-- The world with the defaults and the context of a run behind all that was there before. -/
def withContext (w : World) (recipe : Recipe) (inputs extra : List (Key × Value × Value)) : World :=
  { w with
    store := (w.store.push (.dict .plain (Dict.ofTexts recipe.defaults.entries))).push
      (.dict (.context []) (firstContents recipe inputs extra)) }

/-- **Over mappings a context is always built**, and this is the world with it. -/
theorem buildContext_act (p : Platform) (recipe : Recipe) {inputs extra : Value} {w : World}
    {ins ext : List (Key × Value × Value)} (hin : w.Layer inputs ins) (hext : w.Layer extra ext) :
    (buildContext p recipe inputs extra).act w =
      .ok (w.store.size + 1) (withContext w recipe ins ext) := by
  let d := Dict.ofTexts recipe.defaults.entries
  let w₁ : World := { w with store := w.store.push (.dict .plain d) }
  have hnew : (Run.dict d).act w = .ok (.ref w.store.size) w₁ := rfl
  have hd : w₁.Layer (.ref w.store.size) d.entries := by
    have hget : w₁.store[w.store.size]? = some (.dict .plain d) := Array.getElem?_push_size
    refine .mapping hget fun entry he => ?_
    obtain ⟨s, hs, hk⟩ := Dict.ofTexts_isTexts _ entry he
    rw [hs, hk]
    exact World.hasKey_str w₁ s
  have hin₁ : w₁.Layer inputs ins := hin.push _
  have hext₁ : w₁.Layer extra ext := hext.push _
  have hlayers : ([Value.ref w.store.size, inputs, extra].mapM (Context.layerOf p.machine)).act w₁ =
      .ok [d.entries, ins, ext] w₁ := by
    simp only [List.mapM_cons, List.mapM_nil, Run.bind_act, hd.read, hin₁.read, hext₁.read, Run.pure_act]
  have hsize : w₁.store.size = w.store.size + 1 := Array.size_push _
  simp only [buildContext, Run.bind_act]
  change (match (Run.dict d).act w with
    | .ok a w' => (Context.build p.machine [a, inputs, extra]).act w'
    | .error e w' => .error e w') = _
  rw [hnew]
  simp only [Context.build, Run.bind_act, hlayers]
  change EStateM.Result.ok w₁.store.size _ = _
  rw [hsize]
  rfl

/-! ## A bare engine

The least that a run can be evaluated on: no functions and no executors of a host, and one toolchain. -/

/-- A platform without a host. -/
def barePlatform : Platform :=
  let host : Host := ⟨fun _ _ => Run.exhausted, fun _ => false⟩
  ⟨Machine.at host 64, host, fun _ => ⟨false, fun _ _ => pure ()⟩⟩

/-- The world with nothing but a toolchain. -/
def bareWorld : World := { store := #[.toolchain { settings := {}, loader := Loader.ordinary }] }

/-- The engine with the ordinary registry and settings, over that toolchain. -/
def bare : Engine := ⟨{}, 0, true, (ordinaryRegistry {} 0 true).toOption.getD {}⟩

/-- A recipe of scripts, each a step. -/
def scripts (codes : List String) : Recipe :=
  ⟨"scripts", "", [], codes.map fun code => ⟨"step", "python", code⟩, .null⟩

end Engine

end Stepwise
