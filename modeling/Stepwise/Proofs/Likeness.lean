import Mathlib.Logic.Relation
import Stepwise.Proofs.Normalising
import Stepwise.Proofs.Sharing
/-!
# Values that are alike

The same value can stand at different addresses of two worlds. A `Pairing` says which objects stand for each other,
and `World.Like` that they hold the same but for that. Two runs look alike when they end alike in every two worlds
that are: with results that belong together, or with the same error (`Run.LooksAlike`).
-/

namespace Stepwise

/-- Which objects of a world stand for which of another one. -/
abbrev Pairing := Addr → Addr → Prop

variable {R R' : Pairing}

/-! ## Maps over values that belong together -/

/-- At each index of two lists there are members that belong together, or none. -/
theorem getElem?_of_forall₂ {α β : Type} {P : α → β → Prop} {l : List α} {l' : List β} (h : List.Forall₂ P l l')
    (i : Nat) :
    Option.Rel P l[i]? l'[i]? := by
  induction h generalizing i with
  | nil => exact .none
  | cons hfirst _ ih =>
    cases i with
    | zero => exact .some hfirst
    | succ i => exact ih i

theorem isEmpty_eq_of_forall₂ {α β : Type} {P : α → β → Prop} {l : List α} {l' : List β} (h : List.Forall₂ P l l') :
    l.isEmpty = l'.isEmpty := by
  cases h <;> rfl

namespace OrderedMap

variable {κ α β : Type} [BEq κ] {P Q : α → β → Prop} {m : OrderedMap κ α} {m' : OrderedMap κ β}

/-- The maps have the same keys in the same order, over values that belong together. -/
def Like (P : α → β → Prop) (m : OrderedMap κ α) (m' : OrderedMap κ β) : Prop :=
  List.Forall₂ (fun p q => p.1 = q.1 ∧ P p.2 q.2) m.entries m'.entries

namespace Like

omit [BEq κ] in
theorem imp (h : m.Like P m') (hPQ : ∀ x y, P x y → Q x y) : m.Like Q m' :=
  List.Forall₂.imp (fun _ _ hpq => ⟨hpq.1, hPQ _ _ hpq.2⟩) h

omit [BEq κ] in
theorem keys_eq (h : m.Like P m') : m.keys = m'.keys := by
  have hkeys : List.Forall₂ Eq (m.entries.map (·.1)) (m'.entries.map (·.1)) := by
    rw [List.forall₂_map_left_iff, List.forall₂_map_right_iff]
    exact List.Forall₂.imp (fun _ _ hpq => hpq.1) h
  rwa [List.forall₂_eq_eq_eq] at hkeys

omit [BEq κ] in
theorem isEmpty_eq (h : m.Like P m') : m.isEmpty = m'.isEmpty := isEmpty_eq_of_forall₂ h

/-- Under every key there are values that belong together, or none. -/
theorem find? (h : m.Like P m') (k : κ) : Option.Rel P (m.find? k) (m'.find? k) := by
  rw [Like] at h
  rw [OrderedMap.find?, OrderedMap.find?]
  generalize m.entries = l, m'.entries = l' at h
  induction h with
  | nil => exact .none
  | @cons p q l l' hpq _ ih =>
    obtain ⟨k', x⟩ := p
    obtain ⟨_, y⟩ := q
    obtain ⟨rfl, hxy⟩ := hpq
    rw [findIn, findIn]
    split
    · exact .some hxy
    · exact ih

theorem insert (h : m.Like P m') (k : κ) {x : α} {y : β} (hxy : P x y) : (m.insert k x).Like P (m'.insert k y) := by
  rw [Like] at h ⊢
  rw [OrderedMap.insert, OrderedMap.insert]
  generalize m.entries = l, m'.entries = l' at h
  dsimp only
  induction h with
  | nil => exact .cons ⟨rfl, hxy⟩ .nil
  | @cons p q l l' hpq hrest ih =>
    obtain ⟨k', x'⟩ := p
    obtain ⟨_, y'⟩ := q
    obtain ⟨rfl, hxy'⟩ := hpq
    rw [insertIn, insertIn]
    split
    · exact .cons ⟨rfl, hxy⟩ hrest
    · exact .cons ⟨rfl, hxy'⟩ ih

theorem insertAll (h : m.Like P m') {l : List (κ × α)} {l' : List (κ × β)}
    (hl : List.Forall₂ (fun p q => p.1 = q.1 ∧ P p.2 q.2) l l') : (m.insertAll l).Like P (m'.insertAll l') := by
  induction hl generalizing m m' with
  | nil => exact h
  | @cons p q l l' hpq _ ih =>
    obtain ⟨k, x⟩ := p
    obtain ⟨_, y⟩ := q
    obtain ⟨rfl, hxy⟩ := hpq
    exact ih (h.insert k hxy)

end Like

end OrderedMap

/-! ## Like values -/

/-- The values are the same, but that an object may stand at another address. -/
inductive Value.Like (R : Pairing) : Value → Value → Prop
  | object {a b : Addr} : R a b → Like R (.ref a) (.ref b)
  | same {v : Value} : v.addr? = none → Like R v v

/-- Like pairs of a dictionary: the keys are spelled alike, over like values. -/
abbrev Dict.PairLike (R : Pairing) (p q : Value × Value) : Prop := p.1.Like R q.1 ∧ p.2.Like R q.2

/-- The same keys in the same order, spelled alike, over like values. -/
abbrev Dict.Like (R : Pairing) (d e : Dict) : Prop := OrderedMap.Like (Dict.PairLike R) d e

/-- The same members in the same order. -/
abbrev Dict.MembersLike (R : Pairing) (d e : Dict) : Prop := OrderedMap.Like (fun p q => p.1.Like R q.1) d e

namespace Obj

/-- What is looked at when the truth, the class or the text of an object is told. -/
def shown (o : Obj) : List Value :=
  o.parts ++ match o with
    | error c args fields => c :: args ++ fields.map (·.2)
    | cls c => c.bases
    | cursor _ (.count next step) => [next, step]
    | cursor _ (.repeat v _) => [v]
    | namespaceObj members => members.map (·.2)
    | _ => []

/-- The objects that plain data is made of. -/
def isData : Obj → Bool
  | list _ | tuple none _ | dict .plain _ | set false _ => true
  | _ => false

theorem pair_shown (f : DictFlavour) {d : Dict} {p : Value × Value} (hp : p ∈ d.pairs) :
    p.1 ∈ (dict f d).shown ∧ p.2 ∈ (dict f d).shown := by
  obtain ⟨entry, hentry, rfl⟩ := List.mem_map.1 hp
  have hparts (v : Value) (hv : v ∈ [entry.2.1, entry.2.2]) : v ∈ (dict f d).shown :=
    List.mem_append_left _ (List.mem_append_right _ (List.mem_flatMap.2 ⟨entry, hentry, hv⟩))
  exact ⟨hparts _ List.mem_cons_self, hparts _ (List.mem_cons_of_mem _ List.mem_cons_self)⟩

theorem member_shown (frozen : Bool) {d : Dict} {v : Value} (hv : v ∈ d.members) : v ∈ (set frozen d).shown := by
  obtain ⟨i, -, hi⟩ := List.mem_filterMap.1 hv
  obtain ⟨entry, hentry, rfl⟩ := Option.map_eq_some_iff.1 hi
  have hmem : entry ∈ d.entries := List.mem_toArray.1 (Array.mem_of_getElem? hentry)
  exact List.mem_append_left _ (List.mem_map.2 ⟨entry, hmem, rfl⟩)

/-- Data holds like values, and any other object is the same and is shown by the same values. -/
inductive Like (R : Pairing) : Obj → Obj → Prop
  | list {xs ys : Array Value} : List.Forall₂ (Value.Like R) xs.toList ys.toList → Like R (.list xs) (.list ys)
  | tuple {xs ys : List Value} : List.Forall₂ (Value.Like R) xs ys → Like R (.tuple none xs) (.tuple none ys)
  | dict {d e : Dict} : d.Like R e → Like R (.dict .plain d) (.dict .plain e)
  | set {d e : Dict} : d.MembersLike R e → Like R (.set false d) (.set false e)
  | same {o : Obj} : o.isData = false → (∀ v ∈ o.shown, v.Like R v) → Like R o o

end Obj

/-- The pairing leads from objects of the first world to like objects of the second, and to different ones from
different ones. -/
structure World.Like (R : Pairing) (w w' : World) : Prop where
  one_to_one {a a' b b' : Addr} : R a b → R a' b' → (a = a' ↔ b = b')
  objects {a b : Addr} : R a b → ∃ o o', w.store[a]? = some o ∧ w'.store[b]? = some o' ∧ o.Like R o'

theorem World.Like.congr {w w' v v' : World} (h : w.Like R w') (hv : v.store = w.store) (hv' : v'.store = w'.store) :
    v.Like R v' :=
  ⟨h.one_to_one, fun hab => by rw [hv, hv']; exact h.objects hab⟩

namespace Value.Like

variable {v v' : Value}

theorem mono (hR : ∀ a b, R a b → R' a b) (h : v.Like R v') : v.Like R' v' := by
  cases h with
  | object hab => exact .object (hR _ _ hab)
  | same hv => exact .same hv

theorem text?_eq (h : v.Like R v') : v.text? = v'.text? := by
  cases h with
  | object => rfl
  | same => rfl

end Value.Like

theorem like_values_mono (hR : ∀ a b, R a b → R' a b) {l l' : List Value} (h : List.Forall₂ (Value.Like R) l l') :
    List.Forall₂ (Value.Like R') l l' :=
  h.imp fun _ _ hv => hv.mono hR

theorem Dict.Like.mono (hR : ∀ a b, R a b → R' a b) {d e : Dict} (h : d.Like R e) : d.Like R' e :=
  OrderedMap.Like.imp h fun _ _ hp => ⟨hp.1.mono hR, hp.2.mono hR⟩

theorem Obj.Like.mono (hR : ∀ a b, R a b → R' a b) {o o' : Obj} (h : o.Like R o') : o.Like R' o' := by
  cases h with
  | list h => exact .list (like_values_mono hR h)
  | tuple h => exact .tuple (like_values_mono hR h)
  | dict h => exact .dict (h.mono hR)
  | set h => exact .set (OrderedMap.Like.imp h fun _ _ hp => hp.mono hR)
  | same hdata hshown => exact .same hdata fun v hv => (hshown v hv).mono hR

namespace Dict.Like

variable {d e : Dict}

theorem pairs (h : d.Like R e) : List.Forall₂ (Dict.PairLike R) d.pairs e.pairs := by
  rw [Dict.pairs, Dict.pairs, List.forall₂_map_left_iff, List.forall₂_map_right_iff]
  exact List.Forall₂.imp (fun _ _ hp => hp.2) h

theorem getText? (h : d.Like R e) (name : String) : Option.Rel (Value.Like R) (d.getText? name) (e.getText? name) := by
  have hfound := OrderedMap.Like.find? h (Dict.textKey name)
  rw [Dict.getText?, Dict.getText?, Dict.get?, Dict.get?]
  generalize OrderedMap.find? d (Dict.textKey name) = x, OrderedMap.find? e (Dict.textKey name) = y at hfound
  cases hfound with
  | none => exact .none
  | some hp => exact .some hp.2

theorem field (h : d.Like R e) (name : String) : (d.field name).Like R (e.field name) := by
  have hfound := h.getText? name
  rw [Dict.field, Dict.field]
  generalize d.getText? name = x, e.getText? name = y at hfound
  cases hfound with
  | none => exact .same rfl
  | some hv => exact hv

end Dict.Like

/-- Members are read in the same order. -/
theorem Dict.MembersLike.members {d e : Dict} (h : d.MembersLike R e) :
    List.Forall₂ (Value.Like R) d.members e.members := by
  rw [Dict.members, Dict.members, OrderedMap.Like.keys_eq h]
  induction SetOrder.positions e.keys with
  | nil => exact .nil
  | cons i l ih =>
    have hentry := getElem?_of_forall₂ h i
    rw [← List.getElem?_toArray, ← List.getElem?_toArray] at hentry
    rw [List.filterMap_cons, List.filterMap_cons]
    generalize d.entries.toArray[i]? = x, e.entries.toArray[i]? = y at hentry
    cases hentry with
    | none => exact ih
    | some hp => exact .cons hp.2 ih

/-- A dictionary that is shown by the same values is like itself. -/
theorem Dict.like_self {f : DictFlavour} {d : Dict} (h : ∀ v ∈ (Obj.dict f d).shown, v.Like R v) : d.Like R d := by
  refine List.forall₂_same.2 fun entry hentry => ?_
  have hpair := Obj.pair_shown f (List.mem_map_of_mem hentry : entry.2 ∈ d.pairs)
  exact ⟨rfl, h _ hpair.1, h _ hpair.2⟩

theorem Dict.membersLike_self {d : Dict} (h : ∀ v ∈ (Obj.set false d).shown, v.Like R v) : d.MembersLike R d :=
  List.forall₂_same.2 fun _ hentry => ⟨rfl, h _ (List.mem_append_left _ (List.mem_map_of_mem hentry))⟩

/-- An object that is shown by values that are like themselves is like itself. -/
theorem Obj.like_self {o : Obj} (h : ∀ v ∈ o.shown, v.Like R v) : o.Like R o := by
  have hall {xs : List Value} (hxs : xs ⊆ o.shown) : List.Forall₂ (Value.Like R) xs xs :=
    List.forall₂_same.2 fun x hx => h x (hxs hx)
  have hsame (hdata : o.isData = false) : o.Like R o := .same hdata h
  cases o with
  | list xs => exact .list (hall (List.subset_append_left _ _))
  | tuple owner xs =>
    cases owner with
    | none => exact .tuple (hall (List.subset_append_left _ _))
    | some c => exact hsame rfl
  | dict f d =>
    cases f with
    | plain => exact .dict (Dict.like_self h)
    | _ => exact hsame rfl
  | set frozen d =>
    cases frozen with
    | false => exact .set (Dict.membersLike_self h)
    | true => exact hsame rfl
  | _ => exact hsame rfl

namespace Obj.Like

variable {o' : Obj}

theorem of_list {xs : Array Value} (h : Like R (.list xs) o') :
    ∃ ys, o' = .list ys ∧ List.Forall₂ (Value.Like R) xs.toList ys.toList := by
  cases h with
  | list hxs => exact ⟨_, rfl, hxs⟩
  | same hdata => cases hdata

theorem of_dict {f : DictFlavour} {d : Dict} (h : Like R (.dict f d) o') : ∃ e, o' = .dict f e ∧ d.Like R e := by
  cases h with
  | dict hd => exact ⟨_, rfl, hd⟩
  | same _ hshown => exact ⟨d, rfl, Dict.like_self hshown⟩

theorem not_list {o : Obj} (h : o.Like R o') (hnot : ∀ xs, o = .list xs → False) : ∀ xs, o' = .list xs → False := by
  rintro xs rfl
  cases h with
  | list => exact hnot _ rfl
  | same hdata => cases hdata

theorem not_dict {o : Obj} (h : o.Like R o') (hnot : ∀ f d, o = .dict f d → False) :
    ∀ f d, o' = .dict f d → False := by
  rintro f d rfl
  cases h with
  | dict => exact hnot _ _ rfl
  | same => exact hnot _ _ rfl

end Obj.Like

/-! ## Likeness the other way round, and on from there -/

section Relation

variable {S : Pairing}

theorem Value.Like.symm {x y : Value} (h : x.Like R y) : y.Like (flip R) x := by
  cases h with
  | object hab => exact .object hab
  | same hx => exact .same hx

theorem Value.Like.trans {x y z : Value} (h : x.Like R y) (h' : y.Like S z) : x.Like (Relation.Comp R S) z := by
  cases h with
  | object hab =>
    cases h' with
    | object hbc => exact .object ⟨_, hab, hbc⟩
    | same hy => cases hy
  | same hx =>
    cases h' with
    | object => cases hx
    | same => exact .same hx

theorem forall₂_trans {α β γ : Type} {P : α → β → Prop} {Q : β → γ → Prop} {T : α → γ → Prop} {l : List α} {l' : List β}
    {l'' : List γ} (h : List.Forall₂ P l l') (h' : List.Forall₂ Q l' l'') (hT : ∀ a b c, P a b → Q b c → T a c) :
    List.Forall₂ T l l'' := by
  induction h generalizing l'' with
  | nil =>
    cases h'
    exact .nil
  | cons hfirst _ ih =>
    cases h' with
    | cons hfirst' hrest' => exact .cons (hT _ _ _ hfirst hfirst') (ih hrest')

theorem OrderedMap.Like.symm {κ α β : Type} {P : α → β → Prop} {Q : β → α → Prop} {m : OrderedMap κ α}
    {m' : OrderedMap κ β}
    (h : m.Like P m') (hPQ : ∀ x y, P x y → Q y x) : m'.Like Q m :=
  (List.Forall₂.flip h).imp fun _ _ hpq => ⟨hpq.1.symm, hPQ _ _ hpq.2⟩

theorem OrderedMap.Like.trans {κ α β γ : Type} {P : α → β → Prop} {Q : β → γ → Prop} {T : α → γ → Prop}
    {m : OrderedMap κ α} {m' : OrderedMap κ β} {m'' : OrderedMap κ γ} (h : m.Like P m') (h' : m'.Like Q m'')
    (hT : ∀ x y z, P x y → Q y z → T x z) : m.Like T m'' :=
  forall₂_trans h h' fun _ _ _ hpq hqr => ⟨hpq.1.trans hqr.1, hT _ _ _ hpq.2 hqr.2⟩

theorem Obj.Like.symm {o o' : Obj} (h : o.Like R o') : o'.Like (flip R) o := by
  cases h with
  | list h => exact .list (h.flip.imp fun _ _ hv => hv.symm)
  | tuple h => exact .tuple (h.flip.imp fun _ _ hv => hv.symm)
  | dict h => exact .dict (OrderedMap.Like.symm h fun _ _ hp => ⟨hp.1.symm, hp.2.symm⟩)
  | set h => exact .set (OrderedMap.Like.symm h fun _ _ hp => hp.symm)
  | same hdata hshown => exact .same hdata fun v hv => (hshown v hv).symm

theorem Obj.Like.trans {o o' o'' : Obj} (h : o.Like R o') (h' : o'.Like S o'') : o.Like (Relation.Comp R S) o'' := by
  cases h with
  | list h =>
    cases h' with
    | list h' => exact .list (forall₂_trans h h' fun _ _ _ hv hv' => hv.trans hv')
    | same hdata => cases hdata
  | tuple h =>
    cases h' with
    | tuple h' => exact .tuple (forall₂_trans h h' fun _ _ _ hv hv' => hv.trans hv')
    | same hdata => cases hdata
  | dict h =>
    cases h' with
    | dict h' => exact .dict (OrderedMap.Like.trans h h' fun _ _ _ hp hq => ⟨hp.1.trans hq.1, hp.2.trans hq.2⟩)
    | same hdata => cases hdata
  | set h =>
    cases h' with
    | set h' => exact .set (OrderedMap.Like.trans h h' fun _ _ _ hp hq => hp.trans hq)
    | same hdata => cases hdata
  | same hdata hshown =>
    cases h' with
    | same _ hshown' => exact .same hdata fun v hv => (hshown v hv).trans (hshown' v hv)
    | list | tuple | dict | set => cases hdata

theorem World.Like.symm {w w' : World} (h : w.Like R w') : w'.Like (flip R) w where
  one_to_one hab hab' := (h.one_to_one hab hab').symm
  objects hab := by
    obtain ⟨o, o', ho, ho', hlike⟩ := h.objects hab
    exact ⟨o', o, ho', ho, hlike.symm⟩

theorem World.Like.trans {w w' w'' : World} (h : w.Like R w') (h' : w'.Like S w'') :
    w.Like (Relation.Comp R S) w'' where
  one_to_one := by
    rintro a a' c c' ⟨b, hab, hbc⟩ ⟨b', hab', hbc'⟩
    exact (h.one_to_one hab hab').trans (h'.one_to_one hbc hbc')
  objects := by
    rintro a c ⟨b, hab, hbc⟩
    obtain ⟨o, o', ho, ho', hlike⟩ := h.objects hab
    obtain ⟨x, o'', hx, ho'', hlike'⟩ := h'.objects hbc
    cases ho'.symm.trans hx
    exact ⟨o, o'', ho, ho'', hlike.trans hlike'⟩

end Relation

/-! ## Runs that look alike -/

/-- The endings belong together: both are results that do, or the same error is new in both worlds. But for that
the objects are those of the two worlds. -/
inductive Ending.LooksAlike {α β : Type} (P : α → β → Prop) (w w' : World) : Ending α → Ending β → Prop
  | result {a : α} {b : β} {left left' : World} : left.store = w.store → left'.store = w'.store → P a b →
      LooksAlike P w w' (.ok a left) (.ok b left')
  | raised {cls message : String} {left left' : World} :
      left.store = w.store.push (.error (.cls cls) [.str message] []) →
      left'.store = w'.store.push (.error (.cls cls) [.str message] []) →
      LooksAlike P w w' (.error (.raised w.store.size) left) (.error (.raised w'.store.size) left')

/-- The runs end alike in every two worlds that are alike. -/
def Run.LooksAlike {α β : Type} (R : Pairing) (P : α → β → Prop) (x : Run α) (y : Run β) : Prop :=
  ∀ w w', w.Like R w' → Ending.LooksAlike P w w' (x.act w) (y.act w')

theorem Ending.LooksAlike.congr {α β : Type} {P : α → β → Prop} {w w' v v' : World} {x : Ending α} {y : Ending β}
    (h : LooksAlike P v v' x y) (hv : v.store = w.store) (hv' : v'.store = w'.store) : LooksAlike P w w' x y := by
  cases h with
  | result hl hl' hp => exact .result (hl.trans hv) (hl'.trans hv') hp
  | raised hl hl' =>
    rw [hv] at hl ⊢
    rw [hv'] at hl' ⊢
    exact .raised hl hl'

namespace Run.LooksAlike

variable {α β γ δ : Type} {P : α → β → Prop} {Q : γ → δ → Prop} {x : Run α} {y : Run β} {f : α → Run γ} {g : β → Run δ}

theorem pure {a : α} {b : β} (h : P a b) : LooksAlike R P (Pure.pure a) (Pure.pure b) :=
  fun _ _ _ => .result rfl rfl h

theorem raise (cls message : String) : LooksAlike R P (Run.raise cls message) (Run.raise cls message) :=
  fun _ _ _ => .raised rfl rfl

theorem log (level : Level) (message : String) : LooksAlike R Eq (Run.log level message) (Run.log level message) :=
  fun _ _ _ => .result rfl rfl rfl

theorem load {a b : Addr} (h : R a b) : LooksAlike R (Obj.Like R) (Run.load a) (Run.load b) := by
  intro w w' hw
  obtain ⟨o, o', ho, ho', hlike⟩ := hw.objects h
  rw [Run.load_act ho, Run.load_act ho']
  exact .result rfl rfl hlike

/-- **What follows runs that look alike looks alike**, if it does for all that they can hand on. -/
theorem bind (hx : x.LooksAlike R P y) (hf : ∀ a b, P a b → (f a).LooksAlike R Q (g b)) :
    (x >>= f).LooksAlike R Q (y >>= g) := by
  intro w w' hw
  have hend := hx w w' hw
  rw [bind_act, bind_act]
  generalize x.act w = e, y.act w' = e' at hend
  cases hend with
  | result hl hl' hp => exact (hf _ _ hp _ _ (hw.congr hl hl')).congr hl hl'
  | raised hl hl' => exact .raised hl hl'

theorem bind_eq {f g : α → Run γ} {Q : γ → γ → Prop} {x y : Run α} (hx : x.LooksAlike R Eq y)
    (hf : ∀ a, (f a).LooksAlike R Q (g a)) : (x >>= f).LooksAlike R Q (y >>= g) :=
  hx.bind fun a _ hab => hab ▸ hf a

/-- What is made of equal results is equal. -/
theorem bind_pure {x y : Run α} (hx : x.LooksAlike R Eq y) (f : α → γ) :
    (x >>= fun a => Pure.pure (f a)).LooksAlike R Eq (y >>= fun a => Pure.pure (f a)) :=
  hx.bind_eq fun _ => pure rfl

theorem mono {P' : α → β → Prop} (hx : x.LooksAlike R P y) (h : ∀ a b, P a b → P' a b) : x.LooksAlike R P' y := by
  intro w w' hw
  have hend := hx w w' hw
  generalize x.act w = e, y.act w' = e' at hend
  cases hend with
  | result hl hl' hp => exact .result hl hl' (h _ _ hp)
  | raised hl hl' => exact .raised hl hl'

/-- Looking at lists looks alike if looking at their members does. -/
theorem mapM {A : γ → δ → Prop} {f : γ → Run α} {g : δ → Run β} {l : List γ} {l' : List δ} (hl : List.Forall₂ A l l')
    (hf : ∀ c d, A c d → (f c).LooksAlike R P (g d)) :
    (l.mapM f).LooksAlike R (List.Forall₂ P) (l'.mapM g) := by
  induction hl with
  | nil => exact pure .nil
  | cons hfirst _ ih =>
    rw [List.mapM_cons, List.mapM_cons]
    exact (hf _ _ hfirst).bind fun _ _ hp => ih.bind fun _ _ hps => pure (.cons hp hps)

theorem mapM_eq {A : γ → δ → Prop} {f : γ → Run α} {g : δ → Run α} {l : List γ} {l' : List δ} (hl : List.Forall₂ A l l')
    (hf : ∀ c d, A c d → (f c).LooksAlike R Eq (g d)) : (l.mapM f).LooksAlike R Eq (l'.mapM g) :=
  (mapM hl hf).mono fun _ _ h => List.forall₂_eq_eq_eq ▸ h

/-- So it is of a list and itself. -/
theorem mapM_self {f g : γ → Run α} {l : List γ} (hf : ∀ c ∈ l, (f c).LooksAlike R Eq (g c)) :
    (l.mapM f).LooksAlike R Eq (l.mapM g) := by
  have hself : List.Forall₂ (fun c d => c = d ∧ c ∈ l) l l := List.forall₂_same.2 fun _ hc => ⟨rfl, hc⟩
  refine mapM_eq hself ?_
  rintro c _ ⟨rfl, hc⟩
  exact hf c hc

end Run.LooksAlike

end Stepwise
