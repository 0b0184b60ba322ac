import Stepwise.Proofs.Likeness
/-!
# Looking at values that are alike

Whatever looks at like values tells the same of them, or raises the same error: so it is with their truth, their
classes and their texts. So a recipe is loaded from like values alike (`Recipe.looksAlike_ofValue`).
-/

namespace Stepwise

variable {R : Pairing}

/-! ## Texts -/

open Run (LooksAlike)

theorem looksAlike_showInt (n : Int) : (showInt n).LooksAlike R Eq (showInt n) := by
  unfold showInt
  split
  · exact .pure rfl
  · dsimp only
    split
    · exact .raise _ _
    · exact .pure rfl

namespace Value

variable {v v' c : Value}

theorem looksAlike_classLabel (hc : c.Like R c) : (classLabel c).LooksAlike R Eq (classLabel c) := by
  cases c with
  | ref a =>
    cases hc with
    | object haa =>
      refine (LooksAlike.load haa).bind fun o o' ho => ?_
      cases ho with
      | same => split <;> exact .pure rfl
      | _ => exact .pure rfl
    | same h => cases h
  | _ => exact .pure rfl

theorem looksAlike_classPath (hc : c.Like R c) : (classPath c).LooksAlike R Eq (classPath c) := by
  cases c with
  | ref a =>
    cases hc with
    | object haa =>
      refine (LooksAlike.load haa).bind fun o o' ho => ?_
      cases ho with
      | same => split <;> exact .pure rfl
      | _ => exact .pure rfl
    | same h => cases h
  | _ => exact .pure rfl

/-- The class of an object is one that every program has, or is looked at to show the object. -/
theorem classOfObject_shown (o : Obj) : (classOfObject o).addr? = none ∨ classOfObject o ∈ o.shown := by
  cases o with
  | tuple owner items =>
    cases owner with
    | none => exact .inl rfl
    | some a => exact .inr (by simp [classOfObject, Obj.shown, Obj.parts])
  | dict f d =>
    cases f with
    | derived a => exact .inr (by simp [classOfObject, Obj.shown, Obj.parts, DictFlavour.parts])
    | _ => exact .inl rfl
  | «instance» a p => exact .inr (by simp [classOfObject, Obj.shown, Obj.parts])
  | error c args fields => exact .inr (by simp [classOfObject, Obj.shown])
  | view k d => cases k <;> exact .inl rfl
  | _ => exact .inl rfl

/-- Like values have the same class. -/
theorem looksAlike_classOf (hv : v.Like R v') :
    (classOf v).LooksAlike R (fun c c' => c = c' ∧ c.Like R c) (classOf v') := by
  cases hv with
  | object hab =>
    refine (LooksAlike.load hab).bind fun o o' ho => .pure ?_
    cases ho with
    | @same o _ hshown => exact ⟨rfl, (classOfObject_shown o).elim .same (hshown _)⟩
    | _ => exact ⟨rfl, .same rfl⟩
  | same hv =>
    cases v with
    | ref => cases hv
    | _ => exact .pure ⟨rfl, .same rfl⟩

theorem looksAlike_kindName (hv : v.Like R v') : v.kindName.LooksAlike R Eq v'.kindName :=
  (looksAlike_classOf hv).bind fun _ _ ⟨heq, hc⟩ => heq ▸ looksAlike_classLabel hc

theorem looksAlike_lineageAt (n : Nat) {c : Value} (hc : c.Like R c) :
    (lineageAt n c).LooksAlike R Eq (lineageAt n c) := by
  induction n generalizing c with
  | zero => exact .pure rfl
  | succ n ih =>
    cases c with
    | ref a =>
      cases hc with
      | object haa =>
        rw [lineageAt]
        refine (LooksAlike.load haa).bind fun o o' ho => ?_
        cases ho with
        | same _ hshown =>
          split
          case h_1 info =>
            refine (LooksAlike.mapM_self fun base hbase => ih (hshown base ?_)).bind_eq fun above => .pure rfl
            exact List.mem_append_right _ hbase
          case h_2 => exact .pure rfl
        | _ => exact .pure rfl
      | same h => cases h
    | _ => exact .pure rfl

theorem looksAlike_isSubclass (hc : c.Like R c) (above : Value) :
    (isSubclass c above).LooksAlike R Eq (isSubclass c above) := by
  unfold isSubclass
  split
  case h_1 => exact .pure rfl
  case h_2 => exact (looksAlike_lineageAt 32 hc).bind_eq fun line => .pure rfl

/-- An object is among others exactly when the one that stands for it is. -/
theorem contains_like (hone : ∀ {a a' b b' : Addr}, R a b → R a' b' → (a = a' ↔ b = b')) {inside inside' : List Addr}
    (hinside : List.Forall₂ R inside inside') {a b : Addr} (hab : R a b) : inside.contains a = inside'.contains b := by
  induction hinside with
  | nil => rfl
  | @cons c d _ _ hcd _ ih =>
    have hfirst : (a == c) = (b == d) := Bool.eq_iff_iff.2 (by simpa only [beq_iff_eq] using hone hab hcd)
    rw [List.contains_cons, List.contains_cons, hfirst, ih]

/-- Objects that stand for each other are to be displayed, each among those that are being displayed already. -/
structure Displaying (R : Pairing) (n : Nat) (w w' : World) (inside inside' : List Addr) (a b : Addr) : Prop where
  worlds : w.Like R w'
  again : inside.contains a = inside'.contains b
  /-- The parts are displayed alike. -/
  parts {x y : Value} : x.Like R y →
    (displayAt n (a :: inside) x).LooksAlike R Eq (displayAt n (b :: inside') y)

namespace Displaying

variable {n : Nat} {w w' : World} {inside inside' : List Addr} {a b : Addr}

/-- The objects are displayed alike. -/
def Ends (_ : Displaying R n w w' inside inside' a b) : Prop :=
  Ending.LooksAlike Eq w w' ((displayAt (n + 1) inside (.ref a)).act w) ((displayAt (n + 1) inside' (.ref b)).act w')

theorem all (h : Displaying R n w w' inside inside' a b) {xs ys : List Value}
    (hxs : List.Forall₂ (Value.Like R) xs ys) :
    (xs.mapM (displayAt n (a :: inside))).LooksAlike R Eq (ys.mapM (displayAt n (b :: inside'))) :=
  LooksAlike.mapM_eq hxs fun _ _ => h.parts

/-- What is done with the objects once they are loaded decides. -/
theorem of_loaded (h : Displaying R n w w' inside inside' a b) {o o' : Obj} (ho : w.store[a]? = some o)
    (ho' : w'.store[b]? = some o') {f g : Obj → Run String}
    (hf : displayAt (n + 1) inside (.ref a) = Run.load a >>= f)
    (hg : displayAt (n + 1) inside' (.ref b) = Run.load b >>= g) (hfg : (f o).LooksAlike R Eq (g o')) : h.Ends := by
  rw [Ends, hf, hg, Run.bind_act, Run.bind_act, Run.load_act ho, Run.load_act ho']
  exact hfg w w' h.worlds

/-- Data is displayed by what it holds. -/
theorem data (h : Displaying R n w w' inside inside' a b) {o o' : Obj} (ho : w.store[a]? = some o)
    (ho' : w'.store[b]? = some o') (hlike : o.Like R o') (hdata : o.isData = true) : h.Ends := by
  refine h.of_loaded ho ho' rfl rfl ?_
  rw [h.again]
  cases hlike with
  | list hxs =>
    dsimp only
    split
    · exact .pure rfl
    · exact ((h.all hxs).bind_pure _).bind_pure _
  | tuple hxs =>
    dsimp only
    split
    · exact .pure rfl
    · rcases hxs with _ | ⟨hx, _ | ⟨hy, hrest⟩⟩
      · exact ((h.all .nil).bind_pure comma).bind_pure _
      · exact (h.parts hx).bind_pure _
      · exact ((h.all (.cons hx (.cons hy hrest))).bind_pure _).bind_pure _
  | dict hd =>
    dsimp only
    split
    · exact .pure rfl
    · refine (LooksAlike.mapM_eq hd.pairs fun p q hp => ?_).bind_pure _
      exact (h.parts hp.1).bind_eq fun _ => (h.parts hp.2).bind_pure _
  | set hd =>
    dsimp only
    rw [OrderedMap.Like.isEmpty_eq hd]
    split
    · exact .pure rfl
    · split
      · exact .pure rfl
      · exact ((h.all hd.members).bind_pure _).bind_pure _
  | same hnot =>
    rw [hnot] at hdata
    cases hdata

/-- A tuple of a class is displayed with the names of the fields that the class declares. -/
theorem record (h : Displaying R n w w' inside inside' a b) {c : Addr} {xs : List Value}
    (ho : w.store[a]? = some (.tuple (some c) xs)) (ho' : w'.store[b]? = some (.tuple (some c) xs))
    (hshown : ∀ x ∈ (Obj.tuple (some c) xs).shown, x.Like R x) : h.Ends := by
  have hitem (x : Value) (hx : x ∈ xs) : x.Like R x := hshown x (by simp [Obj.shown, Obj.parts, hx])
  have hall := h.all (List.forall₂_same.2 hitem)
  refine h.of_loaded ho ho' rfl rfl ?_
  rw [h.again]
  dsimp only
  split
  · exact .pure rfl
  · cases hshown (.ref c) (by simp [Obj.shown, Obj.parts]) with
    | same h => cases h
    | object hcc =>
      -- whatever the class turns out to be, it is the same one
      refine (LooksAlike.load hcc).bind fun info info' hinfo => ?_
      cases hinfo with
      | same =>
        split
        · split
          · exact (hall.bind_pure _).bind_pure _
          · refine (LooksAlike.mapM_self fun p hp => ?_).bind_pure _
            exact (h.parts (hitem p.2 (List.of_mem_zip hp).2)).bind_pure _
        · exact (hall.bind_pure _).bind_pure _
      | _ => exact (hall.bind_pure _).bind_pure _

/-- Every flavour of a dictionary is displayed by its pairs. -/
theorem dict (h : Displaying R n w w' inside inside' a b) {f : DictFlavour} {d : Dict}
    (ho : w.store[a]? = some (.dict f d)) (ho' : w'.store[b]? = some (.dict f d))
    (hshown : ∀ x ∈ (Obj.dict f d).shown, x.Like R x) : h.Ends := by
  have hkey (p : Value × Value) (hp : p ∈ d.pairs) := h.parts (hshown _ (Obj.pair_shown f hp).1)
  have hvalue (p : Value × Value) (hp : p ∈ d.pairs) := h.parts (hshown _ (Obj.pair_shown f hp).2)
  have hpairs := LooksAlike.mapM_self fun p (hp : p ∈ d.pairs) =>
    (hkey p hp).bind_eq fun k => (hvalue p hp).bind_pure (k ++ ": " ++ ·)
  refine h.of_loaded ho ho' rfl rfl ?_
  rw [h.again]
  cases f with
  | plain | derived =>
    dsimp only
    split
    · exact .pure rfl
    · exact hpairs.bind_pure _
  | context attributes =>
    dsimp only
    split
    · exact .pure rfl
    · exact (hpairs.bind_pure _).bind_pure _
  | ordered =>
    dsimp only
    split
    · exact .pure rfl
    · split
      · exact .pure rfl
      · refine (LooksAlike.mapM_self fun p hp => ?_).bind_pure _
        exact (hkey p hp).bind_eq fun _ => (hvalue p hp).bind_pure _
  | defaulting factory =>
    have hfactory := h.parts (hshown factory (by simp [Obj.shown, Obj.parts, DictFlavour.parts]))
    dsimp only
    split
    · exact hfactory.bind_pure _
    · exact (hpairs.bind_pure _).bind_eq fun _ => hfactory.bind_pure _
  | counter =>
    dsimp only
    split
    · exact .pure rfl
    · split
      · exact .pure rfl
      · refine (LooksAlike.mapM_self fun p hp => ?_).bind_pure _
        -- the pairs are sorted first
        have hmem : p ∈ d.pairs := by
          split at hp
          · exact List.mem_mergeSort.1 hp
          · exact hp
        exact (hkey p hmem).bind_eq fun _ => (hvalue p hmem).bind_pure _

/-- A view is displayed by what its dictionary holds. -/
theorem view (h : Displaying R n w w' inside inside' a b) {kind : ViewKind} {d : Addr}
    (ho : w.store[a]? = some (.view kind d)) (ho' : w'.store[b]? = some (.view kind d))
    (hshown : ∀ x ∈ (Obj.view kind d).shown, x.Like R x) : h.Ends := by
  refine h.of_loaded ho ho' rfl rfl ?_
  rw [h.again]
  dsimp only
  split
  · exact .pure rfl
  · cases hshown (.ref d) (by simp [Obj.shown, Obj.parts]) with
    | same h => cases h
    | object hdd =>
      refine (LooksAlike.load hdd).bind fun o o' hlike => ?_
      split
      · obtain ⟨e, rfl, he⟩ := hlike.of_dict
        refine (LooksAlike.mapM_eq he.pairs fun p q hp => ?_).bind_pure _
        cases kind with
        | keys => exact h.parts hp.1
        | values => exact h.parts hp.2
        | items => exact (h.parts hp.1).bind_eq fun _ => (h.parts hp.2).bind_pure _
      case h_2 hnot =>
        have hnot' := hlike.not_dict hnot
        cases o' with
        | dict f d => exact absurd rfl (hnot' f d)
        | _ => exact .pure rfl

/-- Any other object is displayed by what it is shown by, or by its class. -/
theorem other (h : Displaying R n w w' inside inside' a b) {o : Obj} (ho : w.store[a]? = some o)
    (ho' : w'.store[b]? = some o) (hab : R a b) (hshown : ∀ x ∈ o.shown, x.Like R x)
    (htuple : ∀ c xs, o ≠ .tuple (some c) xs) (hdict : ∀ f d, o ≠ .dict f d) (hview : ∀ kind d, o ≠ .view kind d) :
    h.Ends := by
  have hpart {x : Value} (hx : x ∈ o.shown) := h.parts (hshown x hx)
  refine h.of_loaded ho ho' rfl rfl ?_
  rw [h.again]
  dsimp only
  split
  case h_3 => exact absurd rfl (htuple _ _)
  case h_4 => exact absurd rfl (hdict _ _)
  case h_19 => exact absurd rfl (hview _ _)
  case h_29 ms =>
    refine (LooksAlike.mapM_self fun p hp => ?_).bind_pure _
    exact (hpart (List.mem_append_right _ (List.mem_map_of_mem hp))).bind_pure _
  case h_31 =>
    exact (looksAlike_classOf (.object hab)).bind fun c c' hc => hc.1 ▸ (looksAlike_classPath hc.2).bind_pure _
  -- the others put together texts of their class and of values that they are shown by
  all_goals repeat' first
    | with_reducible exact .pure rfl
    | with_reducible exact hpart (Obj.member_shown _ (by assumption))
    | with_reducible refine LooksAlike.mapM_self fun p hp => ?_
    | with_reducible refine LooksAlike.bind_eq ?_ (fun _ => ?_)
    | exact looksAlike_classLabel (hshown _ (by simp [Obj.shown, Obj.parts]))
    | exact looksAlike_classPath (hshown _ (by simp [Obj.shown, Obj.parts]))
    | exact hpart (by simp [Obj.shown, Obj.parts, *])
    | split

/-- Objects that hold the same are displayed alike. -/
theorem ends (h : Displaying R n w w' inside inside' a b) (hab : R a b) : h.Ends := by
  obtain ⟨o, o', ho, ho', hlike⟩ := h.worlds.objects hab
  cases hdata : o.isData with
  | true => exact h.data ho ho' hlike hdata
  | false =>
    cases hlike with
    | list | tuple | dict | set => cases hdata
    | same _ hshown =>
      cases o with
      | tuple owner xs =>
        cases owner with
        | none => cases hdata
        | some c => exact h.record ho ho' hshown
      | dict f d => exact h.dict ho ho' hshown
      | view kind d => exact h.view ho ho' hshown
      | _ => exact h.other ho ho' hab hshown (by rintro _ _ ⟨⟩) (by rintro _ _ ⟨⟩) (by rintro _ _ ⟨⟩)

end Displaying

/-- **Like values are displayed alike**, wherever they are displayed. -/
theorem looksAlike_displayAt (n : Nat) {inside inside' : List Addr} {v v' : Value}
    (hinside : List.Forall₂ R inside inside') (hv : v.Like R v') :
    (displayAt n inside v).LooksAlike R Eq (displayAt n inside' v') := by
  induction n generalizing inside inside' v v' with
  | zero => exact .raise _ _
  | succ n ih =>
    cases hv with
    | same hv =>
      unfold displayAt
      cases v with
      | ref => cases hv
      | int i => exact looksAlike_showInt i
      | fn id =>
        dsimp only
        split <;> exact .pure rfl
      | _ => exact .pure rfl
    | @object a b hab =>
      intro w w' hw
      have h : Displaying R n w w' inside inside' a b :=
        ⟨hw, contains_like hw.one_to_one hinside hab, ih (.cons hab hinside)⟩
      exact h.ends hab

theorem looksAlike_display (hv : v.Like R v') : v.display.LooksAlike R Eq v'.display :=
  looksAlike_displayAt displayDepth .nil hv

/-- Any other object is described by its class. -/
theorem looksAlike_describeClass (hv : v.Like R v') : (do
      match ← classOf v with
      | .cls n => return n ++ " object"
      | c => return (← c.classPath) ++ " object" : Run String).LooksAlike R Eq (do
      match ← classOf v' with
      | .cls n => return n ++ " object"
      | c => return (← c.classPath) ++ " object") := by
  refine (looksAlike_classOf hv).bind ?_
  rintro c _ ⟨rfl, hc⟩
  split
  · exact .pure rfl
  · exact (looksAlike_classPath hc).bind_pure _

theorem looksAlike_describe (hv : v.Like R v') : v.describe.LooksAlike R Eq v'.describe := by
  have hclass := looksAlike_describeClass hv
  cases hv with
  | object => exact hclass
  | same hv =>
    cases v with
    | null | ellipsis => exact .pure rfl
    | _ => exact hclass

end Value

theorem looksAlike_undefinedMessage {u : Undefined} (hu : ∀ v ∈ (Obj.undefined u).shown, v.Like R v) :
    (undefinedMessage u).LooksAlike R Eq (undefinedMessage u) := by
  have hname : u.name.Like R u.name := hu _ (by simp [Obj.shown, Obj.parts])
  unfold undefinedMessage
  split
  · exact .pure rfl
  · split
    · exact (Value.looksAlike_display hname).bind_pure _
    case h_2 owner howner =>
      have hlike : owner.Like R owner := hu _ (by simp [Obj.shown, Obj.parts, howner])
      have htold := Value.looksAlike_describe hlike
      split
      · exact htold.bind_pure _
      · exact htold.bind_pure _
      · exact htold.bind_eq fun _ => (Value.looksAlike_display hname).bind_pure _

theorem looksAlike_failUndefined {α : Type} {u : Undefined} (hu : ∀ v ∈ (Obj.undefined u).shown, v.Like R v) :
    (failUndefined u : Run α).LooksAlike R Eq (failUndefined u) :=
  (looksAlike_undefinedMessage hu).bind_eq fun _ => .raise _ _

theorem looksAlike_errorText {plain plain' : Value → Run String} {cls : Value} {args : List Value}
    {fields : List (String × Value)} (hshown : ∀ v ∈ (Obj.error cls args fields).shown, v.Like R v)
    (hplain : ∀ v : Value, v.Like R v → (plain v).LooksAlike R Eq (plain' v)) :
    (errorText cls args fields plain).LooksAlike R Eq (errorText cls args fields plain') := by
  have hcls : cls.Like R cls := hshown _ (by simp [Obj.shown])
  have harg (v : Value) (hv : v ∈ args) : v.Like R v := hshown _ (by simp [Obj.shown, hv])
  have hfield (name : String) (v : Value) (hv : fields.lookup name = some v) : v.Like R v := by
    obtain ⟨before, after, hfields, -⟩ := List.lookup_eq_some_iff.1 hv
    exact hshown _ (by simp [Obj.shown, hfields])
  unfold errorText
  dsimp only
  -- the class decides which arguments and fields are told, and each of them is told alike
  repeat' first
    | with_reducible exact .pure rfl
    | with_reducible exact hplain _ (harg _ (by simp [*]))
    | with_reducible exact hplain _ (hfield _ _ (by assumption))
    | with_reducible exact Value.looksAlike_display (harg _ (by simp [*]))
    | with_reducible exact Value.looksAlike_display (hfield _ _ (by assumption))
    | with_reducible exact Value.looksAlike_isSubclass hcls _
    | with_reducible refine LooksAlike.mapM_self fun p hp => ?_
    | with_reducible refine LooksAlike.bind_eq ?_ (fun _ => ?_)
    | split

namespace Value

variable {v v' : Value}

theorem looksAlike_plainAt (n : Nat) (hv : v.Like R v') : (plainAt n v).LooksAlike R Eq (plainAt n v') := by
  induction n generalizing v v' with
  | zero => exact .raise _ _
  | succ n ih =>
    have hdisplay := looksAlike_display hv
    unfold plainAt
    cases hv with
    | same hv =>
      cases v with
      | ref => cases hv
      | str | markup => exact .pure rfl
      | _ => exact hdisplay
    | object hab =>
      refine (LooksAlike.load hab).bind fun o o' ho => ?_
      cases ho with
      | same _ hshown =>
        split
        case h_1 => exact looksAlike_errorText hshown fun v hv => ih hv
        case h_7 u =>
          split
          · exact looksAlike_failUndefined hshown
          · exact .pure rfl
        case h_8 members pieces =>
          refine (LooksAlike.mapM_self fun piece hpiece => ih (hshown piece ?_)).bind_pure _
          simp [Obj.shown, Obj.parts, hpiece]
        case h_9 =>
          split
          · exact hdisplay
          · exact ih (hshown _ (by simp [Obj.shown, Obj.parts]))
        case h_11 => exact hdisplay
        all_goals exact .pure rfl
      | _ => exact hdisplay

/-- **Like values have the same text**, or the same error keeps them from having one. -/
theorem looksAlike_plain (hv : v.Like R v') : v.plain.LooksAlike R Eq v'.plain := looksAlike_plainAt displayDepth hv

/-- Like values have the same truth. -/
theorem looksAlike_truthy (hv : v.Like R v') : v.truthy.LooksAlike R Eq v'.truthy := by
  unfold truthy
  cases hv with
  | same hv =>
    cases v with
    | ref => cases hv
    | _ => exact .pure rfl
  | object hab =>
    refine (LooksAlike.load hab).bind fun o o' ho => ?_
    cases ho with
    | @list xs ys hxs => exact .pure (by rw [← Array.isEmpty_toList, isEmpty_eq_of_forall₂ hxs, Array.isEmpty_toList])
    | tuple hxs => exact .pure (by rw [isEmpty_eq_of_forall₂ hxs])
    | dict hd => exact .pure (by rw [OrderedMap.Like.isEmpty_eq hd])
    | set hd => exact .pure (by rw [OrderedMap.Like.isEmpty_eq hd])
    | same _ hshown =>
      split
      case h_9 => split <;> exact .pure rfl
      case h_10 kind d _ =>
        cases hshown (.ref d) (by simp [Obj.shown, Obj.parts]) with
        | same h => cases h
        | object hdd =>
          refine (LooksAlike.load hdd).bind fun o o' ho => ?_
          split
          · obtain ⟨e, rfl, he⟩ := ho.of_dict
            exact .pure (by rw [OrderedMap.Like.isEmpty_eq he])
          case h_2 hnot =>
            have hnot' := ho.not_dict hnot
            split
            · exact absurd rfl (hnot' _ _)
            · exact .pure rfl
      case h_11 u =>
        split
        · exact looksAlike_failUndefined hshown
        · exact .pure rfl
      all_goals exact .pure rfl

/-- The dictionaries that like values are, or neither is one. -/
theorem looksAlike_dict? (hv : v.Like R v') : v.dict?.LooksAlike R
    (Option.Rel fun r r' => r.2.2.Like R r'.2.2) v'.dict? := by
  cases hv with
  | same hv =>
    cases v with
    | ref => cases hv
    | _ => exact .pure .none
  | object hab =>
    refine (LooksAlike.load hab).bind fun o o' ho => ?_
    split
    · obtain ⟨e, rfl, he⟩ := ho.of_dict
      exact .pure (.some he)
    case h_2 hnot =>
      have hnot' := ho.not_dict hnot
      split
      · exact absurd rfl (hnot' _ _)
      · exact .pure .none

/-- The members of the lists that like values are, or neither is one. -/
theorem looksAlike_list? (hv : v.Like R v') : v.list?.LooksAlike R
    (Option.Rel fun r r' => List.Forall₂ (Value.Like R) r.2.toList r'.2.toList) v'.list? := by
  cases hv with
  | same hv =>
    cases v with
    | ref => cases hv
    | _ => exact .pure .none
  | object hab =>
    refine (LooksAlike.load hab).bind fun o o' ho => ?_
    split
    · obtain ⟨ys, rfl, hxs⟩ := ho.of_list
      exact .pure (.some hxs)
    case h_2 hnot =>
      have hnot' := ho.not_list hnot
      split
      · exact absurd rfl (hnot' _)
      · exact .pure .none

end Value

/-! ## Recipes -/

theorem looksAlike_throw {α : Type} {P : α → α → Prop} (fault : RecipeFault) :
    (fault.throw : Run α).LooksAlike R P fault.throw := .raise _ _

theorem looksAlike_fieldText {d e : Dict} (h : d.Like R e) (name : String) :
    (fieldText (d.field name)).LooksAlike R Eq (fieldText (e.field name)) := by
  have hfield := h.field name
  generalize d.field name = v, e.field name = v' at hfield
  cases hfield with
  | object hab => exact Value.looksAlike_plain (.object hab)
  | @same v hv =>
    cases v with
    | null => exact .pure rfl
    | _ => exact Value.looksAlike_plain (.same hv)

/-- Like values describe the same step. -/
theorem Step.looksAlike_ofValue {v v' : Value} (hv : v.Like R v') : (ofValue v).LooksAlike R Eq (ofValue v') := by
  refine (Value.looksAlike_dict? hv).bind fun r r' hr => ?_
  cases hr with
  | none => exact (Value.looksAlike_kindName hv).bind_eq fun _ => looksAlike_throw _
  | some hd => exact (looksAlike_fieldText hd _).bind_eq fun _ => (looksAlike_fieldText hd _).bind_eq fun _ =>
      (looksAlike_fieldText hd _).bind_pure _

/-- The declarations have the same names, over like values. -/
inductive Input.Like (R : Pairing) : Input → Input → Prop
  | required (name : String) : Like R (.required name) (.required name)
  | defaults {d e : OrderedMap String Value} : d.Like (Value.Like R) e → Like R (.defaults d) (.defaults e)

/-- The recipes are the same, but for the addresses of the objects in their default values and in their source. -/
structure Recipe.Like (R : Pairing) (r r' : Recipe) : Prop where
  name : r.name = r'.name
  description : r.description = r'.description
  inputs : List.Forall₂ (Input.Like R) r.inputs r'.inputs
  steps : r.steps = r'.steps
  source : r.source.Like R r'.source

section Relation

variable {S : Pairing}

theorem Input.Like.symm {i i' : Input} (h : i.Like R i') : i'.Like (flip R) i := by
  cases h with
  | required name => exact .required name
  | defaults h => exact .defaults (h.symm fun _ _ hv => hv.symm)

theorem Input.Like.trans {i i' i'' : Input} (h : i.Like R i') (h' : i'.Like S i'') :
    i.Like (Relation.Comp R S) i'' := by
  cases h with
  | required name =>
    cases h'
    exact .required name
  | defaults h =>
    cases h' with
    | defaults h' => exact .defaults (h.trans h' fun _ _ _ hv hv' => hv.trans hv')

theorem Recipe.Like.symm {r r' : Recipe} (h : r.Like R r') : r'.Like (flip R) r :=
  ⟨h.name.symm, h.description.symm, h.inputs.flip.imp fun _ _ hi => hi.symm, h.steps.symm, h.source.symm⟩

theorem Recipe.Like.trans {r r' r'' : Recipe} (h : r.Like R r') (h' : r'.Like S r'') : r.Like (Relation.Comp R S) r'' :=
  ⟨h.name.trans h'.name, h.description.trans h'.description,
    forall₂_trans h.inputs h'.inputs fun _ _ _ hi hi' => hi.trans hi', h.steps.trans h'.steps, h.source.trans h'.source⟩

end Relation

theorem Input.looksAlike_ofValue (recipe : String) {v v' : Value} (hv : v.Like R v') :
    (ofValue recipe v).LooksAlike R (Input.Like R) (ofValue recipe v') := by
  rw [ofValue, ofValue, ← hv.text?_eq]
  split
  · split
    · exact looksAlike_throw _
    · exact .pure (.required _)
  · refine (Value.looksAlike_dict? hv).bind fun r r' hr => ?_
    cases hr with
    | none => exact (Value.looksAlike_kindName hv).bind_eq fun _ => looksAlike_throw _
    | some hd =>
      dsimp only
      rw [OrderedMap.Like.isEmpty_eq hd]
      split
      · exact looksAlike_throw _
      · have hempty : (OrderedMap.empty : OrderedMap String Value).Like (Value.Like R) OrderedMap.empty := .nil
        refine (LooksAlike.mapM hd.pairs fun p q hp => ?_).bind fun ps qs hps =>
          .pure (.defaults (hempty.insertAll hps))
        exact (Value.looksAlike_plain hp.1).bind fun s t hst => .pure ⟨hst, hp.2⟩

namespace Recipe

theorem looksAlike_listField {v v' : Value} (hv : v.Like R v') (fault : RecipeFault) :
    (listField v fault).LooksAlike R (List.Forall₂ (Value.Like R)) (listField v' fault) := by
  refine (Value.looksAlike_truthy hv).bind ?_
  rintro b _ rfl
  split
  · refine (Value.looksAlike_list? hv).bind fun r r' hr => ?_
    cases hr with
    | none => exact looksAlike_throw _
    | some hxs => exact .pure hxs
  · exact .pure .nil

theorem looksAlike_report (names : List String) (message : String → String) :
    (names.forM fun s => Run.log .warning (message s)).LooksAlike R Eq
      (names.forM fun s => Run.log .warning (message s)) := by
  induction names with
  | nil => exact .pure rfl
  | cons s names ih => exact (LooksAlike.log _ _).bind_eq fun _ => ih

/-- **A recipe is loaded from like values alike**: it is the same but for the addresses of objects, or the same
error keeps it from being loaded. -/
theorem looksAlike_ofValue {v v' source source' : Value} (hv : v.Like R v') (hsource : source.Like R source') :
    (ofValue v source).LooksAlike R (Recipe.Like R) (ofValue v' source') := by
  refine (Value.looksAlike_dict? hv).bind fun r r' hr => ?_
  cases hr with
  | none => exact (Value.looksAlike_kindName hv).bind_eq fun _ => looksAlike_throw _
  | @some r r' hd =>
    obtain ⟨a, f, d⟩ := r
    obtain ⟨b, g, e⟩ := r'
    dsimp only
    rw [← (hd.field "jinx_name").text?_eq]
    cases (d.field "jinx_name").text? with
    | none => exact looksAlike_throw _
    | some name =>
      dsimp only
      split
      · exact looksAlike_throw _
      · refine (looksAlike_listField (hd.field _) _).bind fun rawInputs rawInputs' hinputs => ?_
        refine (looksAlike_listField (hd.field _) _).bind fun rawSteps rawSteps' hsteps => ?_
        refine (LooksAlike.mapM hinputs fun _ _ h => Input.looksAlike_ofValue _ h).bind fun inputs inputs' hinputs => ?_
        refine (LooksAlike.mapM_eq hsteps fun _ _ h => Step.looksAlike_ofValue h).bind_eq fun steps => ?_
        refine (looksAlike_report _ _).bind_eq fun _ => ?_
        refine (looksAlike_fieldText hd _).bind_eq fun description => ?_
        refine (Value.looksAlike_truthy hsource).bind_eq fun given => ?_
        cases given with
        | true => exact .pure ⟨rfl, rfl, hinputs, rfl, hsource⟩
        | false => exact .pure ⟨rfl, rfl, hinputs, rfl, hd.field _⟩

end Recipe

end Stepwise
