import Stepwise.Proofs.Looking
/-!
# Reading a document twice

Whatever world a document is read in, the same objects are made, one after the other, behind those that are there. So
what is read in one world stands for what is read in another one (`newPair`), and holds the same but for that
(`Twins`). `read_twice` says that reading ends alike in any two worlds, and that it leaves alone what was there.
-/

namespace Stepwise

namespace World

variable {w w' : World}

/-- Addresses at which something is still have something there. -/
theorem size_le_of_there (h : ∀ (a : Addr) (o : Obj), w.store[a]? = some o → ∃ o', w'.store[a]? = some o') :
    w.store.size ≤ w'.store.size := by
  by_contra hlt
  have hin : w'.store.size < w.store.size := Nat.not_le.1 hlt
  obtain ⟨o, ho⟩ := h w'.store.size _ (Array.getElem?_eq_getElem hin)
  exact absurd (Array.getElem?_eq_some_iff.1 ho).1 (Nat.lt_irrefl _)

theorem Grows.size_le (h : w.Grows w') : w.store.size ≤ w'.store.size :=
  size_le_of_there fun a o ho => (h.becomes a o ho).imp fun _ => And.left

theorem Retains.size_le (h : w.Retains w') :
    w.store.size ≤ w'.store.size := size_le_of_there fun a o ho => ⟨o, h a o ho⟩

end World

namespace Document

variable {w u v v' : World}

/-! ## What is made twice -/

/-- What is new in the world since `w` stands for what is new since `u`, in the order in which it was made. -/
def newPair (w u v : World) : Pairing := fun a b =>
  w.store.size ≤ a ∧ a < v.store.size ∧ u.store.size + a = w.store.size + b

theorem newPair_mono {v₁ v₂ : World} (h : v₁.Grows v₂) (a b : Addr) (hab : newPair w u v₁ a b) : newPair w u v₂ a b :=
  ⟨hab.1, Nat.lt_of_lt_of_le hab.2.1 h.size_le, hab.2.2⟩

theorem newPair_one_to_one {a a' b b' : Addr} (h : newPair w u v a b) (h' : newPair w u v a' b') : a = a' ↔ b = b' := by
  obtain ⟨-, -, hb⟩ := h
  obtain ⟨-, -, hb'⟩ := h'
  constructor
  · rintro rfl
    exact Nat.add_left_cancel (hb.symm.trans hb')
  · rintro rfl
    exact Nat.add_left_cancel (hb.trans hb'.symm)

/-- So it is with the objects that nodes become. -/
def nodePair (w u v : World) : Pairing := fun a b => newPair w u v a b ∧ ∃ o, v.store[a]? = some o ∧ IsMade o

theorem nodePair_mono {v₁ v₂ : World} (h : v₁.Grows v₂) (a b : Addr) (hab : nodePair w u v₁ a b) :
    nodePair w u v₂ a b := by
  obtain ⟨hnew, o, ho, hmade⟩ := hab
  obtain ⟨o', ho', hbecomes⟩ := h.becomes a o ho
  exact ⟨newPair_mono h a b hnew, o', ho', hmade.becomes hbecomes⟩

/-- Objects that nodes become, and what is put into them, are of the same kind and hold like values. -/
inductive MadeLike (R : Pairing) : Obj → Obj → Prop
  | list {xs ys : Array Value} : List.Forall₂ (Value.Like R) xs.toList ys.toList → MadeLike R (.list xs) (.list ys)
  | tuple {xs ys : List Value} : List.Forall₂ (Value.Like R) xs ys → MadeLike R (.tuple none xs) (.tuple none ys)
  | dict {d e : Dict} : d.Like R e → MadeLike R (.dict .plain d) (.dict .plain e)
  | set {d e : Dict} : d.Like R e → MadeLike R (.set false d) (.set false e)
  | date (d : Calendar.Date) : MadeLike R (.date d) (.date d)
  | datetime (t : Calendar.DateTime) : MadeLike R (.datetime t) (.datetime t)

namespace MadeLike

variable {R R' : Pairing} {o o' new new' : Obj}

theorem like (h : MadeLike R o o') : o.Like R o' := by
  cases h with
  | list h => exact .list h
  | tuple h => exact .tuple h
  | dict h => exact .dict h
  | set h => exact .set (OrderedMap.Like.imp h fun _ _ hp => hp.1)
  | date d => exact .same rfl (List.forall_mem_nil _)
  | datetime t => exact .same rfl (List.forall_mem_nil _)

theorem mono (hR : ∀ a b, R a b → R' a b) (h : MadeLike R o o') : MadeLike R' o o' := by
  cases h with
  | list h => exact .list (like_values_mono hR h)
  | tuple h => exact .tuple (like_values_mono hR h)
  | dict h => exact .dict (h.mono hR)
  | set h => exact .set (h.mono hR)
  | date d => exact .date d
  | datetime t => exact .datetime t

/-- Whether an object can take the place of another one is told by what both are. -/
theorem replacedBy (hnew : MadeLike R new new') (h : MadeLike R o o') :
    MadeLike R (Obj.replacedBy new o) (Obj.replacedBy new' o') := by
  have hkind (hn : MadeLike R new new') : new.kind = new'.kind := by cases hn <;> rfl
  have hfixed : o.isFixed = o'.isFixed := by cases h <;> rfl
  have hkind' : o.kind = o'.kind := by cases h <;> rfl
  rw [Obj.replacedBy, Obj.replacedBy, hkind hnew, hfixed, hkind']
  split
  · exact hnew
  · exact h

end MadeLike

/-- The worlds come from `w` and from `u` by the same making: what was there is as it was, and what is new in them
stands for each other. -/
structure Twins (w u v v' : World) : Prop where
  kept : w.Retains v
  kept' : u.Retains v'
  le_size : w.store.size ≤ v.store.size
  sizes : u.store.size + v.store.size = w.store.size + v'.store.size
  objects {a b : Addr} : newPair w u v a b →
    ∃ o o', v.store[a]? = some o ∧ v'.store[b]? = some o' ∧ MadeLike (newPair w u v) o o'

namespace Twins

theorem refl (w u : World) : Twins w u w u :=
  ⟨.refl w, .refl u, Nat.le_refl _, Nat.add_comm _ _, fun h => absurd h.2.1 (Nat.not_lt.2 h.1)⟩

theorem push (h : Twins w u v v') {o o' : Obj} (ho : MadeLike (newPair w u v) o o') :
    Twins w u { v with store := v.store.push o } { v' with store := v'.store.push o' } := by
  have hsizes := h.sizes
  have hle := h.le_size
  have hmono := newPair_mono (w := w) (u := u) (World.Grows.push v o)
  refine ⟨h.kept.push o, h.kept'.push o', ?_, ?_, fun {a b} hab => ?_⟩
  · simp only [Array.size_push]
    omega
  · simp only [Array.size_push]
    omega
  · obtain ⟨hnew, hlt, hshift⟩ := hab
    simp only [Array.size_push] at hlt
    obtain hold | rfl := Nat.lt_succ_iff_lt_or_eq.1 hlt
    · obtain ⟨x, x', hx, hx', hlike⟩ := h.objects ⟨hnew, hold, hshift⟩
      exact ⟨x, x', World.get_push hx o, World.get_push hx' o', hlike.mono hmono⟩
    · obtain rfl : @Eq Nat b v'.store.size := by omega
      exact ⟨o, o', Array.getElem?_push_size, Array.getElem?_push_size, ho.mono hmono⟩

/-- Objects that stand for each other are changed alike. -/
theorem modify (h : Twins w u v v') {a b : Addr} (hab : newPair w u v a b) {f g : Obj → Obj}
    (hfg : ∀ o o', MadeLike (newPair w u v) o o' → MadeLike (newPair w u v) (f o) (g o')) :
    Twins w u { v with store := v.store.modify a f } { v' with store := v'.store.modify b g } := by
  have hpair : newPair w u { v with store := v.store.modify a f } = newPair w u v := by
    unfold newPair
    simp only [Array.size_modify]
  have hkept : w.Retains { v with store := v.store.modify a f } := fun c o ho => by
    have hne : a ≠ c := fun hac => absurd (Array.getElem?_eq_some_iff.1 ho).1 (Nat.not_lt.2 (hac ▸ hab.1))
    dsimp only
    rw [Array.getElem?_modify, if_neg hne, h.kept c o ho]
  have hkept' : u.Retains { v' with store := v'.store.modify b g } := fun c o ho => by
    have hlt := (Array.getElem?_eq_some_iff.1 ho).1
    have hne : b ≠ c := by
      rintro rfl
      obtain ⟨hnew, -, hshift⟩ := hab
      omega
    dsimp only
    rw [Array.getElem?_modify, if_neg hne, h.kept' c o ho]
  refine ⟨hkept, hkept', by rw [Array.size_modify]; exact h.le_size, ?_, fun {c d} hcd => ?_⟩
  · rw [Array.size_modify, Array.size_modify]
    exact h.sizes
  · rw [hpair] at hcd ⊢
    obtain ⟨o, o', ho, ho', hlike⟩ := h.objects hcd
    have heq : a = c ↔ b = d := newPair_one_to_one hab hcd
    dsimp only
    rw [Array.getElem?_modify, Array.getElem?_modify, ho, ho']
    by_cases hac : a = c
    · rw [if_pos hac, if_pos (heq.1 hac)]
      exact ⟨_, _, rfl, rfl, hfg o o' hlike⟩
    · rw [if_neg hac, if_neg (fun hbd => hac (heq.2 hbd))]
      exact ⟨o, o', rfl, rfl, hlike⟩

end Twins

/-! ## Building twice -/

/-- A collection that has yet to be filled stands for another one that is filled from the same node. -/
inductive Pending.Like (R : Pairing) : Pending → Pending → Prop
  | items {a b : Addr} (node : NodeId) : R a b → Like R (.items a node) (.items b node)
  | pairs {a b : Addr} (node : NodeId) : R a b → Like R (.pairs a node) (.pairs b node)
  | members {a b : Addr} (node : NodeId) : R a b → Like R (.members a node) (.members b node)
  | entries {a b : Addr} (node : NodeId) : R a b → Like R (.entries a node) (.entries b node)

theorem Pending.Like.mono {R R' : Pairing} (hR : ∀ a b, R a b → R' a b) {p p' : Pending} (h : p.Like R p') :
    p.Like R' p' := by
  cases h with
  | items node h => exact .items node (hR _ _ h)
  | pairs node h => exact .pairs node (hR _ _ h)
  | members node h => exact .members node (hR _ _ h)
  | entries node h => exact .entries node (hR _ _ h)

/-- The builders have the same nodes, have made like values of them, and have like collections to fill. -/
structure Build.Like (R : Pairing) (s s' : Build) : Prop where
  graph : s.graph = s'.graph
  made : List.Forall₂ (Option.Rel (Value.Like R)) s.made.toList s'.made.toList
  pending : List.Forall₂ (Pending.Like R) s.pending.toList s'.pending.toList

theorem Build.Like.mono {R R' : Pairing} (hR : ∀ a b, R a b → R' a b) {s s' : Build} (h : s.Like R s') :
    s.Like R' s' := by
  refine ⟨h.graph, h.made.imp fun _ _ hv => ?_, h.pending.imp fun _ _ hp => hp.mono hR⟩
  cases hv with
  | none => exact .none
  | some hv => exact .some (hv.mono hR)

/-- Of every node like values have been made, or none. -/
theorem Build.Like.made_at {R : Pairing} {s s' : Build} (h : s.Like R s') (id : NodeId) :
    Option.Rel (Value.Like R) (s.made.getD id none) (s'.made.getD id none) := by
  have hmade := getElem?_of_forall₂ h.made id
  rw [Array.getElem?_toList, Array.getElem?_toList] at hmade
  rw [Array.getD_eq_getD_getElem?, Array.getD_eq_getD_getElem?]
  generalize s.made[id]? = x, s'.made[id]? = y at hmade
  cases hmade with
  | none => exact .none
  | some hxy => exact hxy

/-- What two builders hand on, in the worlds that they leave. -/
abbrev Outcome (α β : Type) := World → World → α → β → Prop

/-- The results are equal. -/
def Same {α : Type} : Outcome α α := fun _ _ a b => a = b

/-- The results are like values. -/
def LikeValues (w u : World) : Outcome Value Value := fun v _ x y => x.Like (nodePair w u v) y

/-- Building ends alike: with results that belong together, with the same finding, or with the same error. -/
inductive EndsAlike (w u : World) {α β : Type} (P : Outcome α β) :
    Ending (Except Fault (α × Build)) → Ending (Except Fault (β × Build)) → Prop
  | value {a : α} {b : β} {s s' : Build} {v v' : World} : Twins w u v v' → s.Like (nodePair w u v) s' → P v v' a b →
      EndsAlike w u P (.ok (.ok (a, s)) v) (.ok (.ok (b, s')) v')
  | fault {fault : Fault} {v v' : World} : Twins w u v v' →
      EndsAlike w u P (.ok (.error fault) v) (.ok (.error fault) v')
  | raised {cls message : String} {v v' : World} : Twins w u v v' →
      EndsAlike w u P (.error (.raised v.store.size) (v.raising cls message))
        (.error (.raised v'.store.size) (v'.raising cls message))

namespace EndsAlike

variable {α β γ δ : Type} {P P' : Outcome α β} {Q : Outcome γ δ} {x : Builder α} {y : Builder β}
  {f : α → Builder γ} {g : β → Builder δ} {s s' : Build}

theorem bind (hx : EndsAlike w u P (x.act s v) (y.act s' v'))
    (hf : ∀ a b t t' z z', Twins w u z z' → t.Like (nodePair w u z) t' → P z z' a b →
      EndsAlike w u Q ((f a).act t z) ((g b).act t' z')) :
    EndsAlike w u Q ((x >>= f).act s v) ((y >>= g).act s' v') := by
  rw [Builder.bind_act, Builder.bind_act]
  generalize x.act s v = e, y.act s' v' = e' at hx
  cases hx with
  | value ht hs hp => exact hf _ _ _ _ _ _ ht hs hp
  | fault ht => exact .fault ht
  | raised ht => exact .raised ht

theorem mono (hx : EndsAlike w u P (x.act s v) (y.act s' v'))
    (h : ∀ a b z z', v.Grows z → v'.Grows z' → P z z' a b → P' z z' a b) :
    EndsAlike w u P' (x.act s v) (y.act s' v') := by
  have hgrows := x.grows s v
  have hgrows' := y.grows s' v'
  generalize x.act s v = e, y.act s' v' = e' at hx hgrows hgrows'
  cases hx with
  | value ht hs hp => exact .value ht hs (h _ _ _ _ hgrows hgrows' hp)
  | fault ht => exact .fault ht
  | raised ht => exact .raised ht

/-- Objects that stood for each other still do. -/
theorem holding {a b : Addr} (hx : EndsAlike w u P (x.act s v) (y.act s' v')) (hab : newPair w u v a b) :
    EndsAlike w u (fun z z' c d => newPair w u z a b ∧ P z z' c d) (x.act s v) (y.act s' v') :=
  hx.mono fun _ _ _ _ hz _ hp => ⟨newPair_mono hz a b hab, hp⟩

end EndsAlike

/-- The builders end alike wherever they begin. -/
def BuildsAlike (w u : World) {α β : Type} (P : Outcome α β) (x : Builder α) (y : Builder β) : Prop :=
  ∀ s s' v v', Twins w u v v' → s.Like (nodePair w u v) s' → EndsAlike w u P (x.act s v) (y.act s' v')

namespace BuildsAlike

variable {α β γ : Type} {P : Outcome α β} {Q : Outcome γ γ} {x y : Builder α} {f g : α → Builder γ}

theorem pure {a : α} {b : β} (h : ∀ v v', P v v' a b) : BuildsAlike w u P (Pure.pure a) (Pure.pure b) :=
  fun _ _ v v' ht hs => .value ht hs (h v v')

theorem malformed : BuildsAlike w u P Builder.malformed Builder.malformed := fun _ _ _ _ ht _ => .fault ht

theorem raise (cls message : String) :
    BuildsAlike w u P (Builder.lift (Run.raise cls message)) (Builder.lift (Run.raise cls message)) := by
  intro s s' v v' ht _
  rw [Builder.lift_act, Builder.lift_act]
  exact .raised ht

theorem bind_same (hx : BuildsAlike w u Same x y) (hf : ∀ a, BuildsAlike w u Q (f a) (g a)) :
    BuildsAlike w u Q (x >>= f) (y >>= g) :=
  fun s s' v v' ht hs => (hx s s' v v' ht hs).bind fun a _ t t' z z' ht hs hab => hab ▸ hf a t t' z z' ht hs

/-- The nodes are the same. -/
theorem nodeOf (id : NodeId) : BuildsAlike w u Same (Builder.nodeOf id) (Builder.nodeOf id) :=
  fun _ _ _ _ ht hs => .value ht hs (congrArg (fun g => nodeAt g id) hs.graph)

/-- A node is changed alike. -/
theorem modifyNode (id : NodeId) (f : Node → Node) : BuildsAlike w u Same
    (modify fun s => { s with graph := s.graph.modify id f } : Builder PUnit)
    (modify fun s => { s with graph := s.graph.modify id f }) :=
  fun _ _ _ _ ht hs => .value ht ⟨congrArg (fun g => g.modify id f) hs.graph, hs.made, hs.pending⟩ rfl

theorem ite {c : Prop} [Decidable c] {x' y' : Builder α} {P : Outcome α α} (h : BuildsAlike w u P x y)
    (h' : BuildsAlike w u P x' y') : BuildsAlike w u P (if c then x else x') (if c then y else y') := by
  split
  · exact h
  · exact h'

theorem mapM_same {f g : α → Builder γ} (hf : ∀ a, BuildsAlike w u Same (f a) (g a)) (l : List α) :
    BuildsAlike w u Same (l.mapM f) (l.mapM g) := by
  induction l with
  | nil => exact pure fun _ _ => rfl
  | cons a l ih =>
    rw [List.mapM_cons, List.mapM_cons]
    exact (hf a).bind_same fun b => ih.bind_same fun bs => pure fun _ _ => rfl

/-- Lists are built alike if their members are, and if what belongs together does so later. -/
theorem mapM {α β δ : Type} {P : Outcome β δ} (hmono : ∀ b d z₁ z₁' z₂ z₂', World.Grows z₁ z₂ → World.Grows z₁' z₂' →
      P z₁ z₁' b d → P z₂ z₂' b d) {f : α → Builder β} {g : α → Builder δ} (hf : ∀ a, BuildsAlike w u P (f a) (g a))
    (l : List α) :
    BuildsAlike w u (fun v v' => List.Forall₂ (P v v')) (l.mapM f) (l.mapM g) := by
  induction l with
  | nil => exact pure fun _ _ => .nil
  | cons a l ih =>
    intro s s' v v' ht hs
    rw [List.mapM_cons, List.mapM_cons]
    refine (hf a s s' v v' ht hs).bind fun b d t t' z z' ht hs hbd => ?_
    have hrest : EndsAlike w u (fun v v' bs ds => P v v' b d ∧ List.Forall₂ (P v v') bs ds)
        ((l.mapM f).act t z) ((l.mapM g).act t' z') :=
      (ih t t' z z' ht hs).mono fun _ _ _ _ hz hz' hall => ⟨hmono _ _ _ _ _ _ hz hz' hbd, hall⟩
    exact hrest.bind fun bs ds t t' z z' ht hs hall => .value ht hs (.cons hall.1 hall.2)

end BuildsAlike

/-- Builders for the members of two lists, one after the other, end alike if each does. -/
theorem EndsAlike.forM {α β : Type} {A : Outcome α β} (hmono : ∀ a b z₁ z₁' z₂ z₂', World.Grows z₁ z₂ →
      World.Grows z₁' z₂' → A z₁ z₁' a b → A z₂ z₂' a b) {f : α → Builder PUnit} {g : β → Builder PUnit}
    (hf : ∀ a b s s' v v', Twins w u v v' → s.Like (nodePair w u v) s' → A v v' a b →
      EndsAlike w u Same ((f a).act s v) ((g b).act s' v')) {s s' : Build} (ht : Twins w u v v')
    (hs : s.Like (nodePair w u v) s') {l : List α} {l' : List β} (hl : List.Forall₂ (A v v') l l') :
    EndsAlike w u Same ((l.forM f).act s v) ((l'.forM g).act s' v') := by
  induction l generalizing l' s s' v v' with
  | nil =>
    cases hl
    exact .value ht hs rfl
  | cons a l ih =>
    cases hl with
    | cons hab hrest =>
      have hfirst : EndsAlike w u (fun v v' _ _ => List.Forall₂ (A v v') _ _) _ _ :=
        (hf _ _ _ _ _ _ ht hs hab).mono fun _ _ _ _ hz hz' _ => hrest.imp fun _ _ => hmono _ _ _ _ _ _ hz hz'
      exact hfirst.bind fun _ _ _ _ _ _ ht hs hrest => ih ht hs hrest

/-! ## Conversions -/

namespace Builder

open BuildsAlike (raise)

/-- A value that is no object is like itself. -/
theorem buildsAlike_scalar {x : Value} (h : x.addr? = none) :
    BuildsAlike w u (LikeValues w u) (pure x) (pure x) := .pure fun _ _ => .same h

theorem endsAlike_alloc {o o' : Obj} (ho : MadeLike (newPair w u v) o o') (hmade : IsMade o) {s s' : Build}
    (ht : Twins w u v v') (hs : s.Like (nodePair w u v) s') : EndsAlike w u (fun v _ a b => nodePair w u v a b)
      ((lift (Run.alloc o)).act s v) ((lift (Run.alloc o')).act s' v') := by
  rw [lift_act, lift_act]
  refine .value (ht.push ho) (hs.mono (nodePair_mono (.push v o))) ⟨⟨ht.le_size, ?_, ht.sizes⟩, o, ?_, hmade⟩
  · exact Nat.lt_of_lt_of_eq (Nat.lt_succ_self _) (Array.size_push o).symm
  · exact Array.getElem?_push_size

/-- What is made of one scalar is made of it again. -/
theorem buildsAlike_new {o : Obj} (ho : ∀ R, MadeLike R o o) (hmade : IsMade o) :
    BuildsAlike w u (LikeValues w u) (lift (Run.new o)) (lift (Run.new o)) := by
  intro s s' v v' ht hs
  have halloc := endsAlike_alloc (ho _) hmade ht hs
  rw [lift_act, lift_act] at halloc ⊢
  cases halloc with
  | value ht hs hab => exact .value ht hs (.object hab)

theorem buildsAlike_intIn (radix : Nat) (digits : List Char) :
    BuildsAlike w u Same (intIn radix digits) (intIn radix digits) := by
  unfold intIn
  split
  · split
    · exact raise _ _
    · exact .pure fun _ _ => rfl
  · exact raise _ _

theorem buildsAlike_intOf (text : String) : BuildsAlike w u (LikeValues w u) (intOf text) (intOf text) := by
  have hint (n : Int) : BuildsAlike w u (LikeValues w u) (pure (.int n)) (pure (.int n)) := buildsAlike_scalar rfl
  unfold intOf
  dsimp only
  split
  case h_1 => exact raise _ _
  case h_2 => exact hint 0
  case h_6 =>
    refine .ite ?_ ?_
    · exact (BuildsAlike.mapM_same (buildsAlike_intIn 10) _).bind_same fun _ => hint _
    · exact (buildsAlike_intIn _ _).bind_same fun _ => hint _
  all_goals exact (buildsAlike_intIn _ _).bind_same fun _ => hint _

theorem buildsAlike_floatIn (digits : List Char) : BuildsAlike w u Same (floatIn digits) (floatIn digits) := by
  unfold floatIn
  split
  · exact .pure fun _ _ => rfl
  · exact raise _ _

theorem buildsAlike_floatOf (text : String) : BuildsAlike w u (LikeValues w u) (floatOf text) (floatOf text) := by
  have hfloat (x : Float) : BuildsAlike w u (LikeValues w u) (pure (.float x)) (pure (.float x)) :=
    buildsAlike_scalar rfl
  unfold floatOf
  dsimp only
  refine .ite (raise _ _) (.ite (hfloat _) (.ite (hfloat _) (.ite ?_ ?_)))
  · exact (BuildsAlike.mapM_same buildsAlike_floatIn _).bind_same fun _ => hfloat _
  · exact (buildsAlike_floatIn _).bind_same fun _ => hfloat _

theorem buildsAlike_boolOf (text : String) : BuildsAlike w u (LikeValues w u) (boolOf text) (boolOf text) := by
  unfold boolOf
  dsimp only
  split
  · exact buildsAlike_scalar rfl
  · split
    · exact buildsAlike_scalar rfl
    · exact raise _ _

theorem buildsAlike_moment (day : Except Calendar.Fault Calendar.Date) (clock : Except Calendar.Fault Calendar.Time)
    (offset : Option Calendar.Offset) {x : Builder Value} (hx : x = match day, clock with
      | .ok d, .ok c => lift (Run.new (.datetime ⟨d, c, offset⟩))
      | .error f, _ => faultOf f
      | _, .error f => faultOf f) : BuildsAlike w u (LikeValues w u) x x := by
  subst hx
  cases day with
  | error f => exact raise _ _
  | ok d =>
    cases clock with
    | error f => exact raise _ _
    | ok c => exact buildsAlike_new (fun _ => .datetime _) trivial

theorem buildsAlike_momentOf (text : String) : BuildsAlike w u (LikeValues w u) (momentOf text) (momentOf text) := by
  unfold momentOf
  dsimp only
  split
  · exact raise _ _
  · split
    · split
      · exact buildsAlike_new (fun _ => .date _) trivial
      · exact raise _ _
    · split
      · split
        · exact (raise _ _ : BuildsAlike w u (Same (α := PUnit)) _ _).bind_same fun _ => buildsAlike_moment _ _ _ rfl
        · exact buildsAlike_moment _ _ _ rfl
      · exact buildsAlike_moment _ _ _ rfl

theorem buildsAlike_underValueKey {read : NodeId → Builder String}
    (hread : ∀ id, BuildsAlike w u Same (read id) (read id)) (pairs : List (NodeId × NodeId)) :
    BuildsAlike w u Same (underValueKey read pairs) (underValueKey read pairs) := by
  induction pairs with
  | nil => exact .malformed
  | cons pair rest ih =>
    refine (BuildsAlike.nodeOf _).bind_same fun node => ?_
    split
    · exact hread _
    · exact ih

theorem buildsAlike_textOf (fuel : Nat) (id : NodeId) : BuildsAlike w u Same (textOf fuel id) (textOf fuel id) := by
  induction fuel generalizing id with
  | zero => exact .malformed
  | succ fuel ih =>
    refine (BuildsAlike.nodeOf _).bind_same fun node => ?_
    split
    · exact .pure fun _ _ => rfl
    · exact buildsAlike_underValueKey ih _
    · exact .malformed

/-! ## Nodes -/

variable {s s' : Build}

theorem forall₂_set {α β : Type} {P : α → β → Prop} {l : List α} {l' : List β} (h : List.Forall₂ P l l') (i : Nat)
    {a : α} {b : β} (hab : P a b) : List.Forall₂ P (l.set i a) (l'.set i b) := by
  induction h generalizing i with
  | nil => exact .nil
  | cons hfirst hrest ih =>
    cases i with
    | zero => exact .cons hab hrest
    | succ i => exact .cons hfirst (ih i)

/-- What has been made of a node is kept for it. -/
theorem endsAlike_keep (id : NodeId) {x y : Value} (ht : Twins w u v v') (hs : s.Like (nodePair w u v) s')
    (hxy : LikeValues w u v v' x y) : EndsAlike w u (LikeValues w u)
      ((do
        modify fun s => { s with made := s.made.setIfInBounds id (some x) }
        pure x : Builder Value).act s v)
      ((do
        modify fun s => { s with made := s.made.setIfInBounds id (some y) }
        pure y : Builder Value).act s' v') := by
  rw [modify_bind_act, modify_bind_act]
  refine .value ht ⟨hs.graph, ?_, hs.pending⟩ hxy
  simp only [Array.toList_setIfInBounds]
  exact forall₂_set hs.made id (.some hxy)

/-- A collection is made empty, to be filled later. -/
theorem endsAlike_deferred {o : Obj} (ho : ∀ R, MadeLike R o o) (hmade : IsMade o) {p : Addr → Pending}
    (hp : ∀ {R : Pairing} {a b : Addr}, R a b → (p a).Like R (p b)) (ht : Twins w u v v')
    (hs : s.Like (nodePair w u v) s') :
    EndsAlike w u (LikeValues w u)
      ((do
        let a ← lift (Run.alloc o)
        modify fun s => { s with pending := s.pending.push (p a) }
        pure (.ref a) : Builder Value).act s v)
      ((do
        let a ← lift (Run.alloc o)
        modify fun s => { s with pending := s.pending.push (p a) }
        pure (.ref a) : Builder Value).act s' v') := by
  refine (endsAlike_alloc (ho _) hmade ht hs).bind fun a b t t' z z' ht hs hab => ?_
  rw [modify_bind_act, modify_bind_act]
  refine .value ht ⟨hs.graph, hs.made, ?_⟩ (.object hab)
  simp only [Array.toList_push]
  exact List.rel_append hs.pending (.cons (hp hab) .nil)

/-- **A node is made into like values.** -/
theorem buildsAlike_make (id : NodeId) : BuildsAlike w u (LikeValues w u) (make id) (make id) := by
  intro s s' v v' ht hs
  have hconvert {x : Builder Value} (hx : BuildsAlike w u (LikeValues w u) x x) {s s' : Build} {v v' : World}
      (ht : Twins w u v v') (hs : s.Like (nodePair w u v) s') : EndsAlike w u (LikeValues w u)
      ((do
        let x ← x
        modify fun s => { s with made := s.made.setIfInBounds id (some x) }
        pure x : Builder Value).act s v)
      ((do
        let x ← x
        modify fun s => { s with made := s.made.setIfInBounds id (some x) }
        pure x : Builder Value).act s' v') :=
    (hx s s' v v' ht hs).bind fun _ _ _ _ _ _ ht hs hxy => endsAlike_keep id ht hs hxy
  have hdeferred {o : Obj} (ho : ∀ R, MadeLike R o o) (hmade : IsMade o) {p : Addr → Pending}
      (hp : ∀ {R : Pairing} {a b : Addr}, R a b → (p a).Like R (p b)) :=
    (endsAlike_deferred ho hmade hp ht hs).bind fun _ _ _ _ _ _ ht hs hxy => endsAlike_keep id ht hs hxy
  have htext := buildsAlike_textOf (w := w) (u := u) (s'.graph.size + 1) id s s' v v' ht hs
  -- the node has been made before in both worlds, or in neither
  have hmade := hs.made_at id
  rw [make, get_bind_act, get_bind_act]
  generalize s.made.getD id none = x, s'.made.getD id none = y at hmade
  cases hmade with
  | some hxy => exact .value ht hs hxy
  | none =>
    dsimp only
    rw [nodeOf_bind_act, nodeOf_bind_act, hs.graph]
    rw [get_bind_act, get_bind_act, hs.graph]
    split
    case h_1 => exact htext.bind fun _ _ _ _ _ _ ht hs _ => endsAlike_keep id ht hs (.same rfl)
    case h_2 => exact htext.bind fun _ _ _ _ _ _ ht hs hab => hab ▸ hconvert (buildsAlike_boolOf _) ht hs
    case h_3 => exact htext.bind fun _ _ _ _ _ _ ht hs hab => hab ▸ hconvert (buildsAlike_intOf _) ht hs
    case h_4 => exact htext.bind fun _ _ _ _ _ _ ht hs hab => hab ▸ hconvert (buildsAlike_floatOf _) ht hs
    case h_5 =>
      refine htext.bind ?_
      rintro text _ _ _ _ _ ht hs rfl
      split
      · split
        · exact endsAlike_keep id ht hs (.same rfl)
        · exact .fault ht
      · exact .fault ht
    case h_6 =>
      refine htext.bind fun _ _ _ _ _ _ ht hs _ => ?_
      split
      · exact hconvert (buildsAlike_momentOf _) ht hs
      · exact .fault ht
    case h_7 => exact hdeferred (fun _ => .list .nil) trivial (.entries id)
    case h_8 => exact hdeferred (fun _ => .list .nil) trivial (.entries id)
    case h_9 => exact hdeferred (fun _ => .set .nil) trivial (.members id)
    case h_10 =>
      refine htext.bind ?_
      rintro text _ _ _ _ _ ht hs rfl
      exact endsAlike_keep id ht hs (.same rfl)
    case h_11 => exact hdeferred (fun _ => .list .nil) trivial (.items id)
    case h_12 => exact hdeferred (fun _ => .dict .nil) trivial (.pairs id)
    case h_13 => exact .fault ht

/-! ## Collections -/

theorem buildsAlike_mergedPairs {flatten : NodeId → Builder Unit}
    (hflatten : ∀ id, BuildsAlike w u Same (flatten id) (flatten id)) (id : NodeId) :
    BuildsAlike w u Same (mergedPairs flatten id) (mergedPairs flatten id) := by
  refine (BuildsAlike.nodeOf _).bind_same fun node => ?_
  split
  · refine (hflatten id).bind_same fun _ => (BuildsAlike.nodeOf _).bind_same fun node => ?_
    split
    · exact .pure fun _ _ => rfl
    · exact .malformed
  · exact .malformed

theorem buildsAlike_mergePairs {flatten : NodeId → Builder Unit}
    (hflatten : ∀ id, BuildsAlike w u Same (flatten id) (flatten id))
    (id : NodeId) (pairs kept merged : List (NodeId × NodeId)) :
    BuildsAlike w u Same (mergePairs flatten id pairs kept merged) (mergePairs flatten id pairs kept merged) := by
  induction pairs generalizing kept merged with
  | nil => exact .pure fun _ _ => rfl
  | cons pair rest ih =>
    obtain ⟨k, v⟩ := pair
    refine (BuildsAlike.nodeOf _).bind_same fun node => ?_
    split
    · refine (BuildsAlike.modifyNode _ _).bind_same fun _ => (BuildsAlike.nodeOf _).bind_same fun node => ?_
      split
      · exact (buildsAlike_mergedPairs hflatten v).bind_same fun _ => ih _ _
      · exact (BuildsAlike.mapM_same (buildsAlike_mergedPairs hflatten) _).bind_same fun _ => ih _ _
      · exact .malformed
    · split
      · exact (BuildsAlike.modifyNode _ _).bind_same fun _ => ih _ _
      · exact ih _ _

theorem buildsAlike_flatten (fuel : Nat) (id : NodeId) : BuildsAlike w u Same (flatten fuel id) (flatten fuel id) := by
  induction fuel generalizing id with
  | zero => exact .malformed
  | succ fuel ih =>
    refine (BuildsAlike.nodeOf _).bind_same fun node => ?_
    split
    · exact (buildsAlike_mergePairs ih id _ [] []).bind_same fun _ => BuildsAlike.modifyNode _ _
    · exact .pure fun _ _ => rfl

/-- Pairs of like values, the keys of which have the same place in a dictionary. -/
def LikePairs (w u : World) : Outcome (Value × Value) (Value × Value) := fun v v' p q =>
  Dict.PairLike (newPair w u v) p q ∧ ∃ k, v.HasKey p.1 k ∧ v'.HasKey q.1 k

theorem LikePairs.mono {p q : Value × Value} {z z' : World} (hz : v.Grows z) (hz' : v'.Grows z')
    (h : LikePairs w u v v' p q) : LikePairs w u z z' p q := by
  obtain ⟨⟨hkey, hvalue⟩, k, hk, hk'⟩ := h
  exact ⟨⟨hkey.mono (newPair_mono hz), hvalue.mono (newPair_mono hz)⟩, k, hk.grows hz, hk'.grows hz'⟩

theorem like_of_nodes {x y : Value} (h : LikeValues w u v v' x y) :
    x.Like (newPair w u v) y := h.mono fun _ _ hab => hab.1

/-- A value that is no object has the same key in every world. -/
theorem exists_key_of_scalar {x : Value} (h : x.addr? = none) : ∃ k, ∀ z : World, x.key.act z = .ok k z := by
  cases x with
  | ref => cases h
  | _ => exact ⟨_, fun _ => rfl⟩

theorem object?_of_scalar {x : Value} (h : x.addr? = none) (z : World) : (Run.object? x).act z = .ok none z := by
  cases x with
  | ref => cases h
  | _ => rfl

theorem object?_of_get {a : Addr} {o : Obj} {z : World} (h : z.store[a]? = some o) :
    (Run.object? (.ref a)).act z = .ok (some o) z := by
  rw [Run.object?, Run.bind_act, Run.load_act h]
  rfl

theorem buildsAlike_pairOf (pair : NodeId × NodeId) : BuildsAlike w u (LikePairs w u) (pairOf pair) (pairOf pair) := by
  intro s s' v v' ht hs
  rw [pairOf]
  refine (buildsAlike_make pair.1 s s' v v' ht hs).bind fun key key' t t' z z' ht hs hkey => ?_
  have hrest (k : Key) (hk : z.HasKey key k) (hk' : z'.HasKey key' k) : EndsAlike w u (LikePairs w u)
      ((do
        let x ← make pair.2
        pure (key, x) : Builder (Value × Value)).act t z)
      ((do
        let x ← make pair.2
        pure (key', x) : Builder (Value × Value)).act t' z') := by
    have hvalue : EndsAlike w u (fun v v' x y => LikePairs w u v v' (key, x) (key', y)) _ _ :=
      (buildsAlike_make pair.2 t t' z z' ht hs).mono fun _ _ y y' hy hy' hxy =>
        ⟨⟨(like_of_nodes hkey).mono (newPair_mono hy), like_of_nodes hxy⟩, k, hk.grows hy, hk'.grows hy'⟩
    exact hvalue.bind fun _ _ _ _ _ _ ht hs hp => .value ht hs hp
  rw [bind_act, bind_act, lift_act, lift_act]
  cases hkey with
  | same hkey =>
    obtain ⟨k, hk⟩ := exists_key_of_scalar hkey
    rw [object?_of_scalar hkey, object?_of_scalar hkey]
    exact hrest k (fun y _ => hk y) (fun y _ => hk y)
  | @object a b hab =>
    obtain ⟨hnew, o, ho, hmade⟩ := hab
    obtain ⟨x, o', hx, ho', hlike⟩ := ht.objects hnew
    cases ho.symm.trans hx
    rw [object?_of_get ho, object?_of_get ho']
    -- a day or a moment is the same in both worlds, and so is its key
    have hplain (hplain : ¬ IsCollection o) (heq : o' = o) : ∃ k, z.HasKey (.ref a) k ∧ z'.HasKey (.ref b) k := by
      obtain ⟨k, hk⟩ := key_act_of_get hmade hplain
      have hfixed := isFixed_of_made hmade hplain
      exact ⟨k, fun y hy => hk _ y (hy.fixed ho hfixed), fun y hy => hk _ y (hy.fixed (heq ▸ ho') hfixed)⟩
    cases hlike with
    | list | dict | set => exact .fault ht
    | tuple => exact absurd hmade id
    | date | datetime =>
      obtain ⟨k, hk, hk'⟩ := hplain id rfl
      exact hrest k hk hk'

theorem buildsAlike_pairsOf (id : NodeId) :
    BuildsAlike w u (fun v v' => List.Forall₂ (LikePairs w u v v')) (pairsOf id) (pairsOf id) := by
  intro s s' v v' ht hs
  rw [pairsOf, get_bind_act, get_bind_act, hs.graph]
  refine BuildsAlike.bind_same (buildsAlike_flatten _ id) (fun _ => ?_) s s' v v' ht hs
  refine (BuildsAlike.nodeOf id).bind_same fun node => ?_
  split
  · exact BuildsAlike.mapM (fun _ _ _ _ _ _ hz hz' h => h.mono hz hz') buildsAlike_pairOf _
  · exact .malformed

/-- A dictionary is written into alike. -/
theorem put_like {R : Pairing} {d e : Dict} (h : d.Like R e) (k : Key) {p q : Value × Value}
    (hpq : Dict.PairLike R p q) :
    (d.put k p.1 p.2).Like R (e.put k q.1 q.2) := by
  have hfound := OrderedMap.Like.find? h k
  rw [Dict.put, Dict.put]
  generalize OrderedMap.find? d k = x, OrderedMap.find? e k = y at hfound
  cases hfound with
  | none => exact OrderedMap.Like.insert h k hpq
  | some hfirst => exact OrderedMap.Like.insert h k ⟨hfirst.1, hpq.2⟩

/-- Like pairs make like dictionaries. -/
theorem putAll_twice {ps qs : List (Value × Value)} (hps : List.Forall₂ (LikePairs w u v v') ps qs) {d e : Dict}
    (hd : d.Like (newPair w u v) e) :
    ∃ d' e', (putAll d ps).act v = .ok d' v ∧ (putAll e qs).act v' = .ok e' v' ∧ d'.Like (newPair w u v) e' := by
  induction hps generalizing d e with
  | nil => exact ⟨d, e, rfl, rfl, hd⟩
  | @cons p q ps qs hpq _ ih =>
    obtain ⟨hlike, k, hk, hk'⟩ := hpq
    obtain ⟨d', e', hd', he', hlike'⟩ := ih (put_like hd k hlike)
    refine ⟨d', e', ?_, ?_, hlike'⟩
    · rw [putAll, List.foldlM_cons, Run.bind_act, Run.bind_act, hk v (.refl v)]
      exact hd'
    · rw [putAll, List.foldlM_cons, Run.bind_act, Run.bind_act, hk' v' (.refl v')]
      exact he'

/-- Objects that stand for each other are filled alike. -/
theorem endsAlike_save {a b : Addr} (hab : newPair w u v a b) {o o' : Obj} (ho : MadeLike (newPair w u v) o o')
    {s s' : Build} (ht : Twins w u v v') (hs : s.Like (nodePair w u v) s') : EndsAlike w u Same
      ((lift (Run.save a o)).act s v) ((lift (Run.save b o')).act s' v') := by
  rw [lift_act, lift_act]
  exact .value (ht.modify hab fun _ _ h => ho.replacedBy h)
    (hs.mono (nodePair_mono (.modify v a (Obj.becomes_replacedBy o)))) rfl

theorem endsAlike_savePairs {a b : Addr} (hab : newPair w u v a b) {contents : Dict → Obj}
    (hcontents : ∀ d e, d.Like (newPair w u v) e → MadeLike (newPair w u v) (contents d) (contents e))
    {ps qs : List (Value × Value)} (hps : List.Forall₂ (LikePairs w u v v') ps qs)
    {s s' : Build} (ht : Twins w u v v') (hs : s.Like (nodePair w u v) s') : EndsAlike w u Same
      ((lift (putAll OrderedMap.empty ps >>= fun d => Run.save a (contents d))).act s v)
      ((lift (putAll OrderedMap.empty qs >>= fun d => Run.save b (contents d))).act s' v') := by
  obtain ⟨d, e, hd, he, hlike⟩ := putAll_twice hps (d := OrderedMap.empty) (e := OrderedMap.empty) .nil
  have hsave := endsAlike_save hab (hcontents d e hlike) ht hs
  rw [lift_act, lift_act] at hsave ⊢
  rw [Run.bind_act, Run.bind_act, hd, he]
  exact hsave

/-- A list of pairs gets another one. -/
theorem endsAlike_pushPair {a b : Addr} (hab : newPair w u v a b) {xs ys : List Value}
    (hxs : List.Forall₂ (Value.Like (newPair w u v)) xs ys) {s s' : Build} (ht : Twins w u v v')
    (hs : s.Like (nodePair w u v) s') : EndsAlike w u Same
      ((lift (do
        let t ← Run.tuple xs
        Run.pushItem a t)).act s v)
      ((lift (do
        let t ← Run.tuple ys
        Run.pushItem b t)).act s' v') := by
  have hgrows : v.Grows { v with store := v.store.push (.tuple none xs) } := .push v _
  have hpushed := ht.push (.tuple hxs)
  have htuple : newPair w u { v with store := v.store.push (.tuple none xs) } v.store.size v'.store.size :=
    ⟨ht.le_size, Nat.lt_of_lt_of_eq (Nat.lt_succ_self _) (Array.size_push _).symm, ht.sizes⟩
  rw [lift_act, lift_act]
  refine .value (hpushed.modify (newPair_mono hgrows a b hab) fun o o' h => ?_) (hs.mono (nodePair_mono ?_)) rfl
  · cases h with
    | list hitems =>
      refine .list ?_
      simp only [Array.toList_push]
      exact List.rel_append hitems (.cons (.object htuple) .nil)
    | tuple h => exact .tuple h
    | dict h => exact .dict h
    | set h => exact .set h
    | date d => exact .date d
    | datetime t => exact .datetime t
  · exact hgrows.trans (.modify _ a (Obj.becomes_changedBy fun o => by cases o <;> rfl))

/-- An entry of a list of pairs. -/
theorem endsAlike_entry {a b : Addr} (hab : newPair w u v a b) (item : NodeId) {s s' : Build} (ht : Twins w u v v')
    (hs : s.Like (nodePair w u v) s') : EndsAlike w u Same
      ((do
        match (← nodeOf item).content with
        | .mapping [(k, v)] =>
          let key ← make k
          let val ← make v
          lift (do
            let t ← Run.tuple [key, val]
            Run.pushItem a t)
        | _ => malformed : Builder PUnit).act s v)
      ((do
        match (← nodeOf item).content with
        | .mapping [(k, v)] =>
          let key ← make k
          let val ← make v
          lift (do
            let t ← Run.tuple [key, val]
            Run.pushItem b t)
        | _ => malformed : Builder PUnit).act s' v') := by
  rw [nodeOf_bind_act, nodeOf_bind_act, hs.graph]
  split
  case h_1 k val _ =>
    refine ((buildsAlike_make k s s' v v' ht hs).holding hab).bind fun key key' s₁ s₁' v₁ v₁' ht₁ hs₁ hkey => ?_
    have hval : EndsAlike w u
        (fun z _ x y => Value.Like (newPair w u z) key key' ∧ newPair w u z a b ∧ LikeValues w u z z x y) _ _ :=
      ((buildsAlike_make val s₁ s₁' v₁ v₁' ht₁ hs₁).holding hkey.1).mono fun _ _ _ _ hz _ h =>
        ⟨(like_of_nodes hkey.2).mono (newPair_mono hz), h⟩
    exact hval.bind fun x y s₂ s₂' v₂ v₂' ht₂ hs₂ h =>
      endsAlike_pushPair h.2.1 (.cons h.1 (.cons (like_of_nodes h.2.2) .nil)) ht₂ hs₂
  case h_2 => exact .fault ht

/-- **Collections that stand for each other are filled alike.** -/
theorem endsAlike_fill {p p' : Pending} {s s' : Build} (ht : Twins w u v v') (hs : s.Like (nodePair w u v) s')
    (hp : p.Like (nodePair w u v) p') : EndsAlike w u Same ((fill p).act s v) ((fill p').act s' v') := by
  cases hp with
  | @items a b id hab =>
    rw [fill, fill, nodeOf_bind_act, nodeOf_bind_act, hs.graph]
    split
    case h_1 items _ =>
      have hmake :=
        BuildsAlike.mapM (fun _ _ _ _ _ _ hz _ h => h.mono (nodePair_mono hz)) buildsAlike_make items s s' v v' ht hs
      refine (hmake.holding hab.1).bind fun xs ys _ _ z z' ht hs h => endsAlike_save h.1 (.list ?_) ht hs
      exact h.2.imp fun _ _ hxy => like_of_nodes hxy
    case h_2 => exact .fault ht
  | @pairs a b id hab =>
    exact ((buildsAlike_pairsOf id s s' v v' ht hs).holding hab.1).bind fun _ _ _ _ _ _ ht hs h =>
      endsAlike_savePairs h.1 (fun _ _ h => .dict h) h.2 ht hs
  | @members a b id hab =>
    refine ((buildsAlike_pairsOf id s s' v v' ht hs).holding hab.1).bind fun ps qs _ _ z z' ht hs h =>
      endsAlike_savePairs h.1 (fun _ _ h => .set h) ?_ ht hs
    rw [List.forall₂_map_left_iff, List.forall₂_map_right_iff]
    exact h.2.imp fun p q hpq => ⟨⟨hpq.1.1, .same rfl⟩, hpq.2⟩
  | @entries a b id hab =>
    rw [fill, fill, nodeOf_bind_act, nodeOf_bind_act, hs.graph]
    split
    · refine EndsAlike.forM (A := fun z _ id id' => id = id' ∧ newPair w u z a b) ?_ ?_ ht hs ?_
      · exact fun _ _ _ _ _ _ hz _ h => ⟨h.1, newPair_mono hz a b h.2⟩
      · rintro id _ s s' v v' ht hs ⟨rfl, hab⟩
        exact endsAlike_entry hab id ht hs
      · exact List.forall₂_same.2 fun _ _ => ⟨rfl, hab.1⟩
    · exact .fault ht

theorem endsAlike_fillAll (fuel : Nat) {s s' : Build} (ht : Twins w u v v') (hs : s.Like (nodePair w u v) s') :
    EndsAlike w u Same ((fillAll fuel).act s v) ((fillAll fuel).act s' v') := by
  induction fuel generalizing s s' v v' with
  | zero => exact .value ht hs rfl
  | succ fuel ih =>
    have hempty : s.pending.isEmpty = s'.pending.isEmpty := by
      rw [← Array.isEmpty_toList, isEmpty_eq_of_forall₂ hs.pending, Array.isEmpty_toList]
    rw [fillAll, get_bind_act, get_bind_act, hempty]
    split
    · exact .value ht hs rfl
    · rw [set_bind_act, set_bind_act]
      have hall (s : Build) : (s.pending.forM fill : Builder Unit) = s.pending.toList.forM fill :=
        List.forM_toArray s.pending.toList fill
      rw [hall, hall]
      have hfirst := EndsAlike.forM (fun _ _ _ _ _ _ hz _ h => h.mono (nodePair_mono hz))
        (fun p p' s s' v v' ht hs hp => endsAlike_fill ht hs hp) ht
        (⟨hs.graph, hs.made, .nil⟩ : Build.Like _ { s with pending := #[] } { s' with pending := #[] }) hs.pending
      exact hfirst.bind fun _ _ _ _ _ _ ht hs _ => ih ht hs

end Builder

/-- Reading ends alike: with like values that are new, with the same finding, or with the same error. -/
inductive ReadsAlike (w u : World) : Ending (Except Fault Value) → Ending (Except Fault Value) → Prop
  | value {x y : Value} {v v' : World} : Twins w u v v' → x.Like (newPair w u v) y →
      ReadsAlike w u (.ok (.ok x) v) (.ok (.ok y) v')
  | fault {fault : Fault} {v v' : World} : Twins w u v v' →
      ReadsAlike w u (.ok (.error fault) v) (.ok (.error fault) v')
  | raised {cls message : String} {v v' : World} : Twins w u v v' →
      ReadsAlike w u (.error (.raised v.store.size) (v.raising cls message))
        (.error (.raised v'.store.size) (v'.raising cls message))

theorem readsAlike_of_ends {x : Builder Value} {s : Build}
    (h : EndsAlike w u (LikeValues w u) (x.act s w) (x.act s u)) :
    ReadsAlike w u (((StateT.run x s).run >>= fun r => pure (r.map (·.1)) : Run (Except Fault Value)).act w)
      (((StateT.run x s).run >>= fun r => pure (r.map (·.1)) : Run (Except Fault Value)).act u) := by
  generalize hx : x.act s w = e, hy : x.act s u = e' at h
  have hrun : Run.act (ExceptT.run (StateT.run x s)) w = e := hx
  have hrun' : Run.act (ExceptT.run (StateT.run x s)) u = e' := hy
  rw [Run.bind_act, Run.bind_act, hrun, hrun']
  cases h with
  | value ht _ hxy => exact .value ht (Builder.like_of_nodes hxy)
  | fault ht => exact .fault ht
  | raised ht => exact .raised ht

/-- **A document is read alike in any two worlds.** What is read is new in both and holds the same, and nothing that was
there is changed. -/
theorem read_twice (text : String) (w u : World) : ReadsAlike w u ((read text).act w) ((read text).act u) := by
  rw [read]
  split
  case h_1 => exact .fault (.refl w u)
  case h_2 => exact .value (.refl w u) (.same rfl)
  case h_3 g root hgraph =>
    let fresh : Build := ⟨g, Array.replicate g.size none, #[]⟩
    have hfresh : fresh.Like (nodePair w u w) fresh := by
      refine ⟨rfl, ?_, .nil⟩
      simp only [fresh, Array.toList_replicate]
      exact List.forall₂_same.2 fun x hx => by
        cases List.eq_of_mem_replicate hx
        exact .none
    refine readsAlike_of_ends ((Builder.buildsAlike_make root _ _ _ _ (.refl w u) hfresh).bind
      fun x y s s' v v' ht hs hxy => ?_)
    have hfill : EndsAlike w u (fun z z' _ _ => LikeValues w u z z' x y) _ _ :=
      (Builder.endsAlike_fillAll (g.size + 2) ht hs).mono fun _ _ _ _ hz _ _ => hxy.mono (nodePair_mono hz)
    exact hfill.bind fun _ _ _ _ _ _ ht hs hxy => .value ht hs hxy

end Document

end Stepwise
