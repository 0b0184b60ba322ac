import Stepwise.Proofs.Messages
import Stepwise.Document.Read
/-!
# How reading a document ends

The nodes of a document become values, and there are three ways in which that ends: with a value, with the
finding that the text is no document, or with an error that the conversion of a scalar raises. `Meaningless`
says of a graph that it has such a scalar: its tag asks for something that its text is not. `read_ends` says
that there is no fourth way, and that no other part of the building raises anything. A value that is read is new,
and so is all that its dictionaries hold.
-/

namespace Stepwise.Document

/-! ## Scalars without a meaning -/

/-- The node at a place, as the builder sees it. -/
def nodeAt (g : Graph) (id : NodeId) : Node := g.getD id ⟨tagOf "null", .scalar "" none⟩

/-- What a tag of the common kinds asks for. -/
def Node.kind (n : Node) : String := if tagStart.isPrefixOf n.tag then (n.tag.drop tagStart.length).toString else ""

/-- The kinds whose conversions can fail, and how these convert a text. -/
def conversions : List (String × (String → Builder Value)) :=
  [("bool", Builder.boolOf), ("int", Builder.intOf), ("float", Builder.floatOf), ("timestamp", Builder.momentOf)]

/-- How a builder ends. -/
def Builder.act {α : Type} (x : Builder α) (s : Build) (w : World) : Ending (Except Fault (α × Build)) :=
  Run.act (ExceptT.run (x s)) w

/-- The text is one of a scalar. -/
def IsScalarText (g : Graph) (text : String) : Prop := ∃ id style, (nodeAt g id).content = .scalar text style

/-- The text of a node. A mapping has the text of a scalar that stands under one of its keys. -/
def IsTextOf (g : Graph) (id : NodeId) (text : String) : Prop :=
  (∃ style, (nodeAt g id).content = .scalar text style) ∨
    (∃ pairs, (nodeAt g id).content = .mapping pairs) ∧ IsScalarText g text

theorem IsTextOf.isScalarText {g : Graph} {id : NodeId} {text : String} (h : IsTextOf g id text) :
    IsScalarText g text :=
  h.elim (fun ⟨style, hscalar⟩ => ⟨id, style, hscalar⟩) And.right

/-- Some scalar of the graph has a text that its conversion does not take. -/
def Meaningless (g : Graph) : Prop :=
  ∃ id kind convert text, (kind, convert) ∈ conversions ∧ (nodeAt g id).kind = kind ∧ IsTextOf g id text ∧
    ∃ s w error left, (convert text).act s w = .error (.raised error) left

/-! ## Builders -/

namespace Builder

variable {α β : Type}

theorem bind_act (x : Builder α) (f : α → Builder β) (s : Build) (w : World) :
    (x >>= f).act s w = match x.act s w with
      | .ok (.ok (a, s')) w' => (f a).act s' w'
      | .ok (.error fault) w' => .ok (.error fault) w'
      | .error failure w' => .error failure w' := by
  change (Bind.bind (m := Run) (x s) (ExceptT.bindCont fun p => f p.1 p.2)).act w = _
  rw [Run.bind_act, act]
  change _ = match Run.act (x s) w with
    | .ok (.ok (a, s')) w' => (f a).act s' w'
    | .ok (.error fault) w' => .ok (.error fault) w'
    | .error failure w' => .error failure w'
  rcases Run.act (x s) w with ⟨fault | a, w'⟩ | ⟨failure, w'⟩ <;> rfl

theorem grows (x : Builder α) (s : Build) (w : World) : w.Grows (x.act s w).world := (ExceptT.run (x s)).grows w

theorem lift_act (act : Run α) (s : Build) (w : World) :
    (lift act).act s w = match act.act w with
      | .ok a w' => .ok (.ok (a, s)) w'
      | .error failure w' => .error failure w' := by
  change (Bind.bind (m := Run) (act >>= fun a => pure (.ok a)) (ExceptT.bindCont fun a => pure (a, s))).act w = _
  rw [Run.bind_act, Run.bind_act]
  cases act.act w <;> rfl

theorem get_bind_act (f : Build → Builder β) (s : Build) (w : World) : (get >>= f).act s w = (f s).act s w := by
  rw [bind_act]
  rfl

theorem modify_bind_act (g : Build → Build) (f : PUnit → Builder β) (s : Build) (w : World) :
    (modify g >>= f).act s w = (f ⟨⟩).act (g s) w := by
  rw [bind_act]
  rfl

theorem set_bind_act (s' : Build) (f : PUnit → Builder β) (s : Build) (w : World) :
    (set s' >>= f).act s w = (f ⟨⟩).act s' w := by
  rw [bind_act]
  rfl

theorem nodeOf_bind_act (id : NodeId) (f : Node → Builder β) (s : Build) (w : World) :
    (nodeOf id >>= f).act s w = (f (nodeAt s.graph id)).act s w := by
  rw [bind_act]
  rfl

end Builder

/-! ## What is made -/

/-- An object that a node can become. -/
def IsMade : Obj → Prop
  | .list _ | .dict .. | .set .. | .date _ | .datetime _ => True
  | _ => False

/-- A value that a node can become: one without parts, or an object of a few kinds that is new since a place of
the store. -/
inductive Made (base : Addr) (w : World) : Value → Prop
  | null : Made base w .null
  | bool (b : Bool) : Made base w (.bool b)
  | int (n : Int) : Made base w (.int n)
  | float (x : Float) : Made base w (.float x)
  | str (s : String) : Made base w (.str s)
  | bytes (b : List UInt8) : Made base w (.bytes b)
  | object {a : Addr} {o : Obj} : base ≤ a → w.store[a]? = some o → IsMade o → Made base w (.ref a)

theorem IsMade.becomes {o o' : Obj} (h : IsMade o) (hb : o.Becomes o') : IsMade o' := by
  have hkind := hb.kind_eq
  cases o with
  | list | dict | set | date | datetime => cases o' <;> first | trivial | cases hkind
  | _ => cases h

theorem Made.grows {base : Addr} {w w' : World} {v : Value} (h : Made base w v) (hw : w.Grows w') :
    Made base w' v := by
  cases h with
  | object hnew ho hmade =>
    obtain ⟨o', ho', hb⟩ := hw.becomes _ _ ho
    exact .object hnew ho' (hmade.becomes hb)
  | null => exact .null
  | bool b => exact .bool b
  | int n => exact .int n
  | float x => exact .float x
  | str s => exact .str s
  | bytes b => exact .bytes b

/-! ## What stays true -/

/-- A node of the builder is what it was, though it may count as a text, and a mapping may have other pairs. -/
structure Stems (n n₀ : Node) : Prop where
  tag : n.tag = n₀.tag ∨ n.tag = tagOf "str"
  content : n.content = n₀.content ∨ (∃ pairs, n.content = .mapping pairs) ∧ ∃ pairs, n₀.content = .mapping pairs

theorem Stems.refl (n : Node) : Stems n n := ⟨.inl rfl, .inl rfl⟩

/-- The dictionaries that are new hold what has been made. -/
structure Filled (base : Addr) (w : World) : Prop where
  le_size : base ≤ w.store.size
  holds (a : Addr) (f : DictFlavour) (d : Dict) : base ≤ a → w.store[a]? = some (.dict f d) →
    ∀ entry ∈ d.entries, Made base w entry.2.2

namespace Filled

variable {base : Addr} {w : World}

/-- A new object holds nothing yet. -/
theorem push (h : Filled base w) {o : Obj} (hempty : ∀ f d, o = .dict f d → d.entries = []) :
    Filled base { w with store := w.store.push o } := by
  refine ⟨Nat.le_trans h.le_size (by rw [Array.size_push]; exact Nat.le_succ _), fun a f d ha hd entry he => ?_⟩
  rw [Array.getElem?_push] at hd
  split at hd
  · rw [hempty f d (Option.some.inj hd)] at he
    cases he
  · exact (h.holds a f d ha hd entry he).grows (.push w o)

/-- An object is changed, and what it holds was there or has been made. -/
theorem modify (h : Filled base w) (a : Addr) {f : Obj → Obj} (hf : ∀ o : Obj, o.Becomes (f o))
    (hholds : ∀ o fl d, f o = .dict fl d → o = .dict fl d ∨ ∀ entry ∈ d.entries, Made base w entry.2.2) :
    Filled base { w with store := w.store.modify a f } := by
  refine ⟨by rw [Array.size_modify]; exact h.le_size, fun b fl d hb hd entry he => ?_⟩
  refine Made.grows (w := w) ?_ (.modify w a hf)
  rw [Array.getElem?_modify] at hd
  split at hd
  · obtain ⟨o, ho, hchanged⟩ := Option.map_eq_some_iff.1 hd
    obtain rfl | hmade := hholds o fl d hchanged
    · exact h.holds b fl d hb ho entry he
    · exact hmade entry he
  · exact h.holds b fl d hb hd entry he

/-- An object is put in the place of another one. -/
theorem save (h : Filled base w) (a : Addr) (new : Obj)
    (hnew : ∀ fl d, new = .dict fl d → ∀ entry ∈ d.entries, Made base w entry.2.2) :
    Filled base { w with store := w.store.modify a (Obj.replacedBy new) } := by
  refine h.modify a (Obj.becomes_replacedBy new) fun o fl d hd => ?_
  rw [Obj.replacedBy] at hd
  split at hd
  · exact .inr (hnew fl d hd)
  · exact .inl hd

end Filled

/-- The nodes stem from a graph, and what has been made is what nodes become. -/
structure Inv (g : Graph) (base : Addr) (s : Build) (w : World) : Prop where
  stems (id : NodeId) : Stems (nodeAt s.graph id) (nodeAt g id)
  made (id : NodeId) (v : Value) : s.made.getD id none = some v → Made base w v
  filled : Filled base w

theorem Inv.grows {g : Graph} {base : Addr} {s : Build} {w w' : World} (h : Inv g base s w) (hw : w.Grows w')
    (hfilled : Filled base w') : Inv g base s w' :=
  ⟨h.stems, fun id v hv => (h.made id v hv).grows hw, hfilled⟩

/-- How building ends: with a result, with the finding that the text is no document, or with an error that the
conversion of a scalar raises. -/
inductive Ends (g : Graph) (base : Addr) {α : Type} (P : α → World → Prop) : Ending (Except Fault (α × Build)) → Prop
  | value {a : α} {s : Build} {w : World} : Inv g base s w → P a w → Ends g base P (.ok (.ok (a, s)) w)
  | malformed {w : World} : Ends g base P (.ok (.error .malformed) w)
  | raised {error : Addr} {w : World} {cls : String} : w.errorClass? error = some cls →
      cls ≠ Classes.validationError → Meaningless g → Ends g base P (.error (.raised error) w)

namespace Ends

variable {α β : Type} {g : Graph} {base : Addr} {P : α → World → Prop} {Q : β → World → Prop} {x : Builder α}
  {f : α → Builder β} {s : Build} {w : World}

theorem bind (hx : Ends g base P (x.act s w))
    (hf : ∀ a s' w', Inv g base s' w' → P a w' → Ends g base Q ((f a).act s' w')) : Ends g base Q ((x >>= f).act s w) := by
  rw [Builder.bind_act]
  generalize x.act s w = ending at hx
  cases hx with
  | value hinv hp => exact hf _ _ _ hinv hp
  | malformed => exact .malformed
  | raised hclass hcls hg => exact .raised hclass hcls hg

theorem mono {P' : α → World → Prop} (hx : Ends g base P (x.act s w)) (h : ∀ a w', w.Grows w' → P a w' → P' a w') :
    Ends g base P' (x.act s w) := by
  have hgrows := x.grows s w
  generalize x.act s w = ending at hx hgrows
  cases hx with
  | value hinv hp => exact .value hinv (h _ _ hgrows hp)
  | malformed => exact .malformed
  | raised hclass hcls hg => exact .raised hclass hcls hg

theorem lift {act : Run α} {a : α} {w' : World} (hinv : Inv g base s w) (h : act.act w = .ok a w')
    (hfilled : Filled base w') (hp : P a w') : Ends g base P ((Builder.lift act).act s w) := by
  have hgrows := act.grows w
  rw [h] at hgrows
  rw [Builder.lift_act, h]
  exact .value (hinv.grows hgrows hfilled) hp

end Ends

/-! ## Conversions -/

/-- The builder ends with a result and builds nothing, or it raises an error that is not that of a recipe. -/
def Converts (base : Addr) {α : Type} (P : α → World → Prop) (x : Builder α) : Prop := ∀ s w, Filled base w →
  (∃ a w', x.act s w = .ok (.ok (a, s)) w' ∧ Filled base w' ∧ P a w') ∨
  ∃ error left cls, x.act s w = .error (.raised error) left ∧ left.errorClass? error = some cls ∧
    cls ≠ Classes.validationError

namespace Converts

variable {α β : Type} {base : Addr} {P : α → World → Prop} {Q : β → World → Prop} {x : Builder α} {f : α → Builder β}

theorem pure {a : α} (h : ∀ w, P a w) : Converts base P (Pure.pure a) := fun _ w hw => .inl ⟨a, w, rfl, hw, h w⟩

theorem bind (hx : Converts base P x) (hf : ∀ a, Converts base Q (f a)) : Converts base Q (x >>= f) := by
  intro s w hw
  rw [Builder.bind_act]
  obtain ⟨a, w', hend, hw', -⟩ | ⟨error, left, cls, hend, hclass, hcls⟩ := hx s w hw
  · rw [hend]
    exact hf a s w' hw'
  · rw [hend]
    exact .inr ⟨error, left, cls, rfl, hclass, hcls⟩

theorem ite {c : Prop} [Decidable c] {y : Builder α} (hx : Converts base P x) (hy : Converts base P y) :
    Converts base P (if c then x else y) := by
  split
  · exact hx
  · exact hy

theorem raise {cls : String} (args : List Value) (hcls : cls ≠ Classes.validationError) :
    Converts base P (Builder.lift (Run.raiseWith cls args)) := by
  intro s w _
  obtain ⟨error, left, hend, hclass⟩ := Run.raiseWith_act (α := α) cls args [] w
  rw [Builder.lift_act, hend]
  exact .inr ⟨error, left, cls, rfl, hclass, hcls⟩

theorem mapM {g : α → Builder β} (hg : ∀ a, Converts base (fun _ _ => True) (g a)) (l : List α) :
    Converts base (fun _ _ => True) (l.mapM g) := by
  induction l with
  | nil => exact pure fun _ => trivial
  | cons a l ih =>
    rw [List.mapM_cons]
    exact (hg a).bind fun b => ih.bind fun bs => pure fun _ => trivial

end Converts

namespace Builder

variable {base : Addr}

theorem converts_invalidInt (radix : Nat) (digits : List Char) : Converts base (fun _ _ => True) (invalidInt radix digits) :=
  .raise _ (by decide)

theorem converts_intIn (radix : Nat) (digits : List Char) : Converts base (fun _ _ => True) (intIn radix digits) := by
  unfold intIn
  split
  · split
    · exact .raise _ (by decide)
    · exact .pure fun _ => trivial
  · exact converts_invalidInt radix digits

theorem converts_intOf (text : String) : Converts base (fun v w => Made base w v) (intOf text) := by
  have hint (n : Int) : Converts base (fun v w => Made base w v) (pure (.int n)) := .pure fun _ => .int n
  unfold intOf
  dsimp only
  split
  case h_1 => exact .raise _ (by decide)
  case h_2 => exact hint 0
  case h_3 => exact (converts_intIn _ _).bind fun n => hint _
  case h_4 => exact (converts_intIn _ _).bind fun n => hint _
  case h_5 => exact (converts_intIn _ _).bind fun n => hint _
  case h_6 =>
    refine .ite ?_ ?_
    · exact (Converts.mapM (converts_intIn 10) _).bind fun parts => hint _
    · exact (converts_intIn _ _).bind fun n => hint _

theorem converts_floatIn (digits : List Char) : Converts base (fun _ _ => True) (floatIn digits) := by
  unfold floatIn
  split
  · exact .pure fun _ => trivial
  · exact .raise _ (by decide)

theorem converts_floatOf (text : String) : Converts base (fun v w => Made base w v) (floatOf text) := by
  have hfloat (x : Float) : Converts base (fun v w => Made base w v) (pure (.float x)) := .pure fun _ => .float x
  unfold floatOf
  dsimp only
  refine .ite (.raise _ (by decide)) (.ite (hfloat _) (.ite (hfloat _) (.ite ?_ ?_)))
  · exact (Converts.mapM converts_floatIn _).bind fun parts => hfloat _
  · exact (converts_floatIn _).bind fun x => hfloat _

theorem converts_boolOf (text : String) : Converts base (fun v w => Made base w v) (boolOf text) := by
  unfold boolOf
  dsimp only
  split
  · exact .pure fun _ => .bool true
  · split
    · exact .pure fun _ => .bool false
    · exact .raise _ (by decide)

theorem converts_new {o : Obj} (h : IsMade o) (hempty : ∀ f d, o = .dict f d → d.entries = []) :
    Converts base (fun v w => Made base w v) (lift (Run.new o)) := by
  intro s w hw
  refine .inl ⟨.ref w.store.size, { w with store := w.store.push o }, ?_, hw.push hempty, ?_⟩
  · rw [lift_act]
    rfl
  · exact .object hw.le_size Array.getElem?_push_size h

/-- A day, or a moment of a day with an offset, if both are in the calendar. -/
theorem converts_moment (day : Except Calendar.Fault Calendar.Date) (clock : Except Calendar.Fault Calendar.Time)
    (offset : Option Calendar.Offset) : Converts base (fun v w => Made base w v) (match day, clock with
      | .ok d, .ok c => lift (Run.new (.datetime ⟨d, c, offset⟩))
      | .error f, _ => faultOf f
      | _, .error f => faultOf f) := by
  cases day with
  | error f => exact .raise _ (by decide)
  | ok d =>
    cases clock with
    | error f => exact .raise _ (by decide)
    | ok c => exact converts_new trivial (fun _ _ h => nomatch h)

theorem converts_momentOf (text : String) : Converts base (fun v w => Made base w v) (momentOf text) := by
  unfold momentOf
  dsimp only
  split
  · exact .raise _ (by decide)
  · split
    · split
      · exact converts_new trivial (fun _ _ h => nomatch h)
      · exact .raise _ (by decide)
    · split
      · split
        · refine Converts.bind (P := fun _ _ => True) (.raise _ (by decide)) fun _ => ?_
          exact converts_moment _ _ _
        · exact converts_moment _ _ _
      · exact converts_moment _ _ _

end Builder

/-- **A conversion gives a value or raises an error.** -/
theorem converts_of_mem {base : Addr} {kind : String} {convert : String → Builder Value} (h : (kind, convert) ∈ conversions)
    (text : String) : Converts base (fun v w => Made base w v) (convert text) := by
  simp only [conversions, List.mem_cons, List.not_mem_nil, or_false, Prod.mk.injEq] at h
  obtain ⟨-, rfl⟩ | ⟨-, rfl⟩ | ⟨-, rfl⟩ | ⟨-, rfl⟩ := h
  · exact Builder.converts_boolOf text
  · exact Builder.converts_intOf text
  · exact Builder.converts_floatOf text
  · exact Builder.converts_momentOf text

/-! ## Scalars -/

namespace Builder

variable {g : Graph} {base : Addr} {s : Build} {w : World}

theorem ends_underValueKey {read : NodeId → Builder String}
    (hread : ∀ id s w, Inv g base s w → Ends g base (fun text _ => IsScalarText g text) ((read id).act s w))
    (pairs : List (NodeId × NodeId)) (hinv : Inv g base s w) :
    Ends g base (fun text _ => IsScalarText g text) ((underValueKey read pairs).act s w) := by
  induction pairs with
  | nil => exact .malformed
  | cons pair rest ih =>
    rw [underValueKey, nodeOf_bind_act]
    split
    · exact hread _ _ _ hinv
    · exact ih

theorem ends_textOf (fuel : Nat) (id : NodeId) (hinv : Inv g base s w) :
    Ends g base (fun text _ => IsTextOf g id text) ((textOf fuel id).act s w) := by
  induction fuel generalizing id s w with
  | zero => exact .malformed
  | succ fuel ih =>
    have hstems := (hinv.stems id).content
    rw [textOf, nodeOf_bind_act]
    split
    case h_1 text style hcontent =>
      refine .value hinv (.inl ⟨style, ?_⟩)
      obtain heq | ⟨⟨pairs, hpairs⟩, -⟩ := hstems
      · exact heq.symm.trans hcontent
      · cases hcontent.symm.trans hpairs
    case h_2 pairs hcontent =>
      have hmapping : ∃ pairs, (nodeAt g id).content = .mapping pairs := by
        obtain heq | ⟨-, hpairs⟩ := hstems
        · exact ⟨pairs, heq.symm.trans hcontent⟩
        · exact hpairs
      refine (ends_underValueKey (fun under s w h => ?_) pairs hinv).mono fun text _ _ htext => .inr ⟨hmapping, htext⟩
      exact (ih under h).mono fun _ _ _ htext => htext.isScalarText
    case h_3 => exact .malformed

/-- **A conversion that fails has met a scalar without a meaning.** -/
theorem ends_convert {kind text : String} {convert : String → Builder Value} {id : NodeId}
    (hconvert : (kind, convert) ∈ conversions) (hkind : (nodeAt g id).kind = kind) (htext : IsTextOf g id text)
    (hinv : Inv g base s w) : Ends g base (fun v w => Made base w v) ((convert text).act s w) := by
  have hgrows := (convert text).grows s w
  obtain ⟨v, w', hend, hfilled, hmade⟩ | ⟨error, left, cls, hend, hclass, hcls⟩ :=
    converts_of_mem hconvert text s w hinv.filled
  · rw [hend] at hgrows ⊢
    exact .value (hinv.grows hgrows hfilled) hmade
  · rw [hend]
    exact .raised hclass hcls ⟨id, kind, convert, text, hconvert, hkind, htext, s, w, error, left, hend⟩

/-- A node counts as one of its own kind, or as a text. -/
theorem kind_of_stems {n n₀ : Node} {kind : String} (h : Stems n n₀) (hn : n.kind = kind) (hstr : kind ≠ "str") :
    n₀.kind = kind := by
  obtain htag | htag := h.tag
  · rw [← hn, Node.kind, Node.kind, htag]
  · refine absurd (hn.symm.trans ?_) hstr
    rw [Node.kind, htag]
    decide +kernel

/-- What has been made for a node is kept for it. -/
theorem ends_keep (id : NodeId) {v : Value} (hmade : Made base w v) (hinv : Inv g base s w) :
    Ends g base (fun v w => Made base w v) ((do
      modify fun s => { s with made := s.made.setIfInBounds id (some v) }
      pure v : Builder Value).act s w) := by
  rw [modify_bind_act]
  refine .value ⟨hinv.stems, fun other u hu => ?_, hinv.filled⟩ hmade
  dsimp only at hu
  rw [Array.getD_eq_getD_getElem?, Array.getElem?_setIfInBounds] at hu
  split at hu
  · split at hu
    · cases hu
      exact hmade
    · cases hu
  · exact hinv.made other u (by rw [Array.getD_eq_getD_getElem?, hu])

/-- A collection is made empty, and filled later. -/
theorem ends_deferred {o : Obj} (ho : IsMade o) (hempty : ∀ f d, o = .dict f d → d.entries = []) (p : Addr → Pending)
    (hinv : Inv g base s w) :
    Ends g base (fun v w => Made base w v) ((do
      let a ← lift (Run.alloc o)
      modify fun s => { s with pending := s.pending.push (p a) }
      pure (.ref a) : Builder Value).act s w) := by
  have halloc : (Run.alloc o).act w = .ok w.store.size { w with store := w.store.push o } := rfl
  refine (Ends.lift (P := fun a w => base ≤ a ∧ w.store[a]? = some o) hinv halloc (hinv.filled.push hempty)
    ⟨hinv.filled.le_size, Array.getElem?_push_size⟩).bind fun a s' w' hinv' ha => ?_
  rw [modify_bind_act]
  exact .value ⟨hinv'.stems, hinv'.made, hinv'.filled⟩ (.object ha.1 ha.2 ho)

/-- **Making a node ends with a value, or a scalar has no meaning.** -/
theorem ends_make (id : NodeId) (hinv : Inv g base s w) : Ends g base (fun v w => Made base w v) ((make id).act s w) := by
  have htext : Ends g base (fun text _ => IsTextOf g id text) ((textOf (s.graph.size + 1) id).act s w) :=
    ends_textOf _ id hinv
  have hconvert {kind : String} {convert : String → Builder Value} (hmem : (kind, convert) ∈ conversions)
      (hkind : (nodeAt s.graph id).kind = kind) (hstr : kind ≠ "str") :
      Ends g base (fun v w => Made base w v) ((do
        let text ← textOf (s.graph.size + 1) id
        let v ← convert text
        modify fun s => { s with made := s.made.setIfInBounds id (some v) }
        pure v : Builder Value).act s w) := by
    have hnode : (nodeAt g id).kind = kind := kind_of_stems (hinv.stems id) hkind hstr
    exact htext.bind fun text s' w' hinv' ht => (ends_convert hmem hnode ht hinv').bind fun v s'' w'' hinv'' hmade =>
      ends_keep id hmade hinv''
  -- no collection is filled here, so that nothing of what it holds can fail yet
  have hdeferred {o : Obj} (ho : IsMade o) (hempty : ∀ f d, o = .dict f d → d.entries = []) (p : Addr → Pending) :=
    (ends_deferred ho hempty p hinv).bind fun v s' w' hinv' hmade =>
    ends_keep id hmade hinv'
  rw [make, get_bind_act]
  split
  case h_1 v hv => exact .value hinv (hinv.made id v hv)
  case h_2 =>
    rw [nodeOf_bind_act]
    dsimp only
    rw [get_bind_act]
    split
    case h_1 => exact htext.bind fun _ _ _ hinv' _ => ends_keep id .null hinv'
    case h_2 hkind => exact hconvert (by simp [conversions]) hkind (by decide)
    case h_3 hkind => exact hconvert (by simp [conversions]) hkind (by decide)
    case h_4 hkind => exact hconvert (by simp [conversions]) hkind (by decide)
    case h_5 =>
      refine htext.bind fun text s' w' hinv' _ => ?_
      split
      · split
        · exact ends_keep id (.bytes _) hinv'
        · exact .malformed
      · exact .malformed
    case h_6 hkind =>
      refine htext.bind fun _ s' w' hinv' _ => ?_
      split
      case h_1 text style hcontent =>
        have hscalar : IsTextOf g id text := by
          obtain heq | ⟨⟨pairs, hpairs⟩, -⟩ := (hinv.stems id).content
          · exact .inl ⟨style, heq.symm.trans hcontent⟩
          · cases hcontent.symm.trans hpairs
        have hnode : (nodeAt g id).kind = "timestamp" := kind_of_stems (hinv.stems id) hkind (by decide)
        have hmem : ("timestamp", momentOf) ∈ conversions := by simp [conversions]
        exact (ends_convert hmem hnode hscalar hinv').bind fun v _ _ hinv'' hmade => ends_keep id hmade hinv''
      case h_2 => exact .malformed
    case h_7 => exact hdeferred (o := .list #[]) trivial (fun _ _ h => nomatch h) _
    case h_8 => exact hdeferred (o := .list #[]) trivial (fun _ _ h => nomatch h) _
    case h_9 => exact hdeferred (o := .set false OrderedMap.empty) trivial (fun _ _ h => nomatch h) _
    case h_10 => exact htext.bind fun text _ _ hinv' _ => ends_keep id (.str text) hinv'
    case h_11 => exact hdeferred (o := .list #[]) trivial (fun _ _ h => nomatch h) _
    case h_12 => exact hdeferred (o := .dict .plain OrderedMap.empty) trivial (fun _ _ h => by cases h; rfl) _
    case h_13 => exact .malformed

/-! ## Collections -/

/-- A node is changed within what it stems from. -/
theorem inv_modify {f : Node → Node} {id : NodeId} (hinv : Inv g base s w)
    (hf : Stems (f (nodeAt s.graph id)) (nodeAt g id)) : Inv g base { s with graph := s.graph.modify id f } w := by
  refine ⟨fun other => ?_, hinv.made, hinv.filled⟩
  have hother := hinv.stems other
  rw [nodeAt, Array.getD_eq_getD_getElem?] at hother ⊢
  rw [nodeAt, Array.getD_eq_getD_getElem?] at hf
  dsimp only
  rw [Array.getElem?_modify]
  split
  case isTrue heq =>
    subst heq
    cases hnode : s.graph[id]? with
    | none =>
      rw [hnode] at hother
      exact hother
    | some n =>
      rw [hnode] at hf
      exact hf
  case isFalse => exact hother

/-- Only a mapping has pairs to merge. -/
def IsMapping (g : Graph) (id : NodeId) : Prop := ∃ pairs, (nodeAt g id).content = .mapping pairs

theorem isMapping_of_inv {id : NodeId} {pairs : List (NodeId × NodeId)} (hinv : Inv g base s w)
    (h : (nodeAt s.graph id).content = .mapping pairs) : IsMapping g id := by
  obtain heq | ⟨-, hmapping⟩ := (hinv.stems id).content
  · exact ⟨pairs, heq.symm.trans h⟩
  · exact hmapping

/-- The pairs of a mapping may be replaced. -/
theorem inv_setPairs {id : NodeId} (pairs : List (NodeId × NodeId)) (hinv : Inv g base s w) (hid : IsMapping g id) :
    Inv g base { s with graph := s.graph.modify id fun n => { n with content := .mapping pairs } } w :=
  inv_modify hinv ⟨(hinv.stems id).tag, .inr ⟨⟨pairs, rfl⟩, hid⟩⟩

theorem inv_setText {id : NodeId} (hinv : Inv g base s w) :
    Inv g base { s with graph := s.graph.modify id fun n => { n with tag := tagOf "str" } } w :=
  inv_modify hinv ⟨.inr rfl, (hinv.stems id).content⟩

/-- The builder ends well wherever it begins. -/
def Builds (g : Graph) (base : Addr) {α : Type} (P : α → World → Prop) (x : Builder α) : Prop :=
  ∀ s w, Inv g base s w → Ends g base P (x.act s w)

theorem Builds.mapM {α β : Type} {P : β → World → Prop} {f : α → Builder β}
    (hgrows : ∀ b (w w' : World), w.Grows w' → P b w → P b w') (hf : ∀ a, Builds g base P (f a)) (l : List α) :
    Builds g base (fun bs w => ∀ b ∈ bs, P b w) (l.mapM f) := by
  intro s w hinv
  induction l generalizing s w with
  | nil => exact .value hinv (List.forall_mem_nil _)
  | cons a l ih =>
    rw [List.mapM_cons]
    refine (hf a s w hinv).bind fun b s' w' hinv' hb => ?_
    have hrest : Ends g base (fun bs w => P b w ∧ ∀ b ∈ bs, P b w) ((l.mapM f).act s' w') :=
      (ih s' w' hinv').mono fun bs w'' hw hbs => ⟨hgrows b w' w'' hw hb, hbs⟩
    exact hrest.bind fun bs s'' w'' hinv'' hall => .value hinv'' (List.forall_mem_cons.2 hall)

theorem Builds.forM {α : Type} {f : α → Builder Unit} (hf : ∀ a, Builds g base (fun _ _ => True) (f a)) (l : List α) :
    Builds g base (fun _ _ => True) (l.forM f) := by
  intro s w hinv
  induction l generalizing s w with
  | nil => exact .value hinv trivial
  | cons a l ih => exact (hf a s w hinv).bind fun _ s' w' hinv' _ => ih s' w' hinv'

theorem builds_mergedPairs {flatten : NodeId → Builder Unit} (hflatten : ∀ id, Builds g base (fun _ _ => True) (flatten id))
    (id : NodeId) : Builds g base (fun _ _ => True) (mergedPairs flatten id) := by
  intro s w hinv
  rw [mergedPairs, nodeOf_bind_act]
  split
  · refine (hflatten id s w hinv).bind fun _ s' w' hinv' _ => ?_
    rw [nodeOf_bind_act]
    split
    · exact .value hinv' trivial
    · exact .malformed
  · exact .malformed

theorem builds_mergePairs {flatten : NodeId → Builder Unit} (hflatten : ∀ id, Builds g base (fun _ _ => True) (flatten id))
    {id : NodeId} (hid : IsMapping g id) (pairs kept merged : List (NodeId × NodeId)) :
    Builds g base (fun _ _ => True) (mergePairs flatten id pairs kept merged) := by
  -- each pair is taken out, or its key becomes a text; both keep every node within what it stems from
  intro s w hinv
  induction pairs generalizing kept merged s w with
  | nil => exact .value hinv trivial
  | cons pair rest ih =>
    obtain ⟨k, v⟩ := pair
    rw [mergePairs, nodeOf_bind_act]
    split
    · rw [modify_bind_act]
      have hinv' := inv_setPairs (kept.reverse ++ rest) hinv hid
      rw [nodeOf_bind_act]
      split
      · exact (builds_mergedPairs hflatten v _ _ hinv').bind fun _ _ _ h _ => ih _ _ _ _ h
      · refine (Builds.mapM (fun _ _ _ _ h => h) (builds_mergedPairs hflatten) _ _ _ hinv').bind fun _ _ _ h _ => ?_
        exact ih _ _ _ _ h
      · exact .malformed
    · split
      · rw [modify_bind_act]
        exact ih _ _ _ _ (inv_setText hinv)
      · exact ih _ _ _ _ hinv

theorem builds_flatten (fuel : Nat) (id : NodeId) : Builds g base (fun _ _ => True) (flatten fuel id) := by
  induction fuel generalizing id with
  | zero => exact fun _ _ _ => .malformed
  | succ fuel ih =>
    intro s w hinv
    rw [flatten, nodeOf_bind_act]
    split
    case h_1 pairs hcontent =>
      have hid := isMapping_of_inv hinv hcontent
      refine (builds_mergePairs ih hid pairs [] [] s w hinv).bind fun r s' w' hinv' _ => ?_
      exact .value (inv_setPairs _ hinv' hid) trivial
    case h_2 => exact .value hinv trivial

/-- The collections, which cannot be keys. -/
def IsCollection : Obj → Prop
  | .list _ | .dict .. | .set .. => True
  | _ => False

/-- An object that a node can become keeps what it is, if it is no collection. -/
theorem isFixed_of_made {o : Obj} (hmade : IsMade o) (hplain : ¬ IsCollection o) : o.isFixed = true := by
  cases o with
  | date | datetime => rfl
  | list | dict | set => exact absurd trivial hplain
  | _ => exact absurd hmade id

/-- What is no collection has the same key wherever it stands. -/
theorem key_act_of_get {o : Obj} (hmade : IsMade o) (hplain : ¬ IsCollection o) :
    ∃ k, ∀ (a : Addr) (w : World), w.store[a]? = some o → (Value.key (.ref a)).act w = .ok k w := by
  have hdepth : displayDepth = 899 + 1 := rfl
  cases o with
  | date d =>
    refine ⟨[.moment 0 d.number], fun a w h => ?_⟩
    rw [Value.key, hdepth, Value.keyAt, Run.bind_act, Run.load_act h]
    rfl
  | datetime t =>
    refine ⟨[.moment (if t.offset.isSome then 2 else 1) t.moment], fun a w h => ?_⟩
    rw [Value.key, hdepth, Value.keyAt, Run.bind_act, Run.load_act h]
    rfl
  | list | dict | set => exact absurd trivial hplain
  | _ => exact absurd hmade id

/-- What is made and is no collection has a place in a dictionary. -/
theorem exists_hasKey {v : Value} (hmade : Made base w v)
    (hplain : ∀ a o, v = .ref a → w.store[a]? = some o → ¬ IsCollection o) : ∃ k, w.HasKey v k := by
  cases hmade with
  | null => exact ⟨_, fun _ _ => rfl⟩
  | bool b => exact ⟨_, fun _ _ => rfl⟩
  | int n => exact ⟨_, fun _ _ => rfl⟩
  | float x => exact ⟨_, fun _ _ => rfl⟩
  | str s => exact ⟨_, fun _ _ => rfl⟩
  | bytes b => exact ⟨_, fun _ _ => rfl⟩
  | @object a o _ ho hmade =>
    have hnot := hplain a o rfl ho
    obtain ⟨k, hk⟩ := key_act_of_get hmade hnot
    exact ⟨k, fun w' hw => hk a w' (hw.fixed ho (isFixed_of_made hmade hnot))⟩

theorem object?_act (v : Value) (w : World) : ∃ r, (Run.object? v).act w = .ok r w ∧
    ∀ a o, v = .ref a → w.store[a]? = some o → r = some o := by
  cases v with
  | ref a =>
    refine ⟨_, rfl, fun b o hb ho => ?_⟩
    cases hb
    rw [Array.getD_eq_getD_getElem?, ho, Option.getD_some]
  | _ => exact ⟨none, rfl, fun _ _ h => (nomatch h)⟩

/-- A pair of a mapping has a key that can be one. -/
theorem builds_pairOf (pair : NodeId × NodeId) :
    Builds g base (fun p w => (∃ k, w.HasKey p.1 k) ∧ Made base w p.2) (pairOf pair) := by
  intro s w hinv
  rw [pairOf]
  refine (ends_make pair.1 hinv).bind fun key s' w' hinv' hmade => ?_
  obtain ⟨r, hr, hobject⟩ := object?_act key w'
  refine (Ends.lift (P := fun r' v => w' = v ∧ r = r') hinv' hr hinv'.filled ⟨rfl, rfl⟩).bind ?_
  rintro _ s'' _ hinv'' ⟨rfl, rfl⟩
  dsimp only
  split
  · exact .malformed
  · exact .malformed
  · exact .malformed
  case h_4 hlist hdict hset =>
    obtain ⟨k, hk⟩ : ∃ k, w'.HasKey key k := by
      refine exists_hasKey hmade fun a o ha ho hcollection => ?_
      have hsome := hobject a o ha ho
      cases o with
      | list xs => exact hlist xs hsome
      | dict f d => exact hdict f d hsome
      | set b d => exact hset b d hsome
      | _ => exact hcollection
    have hvalue : Ends g base (fun v w => w.HasKey key k ∧ Made base w v) ((make pair.2).act s'' w') :=
      (ends_make pair.2 hinv'').mono fun _ _ hw hmade => ⟨hk.grows hw, hmade⟩
    exact hvalue.bind fun v _ _ hinv' ⟨hkey, hmade⟩ => .value hinv' ⟨⟨k, hkey⟩, hmade⟩

theorem builds_pairsOf (id : NodeId) :
    Builds g base (fun ps w => ∀ p ∈ ps, (∃ k, w.HasKey p.1 k) ∧ Made base w p.2) (pairsOf id) := by
  intro s w hinv
  rw [pairsOf, get_bind_act]
  refine (builds_flatten _ id s w hinv).bind fun _ s' w' hinv' _ => ?_
  rw [nodeOf_bind_act]
  split
  · refine Builds.mapM (fun p _ _ hw hp => ?_) builds_pairOf _ s' w' hinv'
    obtain ⟨⟨k, hk⟩, hmade⟩ := hp
    exact ⟨⟨k, hk.grows hw⟩, hmade.grows hw⟩
  · exact .malformed

/-- A value that is written into a dictionary is the only one that is new in it. -/
theorem eq_or_mem_of_mem_put {d : Dict} {k : Key} {spelling v : Value} {entry : Key × Value × Value}
    (h : entry ∈ (d.put k spelling v).entries) : entry.2.2 = v ∨ entry ∈ d.entries := by
  rw [Dict.put] at h
  split at h
  · exact (OrderedMap.eq_or_mem_of_mem_insert h).imp_left (congrArg Prod.snd)
  · exact (OrderedMap.eq_or_mem_of_mem_insert h).imp_left (congrArg Prod.snd)

/-- Pairs whose keys have their places make a dictionary, with what stood there before. -/
theorem putAll_act {ps : List (Value × Value)} {P : Value → Prop} (hps : ∀ p ∈ ps, (∃ k, w.HasKey p.1 k) ∧ P p.2)
    {d : Dict} (hd : ∀ entry ∈ d.entries, P entry.2.2) :
    ∃ d', (putAll d ps).act w = .ok d' w ∧ ∀ entry ∈ d'.entries, P entry.2.2 := by
  induction ps generalizing d with
  | nil => exact ⟨d, rfl, hd⟩
  | cons p ps ih =>
    obtain ⟨⟨⟨k, hk⟩, hp⟩, hrest⟩ := List.forall_mem_cons.1 hps
    have hput : ∀ entry ∈ (d.put k p.1 p.2).entries, P entry.2.2 := fun entry he =>
      (eq_or_mem_of_mem_put he).elim (fun heq => heq ▸ hp) (hd entry)
    obtain ⟨d', hd', hholds⟩ := ih hrest hput
    refine ⟨d', ?_, hholds⟩
    rw [putAll, List.foldlM_cons, Run.bind_act, Run.bind_act, hk w (.refl w)]
    exact hd'

/-- The pairs become the contents of an object. -/
theorem ends_save {ps : List (Value × Value)} (hps : ∀ p ∈ ps, (∃ k, w.HasKey p.1 k) ∧ Made base w p.2)
    (contents : Dict → Obj) (hcontents : ∀ d fl d', contents d = .dict fl d' → d' = d)
    (a : Addr) (hinv : Inv g base s w) : Ends g base (fun _ _ => True)
      ((lift (putAll OrderedMap.empty ps >>= fun d => Run.save a (contents d))).act s w) := by
  obtain ⟨d, hd, hholds⟩ := putAll_act hps (d := OrderedMap.empty) (List.forall_mem_nil _)
  have hsave : (putAll OrderedMap.empty ps >>= fun d => Run.save a (contents d)).act w =
      (Run.save a (contents d)).act w := by rw [Run.bind_act, hd]
  have hfilled := hinv.filled.save a (contents d) fun fl d' heq => hcontents d fl d' heq ▸ hholds
  exact Ends.lift hinv hsave hfilled trivial

/-- An entry of a list of pairs is a mapping of one pair. -/
theorem builds_entry (a : Addr) (item : NodeId) : Builds g base (fun _ _ => True) (do
    match (← nodeOf item).content with
    | .mapping [(k, v)] =>
      let key ← make k
      let val ← make v
      lift (do
        let t ← Run.tuple [key, val]
        Run.pushItem a t)
    | _ => malformed) := by
  intro s w hinv
  rw [nodeOf_bind_act]
  split
  · refine (ends_make _ hinv).bind fun key s₁ w₁ hinv₁ _ => ?_
    refine (ends_make _ hinv₁).bind fun val s₂ w₂ hinv₂ _ => ?_
    have hpair := hinv₂.filled.push (o := .tuple none [key, val]) fun _ _ h => nomatch h
    refine Ends.lift hinv₂ rfl (hpair.modify a (Obj.becomes_changedBy ?_) fun o fl d hd => .inl ?_) trivial
    · intro o
      cases o <;> rfl
    · rw [Obj.changedBy] at hd
      split at hd
      · exact hd
      · cases o <;> first | exact hd | cases hd
  · exact .malformed

theorem builds_fill (p : Pending) : Builds g base (fun _ _ => True) (fill p) := by
  intro s w hinv
  cases p with
  | items a id =>
    rw [fill, nodeOf_bind_act]
    split
    · refine (Builds.mapM (fun _ _ _ hw hv => hv.grows hw) (fun id s w h => ends_make id h) _ s w hinv).bind
        fun vs s' w' hinv' _ => ?_
      exact Ends.lift hinv' rfl (hinv'.filled.save a _ fun _ _ h => nomatch h) trivial
    · exact .malformed
  | pairs a id =>
    rw [fill]
    exact (builds_pairsOf id s w hinv).bind fun ps s' w' hinv' hps =>
      ends_save hps (.dict .plain) (fun _ _ _ h => by cases h; rfl) a hinv'
  | members a id =>
    rw [fill]
    refine (builds_pairsOf id s w hinv).bind fun ps s' w' hinv' hps =>
      ends_save ?_ (.set false) (fun _ _ _ h => nomatch h) a hinv'
    exact List.forall_mem_map.2 fun p hp => ⟨(hps p hp).1, .bool true⟩
  | entries a id =>
    rw [fill, nodeOf_bind_act]
    split
    · exact Builds.forM (builds_entry a) _ s w hinv
    · exact .malformed

theorem builds_fillAll (fuel : Nat) : Builds g base (fun _ _ => True) (fillAll fuel) := by
  induction fuel with
  | zero => exact fun s w hinv => .value hinv trivial
  | succ fuel ih =>
    intro s w hinv
    rw [fillAll, get_bind_act]
    split
    · exact .value hinv trivial
    · rw [set_bind_act]
      have hall : (s.pending.forM fill : Builder Unit) = s.pending.toList.forM fill :=
        List.forM_toArray s.pending.toList fill
      rw [hall]
      have hinv' : Inv g base { s with pending := #[] } w := ⟨hinv.stems, hinv.made, hinv.filled⟩
      exact (Builds.forM builds_fill _ _ _ hinv').bind fun _ s' w' hinv'' _ => ih s' w' hinv''

end Builder

/-- **How reading a document ends**: no text is one, or it has a value, or a scalar of its nodes has no meaning,
and then the error is one of the conversion. The value is new, and so is what dictionaries hold that are. -/
inductive ReadEnds (text : String) (base : Addr) : Ending (Except Fault Value) → Prop
  | fault {fault : Fault} {w : World} : graphOf text = .error fault → ReadEnds text base (.ok (.error fault) w)
  | malformed {w : World} : ReadEnds text base (.ok (.error .malformed) w)
  | value {v : Value} {w : World} : Filled base w → Made base w v → ReadEnds text base (.ok (.ok v) w)
  | meaningless {g : Graph} {root : Option NodeId} {error : Addr} {w : World} {cls : String} :
      graphOf text = .ok (g, root) → Meaningless g → w.errorClass? error = some cls → cls ≠ Classes.validationError →
      ReadEnds text base (.error (.raised error) w)

theorem readEnds_of_ends {text : String} {g : Graph} {root : Option NodeId} (hgraph : graphOf text = .ok (g, root))
    {base : Addr} {x : Builder Value} {s : Build} {w : World} (h : Ends g base (fun v w => Made base w v) (x.act s w)) :
    ReadEnds text base (((StateT.run x s).run >>= fun r => pure (r.map (·.1)) : Run (Except Fault Value)).act w) := by
  generalize hx : x.act s w = ending at h
  have hrun : Run.act (ExceptT.run (StateT.run x s)) w = ending := hx
  rw [Run.bind_act, hrun]
  cases h with
  | value hinv hmade => exact .value hinv.filled hmade
  | malformed => exact .malformed
  | raised hclass hcls hg => exact .meaningless hgraph hg hclass hcls

/-- Where nothing is new, nothing is held. -/
theorem filled_size (w : World) : Filled w.store.size w := by
  refine ⟨Nat.le_refl _, fun a f d ha hd => ?_⟩
  exact absurd (Array.getElem?_eq_some_iff.1 hd).1 (Nat.not_lt.2 ha)

theorem read_ends (text : String) (w : World) : ReadEnds text w.store.size ((read text).act w) := by
  rw [read]
  split
  case h_1 fault hgraph => exact .fault hgraph
  case h_2 => exact .value (filled_size w) .null
  case h_3 g root hgraph =>
    have hfresh : Inv g w.store.size ⟨g, Array.replicate g.size none, #[]⟩ w := by
      refine ⟨fun id => .refl _, fun id v hv => ?_, filled_size w⟩
      dsimp only at hv
      rw [Array.getD_eq_getD_getElem?, Array.getElem?_replicate] at hv
      split at hv <;> cases hv
    have hends : Ends g w.store.size (fun v w' => Made w.store.size w' v) ((do
        let v ← Builder.make root
        Builder.fillAll (g.size + 2)
        pure v : Builder Value).act ⟨g, Array.replicate g.size none, #[]⟩ w) := by
      refine (Builder.ends_make root hfresh).bind fun v s' w' hinv' hmade => ?_
      have hfill : Ends g w.store.size (fun _ w'' => Made w.store.size w'' v)
          ((Builder.fillAll (g.size + 2)).act s' w') :=
        (Builder.builds_fillAll _ s' w' hinv').mono fun _ _ hw _ => hmade.grows hw
      exact hfill.bind fun _ s'' w'' hinv'' hlater => .value hinv'' hlater
    exact readEnds_of_ends hgraph hends

end Stepwise.Document
