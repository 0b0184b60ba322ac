import Stepwise.Document.Node
/-!
# Trees of data

Plain data, apart from where it stands: in a graph of nodes, whose nodes are numbered from the root down, or in
a store of objects.
-/

namespace Stepwise.Document

/-- Data without parts. -/
inductive Leaf where
  | null
  | bool (b : Bool)
  | int (n : Int)
  | text (s : String)
  deriving DecidableEq

namespace Leaf

def kind : Leaf → String
  | null => "null"
  | bool _ => "bool"
  | int _ => "int"
  | text _ => "str"

/-- The text that a document gives for the data. -/
def shown : Leaf → String
  | null => "null"
  | bool b => if b then "true" else "false"
  | int n => toString n
  | text s => s

end Leaf

/-- Plain data: values without parts, lists of data, and dictionaries from texts to data. -/
inductive Datum where
  | leaf (x : Leaf)
  | list (items : List Datum)
  | dict (entries : List (String × Datum))

/-- What holds of a tree if it holds of its members holds of every tree. -/
theorem Datum.induct {P : Datum → Prop} (leaf : ∀ x, P (.leaf x)) (list : ∀ xs, (∀ x ∈ xs, P x) → P (.list xs))
    (dict : ∀ es, (∀ e ∈ es, P e.2) → P (.dict es)) (d : Datum) : P d :=
  Datum.rec (motive_1 := P) (motive_2 := fun xs => ∀ x ∈ xs, P x) (motive_3 := fun es => ∀ e ∈ es, P e.2)
    (motive_4 := fun e => P e.2) leaf list dict (List.forall_mem_nil _)
    (fun _ _ hx hxs => List.forall_mem_cons.2 ⟨hx, hxs⟩) (List.forall_mem_nil _)
    (fun _ _ he hes => List.forall_mem_cons.2 ⟨he, hes⟩) (fun _ _ hx => hx) d

/-! ## Nodes of trees -/

mutual

/-- The number of nodes of a tree; a key is a node of its own. -/
def Datum.size : Datum → Nat
  | .leaf _ => 1
  | .list xs => itemsSize xs + 1
  | .dict es => pairsSize es + 1

def itemsSize : List Datum → Nat
  | [] => 0
  | x :: xs => x.size + itemsSize xs

def pairsSize : List (String × Datum) → Nat
  | [] => 0
  | (_, x) :: es => x.size + 1 + pairsSize es

end

/-- The roots of trees whose nodes are numbered one tree after the other. -/
def itemIds : NodeId → List Datum → List NodeId
  | _, [] => []
  | n, x :: xs => n :: itemIds (n + x.size) xs

def pairIds : NodeId → List (String × Datum) → List (NodeId × NodeId)
  | _, [] => []
  | n, (_, x) :: es => (n, n + 1) :: pairIds (n + 1 + x.size) es

/-- A node stands for data without parts; how it is written may be said or not. -/
def HoldsLeaf (styled : Bool) (g : Graph) (id : NodeId) (x : Leaf) : Prop :=
  ∃ style : Option Style, style.isSome = styled ∧ g[id]? = some ⟨tagOf x.kind, .scalar x.shown style⟩

mutual

/-- The nodes of a tree stand in a graph from a number on, every node in front of its members. -/
def Holds (styled : Bool) (g : Graph) (id : NodeId) : Datum → Prop
  | .leaf x => HoldsLeaf styled g id x
  | .list xs => g[id]? = some ⟨tagOf "seq", .sequence (itemIds (id + 1) xs)⟩ ∧ HoldsItems styled g (id + 1) xs
  | .dict es => g[id]? = some ⟨tagOf "map", .mapping (pairIds (id + 1) es)⟩ ∧ HoldsPairs styled g (id + 1) es

def HoldsItems (styled : Bool) (g : Graph) (id : NodeId) : List Datum → Prop
  | [] => True
  | x :: xs => Holds styled g id x ∧ HoldsItems styled g (id + x.size) xs

def HoldsPairs (styled : Bool) (g : Graph) (id : NodeId) : List (String × Datum) → Prop
  | [] => True
  | (k, x) :: es =>
    HoldsLeaf styled g id (.text k) ∧ Holds styled g (id + 1) x ∧ HoldsPairs styled g (id + 1 + x.size) es

end

theorem Datum.size_pos (x : Datum) : 0 < x.size := by
  cases x <;> simp [Datum.size]

/-! ## Forests -/

/-- The trees right below the root of a tree, in the order of their nodes. -/
def Datum.members : Datum → List Datum
  | .leaf _ => []
  | .list xs => xs
  | .dict es => es.flatMap fun (k, x) => [.leaf (.text k), x]

variable {styled : Bool} {g : Graph} {id : Nat}

theorem itemsSize_append (xs ys : List Datum) : itemsSize (xs ++ ys) = itemsSize xs + itemsSize ys := by
  induction xs with
  | nil => exact (Nat.zero_add _).symm
  | cons x xs ih => rw [List.cons_append, itemsSize, itemsSize, ih, Nat.add_assoc]

theorem itemIds_append (xs ys : List Datum) : itemIds id (xs ++ ys) = itemIds id xs ++ itemIds (id + itemsSize xs) ys := by
  induction xs generalizing id with
  | nil => rfl
  | cons x xs ih => rw [List.cons_append, itemIds, itemIds, itemsSize, ih, Nat.add_assoc, List.cons_append]

theorem holdsItems_append {xs ys : List Datum} :
    HoldsItems styled g id (xs ++ ys) ↔ HoldsItems styled g id xs ∧ HoldsItems styled g (id + itemsSize xs) ys := by
  induction xs generalizing id with
  | nil => simp [HoldsItems, itemsSize]
  | cons x xs ih => rw [List.cons_append, HoldsItems, HoldsItems, itemsSize, ih, and_assoc, Nat.add_assoc]

/-- A pair of a dictionary takes as many numbers as its key and its value. -/
theorem itemsSize_pair (n : Nat) (k : String) (x : Datum) : n + itemsSize [.leaf (.text k), x] = n + 1 + x.size := by
  simp only [itemsSize, Datum.size, Nat.add_zero]
  omega

theorem Datum.size_eq (x : Datum) : x.size = itemsSize x.members + 1 := by
  cases x with
  | leaf => rfl
  | list => rfl
  | dict es =>
    rw [Datum.size]
    congr 1
    induction es with
    | nil => rfl
    | cons e es ih =>
      obtain ⟨k, x⟩ := e
      rw [pairsSize, ih]
      simp only [members, List.flatMap_cons, itemsSize_append, itemsSize, Datum.size]
      omega

/-- The node is the root of a tree that is numbered from a number on. -/
def IsRoot (styled : Bool) (id : NodeId) (node : Node) : Datum → Prop
  | .leaf x => ∃ style : Option Style, style.isSome = styled ∧ node = ⟨tagOf x.kind, .scalar x.shown style⟩
  | .list xs => node = ⟨tagOf "seq", .sequence (itemIds (id + 1) xs)⟩
  | .dict es => node = ⟨tagOf "map", .mapping (pairIds (id + 1) es)⟩

theorem holdsPairs_iff {es : List (String × Datum)} :
    HoldsPairs styled g id es ↔ HoldsItems styled g id (Datum.dict es).members := by
  induction es generalizing id with
  | nil => exact Iff.rfl
  | cons e es ih =>
    obtain ⟨k, x⟩ := e
    have hmembers : (Datum.dict ((k, x) :: es)).members = [.leaf (.text k), x] ++ (Datum.dict es).members := rfl
    rw [hmembers, holdsItems_append, HoldsPairs, ih, itemsSize_pair, ← and_assoc]
    simp only [HoldsItems, and_true]
    exact Iff.rfl

/-- A tree is its root with its members behind it. -/
theorem holds_iff {x : Datum} : Holds styled g id x ↔
    (∃ node, g[id]? = some node ∧ IsRoot styled id node x) ∧ HoldsItems styled g (id + 1) x.members := by
  cases x with
  | leaf x =>
    refine ⟨fun ⟨style, hstyle, hnode⟩ => ⟨⟨_, hnode, style, hstyle, rfl⟩, trivial⟩, ?_⟩
    rintro ⟨⟨_, hnode, style, hstyle, rfl⟩, -⟩
    exact ⟨style, hstyle, hnode⟩
  | list xs =>
    rw [Holds]
    exact and_congr_left' ⟨fun h => ⟨_, h, rfl⟩, fun ⟨_, h, hroot⟩ => hroot ▸ h⟩
  | dict es =>
    rw [Holds, holdsPairs_iff]
    exact and_congr_left' ⟨fun h => ⟨_, h, rfl⟩, fun ⟨_, h, hroot⟩ => hroot ▸ h⟩

theorem holdsItems_cons {x : Datum} {xs : List Datum} : HoldsItems styled g id (x :: xs) ↔
    (∃ node, g[id]? = some node ∧ IsRoot styled id node x) ∧ HoldsItems styled g (id + 1) (x.members ++ xs) := by
  have hids : id + x.size = id + 1 + itemsSize x.members := by rw [x.size_eq, Nat.add_right_comm, Nat.add_assoc]
  rw [HoldsItems, holds_iff, holdsItems_append, hids, and_assoc]

/-- What holds of a forest if it holds of the forest without the first root holds of every forest. -/
theorem forest_induct {P : List Datum → Prop} (nil : P []) (cons : ∀ x xs, P (x.members ++ xs) → P (x :: xs))
    (xs : List Datum) : P xs := by
  induction hsize : itemsSize xs using Nat.strongRecOn generalizing xs with
  | ind n ih =>
    cases xs with
    | nil => exact nil
    | cons x xs =>
      refine cons x xs (ih _ ?_ _ rfl)
      rw [← hsize, itemsSize, itemsSize_append, x.size_eq]
      omega

/-- A forest is held by every graph with the same nodes at its numbers. -/
theorem holdsItems_congr {g' : Graph} {xs : List Datum} (h : ∀ i, id ≤ i → i < id + itemsSize xs → g'[i]? = g[i]?)
    (hg : HoldsItems styled g id xs) : HoldsItems styled g' id xs := by
  induction xs using forest_induct generalizing id with
  | nil => trivial
  | cons x xs ih =>
    have hids : id + itemsSize (x :: xs) = id + 1 + itemsSize (x.members ++ xs) := by
      rw [itemsSize, itemsSize_append, x.size_eq]
      omega
    obtain ⟨⟨node, hnode, hroot⟩, hmore⟩ := holdsItems_cons.1 hg
    refine holdsItems_cons.2 ⟨⟨node, ?_, hroot⟩, ih (fun i hi hlt => h i (by omega) (hids ▸ hlt)) hmore⟩
    rw [h id (Nat.le_refl _) (by rw [hids]; omega), hnode]

/-! ## Growing graphs -/

/-- A graph has grown by a forest, whose nodes stand behind the old ones. -/
structure Grows (styled : Bool) (g g' : Graph) (xs : List Datum) : Prop where
  size : g'.size = g.size + itemsSize xs
  old : ∀ i < g.size, g'[i]? = g[i]?
  holds : HoldsItems styled g' g.size xs

namespace Grows

variable {g' g'' : Graph} {xs ys : List Datum}

theorem refl (styled : Bool) (g : Graph) : Grows styled g g [] := ⟨rfl, fun _ _ => rfl, trivial⟩

theorem trans (h : Grows styled g g' xs) (h' : Grows styled g' g'' ys) : Grows styled g g'' (xs ++ ys) := by
  refine ⟨?_, fun i hi => ?_, holdsItems_append.2 ⟨holdsItems_congr (fun i _ hi => ?_) h.holds, ?_⟩⟩
  · rw [h'.size, h.size, itemsSize_append, Nat.add_assoc]
  · rw [h'.old i (by rw [h.size]; omega), h.old i hi]
  · exact h'.old i (by rw [h.size]; exact hi)
  · rw [← h.size]
    exact h'.holds

theorem leaf (g : Graph) (x : Leaf) {style : Option Style} (h : style.isSome = styled) :
    Grows styled g (g.push ⟨tagOf x.kind, .scalar x.shown style⟩) [.leaf x] := by
  refine ⟨Array.size_push .., fun i hi => ?_, ⟨style, h, Array.getElem?_push_size⟩, trivial⟩
  rw [Array.getElem?_push, if_neg (Nat.ne_of_lt hi)]

/-- A collection is a node that is filled when its members stand behind it. -/
theorem collection {x : Datum} (node : Node) {content : Content} (hroot : IsRoot styled g.size ⟨node.tag, content⟩ x)
    (h : Grows styled (g.push node) g' x.members) :
    Grows styled g (g'.modify g.size fun n => { n with content := content }) [x] := by
  have hsize : (g.push node).size = g.size + 1 := Array.size_push ..
  have hother {i : Nat} (hi : g.size ≠ i) : (g'.modify g.size fun n => { n with content := content })[i]? = g'[i]? := by
    rw [Array.getElem?_modify, if_neg hi]
  refine ⟨?_, fun i hi => ?_, ?_⟩
  · rw [Array.size_modify, h.size, hsize, itemsSize, itemsSize, x.size_eq]
    omega
  · rw [hother (Nat.ne_of_gt hi), h.old i (by omega), Array.getElem?_push, if_neg (Nat.ne_of_lt hi)]
  · refine holdsItems_cons.2 ⟨⟨⟨node.tag, content⟩, ?_, hroot⟩, ?_⟩
    · rw [Array.getElem?_modify, if_pos rfl, h.old _ (by omega), Array.getElem?_push_size]
      rfl
    · rw [List.append_nil]
      have hmembers := h.holds
      rw [hsize] at hmembers
      exact holdsItems_congr (fun i hi _ => hother (by omega)) hmembers

end Grows

theorem pairIds_flatMap (es : List (String × Datum)) :
    ((pairIds id es).flatMap fun (k, v) => [k, v]) = itemIds id (Datum.dict es).members := by
  induction es generalizing id with
  | nil => rfl
  | cons e es ih =>
    obtain ⟨k, x⟩ := e
    rw [pairIds, List.flatMap_cons, ih, ← itemsSize_pair]
    simp only [Datum.members, List.flatMap_cons, itemIds_append]
    rfl

end Stepwise.Document
