import Stepwise.Proofs.Blocks
/-!
# Tokens read back

The tokens of a tree are read as its nodes, which are numbered in the order in which they begin. A list behind a key
has no block of its own: it ends where something else than a dash comes.
-/

namespace Stepwise.Document

namespace Reader

variable {node : Reader NodeId} {fuel : Nat} {ts us : List Token} {g g' : Graph} {k v : NodeId}
  {anchors : List (String × NodeId)} {handles : List (String × String)} {r : Reading}

/-! ## What is read of one token -/

/-- A node begins with the token, whatever it stands behind. -/
def BeginsNode : Token → Prop
  | .scalar .. | .flowSequenceStart | .flowMappingStart | .blockSequenceStart | .blockMappingStart => True
  | _ => False

theorem entries_item {id : NodeId} (ht : ∀ t ∈ ts.head?, BeginsNode t) (closed : Bool) (acc : List NodeId)
    (hnode : node ⟨ts, g, anchors, handles⟩ = .ok (id, r)) :
    entries node closed (fuel + 1) acc ⟨.blockEntry :: ts, g, anchors, handles⟩ = entries node closed fuel (id :: acc) r := by
  have hrun (x : Except Fault (NodeId × Reading)) (hx : node ⟨ts, g, anchors, handles⟩ = x) :
      entries node closed (fuel + 1) acc ⟨.blockEntry :: ts, g, anchors, handles⟩ =
        x.bind fun a => entries node closed fuel (a.1 :: acc) a.2 := by
    subst hx
    cases ts with
    | nil => rfl
    | cons t ts =>
      have hbegins := ht t rfl
      cases t <;> first | exact hbegins.elim | rfl
  rw [hrun _ hnode]
  rfl

theorem entries_end (acc : List NodeId) :
    entries node true (fuel + 1) acc ⟨.blockEnd :: ts, g, anchors, handles⟩ = .ok (acc.reverse, ⟨ts, g, anchors, handles⟩) := rfl

theorem entries_over (h : ts.head? ≠ some .blockEntry) (acc : List NodeId) :
    entries node false (fuel + 1) acc ⟨ts, g, anchors, handles⟩ = .ok (acc.reverse, ⟨ts, g, anchors, handles⟩) := by
  cases ts with
  | nil => rfl
  | cons t ts => cases t <;> first | rfl | exact absurd rfl h

theorem blockPairs_pair {s : String} {style : Style} (fuel : Nat) (acc : List (NodeId × NodeId))
    (hkey : node ⟨.scalar s style :: .value :: ts, g, anchors, handles⟩ = .ok (k, ⟨.value :: ts, g', anchors, handles⟩))
    (ht : ∀ t ∈ ts.head?, BeginsNode t ∨ t = .blockEntry) (hvalue : node ⟨ts, g', anchors, handles⟩ = .ok (v, r)) :
    blockPairs node (fuel + 1) acc ⟨.key :: .scalar s style :: .value :: ts, g, anchors, handles⟩ =
      blockPairs node fuel ((k, v) :: acc) r := by
  have hrun (x : Except Fault (NodeId × Reading)) (hx : node ⟨ts, g', anchors, handles⟩ = x) :
      blockPairs node (fuel + 1) acc ⟨.key :: .scalar s style :: .value :: ts, g, anchors, handles⟩ =
        x.bind fun a => blockPairs node fuel ((k, a.1) :: acc) a.2 := by
    change (node ⟨.scalar s style :: .value :: ts, g, anchors, handles⟩).bind _ = _
    rw [hkey]
    subst hx
    cases ts with
    | nil => rfl
    | cons t ts =>
      rcases ht t rfl with hbegins | rfl
      · cases t <;> first | exact hbegins.elim | rfl
      · rfl
  rw [hrun _ hvalue]
  rfl

theorem blockPairs_end (acc : List (NodeId × NodeId)) :
    blockPairs node (fuel + 1) acc ⟨.blockEnd :: ts, g, anchors, handles⟩ = .ok (acc.reverse, ⟨ts, g, anchors, handles⟩) := rfl

theorem node_scalar (position : Position) (s : String) (style : Style) :
    Reader.node (fuel + 1) position ⟨.scalar s style :: ts, g, anchors, handles⟩ =
      .ok (g.size, ⟨ts, g.push ⟨if style = .plain then plainTag s else tagOf "str", .scalar s (some style)⟩, anchors, handles⟩) := by
  cases style <;> rfl

theorem node_brackets (position : Position) :
    Reader.node (fuel + 1) position ⟨.flowSequenceStart :: .flowSequenceEnd :: ts, g, anchors, handles⟩ =
      .ok (g.size, ⟨ts, (g.push ⟨tagOf "seq", .sequence []⟩).modify g.size fun n => { n with content := .sequence [] },
        anchors, handles⟩) := rfl

theorem node_braces (position : Position) :
    Reader.node (fuel + 1) position ⟨.flowMappingStart :: .flowMappingEnd :: ts, g, anchors, handles⟩ =
      .ok (g.size, ⟨ts, (g.push ⟨tagOf "map", .mapping []⟩).modify g.size fun n => { n with content := .mapping [] },
        anchors, handles⟩) := rfl

theorem node_sequence {position : Position} (hposition : position ≠ .flow) {items : List NodeId}
    (hitems : entries (Reader.node fuel .block) true (ts.length + 3) [] ⟨ts, g.push ⟨tagOf "seq", .sequence []⟩, anchors, handles⟩ =
      .ok (items, ⟨us, g', anchors, handles⟩)) :
    Reader.node (fuel + 1) position ⟨.blockSequenceStart :: ts, g, anchors, handles⟩ =
      .ok (g.size, ⟨us, g'.modify g.size fun n => { n with content := .sequence items }, anchors, handles⟩) := by
  have hrun : Reader.node (fuel + 1) position ⟨.blockSequenceStart :: ts, g, anchors, handles⟩ =
      (entries (Reader.node fuel .block) true (ts.length + 3) [] ⟨ts, g.push ⟨tagOf "seq", .sequence []⟩, anchors, handles⟩).bind
        fun a => .ok (g.size, { a.2 with graph := a.2.graph.modify g.size fun n => { n with content := .sequence a.1 } }) := by
    cases position <;> first | contradiction | rfl
  rw [hrun, hitems]
  rfl

theorem node_mapping {position : Position} (hposition : position ≠ .flow) {pairs : List (NodeId × NodeId)}
    (hpairs : blockPairs (Reader.node fuel .member) (ts.length + 3) [] ⟨ts, g.push ⟨tagOf "map", .mapping []⟩, anchors, handles⟩ =
      .ok (pairs, ⟨us, g', anchors, handles⟩)) :
    Reader.node (fuel + 1) position ⟨.blockMappingStart :: ts, g, anchors, handles⟩ =
      .ok (g.size, ⟨us, g'.modify g.size fun n => { n with content := .mapping pairs }, anchors, handles⟩) := by
  have hrun : Reader.node (fuel + 1) position ⟨.blockMappingStart :: ts, g, anchors, handles⟩ =
      (blockPairs (Reader.node fuel .member) (ts.length + 3) [] ⟨ts, g.push ⟨tagOf "map", .mapping []⟩, anchors, handles⟩).bind
        fun a => .ok (g.size, { a.2 with graph := a.2.graph.modify g.size fun n => { n with content := .mapping a.1 } }) := by
    cases position <;> first | contradiction | rfl
  rw [hrun, hpairs]
  rfl

/-- A list behind a key, without a block of its own. -/
theorem node_member {items : List NodeId}
    (hitems : entries (Reader.node fuel .block) false (ts.length + 3) []
      ⟨.blockEntry :: ts, g.push ⟨tagOf "seq", .sequence []⟩, anchors, handles⟩ = .ok (items, ⟨us, g', anchors, handles⟩)) :
    Reader.node (fuel + 1) .member ⟨.blockEntry :: ts, g, anchors, handles⟩ =
      .ok (g.size, ⟨us, g'.modify g.size fun n => { n with content := .sequence items }, anchors, handles⟩) := by
  have hrun : Reader.node (fuel + 1) .member ⟨.blockEntry :: ts, g, anchors, handles⟩ =
      (entries (Reader.node fuel .block) false (ts.length + 3) []
        ⟨.blockEntry :: ts, g.push ⟨tagOf "seq", .sequence []⟩, anchors, handles⟩).bind
        fun a => .ok (g.size, { a.2 with graph := a.2.graph.modify g.size fun n => { n with content := .sequence a.1 } }) := rfl
  rw [hrun, hitems]
  rfl

/-! ## What is read of a tree -/

/-- The tokens of a tree are read as its nodes, whatever comes behind them. -/
def Parses (x : Datum) : Prop :=
  ∀ fuel position member ts g handles, x.size ≤ fuel → position ≠ .flow →
    (member = true → position = .member ∧ ts.head? ≠ some .blockEntry) →
    ∃ g', Reader.node fuel position ⟨x.tokens member ++ ts, g, [], handles⟩ = .ok (g.size, ⟨ts, g', [], handles⟩) ∧
      Grows true g g' [x]

theorem beginsNode_tokens (x : Datum) : ∃ t us, x.tokens false = t :: us ∧ BeginsNode t := by
  cases x with
  | leaf x => exact ⟨_, _, rfl, trivial⟩
  | list xs =>
    rw [Datum.tokens]
    split
    · exact ⟨_, _, rfl, trivial⟩
    · exact ⟨_, _, rfl, trivial⟩
  | dict es =>
    rw [Datum.tokens]
    split
    · exact ⟨_, _, rfl, trivial⟩
    · exact ⟨_, _, rfl, trivial⟩

theorem begins_tokens (x : Datum) (member : Bool) : ∃ t us, x.tokens member = t :: us ∧ (BeginsNode t ∨ t = .blockEntry) := by
  by_cases hsame : x.tokens member = x.tokens false
  · obtain ⟨t, us, htokens, ht⟩ := beginsNode_tokens x
    exact ⟨t, us, hsame.trans htokens, .inl ht⟩
  · cases x with
    | leaf x => exact absurd rfl hsame
    | dict es => exact absurd rfl hsame
    | list xs =>
      cases member with
      | false => exact absurd rfl hsame
      | true =>
        cases xs with
        | nil => exact absurd rfl hsame
        | cons x xs => exact ⟨.blockEntry, _, rfl, .inr rfl⟩

/-- The style of a scalar and its text say its tag. -/
theorem tag_of_style {isKey : Bool} {x : Leaf} (hkey : isKey = true → x.kind = "str") :
    (if x.style isKey = .plain then plainTag x.shown else tagOf "str") = tagOf x.kind := by
  split
  case isTrue hplain =>
    cases chosen isKey x with
    | plain _ htag => exact htag.symm
    | single hstyle => rw [hplain] at hstyle; cases hstyle
    | double hstyle => rw [hplain] at hstyle; cases hstyle
  case isFalse hplain => rw [kind_of_quoted hkey hplain]

theorem node_leaf (x : Leaf) {isKey : Bool} (hkey : isKey = true → x.kind = "str") (position : Position) (fuel : Nat)
    (ts : List Token) (g : Graph) (handles : List (String × String)) :
    ∃ g', Reader.node (fuel + 1) position ⟨x.token isKey :: ts, g, [], handles⟩ = .ok (g.size, ⟨ts, g', [], handles⟩) ∧
      Grows true g g' [.leaf x] := by
  refine ⟨_, ?_, Grows.leaf g x (show (some (x.style isKey)).isSome = true from rfl)⟩
  rw [Leaf.token, node_scalar, tag_of_style hkey]

theorem items_parse {xs : List Datum} (handles : List (String × String)) (h : ∀ x ∈ xs, Parses x) (hfuel : itemsSize xs ≤ fuel) (closed : Bool) (turns : Nat)
    (acc : List NodeId) (ts : List Token) (g : Graph) :
    ∃ g', entries (Reader.node fuel .block) closed (turns + xs.length) acc ⟨itemTokens xs ++ ts, g, [], handles⟩ =
      entries (Reader.node fuel .block) closed turns ((itemIds g.size xs).reverse ++ acc) ⟨ts, g', [], handles⟩ ∧
      Grows true g g' xs := by
  induction xs generalizing acc g with
  | nil => exact ⟨g, rfl, .refl true g⟩
  | cons x xs ih =>
    rw [itemsSize] at hfuel
    obtain ⟨g', hnode, hgrows⟩ := h x List.mem_cons_self fuel .block false (itemTokens xs ++ ts) g handles
      (by omega) (by decide) (fun h => absurd h Bool.false_ne_true)
    obtain ⟨g'', hmore, hgrows'⟩ := ih (fun y hy => h y (List.mem_cons_of_mem _ hy)) (by omega) (g.size :: acc) g'
    refine ⟨g'', ?_, hgrows.trans hgrows'⟩
    have hbegins : ∀ t ∈ (x.tokens false ++ (itemTokens xs ++ ts)).head?, BeginsNode t := by
      obtain ⟨t, us, htokens, ht⟩ := beginsNode_tokens x
      rw [htokens]
      intro u hu
      obtain rfl := Option.some.inj hu
      exact ht
    have hsize : g'.size = g.size + x.size := hgrows.size
    rw [hsize] at hmore
    rw [itemTokens, List.cons_append, List.cons_append, List.append_assoc, List.length_cons, ← Nat.add_assoc,
      entries_item hbegins _ _ hnode, hmore, itemIds, List.reverse_cons, List.append_assoc]
    rfl

/-! ## Fuel -/

theorem length_itemTokens {xs : List Datum} (h : ∀ x ∈ xs, ∀ member, x.size ≤ (x.tokens member).length) :
    itemsSize xs + xs.length ≤ (itemTokens xs).length := by
  induction xs with
  | nil => exact Nat.le_refl 0
  | cons x xs ih =>
    have hfirst := h x List.mem_cons_self false
    have hmore := ih fun y hy => h y (List.mem_cons_of_mem _ hy)
    simp only [itemsSize, itemTokens, List.length_cons, List.length_append]
    omega

theorem length_pairTokens {es : List (String × Datum)} (h : ∀ e ∈ es, ∀ member, e.2.size ≤ (e.2.tokens member).length) :
    pairsSize es + es.length ≤ (pairTokens es).length := by
  induction es with
  | nil => exact Nat.le_refl 0
  | cons e es ih =>
    obtain ⟨k, x⟩ := e
    have hfirst : x.size ≤ (x.tokens (isShortKey k)).length := h (k, x) List.mem_cons_self _
    have hmore := ih fun y hy => h y (List.mem_cons_of_mem _ hy)
    simp only [pairsSize, pairTokens, List.length_cons, List.length_append]
    omega

/-- Every node takes a token. -/
theorem size_le_tokens (x : Datum) : ∀ member, x.size ≤ (x.tokens member).length := by
  induction x using Datum.induct with
  | leaf x => exact fun _ => Nat.le_refl 1
  | list xs ih =>
    intro member
    have hitems := length_itemTokens ih
    rw [Datum.tokens, Datum.size]
    split
    case isTrue hempty =>
      rw [List.isEmpty_iff.1 hempty]
      exact Nat.le_succ 1
    case isFalse hne =>
      have hpos : 0 < xs.length := List.length_pos_iff.2 (by simpa using hne)
      split
      · omega
      · simp
        omega
  | dict es ih =>
    intro member
    have hpairs := length_pairTokens ih
    rw [Datum.tokens, Datum.size]
    split
    case isTrue hempty =>
      rw [List.isEmpty_iff.1 hempty]
      exact Nat.le_succ 1
    case isFalse => simp; omega

/-! ## Trees -/

/-- **The entries of a list are read as its members.** -/
theorem list_parses {xs : List Datum} (h : ∀ x ∈ xs, Parses x) : Parses (.list xs) := by
  intro fuel position member ts g handles hfuel hposition hmember
  rw [Datum.size] at hfuel
  obtain ⟨fuel, rfl⟩ := Nat.exists_eq_add_one_of_ne_zero (by omega : fuel ≠ 0)
  replace hfuel := Nat.le_of_succ_le_succ hfuel
  have hroot : IsRoot true g.size ⟨tagOf "seq", .sequence (itemIds (g.size + 1) xs)⟩ (.list xs) := rfl
  have hsize : (g.push ⟨tagOf "seq", .sequence []⟩).size = g.size + 1 := Array.size_push ..
  by_cases hne : xs = []
  · subst hne
    exact ⟨_, node_brackets position, .collection ⟨tagOf "seq", .sequence []⟩ hroot (.refl true _)⟩
  have hlength := length_itemTokens fun x (_ : x ∈ xs) => size_le_tokens x
  rw [Datum.tokens, if_neg (by simpa using hne)]
  cases member with
  | false =>
    have hmany : xs.length ≤ (itemTokens xs ++ (Token.blockEnd :: ts)).length := by
      rw [List.length_append]
      omega
    obtain ⟨turns, hturns⟩ := Nat.exists_eq_add_of_le' hmany
    obtain ⟨g', hentries, hgrows⟩ := items_parse handles h hfuel true (turns + 3) [] (Token.blockEnd :: ts)
      (g.push ⟨tagOf "seq", .sequence []⟩)
    refine ⟨_, ?_, .collection ⟨tagOf "seq", .sequence []⟩ hroot hgrows⟩
    rw [if_neg Bool.false_ne_true, List.cons_append, List.cons_append, List.append_assoc, List.singleton_append]
    refine node_sequence hposition ?_
    rw [hturns, Nat.add_right_comm, hentries, entries_end, List.append_nil, List.reverse_reverse, hsize]
  | true =>
    obtain ⟨rfl, hts⟩ := hmember rfl
    obtain ⟨us, hus⟩ : ∃ us, itemTokens xs ++ ts = .blockEntry :: us := by
      obtain ⟨x, ys, rfl⟩ := List.exists_cons_of_ne_nil hne
      exact ⟨_, rfl⟩
    have hmany : xs.length ≤ us.length + 1 := by
      have := congrArg List.length hus
      rw [List.length_append, List.length_cons] at this
      omega
    obtain ⟨turns, hturns⟩ := Nat.exists_eq_add_of_le' hmany
    obtain ⟨g', hentries, hgrows⟩ := items_parse handles h hfuel false (turns + 2) [] ts
      (g.push ⟨tagOf "seq", .sequence []⟩)
    refine ⟨_, ?_, .collection ⟨tagOf "seq", .sequence []⟩ hroot hgrows⟩
    rw [if_pos rfl, hus]
    refine node_member ?_
    rw [hus] at hentries
    rw [show us.length + 3 = turns + 2 + xs.length by omega, hentries, entries_over hts, List.append_nil,
      List.reverse_reverse, hsize]

theorem pairs_parse {es : List (String × Datum)} (handles : List (String × String)) (h : ∀ e ∈ es, Parses e.2) (hfuel : pairsSize es ≤ fuel) (turns : Nat)
    (acc : List (NodeId × NodeId)) (ts : List Token) (g : Graph) :
    ∃ g', blockPairs (Reader.node fuel .member) (turns + es.length) acc ⟨pairTokens es ++ .blockEnd :: ts, g, [], handles⟩ =
      blockPairs (Reader.node fuel .member) turns ((pairIds g.size es).reverse ++ acc) ⟨.blockEnd :: ts, g', [], handles⟩ ∧
      Grows true g g' (Datum.dict es).members := by
  induction es generalizing acc g with
  | nil => exact ⟨g, rfl, .refl true g⟩
  | cons e es ih =>
    obtain ⟨k, x⟩ := e
    rw [pairsSize] at hfuel
    obtain ⟨fuel, rfl⟩ := Nat.exists_eq_add_one_of_ne_zero (by omega : fuel ≠ 0)
    obtain ⟨g₁, hkey, hgrows₁⟩ := node_leaf (.text k) (fun (_ : isShortKey k = true) => rfl) .member fuel
      (.value :: (x.tokens (isShortKey k) ++ (pairTokens es ++ .blockEnd :: ts))) g handles
    have hover : (pairTokens es ++ .blockEnd :: ts).head? ≠ some .blockEntry := by
      cases es with
      | nil => simp [pairTokens]
      | cons e es => simp [pairTokens]
    obtain ⟨g₂, hvalue, hgrows₂⟩ := h (k, x) List.mem_cons_self (fuel + 1) .member (isShortKey k)
      (pairTokens es ++ .blockEnd :: ts) g₁ handles (show x.size ≤ fuel + 1 by omega) (by decide) (fun _ => ⟨rfl, hover⟩)
    obtain ⟨g', hmore, hgrows⟩ := ih (fun y hy => h y (List.mem_cons_of_mem _ hy)) (by omega) ((g.size, g₁.size) :: acc) g₂
    refine ⟨g', ?_, (hgrows₁.trans hgrows₂).trans hgrows⟩
    have hbegins : ∀ t ∈ (x.tokens (isShortKey k) ++ (pairTokens es ++ .blockEnd :: ts)).head?,
        BeginsNode t ∨ t = .blockEntry := by
      obtain ⟨t, us, htokens, ht⟩ := begins_tokens x (isShortKey k)
      rw [htokens]
      intro u hu
      obtain rfl := Option.some.inj hu
      exact ht
    have hsize₁ : g₁.size = g.size + 1 := hgrows₁.size
    have hsize₂ : g₂.size = g.size + 1 + x.size := by rw [hgrows₂.size, hsize₁]; rfl
    rw [hsize₁, hsize₂] at hmore
    have hpair := blockPairs_pair (turns + es.length) acc hkey hbegins hvalue
    rw [hsize₁, hmore] at hpair
    rw [pairIds, List.reverse_cons, List.append_assoc, List.singleton_append, ← hpair]
    simp only [pairTokens, List.cons_append, List.append_assoc, List.length_cons, Leaf.token, Nat.add_assoc]

/-- **The pairs of a dictionary are read as its pairs.** -/
theorem dict_parses {es : List (String × Datum)} (h : ∀ e ∈ es, Parses e.2) : Parses (.dict es) := by
  intro fuel position member ts g handles hfuel hposition hmember
  rw [Datum.size] at hfuel
  obtain ⟨fuel, rfl⟩ := Nat.exists_eq_add_one_of_ne_zero (by omega : fuel ≠ 0)
  replace hfuel := Nat.le_of_succ_le_succ hfuel
  have hroot : IsRoot true g.size ⟨tagOf "map", .mapping (pairIds (g.size + 1) es)⟩ (.dict es) := rfl
  have hsize : (g.push ⟨tagOf "map", .mapping []⟩).size = g.size + 1 := Array.size_push ..
  by_cases hne : es = []
  · subst hne
    exact ⟨_, node_braces position, .collection ⟨tagOf "map", .mapping []⟩ hroot (.refl true _)⟩
  have hlength := length_pairTokens fun e (_ : e ∈ es) => size_le_tokens e.2
  have hmany : es.length ≤ (pairTokens es ++ (Token.blockEnd :: ts)).length := by
    rw [List.length_append]
    omega
  obtain ⟨turns, hturns⟩ := Nat.exists_eq_add_of_le' hmany
  obtain ⟨g', hpairs, hgrows⟩ := pairs_parse handles h hfuel (turns + 3) [] ts (g.push ⟨tagOf "map", .mapping []⟩)
  refine ⟨_, ?_, .collection ⟨tagOf "map", .mapping []⟩ hroot hgrows⟩
  rw [Datum.tokens, if_neg (by simpa using hne), List.cons_append, List.cons_append, List.append_assoc, List.singleton_append]
  refine node_mapping hposition ?_
  rw [hturns, Nat.add_right_comm, hpairs, blockPairs_end, List.append_nil, List.reverse_reverse, hsize]

theorem leaf_parses (x : Leaf) : Parses (.leaf x) := by
  intro fuel position member ts g handles hfuel _ _
  obtain ⟨fuel, rfl⟩ := Nat.exists_eq_add_one_of_ne_zero (by have := (Datum.leaf x).size_pos; omega : fuel ≠ 0)
  exact node_leaf x (fun h : false = true => absurd h Bool.false_ne_true) position fuel ts g handles

theorem parses_datum (x : Datum) : Parses x :=
  Datum.induct leaf_parses (fun _ => list_parses) (fun _ => dict_parses) x

theorem document_node {t : Token} {id : NodeId} (ht : BeginsNode t)
    (hnode : Reader.node (ts.length + 3) .block ⟨t :: ts, g, anchors, handles⟩ = .ok (id, ⟨[.streamEnd], g', anchors, handles⟩)) :
    document ⟨t :: ts, g, anchors, handles⟩ = .ok (some id, ⟨[.streamEnd], g', anchors, handles⟩) := by
  have hrun (x : Except Fault (NodeId × Reading)) (hx : Reader.node (ts.length + 3) .block ⟨t :: ts, g, anchors, handles⟩ = x) :
      document ⟨t :: ts, g, anchors, handles⟩ =
        x.bind fun a => (document.finish (ts.length + 3) a.2).bind fun b => .ok (some a.1, b.2) := by
    subst hx
    cases t <;> first | exact ht.elim | rfl
  rw [hrun _ hnode]
  rfl

/-- **The tokens of a tree are a document with the nodes of the tree.** -/
theorem document_tokens (x : Datum) (handles : List (String × String)) :
    ∃ g, document ⟨x.tokens false ++ [.streamEnd], #[], [], handles⟩ = .ok (some 0, ⟨[.streamEnd], g, [], handles⟩) ∧
      g.size = x.size ∧ Holds true g 0 x := by
  obtain ⟨t, us, htokens, ht⟩ := beginsNode_tokens x
  have hlength := congrArg List.length htokens
  have hsize := size_le_tokens x false
  obtain ⟨g, hnode, hgrows⟩ := parses_datum x ((us ++ [Token.streamEnd]).length + 3) .block false [.streamEnd] #[] handles
    (by rw [List.length_append]; rw [List.length_cons] at hlength; omega) (by decide) (fun h => absurd h Bool.false_ne_true)
  rw [htokens] at hnode ⊢
  refine ⟨g, document_node ht hnode, ?_, hgrows.holds.1⟩
  rw [hgrows.size]
  simp [itemsSize]

end Reader

/-- **The text of a dictionary is read as the nodes of the dictionary.** -/
theorem graphOf_layout {g : Graph} {es : List (String × Datum)} (hne : es ≠ []) (hg : Holds false g 0 (.dict es))
    (hsize : (Datum.dict es).size ≤ g.size) (hkept : KeptPairs 0 es) :
    ∃ g', graphOf (layout g 0) = .ok (g', some 0) ∧ g'.size = (Datum.dict es).size ∧ Holds true g' 0 (.dict es) := by
  obtain ⟨g', hdocument, hsize', hholds⟩ := Reader.document_tokens (.dict es) Reader.defaultHandles
  refine ⟨g', ?_, hsize', hholds⟩
  have htokens := tokensOf_layout hne hg hsize hkept
  have hrun : Reader.document.run ⟨(Datum.dict es).tokens false ++ [.streamEnd], #[], [], Reader.defaultHandles⟩ = _ := hdocument
  unfold graphOf
  rw [htokens]
  change (Reader.document.run _).bind _ = _
  rw [hrun]
  rfl

end Stepwise.Document
