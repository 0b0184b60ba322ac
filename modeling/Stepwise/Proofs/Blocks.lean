import Stepwise.Proofs.Scalars
/-!
# Data in blocks

A tree of plain data is laid out in blocks: the entries of a list behind dashes, the pairs of a dictionary with
their values behind colons. What is written for a tree is cut into the tokens of the tree, whatever stands around it.
-/

namespace Stepwise.Document

open Document.Place Cutter

variable {m n : Nat} {w v cs : List Char} {us vs : List Token} {t : Token}

/-! ## The tokens of trees -/

/-- May a text be a key in front of a colon on the same line? -/
def isShortKey (k : String) : Bool :=
  (shortTag (tagOf "str")).length + k.length < 128 && !(analyse k.toList).empty && !(analyse k.toList).multiline

mutual

/-- The tokens of a tree. The entries of a list behind a key need no block of their own. -/
def Datum.tokens (member : Bool) : Datum → List Token
  | .leaf x => [x.token false]
  | .list xs =>
    if xs.isEmpty then [.flowSequenceStart, .flowSequenceEnd]
    else if member then itemTokens xs
    else .blockSequenceStart :: itemTokens xs ++ [.blockEnd]
  | .dict es =>
    if es.isEmpty then [.flowMappingStart, .flowMappingEnd]
    else .blockMappingStart :: pairTokens es ++ [.blockEnd]

def itemTokens : List Datum → List Token
  | [] => []
  | x :: xs => .blockEntry :: x.tokens false ++ itemTokens xs

def pairTokens : List (String × Datum) → List Token
  | [] => []
  | (k, x) :: es =>
    .key :: (Leaf.text k).token (isShortKey k) :: .value :: x.tokens (isShortKey k) ++ pairTokens es

end

/-! ## Pieces of blocks -/

/-- What a node is cut into that stands behind a mark, at a column, up to the end of its last line. -/
structure IsBody (m : Nat) (w : List Char) (us : List Token) : Prop where
  begins : BeginsToken w
  leads : ∀ ⦃p b q : Place⦄ ⦃k : Nat⦄ (ts : List Token) (indents : List Int), p.Goes w b → p.column = m →
    NextLine b k q → k ≤ indents.headD (-1) → indents.headD (-1) < m →
    Leads (idle p ts indents true) (idle q (ts ++ us) indents true)

/-- What a node is cut into that ends on the line of its key. -/
structure IsInline (n : Nat) (w : List Char) (us : List Token) : Prop where
  begins : BeginsToken w
  leads : ∀ ⦃p b q : Place⦄ ⦃k : Nat⦄ (ts : List Token) (indents : List Int) (allowed : Bool), p.Goes w b →
    NextLine b k q → k ≤ indents.headD (-1) → indents.headD (-1) < p.column → indents.headD (-1) < n →
    Leads (idle p ts indents allowed) (idle q (ts ++ us) indents true)

/-- What entries of a block at a column are cut into; the first one begins the block unless it has begun. -/
structure IsEntries (start : Token) (m : Nat) (w : List Char) (us : List Token) : Prop where
  begins : BeginsToken w
  leads : ∀ ⦃p b q : Place⦄ ⦃k : Nat⦄ (ts : List Token) (indents : List Int), p.Goes w b → p.column = m →
    NextLine b k q → k ≤ m → indents.headD (-1) ≤ m →
    Leads (idle p ts indents true) (idle q ((enter ts indents m start).1 ++ us) (enter ts indents m start).2 true)

theorem IsScalar.inline (h : IsScalar n w t) : IsInline n w [t] :=
  ⟨h.begins, fun _ _ _ _ ts indents allowed hgoes hline hk hp hn => leads_scalar ts indents allowed h hgoes hline hp hk hn⟩

theorem isInline_brackets {l r : Char} {start stop : Token} (h : Brackets l r start stop) :
    IsInline n [l, r] [start, stop] := by
  refine ⟨?_, fun _ _ _ _ ts indents allowed hgoes hline _ hp _ => leads_brackets ts indents allowed h hgoes hline hp⟩
  cases h <;> exact ⟨_, _, rfl, by decide, by decide, by decide⟩

theorem IsInline.body (h : IsInline m w us) : IsBody m w us :=
  ⟨h.begins, fun _ _ _ _ ts indents hgoes hp hline hk hm => h.leads ts indents true hgoes hline hk (by rwa [hp]) hm⟩

theorem enter_head (ts : List Token) {indents : List Int} (start : Token) (h : indents.headD (-1) ≤ m) :
    (enter ts indents m start).2.headD (-1) = m := by
  unfold enter
  split
  case isTrue => rfl
  case isFalse hnot => exact le_antisymm h (not_lt.1 hnot)

theorem enter_of_head (ts : List Token) {indents : List Int} (start : Token) (h : indents.headD (-1) = m) :
    enter ts indents m start = (ts, indents) := if_neg (by rw [h]; exact lt_irrefl _)

theorem nextLine_of_goes {p q : Place} (h : p.Goes ('\n' :: (List.replicate m ' ' ++ w)) q) (hw : BeginsToken w) :
    ∃ r, NextLine p m r ∧ r.Goes w q := by
  obtain ⟨r, hline, hmore⟩ := (Goes.split h : ∃ r, p.Goes ('\n' :: List.replicate m ' ') r ∧ r.Goes w q)
  exact ⟨r, ⟨hline, hw.atToken hmore.rest⟩, hmore⟩

/-- **Entries and entries behind them on the next line** are entries. -/
theorem IsEntries.append {start : Token} (hw : IsEntries start m w us) (hv : IsEntries start m v vs) :
    IsEntries start m (w ++ '\n' :: (List.replicate m ' ' ++ v)) (us ++ vs) := by
  refine ⟨?_, fun p b q k ts indents hgoes hp hline hk hm => ?_⟩
  · obtain ⟨c, cs, rfl, hc⟩ := hw.begins
    exact ⟨c, _, rfl, hc⟩
  · obtain ⟨x, hfirst, hrest⟩ := hgoes.split
    obtain ⟨y, hnext, hsecond⟩ := nextLine_of_goes hrest hv.begins
    have hhead := enter_head ts start hm
    have hlast := hv.leads ((enter ts indents m start).1 ++ us) (enter ts indents m start).2 hsecond hnext.column hline hk hhead.le
    rw [enter_of_head _ _ hhead, List.append_assoc] at hlast
    exact (hw.leads ts indents hfirst hp hnext (Nat.le_refl _) hm).trans hlast

/-- **Entries are the body of a block**, which ends where something is indented less. -/
theorem IsEntries.body {start : Token} (h : IsEntries start m w us) : IsBody m w (start :: us ++ [.blockEnd]) := by
  refine ⟨h.begins, fun p b q k ts indents hgoes hp hline hk hm => ?_⟩
  have hopen : enter ts indents m start = (ts ++ [start], (m : Int) :: indents) := if_pos hm
  have hentries := h.leads ts indents hgoes hp hline (by omega) hm.le
  rw [hopen] at hentries
  have hclose := leads_close (ts ++ [start] ++ us) indents true
    (show (q.column : Int) < m by rw [hline.column]; omega)
  simpa using hentries.trans hclose

/-- **A node behind a mark** is an entry. -/
theorem IsBody.marked {c : Char} {start mark : Token} (h : IsBody (m + 2) w us)
    (hmark : (c = '-' ∧ start = .blockSequenceStart ∧ mark = .blockEntry) ∨
      (c = '?' ∧ start = .blockMappingStart ∧ mark = .key) ∨ (c = ':' ∧ start = .blockMappingStart ∧ mark = .value)) :
    IsEntries start m (c :: ' ' :: w) (mark :: us) := by
  have hc : isGap c = false ∧ c ≠ '#' ∧ c.toNat ≠ 0xfeff ∧ IsOneColumn c := by
    rcases hmark with ⟨rfl, -⟩ | ⟨rfl, -⟩ | ⟨rfl, -⟩ <;> exact ⟨by decide, by decide, by decide, by decide, by decide⟩
  refine ⟨⟨c, _, rfl, hc.1, hc.2.1, hc.2.2.1⟩, fun p b q k ts indents hgoes hp hline hk hm => ?_⟩
  obtain ⟨x, hfirst, hsecond⟩ := (Goes.split hgoes : ∃ x, p.Goes [c, ' '] x ∧ x.Goes w b)
  have hcolumn : x.column = m + 2 := by
    rw [(hfirst.column _).2, hp]
    · rfl
    · intro d hd
      simp only [List.mem_cons, List.not_mem_nil, or_false] at hd
      rcases hd with rfl | rfl
      · exact hc.2.2.2
      · exact isOneColumn_space
  have hmarked := leads_mark ts indents hmark hfirst (h.begins.atToken hsecond.rest) (by rwa [hp])
  rw [hp] at hmarked
  have hhead := enter_head ts start hm
  have hbody := h.leads ((enter ts indents m start).1 ++ [mark]) (enter ts indents m start).2
    hsecond hcolumn hline (by rw [hhead]; exact_mod_cast hk) (by rw [hhead]; push_cast; omega)
  simpa using hmarked.trans hbody

/-! ## Pairs -/

/-- A scalar on one short line. -/
structure IsKey (m : Nat) (w : List Char) (t : Token) : Prop where
  scalar : IsScalar (m + 2) w t
  printed : ∀ c ∈ w, IsPrinted c
  length : w.length ≤ 1024

/-- What stands behind the colon of a key in front of which a block stands at a column. -/
def IsValue (m : Nat) (v : List Char) (us : List Token) : Prop :=
  ∀ ⦃w : List Char⦄ ⦃t : Token⦄, IsKey m w t → IsEntries .blockMappingStart m (w ++ ':' :: v) (.key :: t :: .value :: us)

theorem IsKey.leads (h : IsKey m w t) {p b x q : Place} (ts : List Token) (indents : List Int) {allowed : Bool}
    (hp : p.column = m) (hgoes : p.Goes w b) (hcolon : b.Goes [':'] x) (hbehind : BehindColon x allowed q)
    (hm : indents.headD (-1) ≤ m) :
    Leads (idle p ts indents true)
      (idle q ((enter ts indents m .blockMappingStart).1 ++ [.key, t, .value])
        (enter ts indents m .blockMappingStart).2 allowed) := by
  obtain ⟨c, cs, rfl, -⟩ := h.scalar.begins
  have hkey := leads_key ts indents h.scalar hgoes (fun d hd => (h.printed d hd).1)
    (List.cons_ne_nil c cs) h.length hcolon hbehind (by rwa [hp]) (by push_cast; omega)
  rwa [hp] at hkey

theorem IsKey.begins (h : IsKey m w t) (v : List Char) : BeginsToken (w ++ v) := by
  obtain ⟨c, cs, rfl, hc⟩ := h.scalar.begins
  exact ⟨c, cs ++ v, rfl, hc⟩

/-- **The value of a key may stand on its line**, -/
theorem IsInline.value (h : IsInline (m + 2) v us) : IsValue m (' ' :: v) us := by
  refine fun w t hkey => ⟨hkey.begins _, fun p b q k ts indents hgoes hp hline hk hm => ?_⟩
  obtain ⟨x, hw, hrest⟩ := hgoes.split
  obtain ⟨y, hcolon, hrest⟩ := (Goes.split hrest : ∃ y, x.Goes [':'] y ∧ y.Goes (' ' :: v) b)
  obtain ⟨z, hblank, hv⟩ := (Goes.split hrest : ∃ z, y.Goes [' '] z ∧ z.Goes v b)
  have hfirst := hkey.leads ts indents hp hw hcolon (.here (k := 0) hblank (h.begins.atToken hv.rest)) hm
  have hcolumn : m < z.column := by
    have h₁ := (hw.column fun d hd => (hkey.printed d hd).1).2
    have h₂ := (hcolon.column fun d hd => by rw [List.mem_singleton.1 hd]; exact ⟨by decide, by decide⟩).2
    have h₃ := (hblank.column fun d hd => by rw [List.mem_singleton.1 hd]; exact isOneColumn_space).2
    simp only [List.length_singleton] at h₂ h₃
    omega
  have hhead := enter_head ts .blockMappingStart hm
  have hvalue := h.leads ((enter ts indents m .blockMappingStart).1 ++ [.key, t, .value])
    (enter ts indents m .blockMappingStart).2 false hv hline (by rw [hhead]; exact_mod_cast hk)
    (by rw [hhead]; exact_mod_cast hcolumn) (by rw [hhead]; push_cast; omega)
  simpa using hfirst.trans hvalue

/-- **a list at the column of the key** may follow it, -/
theorem IsEntries.value (h : IsEntries .blockSequenceStart m v us) : IsValue m ('\n' :: (List.replicate m ' ' ++ v)) us := by
  refine fun w t hkey => ⟨hkey.begins _, fun p b q k ts indents hgoes hp hline hk hm => ?_⟩
  obtain ⟨x, hw, hrest⟩ := hgoes.split
  obtain ⟨y, hcolon, hrest⟩ := (Goes.split hrest : ∃ y, x.Goes [':'] y ∧ y.Goes ('\n' :: (List.replicate m ' ' ++ v)) b)
  obtain ⟨z, hnext, hv⟩ := nextLine_of_goes hrest h.begins
  have hfirst := hkey.leads ts indents hp hw hcolon (.line hnext) hm
  have hhead := enter_head ts .blockMappingStart hm
  have hvalue := h.leads ((enter ts indents m .blockMappingStart).1 ++ [.key, t, .value])
    (enter ts indents m .blockMappingStart).2 hv hnext.column hline hk hhead.le
  rw [enter_of_head _ _ hhead] at hvalue
  simpa using hfirst.trans hvalue

/-- **and so may a block that is indented deeper.** -/
theorem IsBody.value (h : IsBody (m + 2) v us) : IsValue m ('\n' :: (List.replicate (m + 2) ' ' ++ v)) us := by
  refine fun w t hkey => ⟨hkey.begins _, fun p b q k ts indents hgoes hp hline hk hm => ?_⟩
  obtain ⟨x, hw, hrest⟩ := hgoes.split
  obtain ⟨y, hcolon, hrest⟩ :=
    (Goes.split hrest : ∃ y, x.Goes [':'] y ∧ y.Goes ('\n' :: (List.replicate (m + 2) ' ' ++ v)) b)
  obtain ⟨z, hnext, hv⟩ := nextLine_of_goes hrest h.begins
  have hfirst := hkey.leads ts indents hp hw hcolon (.line hnext) hm
  have hhead := enter_head ts .blockMappingStart hm
  have hvalue := h.leads ((enter ts indents m .blockMappingStart).1 ++ [.key, t, .value])
    (enter ts indents m .blockMappingStart).2 hv hnext.column hline (by rw [hhead]; exact_mod_cast hk)
    (by rw [hhead]; push_cast; omega)
  simpa using hfirst.trans hvalue

/-! ## Where entries are written -/

namespace Page

variable {p q r : Page}

/-- The second page is the first with a text written behind it, in which nothing stands that may not stand in a
document. -/
structure Prints (p : Page) (w : List Char) (q : Page) : Prop extends p.Writes w q where
  clean : p.Clean → q.Clean

theorem Prints.trans (h : p.Prints w q) (h' : q.Prints v r) : p.Prints (w ++ v) r :=
  ⟨h.toWrites.trans h'.toWrites, fun hp => h'.clean (h.clean hp)⟩

theorem prints_indicator (p : Page) (s : String) (needBlank blankAfter keepsIndent : Bool)
    (hs : s.toList.all isAllowed = true) :
    p.Prints ((if p.afterBlank || !needBlank then [] else [' ']) ++ s.toList)
      (p.indicator s needBlank blankAfter keepsIndent) :=
  ⟨writes_indicator p s needBlank blankAfter keepsIndent, fun hp => hp.indicator hs needBlank blankAfter keepsIndent⟩

/-- An entry of a block at a column can be written. -/
structure Starts (m : Nat) (p : Page) : Prop where
  indent : p.indent = some m
  column : p.column = m
  afterBlank : p.afterBlank = true
  atIndent : p.atIndent = true

/-- Something has been written on the line of a block. -/
structure Ends (m : Nat) (p : Page) : Prop where
  indent : p.indent = some m
  atIndent : p.atIndent = false

/-- The mark of an entry has been written. -/
structure Marked (m : Nat) (p : Page) : Prop where
  indent : p.indent = some m
  column : p.column = m + 1
  afterBlank : p.afterBlank = false
  atIndent : p.atIndent = true

/-- A text brings the page to where an entry of a block at a column can be written. -/
structure Turns (m : Nat) (w : List Char) (p : Page) : Prop where
  prints : { p with indent := some m }.Prints w { p with indent := some m }.toIndent
  starts : { p with indent := some m }.toIndent.Starts m

theorem clean_toIndent (p : Page) : p.Clean → p.toIndent.Clean := Clean.toIndent

/-- Behind something the next entry is written on the next line. -/
theorem Ends.toIndent (h : p.Ends m) :
    p.Writes ('\n' :: List.replicate m ' ') p.toIndent ∧ p.toIndent.Starts m := by
  unfold Page.toIndent
  simp only [h.indent, h.atIndent, Option.getD_some, Bool.not_false, Bool.true_or, if_true]
  by_cases hm : (p.lineBreak '\n').column < m
  · rw [if_pos hm]
    refine ⟨?_, h.indent, rfl, rfl, rfl⟩
    exact (writes_lineBreak p '\n').trans ⟨by simp [lineBreak], rfl⟩
  · rw [if_neg hm]
    obtain rfl : m = 0 := Nat.eq_zero_of_not_pos hm
    exact ⟨writes_lineBreak p '\n', h.indent, rfl, rfl, rfl⟩

theorem turns_of_line (m : Nat) (h : p.atIndent = false) : p.Turns m ('\n' :: List.replicate m ' ') :=
  have hends : { p with indent := some m }.Ends m := ⟨rfl, h⟩
  ⟨⟨hends.toIndent.1, clean_toIndent _⟩, hends.toIndent.2⟩

/-- Behind a mark the first entry of a deeper block is written on the same line. -/
theorem Marked.turns (h : p.Marked m) : p.Turns (m + 2) [' '] := by
  have hturns : { p with indent := some (m + 2) }.Writes [' '] { p with indent := some (m + 2) }.toIndent ∧
      { p with indent := some (m + 2) }.toIndent.Starts (m + 2) := by
    unfold Page.toIndent
    simp only [h.column, h.atIndent, h.afterBlank, Option.getD_some]
    have hless : m + 1 < m + 2 := Nat.lt_succ_self _
    have hcond : (!true || decide (m + 1 > m + 2) || decide (m + 1 = m + 2) && !false) = false := by simp
    simp only [hcond, Bool.false_eq_true, if_false, if_pos hless]
    refine ⟨⟨?_, rfl⟩, rfl, rfl, rfl, rfl⟩
    have hone : m + 2 - (m + 1) = 1 := by omega
    simp [hone]
  exact ⟨⟨hturns.1, clean_toIndent _⟩, hturns.2⟩

theorem turns_blank : blank.Turns 0 [] :=
  ⟨⟨⟨rfl, rfl⟩, clean_toIndent _⟩, rfl, rfl, rfl, rfl⟩

theorem Starts.mark (h : p.Starts m) {s : String} {c : Char} (hs : s.toList = [c]) (hc : isAllowed c = true) :
    p.Prints [c] (p.indicator s true false true) ∧ (p.indicator s true false true).Marked m := by
  have hw := prints_indicator p s true false true (by simp [hs, hc])
  rw [h.afterBlank, hs] at hw
  refine ⟨hw, h.indent, ?_, rfl, ?_⟩
  · unfold indicator
    simp [h.afterBlank, h.column, ← String.length_toList, hs]
  · exact (Bool.and_true _).trans h.atIndent

end Page

/-! ## What is kept -/

/-- Data without parts is kept in a block at an indentation: single quotes lose one character, and double
quotes lose some blanks where lines are folded at every chance. -/
def Leaf.Kept (indent : Nat) (x : Leaf) : Prop :=
  (∀ c ∈ x.shown.toList, c.toNat ≠ 0x85) ∧
    (x.style false = .double → lineWidth ≤ indent + 2 → ¬ BlankBehindEscape x.shown.toList)

/-- A key is kept in a block at an indentation. In front of a colon nothing is folded, but there is a limit. -/
def KeptKey (indent : Nat) (k : String) : Prop :=
  if isShortKey k then ∀ c ∈ k.toList, c.toNat ≠ 0x85 ∧ c.toNat ≤ 0xffff else (Leaf.text k).Kept indent

mutual

/-- All texts of a tree are kept at their indentations, in a block at an indentation. -/
def Datum.Kept (member : Bool) (indent : Nat) : Datum → Prop
  | .leaf x => x.Kept indent
  | .list xs => KeptItems (if member then indent else indent + 2) xs
  | .dict es => KeptPairs (indent + 2) es

def KeptItems (indent : Nat) : List Datum → Prop
  | [] => True
  | x :: xs => x.Kept false indent ∧ KeptItems indent xs

def KeptPairs (indent : Nat) : List (String × Datum) → Prop
  | [] => True
  | (k, x) :: es => KeptKey indent k ∧ x.Kept (isShortKey k) indent ∧ KeptPairs indent es

end

/-! ## What is written for data without parts -/

/-- What is written for a tree behind a mark. -/
def WritesBody (g : Graph) (x : Datum) : Prop :=
  ∀ ⦃fuel id m p⦄ (inMapping : Bool), Holds false g id x → x.size ≤ fuel → x.Kept false m → Page.Marked m p →
    ∃ w q, putNode g [] fuel ⟨inMapping, false⟩ id ⟨p, []⟩ = ⟨q, []⟩ ∧ p.Prints (' ' :: w) q ∧ q.Ends m ∧
      IsBody (m + 2) w (x.tokens false)

/-- What is written for a tree behind the colon of a key on the same line. -/
def WritesValue (g : Graph) (x : Datum) : Prop :=
  ∀ ⦃fuel id m p⦄, Holds false g id x → x.size ≤ fuel → x.Kept true m → Page.Ends m p → p.afterBlank = false →
    m + 1 ≤ p.column →
    ∃ v q, putNode g [] fuel ⟨true, false⟩ id ⟨p, []⟩ = ⟨q, []⟩ ∧ p.Prints v q ∧ q.Ends m ∧ IsValue m v (x.tokens true)

variable {g : Graph} {p : Page} {fuel : Nat} {id : NodeId}

/-- A node that has no name is written for what it holds. -/
theorem putNode_of_content {node : Node} (h : g[id]? = some node) (spot : Spot) (p : Page) :
    putNode g [] (fuel + 1) spot id ⟨p, []⟩ = putContent g [] (putNode g [] fuel) spot node ⟨p, []⟩ := by
  have hnode : g.getD id ⟨tagOf "null", .scalar "null" none⟩ = node := by
    rw [Array.getD_eq_getD_getElem?, h]
    rfl
  rw [putNode, hnode]
  rfl

theorem putNode_leaf {x : Leaf} (h : HoldsLeaf false g id x) (spot : Spot)
    (hkey : spot.isKey = true → x.kind = "str") (p : Page) :
    putNode g [] (fuel + 1) spot id ⟨p, []⟩ = ⟨putScalar spot.isKey x p, []⟩ := by
  obtain ⟨style, hstyle, hnode⟩ := h
  obtain rfl : style = none := by simpa using hstyle
  rw [putNode_of_content hnode, putContent_scalar hkey]

/-- Data without parts is written on behind a blank. -/
theorem leaf_written {x : Leaf} (hx : x.Kept m) (hp : p.indent = some m) (hblank : p.afterBlank = false)
    (hcolumn : m + 1 ≤ p.column) :
    ∃ w, p.Prints (' ' :: w) (putScalar false x p) ∧ (putScalar false x p).Ends m ∧ IsInline (m + 2) w [x.token false] := by
  obtain ⟨w, hw, hscalar⟩ := putScalar_written hx.1 (fun hstyle _ => hx.2 hstyle) hp hcolumn
  rw [hblank] at hw
  exact ⟨w, ⟨hw, clean_putScalar⟩, ⟨hw.indent.trans hp, atIndent_putScalar false x⟩, hscalar.inline⟩

theorem writes_leaf (x : Leaf) : WritesBody g (.leaf x) ∧ WritesValue g (.leaf x) := by
  have hpos {fuel : Nat} (hfuel : (Datum.leaf x).size ≤ fuel) : ∃ k, fuel = k + 1 :=
    Nat.exists_eq_add_one_of_ne_zero (by have := (Datum.leaf x).size_pos; omega)
  have hnoKey {inMapping : Bool} (h : (⟨inMapping, false⟩ : Spot).isKey = true) : x.kind = "str" :=
    absurd h Bool.false_ne_true
  constructor
  · intro fuel id m p inMapping hg hfuel hx hp
    obtain ⟨fuel, rfl⟩ := hpos hfuel
    obtain ⟨w, hw, hends, hinline⟩ := leaf_written hx hp.indent hp.afterBlank hp.column.ge
    exact ⟨w, _, putNode_leaf hg _ hnoKey p, hw, hends, hinline.body⟩
  · intro fuel id m p hg hfuel hx hp hblank hcolumn
    obtain ⟨fuel, rfl⟩ := hpos hfuel
    obtain ⟨w, hw, hends, hinline⟩ := leaf_written hx hp.indent hblank hcolumn
    exact ⟨_, _, putNode_leaf hg _ hnoKey p, hw, hends, hinline.value⟩

/-! ## What is written for entries -/

/-- A fold over the members of a collection writes the entries of a block at a column. -/
def WritesEntries {α : Type} (start : Token) (m : Nat) (f : Writing → α → Writing) (as : List α) (us : List Token) : Prop :=
  ∀ ⦃v p⦄, Page.Turns m v p → ∃ w q, as.foldl f ⟨p, []⟩ = ⟨q, []⟩ ∧ { p with indent := some m }.Prints (v ++ w) q ∧
    q.Ends m ∧ IsEntries start m w us

theorem WritesEntries.cons {α : Type} {start : Token} {f : Writing → α → Writing} {a : α} {as : List α}
    (h : WritesEntries start m f [a] us) (h' : WritesEntries start m f as vs) :
    WritesEntries start m f (a :: as) (us ++ vs) := by
  intro v p hp
  obtain ⟨w, q, hq, hw, hends, hentries⟩ := h hp
  obtain ⟨x, r, hr, hx, hends', hentries'⟩ := h' (Page.turns_of_line m hends.atIndent)
  refine ⟨_, r, ?_, ?_, hends', hentries.append hentries'⟩
  · rw [List.foldl_cons, show f ⟨p, []⟩ a = ⟨q, []⟩ from hq]
    exact hr
  · have hsame : ({ q with indent := some m } : Page) = q := by rw [← hends.indent]
    rw [hsame] at hx
    simpa using hw.trans hx

theorem WritesBody.item {x : Datum} (fuel : Nat) (h : WritesBody g x) (hg : Holds false g id x) (hfuel : x.size ≤ fuel)
    (hx : x.Kept false m) :
    WritesEntries .blockSequenceStart m (putItem (putNode g [] fuel) (some m)) [id] (.blockEntry :: x.tokens false) := by
  intro v p hp
  obtain ⟨hmark, hmarked⟩ := hp.starts.mark (s := "-") (c := '-') rfl (by decide)
  obtain ⟨w, q, hq, hw, hends, hbody⟩ := h false hg hfuel hx hmarked
  refine ⟨'-' :: ' ' :: w, q, hq, ?_, hends, hbody.marked (.inl ⟨rfl, rfl, rfl⟩)⟩
  simpa using (hp.prints.trans hmark).trans hw

theorem isSimpleKey_of_text {key : String} (h : HoldsLeaf false g id (.text key)) :
    isSimpleKey g [] [] id = isShortKey key := by
  obtain ⟨style, -, hnode⟩ := h
  unfold isSimpleKey isShortKey
  rw [hnode]
  simp only [List.any_nil, Bool.false_and, Bool.false_eq_true, if_false, Nat.zero_add]
  rfl

/-- The page behind a short key and its colon. -/
def behindKey (m : Nat) (key : String) (p : Page) : Page :=
  { putScalar true (.text key) p with indent := some m }.indicator ":" false false false

/-- A short key is written in front of the colon. -/
theorem key_written {key : String} (hshort : isShortKey key = true) (hkey : KeptKey m key) (hp : p.Starts m) :
    ∃ w, IsKey m w ((Leaf.text key).token true) ∧ p.Prints (w ++ [':']) (behindKey m key p) ∧
      m + 1 ≤ (behindKey m key p).column := by
  rw [KeptKey, if_pos hshort] at hkey
  simp only [isShortKey, Bool.and_eq_true, decide_eq_true_eq, Bool.not_eq_true'] at hshort
  obtain ⟨⟨hlength, -⟩, hline⟩ := hshort
  obtain ⟨w, hscalar, hprinted, hshort, hputs⟩ := putScalar_key (x := .text key) hline hkey m
  have hw := hputs p hp.afterBlank
  have hindent : ({ putScalar true (.text key) p with indent := some m } : Page) = putScalar true (.text key) p := by
    rw [← hp.indent]
    rfl
  have hcolon := Page.prints_indicator (putScalar true (.text key) p) ":" false false false (by decide)
  refine ⟨w, ⟨hscalar, hprinted, ?_⟩, ?_, ?_⟩
  · have htext : (Leaf.text key).shown.toList.length = key.length := String.length_toList
    rw [htext] at hshort
    omega
  · rw [behindKey, hindent]
    have hprints : p.Prints w (putScalar true (.text key) p) := ⟨hw.toWrites, clean_putScalar⟩
    simpa using hprints.trans hcolon
  · rw [behindKey, hindent]
    have hcolumn := (Page.puts_indicator (putScalar true (.text key) p) ":" false false false).column
    rw [hw.column, hp.column] at hcolumn
    simp at hcolumn
    omega

/-- **A pair is written** with the value on the line of the key or below it. -/
theorem pair_written {key : String} {x : Datum} (fuel : Nat) (h : WritesBody g x ∧ WritesValue g x)
    (hkey : HoldsLeaf false g id (.text key)) (hg : Holds false g (id + 1) x) (hfuel : x.size + 1 ≤ fuel)
    (hkept : KeptKey m key) (hx : x.Kept (isShortKey key) m) :
    WritesEntries .blockMappingStart m (putPair g [] (putNode g [] fuel) (some m)) [(id, id + 1)]
      (.key :: (Leaf.text key).token (isShortKey key) :: .value :: x.tokens (isShortKey key)) := by
  intro v p hp
  have hsimple := isSimpleKey_of_text hkey
  rw [List.foldl_cons, List.foldl_nil]
  unfold putPair
  dsimp only
  cases hshort : isShortKey key with
  | true =>
    rw [hshort] at hx hsimple
    obtain ⟨w, hisKey, hw, hcolumn⟩ := key_written hshort hkept hp.starts
    obtain ⟨fuel, rfl⟩ := Nat.exists_eq_add_one_of_ne_zero (by omega : fuel ≠ 0)
    obtain ⟨u, q, hq, hu, hends, hvalue⟩ :=
      h.2 hg (Nat.le_of_succ_le hfuel) hx (p := behindKey m key _) ⟨rfl, Bool.and_false _⟩ rfl hcolumn
    refine ⟨w ++ ':' :: u, q, ?_, ?_, hends, hvalue hisKey⟩
    · rw [hsimple, if_pos rfl, putNode_leaf hkey _ (fun _ => rfl)]
      exact hq
    · simpa using (hp.prints.trans hw).trans hu
  | false =>
    rw [hshort] at hx hsimple
    rw [KeptKey, hshort, if_neg Bool.false_ne_true] at hkept
    rw [hsimple, if_neg Bool.false_ne_true]
    obtain ⟨hask, hasked⟩ := hp.starts.mark (s := "?") (c := '?') rfl (by decide)
    obtain ⟨w, q, hq, hw, hends, hbody⟩ := (writes_leaf (.text key)).1 true hkey (show 1 ≤ fuel by omega) hkept hasked
    have hturns := Page.turns_of_line m hends.atIndent
    obtain ⟨hcolon, hcoloned⟩ := hturns.starts.mark (s := ":") (c := ':') rfl (by decide)
    obtain ⟨u, r, hr, hu, hends', hbody'⟩ := h.1 true hg (Nat.le_of_succ_le hfuel) hx hcoloned
    have hsame : ({ q with indent := some m } : Page) = q := by rw [← hends.indent]
    refine ⟨_, r, ?_, ?_, hends',
      (hbody.marked (.inr (.inl ⟨rfl, rfl, rfl⟩))).append (hbody'.marked (.inr (.inr ⟨rfl, rfl, rfl⟩)))⟩
    · rw [hq]
      exact hr
    · have hline : q.Prints ('\n' :: List.replicate m ' ') { q with indent := some m }.toIndent := by
        simpa only [hsame] using hturns.prints
      simpa using (((hp.prints.trans hask).trans hw).trans hline).trans (hcolon.trans hu)

/-! ## What is written for collections -/

/-- Writing a tree is said of what stands behind a mark and of what stands behind a colon. -/
def WritesDatum (g : Graph) (x : Datum) : Prop := WritesBody g x ∧ WritesValue g x

theorem items_written {xs : List Datum} (h : ∀ x ∈ xs, WritesDatum g x) (hne : xs ≠ []) (hg : HoldsItems false g id xs)
    (hfuel : itemsSize xs ≤ fuel) (hxs : KeptItems m xs) :
    WritesEntries .blockSequenceStart m (putItem (putNode g [] fuel) (some m)) (itemIds id xs) (itemTokens xs) := by
  induction xs generalizing id with
  | nil => exact absurd rfl hne
  | cons x xs ih =>
    rw [HoldsItems] at hg
    rw [itemsSize] at hfuel
    rw [KeptItems] at hxs
    have hfirst := (h x List.mem_cons_self).1.item fuel hg.1 (by omega) hxs.1
    rw [itemIds, itemTokens]
    cases xs with
    | nil =>
      rw [itemTokens, List.append_nil]
      exact hfirst
    | cons y ys =>
      exact hfirst.cons (ih (fun z hz => h z (List.mem_cons_of_mem _ hz)) (List.cons_ne_nil y ys) hg.2 (by omega) hxs.2)

theorem pairs_written {es : List (String × Datum)} (h : ∀ e ∈ es, WritesDatum g e.2) (hne : es ≠ [])
    (hg : HoldsPairs false g id es) (hfuel : pairsSize es ≤ fuel) (hes : KeptPairs m es) :
    WritesEntries .blockMappingStart m (putPair g [] (putNode g [] fuel) (some m)) (pairIds id es) (pairTokens es) := by
  induction es generalizing id with
  | nil => exact absurd rfl hne
  | cons e es ih =>
    obtain ⟨key, x⟩ := e
    rw [HoldsPairs] at hg
    rw [pairsSize] at hfuel
    rw [KeptPairs] at hes
    have hfirst := pair_written (x := x) fuel (h (key, x) List.mem_cons_self) hg.1 hg.2.1 (by omega) hes.1 hes.2.1
    rw [pairIds, pairTokens]
    cases es with
    | nil =>
      rw [pairTokens, List.append_nil]
      exact hfirst
    | cons e es =>
      exact hfirst.cons (ih (fun z hz => h z (List.mem_cons_of_mem _ hz)) (List.cons_ne_nil e es) hg.2.2 (by omega) hes.2.2)

variable {put : Spot → NodeId → Writing → Writing} {spot : Spot} {a : NodeId}

theorem putContent_items (items : List NodeId) :
    putContent g [] put spot ⟨tagOf "seq", .sequence (a :: items)⟩ ⟨p, []⟩ =
      let inner := (p.deeper false (spot.inMapping && !p.atIndent)).indent
      let u := (a :: items).foldl (putItem put inner) ⟨p.deeper false (spot.inMapping && !p.atIndent), []⟩
      { u with page := { u.page with indent := p.indent } } := by
  unfold putContent
  simp only [if_true]

theorem putContent_pairs (pair : NodeId × NodeId) (pairs : List (NodeId × NodeId)) :
    putContent g [] put spot ⟨tagOf "map", .mapping (pair :: pairs)⟩ ⟨p, []⟩ =
      let inner := (p.deeper false false).indent
      let u := (pair :: pairs).foldl (putPair g [] put inner) ⟨p.deeper false false, []⟩
      { u with page := { u.page with indent := p.indent } } := by
  unfold putContent
  simp only [if_true]

theorem list_written {xs : List Datum} (spot : Spot) (h : ∀ x ∈ xs, WritesDatum g x) (hne : xs ≠ []) (hg : Holds false g id (.list xs))
    (hfuel : (Datum.list xs).size ≤ fuel) (hxs : KeptItems n xs)
    (hinner : p.deeper false (spot.inMapping && !p.atIndent) = { p with indent := some n }) (hturns : p.Turns n v) :
    ∃ w q, putNode g [] fuel spot id ⟨p, []⟩ = ⟨q, []⟩ ∧ p.Prints (v ++ w) q ∧ q.atIndent = false ∧
      IsEntries .blockSequenceStart n w (itemTokens xs) := by
  rw [Datum.size] at hfuel
  obtain ⟨fuel, rfl⟩ := Nat.exists_eq_add_one_of_ne_zero (by omega : fuel ≠ 0)
  rw [Holds] at hg
  obtain ⟨w, q, hq, hw, hends, hentries⟩ := items_written h hne hg.2 (Nat.le_of_succ_le_succ hfuel) hxs
    (p := { p with indent := some n }) ⟨hturns.prints, hturns.starts⟩
  refine ⟨w, { q with indent := p.indent }, ?_, ⟨⟨hw.out, rfl⟩, hw.clean⟩, hends.atIndent, hentries⟩
  rw [putNode_of_content hg.1]
  cases xs with
  | nil => exact absurd rfl hne
  | cons x xs =>
    rw [itemIds] at hq ⊢
    rw [putContent_items, hinner]
    dsimp only
    rw [hq]

theorem dict_written {es : List (String × Datum)} (spot : Spot) (h : ∀ e ∈ es, WritesDatum g e.2) (hne : es ≠ [])
    (hg : Holds false g id (.dict es)) (hfuel : (Datum.dict es).size ≤ fuel) (hes : KeptPairs n es)
    (hinner : p.deeper false false = { p with indent := some n }) (hturns : p.Turns n v) :
    ∃ w q, putNode g [] fuel spot id ⟨p, []⟩ = ⟨q, []⟩ ∧ p.Prints (v ++ w) q ∧ q.atIndent = false ∧
      IsEntries .blockMappingStart n w (pairTokens es) := by
  rw [Datum.size] at hfuel
  obtain ⟨fuel, rfl⟩ := Nat.exists_eq_add_one_of_ne_zero (by omega : fuel ≠ 0)
  rw [Holds] at hg
  obtain ⟨w, q, hq, hw, hends, hentries⟩ := pairs_written h hne hg.2 (Nat.le_of_succ_le_succ hfuel) hes
    (p := { p with indent := some n }) ⟨hturns.prints, hturns.starts⟩
  refine ⟨w, { q with indent := p.indent }, ?_, ⟨⟨hw.out, rfl⟩, hw.clean⟩, hends.atIndent, hentries⟩
  rw [putNode_of_content hg.1]
  cases es with
  | nil => exact absurd rfl hne
  | cons e es =>
    rw [pairIds] at hq ⊢
    rw [putContent_pairs, hinner]
    dsimp only
    rw [hq]

/-- An empty collection is written as a pair of brackets on the line. -/
theorem empty_written (x : Datum) (hx : x = .list [] ∨ x = .dict []) (hg : Holds false g id x) (hfuel : x.size ≤ fuel)
    (hblank : p.afterBlank = false) (member : Bool) :
    ∃ w q, putNode g [] fuel spot id ⟨p, []⟩ = ⟨q, []⟩ ∧ p.Prints (' ' :: w) q ∧ q.atIndent = false ∧
      IsInline n w (x.tokens member) := by
  obtain ⟨fuel, rfl⟩ := Nat.exists_eq_add_one_of_ne_zero (by have := x.size_pos; omega : fuel ≠ 0)
  have hbrackets (l r : String) (hl : l.toList.all isAllowed = true) (hr : r.toList.all isAllowed = true) :
      p.Prints (' ' :: (l.toList ++ r.toList)) ((p.indicator l true true false).indicator r false false false) := by
    have hopen := Page.prints_indicator p l true true false hl
    rw [hblank] at hopen
    simpa using hopen.trans (Page.prints_indicator _ r false false false hr)
  rcases hx with rfl | rfl
  · rw [Holds] at hg
    refine ⟨_, _, ?_, hbrackets "[" "]" (by decide) (by decide), Bool.and_false _, isInline_brackets .sequence⟩
    rw [putNode_of_content hg.1]
    unfold putContent
    simp only [itemIds, if_true]
  · rw [Holds] at hg
    refine ⟨_, _, ?_, hbrackets "\x7b" "\x7d" (by decide) (by decide), Bool.and_false _, isInline_brackets .mapping⟩
    rw [putNode_of_content hg.1]
    unfold putContent
    simp only [pairIds, if_true]

/-! ## What is written for trees -/

theorem Page.Marked.deeper (h : p.Marked m) (indentless : Bool) :
    p.deeper false (indentless && !p.atIndent) = { p with indent := some (m + 2) } := by
  simp [Page.deeper, h.indent, h.atIndent]

theorem Page.Ends.deeper (h : p.Ends m) (indentless : Bool) :
    p.deeper false indentless = { p with indent := some (if indentless then m else m + 2) } := by
  simp [Page.deeper, h.indent]

theorem writes_list {xs : List Datum} (h : ∀ x ∈ xs, WritesDatum g x) : WritesDatum g (.list xs) := by
  constructor
  · intro fuel id m p inMapping hg hfuel hx hp
    by_cases hne : xs = []
    · subst hne
      obtain ⟨w, q, hq, hw, hends, hinline⟩ := empty_written (n := m + 2) _ (.inl rfl) hg hfuel hp.afterBlank false
      exact ⟨w, q, hq, hw, ⟨hw.indent.trans hp.indent, hends⟩, hinline.body⟩
    · obtain ⟨w, q, hq, hw, hends, hentries⟩ := list_written (n := m + 2) ⟨inMapping, false⟩ h hne hg hfuel hx
        (hp.deeper inMapping) hp.turns
      refine ⟨w, q, hq, hw, ⟨hw.indent.trans hp.indent, hends⟩, ?_⟩
      rw [Datum.tokens, if_neg (by simpa using hne), if_neg Bool.false_ne_true]
      exact hentries.body
  · intro fuel id m p hg hfuel hx hp hblank hcolumn
    by_cases hne : xs = []
    · subst hne
      obtain ⟨w, q, hq, hw, hends, hinline⟩ := empty_written (n := m + 2) _ (.inl rfl) hg hfuel hblank true
      exact ⟨_, q, hq, hw, ⟨hw.indent.trans hp.indent, hends⟩, hinline.value⟩
    · have hinner : p.deeper false (true && !p.atIndent) = { p with indent := some m } := by
        have hflag : (true && !p.atIndent) = true := by rw [hp.atIndent]; rfl
        rw [hflag, hp.deeper, if_pos rfl]
      obtain ⟨w, q, hq, hw, hends, hentries⟩ :=
        list_written (n := m) ⟨true, false⟩ h hne hg hfuel hx hinner (Page.turns_of_line m hp.atIndent)
      refine ⟨_, q, hq, hw, ⟨hw.indent.trans hp.indent, hends⟩, ?_⟩
      rw [Datum.tokens, if_neg (by simpa using hne), if_pos rfl]
      exact hentries.value

theorem writes_dict {es : List (String × Datum)} (h : ∀ e ∈ es, WritesDatum g e.2) : WritesDatum g (.dict es) := by
  constructor
  · intro fuel id m p inMapping hg hfuel hx hp
    by_cases hne : es = []
    · subst hne
      obtain ⟨w, q, hq, hw, hends, hinline⟩ := empty_written (n := m + 2) _ (.inr rfl) hg hfuel hp.afterBlank false
      exact ⟨w, q, hq, hw, ⟨hw.indent.trans hp.indent, hends⟩, hinline.body⟩
    · obtain ⟨w, q, hq, hw, hends, hentries⟩ := dict_written _ h hne hg hfuel hx (hp.deeper false) hp.turns
      refine ⟨w, q, hq, hw, ⟨hw.indent.trans hp.indent, hends⟩, ?_⟩
      rw [Datum.tokens, if_neg (by simpa using hne)]
      exact hentries.body
  · intro fuel id m p hg hfuel hx hp hblank hcolumn
    by_cases hne : es = []
    · subst hne
      obtain ⟨w, q, hq, hw, hends, hinline⟩ := empty_written (n := m + 2) _ (.inr rfl) hg hfuel hblank true
      exact ⟨_, q, hq, hw, ⟨hw.indent.trans hp.indent, hends⟩, hinline.value⟩
    · obtain ⟨w, q, hq, hw, hends, hentries⟩ :=
        dict_written _ h hne hg hfuel hx (hp.deeper false) (Page.turns_of_line (m + 2) hp.atIndent)
      refine ⟨_, q, hq, hw, ⟨hw.indent.trans hp.indent, hends⟩, ?_⟩
      rw [Datum.tokens, if_neg (by simpa using hne)]
      exact hentries.body.value

/-- **What is written for a tree in a block is cut into its tokens.** -/
theorem writes_datum (x : Datum) : WritesDatum g x :=
  Datum.induct writes_leaf (fun _ => writes_list) (fun _ => writes_dict) x

/-! ## Whole documents -/

/-- The members of the trees of a forest are visited in the order of their numbers, so no node is met twice. -/
theorem visit_eq_nil (styled : Bool) {children : Node → List NodeId}
    (hchildren : ∀ id x, Holds styled g id x → children (g.getD id ⟨"", .scalar "" none⟩) = itemIds (id + 1) x.members)
    (fuel : Nat) (xs : List Datum) (hg : HoldsItems styled g id xs) (seen : List NodeId) (hseen : ∀ i ∈ seen, i < id) :
    anchorsOf.visit g children fuel (itemIds id xs) seen [] = [] := by
  induction fuel generalizing id xs seen with
  | zero => rfl
  | succ fuel ih =>
    cases xs with
    | nil => rfl
    | cons x xs =>
      have hnew : seen.contains id = false := by
        rw [List.contains_eq_mem, decide_eq_false_iff_not]
        exact fun h => lt_irrefl id (hseen id h)
      have hids : id + x.size = id + 1 + itemsSize x.members := by rw [x.size_eq, Nat.add_right_comm, Nat.add_assoc]
      rw [itemIds, anchorsOf.visit, hnew, if_neg Bool.false_ne_true, hchildren id x hg.1, hids, ← itemIds_append]
      refine ih _ (holdsItems_cons.1 hg).2 _ fun i hi => ?_
      rcases List.mem_cons.1 hi with rfl | hi
      · exact Nat.lt_succ_self _
      · exact Nat.lt_succ_of_lt (hseen i hi)

/-- **No node of a tree has a name.** -/
theorem anchorsOf_eq_nil {styled : Bool} {x : Datum} (hg : Holds styled g id x) : anchorsOf g id = [] := by
  refine visit_eq_nil styled (fun id x h => ?_) _ [x] ⟨hg, trivial⟩ [] (List.forall_mem_nil _)
  cases x with
  | leaf x =>
    obtain ⟨style, -, hnode⟩ := h
    simp [hnode, Datum.members, itemIds]
  | list xs =>
    rw [Holds] at h
    simp [h.1, Datum.members]
  | dict es =>
    rw [Holds] at h
    simp only [Array.getD_eq_getD_getElem?, h.1, Option.getD_some]
    exact pairIds_flatMap es

/-- The last line ends. -/
theorem toIndent_last {q : Page} (h : q.atIndent = false) : { q with indent := none }.toIndent.out = q.out.push '\n' := by
  unfold Page.toIndent
  simp [h, Page.lineBreak]

/-- A block that begins at the start of a text and ends at its last line is the whole text. -/
theorem IsEntries.tokensOf {text : String} (h : IsEntries .blockMappingStart 0 w us) (htext : text.toList = w ++ ['\n'])
    (hclean : ∀ c ∈ text.toList, isAllowed c = true) : tokensOf text = .ok (.blockMappingStart :: us ++ [.blockEnd, .streamEnd]) := by
  have hstart : AtToken ⟨text.toList, 0, 0, 0⟩ := h.begins.atToken htext
  obtain ⟨b, hfirst⟩ : ∃ b, Place.Goes ⟨text.toList, 0, 0, 0⟩ w b := ⟨_, goes_skip htext⟩
  have hrest : b.rest = ['\n'] := List.append_cancel_left (hfirst.rest.symm.trans htext)
  have hlast : b.Goes ['\n'] b.step := Goes.step hrest
  have hend : b.step.rest = [] := List.append_cancel_left (hlast.rest.symm.trans hrest)
  have hline : NextLine b 0 b.step := ⟨hlast, fun c cs hc => by rw [hend] at hc; cases hc⟩
  have hleads := h.leads [] [] hfirst rfl hline (Nat.le_refl 0) (by decide)
  have hgoes : Place.Goes ⟨text.toList, 0, 0, 0⟩ text.toList b.step := by
    rw [htext]
    exact (htext ▸ hfirst).trans hlast
  have htokens := tokensOf_of_leads hclean hstart hgoes hline.column hleads
  rw [htokens]
  rfl

/-- **The text of a dictionary is cut into its tokens**, whatever its texts are, as long as they are kept at their places. -/
theorem tokensOf_layout {es : List (String × Datum)} (hne : es ≠ []) (hg : Holds false g 0 (.dict es))
    (hsize : (Datum.dict es).size ≤ g.size) (hkept : KeptPairs 0 es) :
    tokensOf (layout g 0) = .ok ((Datum.dict es).tokens false ++ [.streamEnd]) := by
  obtain ⟨w, q, hq, hw, hends, hentries⟩ := dict_written ⟨false, false⟩ (fun e _ => writes_datum e.2) hne hg
    (hsize.trans (Nat.le_add_right _ 2)) hkept (show Page.blank.deeper false false = { Page.blank with indent := some 0 } from rfl) Page.turns_blank
  have hout : layout g 0 = q.out.push '\n' := by
    unfold layout
    rw [anchorsOf_eq_nil hg, hq]
    exact toIndent_last hends
  have htext : (layout g 0).toList = w ++ ['\n'] := by
    rw [hout, hw.out]
    simp [Page.blank]
  have hclean : ∀ c ∈ (layout g 0).toList, isAllowed c = true := by
    have hq : q.Clean := hw.clean (List.forall_mem_nil _ : Page.blank.Clean)
    intro c hc
    rw [hout, String.toList_push] at hc
    rcases List.mem_append.1 hc with hc | hc
    · exact hq c hc
    · rw [List.mem_singleton.1 hc]
      decide
  rw [hentries.tokensOf htext hclean, Datum.tokens, if_neg (by simpa using hne)]
  simp

end Stepwise.Document
