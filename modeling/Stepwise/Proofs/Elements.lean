import Stepwise.Library.Texts
import Stepwise.Markup.Element
import Stepwise.Proofs.Contexts
/-!
# Reading built markup back

An element is put together from texts that are escaped each on its own. `Layout.chars` says how it is laid out, and
`Layout.read?` reads that back, up to the next character that ends a part. No part of a built element holds a
character that ends one (`Layout.Clear`), so reading it gives the layout again, and undoing the references in each
part gives what the element was built from.
-/

namespace Stepwise.Markup

/-! ## Escaped characters -/

/-- The characters that delimit elements and the values of attributes. -/
def isDelimiter (c : Char) : Bool := c == '<' || c == '>' || c == '"'

theorem escapeChar_clear (a : Char) : ∀ c ∈ Text.escapeChar a, isDelimiter c = false := by
  unfold Text.escapeChar
  split
  case h_6 _ hlt hgt _ hquote =>
    intro c hc
    obtain rfl := List.mem_singleton.1 hc
    simp only [isDelimiter, Bool.or_eq_false_iff, beq_eq_false_iff_ne]
    exact ⟨⟨hlt, hgt⟩, hquote⟩
  all_goals simp [isDelimiter]

/-- **An escaped text holds no delimiters.** -/
theorem escapeChars_clear (s : List Char) : ∀ c ∈ Text.escapeChars s, isDelimiter c = false := by
  intro c hc
  obtain ⟨a, -, ha⟩ := List.mem_flatMap.1 hc
  exact escapeChar_clear a c ha

/-- A reference that is known is replaced as a whole. -/
theorem withoutReferences_reference {name cs : List Char}
    (hname : name.all (fun c => c.isAlphanum || c == '#') = true) (hknown : Texts.referenceNamed name = some cs)
    (rest : List Char) :
    Texts.withoutReferences ('&' :: (name ++ ';' :: rest)) = cs ++ Texts.withoutReferences rest := by
  have htake : (name ++ ';' :: rest).takeWhile (fun c => c.isAlphanum || c == '#') = name := by
    rw [List.takeWhile_append_of_pos (List.all_eq_true.1 hname), List.takeWhile_cons_of_neg (by decide), List.append_nil]
  have hdrop : (name ++ ';' :: rest).drop name.length = ';' :: rest := List.drop_left
  have hdrop' : (name ++ ';' :: rest).drop (name.length + 1) = rest := by
    rw [← List.drop_drop, hdrop]
    rfl
  rw [Texts.withoutReferences, htake, hdrop, hknown]
  simp only [hdrop']

/-- **Escaping can be undone.** -/
theorem withoutReferences_escapeChars (s : List Char) : Texts.withoutReferences (Text.escapeChars s) = s := by
  induction s with
  | nil => rw [Text.escapeChars, List.flatMap_nil, Texts.withoutReferences]
  | cons c s ih =>
    have hcons : Text.escapeChars (c :: s) = Text.escapeChar c ++ Text.escapeChars s := List.flatMap_cons
    have hreference : ∀ name cs : List Char, name.all (fun c => c.isAlphanum || c == '#') = true →
        Texts.referenceNamed name = some cs →
        Texts.withoutReferences ('&' :: (name ++ ';' :: Text.escapeChars s)) = cs ++ s := by
      intro name cs hname hknown
      rw [withoutReferences_reference hname hknown, ih]
    rw [hcons]
    unfold Text.escapeChar
    split
    case h_1 => exact hreference ['a', 'm', 'p'] ['&'] (by decide) (by decide)
    case h_2 => exact hreference ['l', 't'] ['<'] (by decide) (by decide)
    case h_3 => exact hreference ['g', 't'] ['>'] (by decide) (by decide)
    case h_4 => exact hreference ['#', '3', '9'] ['\''] (by decide) (by decide)
    case h_5 => exact hreference ['#', '3', '4'] ['"'] (by decide) (by decide)
    case h_6 hamp _ _ _ _ => rw [List.singleton_append, Texts.withoutReferences.eq_3 _ _ hamp, ih]

/-! ## Layouts -/

/-- How an element is laid out: its tag, its attributes with the values that they have, and what stands between the
opening tag and the closing one. -/
structure Layout where
  tag : List Char
  attributes : List (List Char × Option (List Char))
  body : List Char

namespace Layout

/-- An attribute behind its blank. -/
def attributeChars : List Char × Option (List Char) → List Char
  | (name, none) => ' ' :: name
  | (name, some value) => ' ' :: (name ++ '=' :: '"' :: (value ++ ['"']))

def chars (l : Layout) : List Char :=
  '<' :: (l.tag ++ (l.attributes.flatMap attributeChars ++ '>' :: (l.body ++ '<' :: '/' :: (l.tag ++ ['>']))))

/-- No part holds a delimiter, so that the only ones are those of the layout. -/
structure Clear (l : Layout) : Prop where
  tag : ∀ c ∈ l.tag, isDelimiter c = false
  names : ∀ a ∈ l.attributes, ∀ c ∈ a.1, isDelimiter c = false
  values : ∀ a ∈ l.attributes, ∀ value ∈ a.2, ∀ c ∈ value, isDelimiter c = false
  body : ∀ c ∈ l.body, isDelimiter c = false

/-! ### Reading layouts -/

/-- What stands in front of the first character of a kind, and the rest. -/
def cut (stop : Char → Bool) (s : List Char) : List Char × List Char :=
  (s.takeWhile (!stop ·), s.dropWhile (!stop ·))

/-- What ends the name of an attribute. -/
def endsName (c : Char) : Bool := Text.isBlank c || c == '=' || c == '>'

/-- Reads an attribute: a name, with a value if an equals sign and a quote follow. -/
def readAttribute? (s : List Char) : Option ((List Char × Option (List Char)) × List Char) :=
  match cut endsName s with
  | (name, '=' :: '"' :: s) =>
    match cut (· == '"') s with
    | (value, '"' :: s) => some ((name, some value), s)
    | _ => none
  | (name, s) => some ((name, none), s)

/-- Reads attributes, a blank in front of each, up to the end of the opening tag. -/
def readAttributes? : Nat → List Char → Option (List (List Char × Option (List Char)) × List Char)
  | n + 1, c :: s =>
    if c == '>' then some ([], s)
    else if Text.isBlank c then
      (readAttribute? s).bind fun (a, s) => (readAttributes? n s).map fun (as, s) => (a :: as, s)
    else none
  | _, _ => none

/-- Reads an element: the tag, the attributes, and the text up to the closing tag, which ends it. -/
def read? : List Char → Option Layout
  | '<' :: s =>
    let (tag, s) := cut (fun c => Text.isBlank c || c == '>') s
    (readAttributes? s.length s).bind fun (attributes, s) =>
      let (body, s) := cut (· == '<') s
      if s = '<' :: '/' :: (tag ++ ['>']) then some ⟨tag, attributes, body⟩ else none
  | _ => none

theorem cut_append {stop : Char → Bool} {part : List Char} (hpart : ∀ c ∈ part, stop c = false) {c : Char}
    (hc : stop c = true) (rest : List Char) : cut stop (part ++ c :: rest) = (part, c :: rest) := by
  have hgo : ∀ c ∈ part, (!stop c) = true := fun c h => by rw [hpart c h]; rfl
  have hstop : ¬ (!stop c) = true := by rw [hc]; decide
  rw [cut, List.takeWhile_append_of_pos hgo, List.dropWhile_append_of_pos hgo,
    List.takeWhile_cons_of_neg (p := fun c => !stop c) hstop, List.dropWhile_cons_of_neg (p := fun c => !stop c) hstop,
    List.append_nil]

/-- **An attribute is read as it is laid out**, where something follows that ends a name. -/
theorem readAttribute?_chars {a : List Char × Option (List Char)} (hname : ∀ c ∈ a.1, endsName c = false)
    (hvalue : ∀ value ∈ a.2, ∀ c ∈ value, (c == '"') = false) {c : Char} (hc : c = ' ' ∨ c = '>') (s : List Char) :
    readAttribute? ((attributeChars a).tail ++ c :: s) = some (a, c :: s) := by
  obtain ⟨name, _ | value⟩ := a
  · have hcut : cut endsName (name ++ c :: s) = (name, c :: s) :=
      cut_append hname (by rcases hc with rfl | rfl <;> decide) s
    change readAttribute? (name ++ c :: s) = _
    rw [readAttribute?, hcut]
    rcases hc with rfl | rfl <;> rfl
  · have hname : cut endsName (name ++ '=' :: ('"' :: (value ++ '"' :: c :: s))) =
        (name, '=' :: ('"' :: (value ++ '"' :: c :: s))) := cut_append hname rfl _
    have hvalue : cut (· == '"') (value ++ '"' :: c :: s) = (value, '"' :: c :: s) :=
      cut_append (hvalue value rfl) rfl _
    have hchars : (attributeChars (name, some value)).tail ++ c :: s =
        name ++ '=' :: ('"' :: (value ++ '"' :: c :: s)) := by
      simp [attributeChars]
    rw [hchars, readAttribute?, hname]
    simp only [hvalue]

/-- Attributes begin with a blank, and behind them the opening tag ends. -/
theorem attributes_begin (attributes : List (List Char × Option (List Char))) (rest : List Char) :
    ∃ c s, attributes.flatMap attributeChars ++ '>' :: rest = c :: s ∧ (c = ' ' ∨ c = '>') := by
  rcases attributes with _ | ⟨⟨name, _ | value⟩, as⟩
  · exact ⟨_, _, rfl, .inr rfl⟩
  · exact ⟨_, _, rfl, .inl rfl⟩
  · exact ⟨_, _, rfl, .inl rfl⟩

theorem length_le_chars (attributes : List (List Char × Option (List Char))) :
    attributes.length ≤ (attributes.flatMap attributeChars).length := by
  induction attributes with
  | nil => exact Nat.le_refl _
  | cons a as ih =>
    have hone : 0 < (attributeChars a).length := by
      obtain ⟨name, _ | value⟩ := a <;> exact Nat.succ_pos _
    rw [List.flatMap_cons, List.length_append, List.length_cons]
    omega

/-- **So are attributes.** -/
theorem readAttributes?_chars {attributes : List (List Char × Option (List Char))} {n : Nat}
    (hn : attributes.length < n) (rest : List Char) (hnames : ∀ a ∈ attributes, ∀ c ∈ a.1, endsName c = false)
    (hvalues : ∀ a ∈ attributes, ∀ value ∈ a.2, ∀ c ∈ value, (c == '"') = false) :
    readAttributes? n (attributes.flatMap attributeChars ++ '>' :: rest) = some (attributes, rest) := by
  induction attributes generalizing n with
  | nil =>
    obtain ⟨n, rfl⟩ := Nat.exists_eq_succ_of_ne_zero (Nat.ne_of_gt hn)
    rfl
  | cons a as ih =>
    obtain ⟨n, rfl⟩ := Nat.exists_eq_succ_of_ne_zero (Nat.ne_of_gt (Nat.lt_of_le_of_lt (Nat.zero_le _) hn))
    have hrest := ih (Nat.lt_of_succ_lt_succ hn) (fun b hb => hnames b (List.mem_cons_of_mem _ hb))
      fun b hb => hvalues b (List.mem_cons_of_mem _ hb)
    obtain ⟨c, s, hs, hc⟩ := attributes_begin as rest
    have hone := readAttribute?_chars (hnames _ List.mem_cons_self) (hvalues _ List.mem_cons_self) hc s
    have hblank : attributeChars a = ' ' :: (attributeChars a).tail := by
      obtain ⟨name, _ | value⟩ := a <;> rfl
    rw [hs] at hrest
    rw [List.flatMap_cons, List.append_assoc, hs, hblank, List.cons_append, readAttributes?, if_neg (by decide),
      if_pos (by decide), hone]
    simp only [Option.bind_some, hrest, Option.map_some]

/-- **A layout is read as it was laid out**, if its parts can be told from what ends them. -/
theorem read?_chars {l : Layout} (hclear : l.Clear) (htag : ∀ c ∈ l.tag, Text.isBlank c = false)
    (hnames : ∀ a ∈ l.attributes, ∀ c ∈ a.1, Text.isBlank c = false ∧ c ≠ '=') : read? l.chars = some l := by
  have hnot : ∀ c, isDelimiter c = false → (c == '<') = false ∧ (c == '>') = false ∧ (c == '"') = false := by
    intro c hc
    simpa only [isDelimiter, Bool.or_eq_false_iff, and_assoc] using hc
  let behind := l.body ++ '<' :: '/' :: (l.tag ++ ['>'])
  obtain ⟨c, s, hs, hc⟩ := attributes_begin l.attributes behind
  have htag' : ∀ c ∈ l.tag, (Text.isBlank c || c == '>') = false := fun c hmem => by
    rw [htag c hmem, (hnot c (hclear.tag c hmem)).2.1]
    rfl
  have hopening : cut (fun c => Text.isBlank c || c == '>') (l.tag ++ c :: s) = (l.tag, c :: s) :=
    cut_append htag' (by rcases hc with rfl | rfl <;> decide) s
  have hattributes : readAttributes? (c :: s).length (c :: s) = some (l.attributes, behind) := by
    rw [← hs]
    refine readAttributes?_chars ?_ behind (fun a ha c hmem => ?_) fun a ha value hvalue c hmem => ?_
    · have hle := length_le_chars l.attributes
      rw [List.length_append, List.length_cons]
      omega
    · have hends := hnames a ha c hmem
      rw [endsName, hends.1, beq_eq_false_iff_ne.2 hends.2, (hnot c (hclear.names a ha c hmem)).2.1]
      rfl
    · exact (hnot c (hclear.values a ha value hvalue c hmem)).2.2
  have hbody : cut (· == '<') behind = (l.body, '<' :: '/' :: (l.tag ++ ['>'])) :=
    cut_append (fun c hmem => (hnot c (hclear.body c hmem)).1) rfl _
  have hchars : l.chars = '<' :: (l.tag ++ c :: s) := by rw [chars, hs]
  rw [hchars, read?, hopening]
  dsimp only
  rw [hattributes]
  simp only [Option.bind_some, hbody, if_true]

end Layout

/-! ## What an element says -/

/-- An element as it is read: the tag, the attributes, and the text between the tags. -/
structure Element where
  tag : String
  attributes : List (String × Option String)
  body : String
  deriving DecidableEq

/-- A part of a layout with its references replaced. -/
def unescaped (s : List Char) : String := String.ofList (Texts.withoutReferences s)

def Layout.element (l : Layout) : Element :=
  ⟨unescaped l.tag, l.attributes.map fun (name, value) => (unescaped name, value.map unescaped), unescaped l.body⟩

/-- Reads the text of an element. -/
def readElement? (text : String) : Option Element := (Layout.read? text.toList).map Layout.element

/-- What an attribute is given as its value: a text, nothing, or a truth value. -/
inductive Given where
  | text (s : String)
  | nothing
  | switch (on : Bool)

namespace Given

def toValue : Given → Value
  | text s => .str s
  | nothing => .null
  | switch on => .bool on

/-- What is read of it, if the attribute is there at all: a text, or no value. -/
def shown? : Given → Option (Option String)
  | text s => some (some s)
  | switch true => some none
  | nothing | switch false => none

end Given

/-- The value that counts for an attribute: the last one of those with its name. -/
def lastGiven? (attrs : List (String × Given)) (name : String) : Option Given :=
  (attrs.reverse.find? fun p => name == attributeName p.1).map (·.2)

/-- The attributes that an element is said to have: in the order in which their names first occur, with the value that
counts. -/
def shownAttributes (attrs : List (String × Given)) : List (String × Option String) :=
  (attrs.map fun p => attributeName p.1).eraseDups.filterMap fun name =>
    (lastGiven? attrs name).bind fun value => value.shown?.map (name, ·)

/-- The name of a tag or an attribute: it is there, and holds no blank and none of the characters that markup is made
of. -/
structure IsName (name : String) : Prop where
  nonempty : name ≠ ""
  plain : ∀ c ∈ name.toList, Text.isBlank c = false ∧ c ∉ ['=', '/', '&', '\'', '"', '<', '>']

instance : DecidablePred IsName := fun name =>
  have : Decidable (∀ c ∈ name.toList, Text.isBlank c = false ∧ c ∉ ['=', '/', '&', '\'', '"', '<', '>']) :=
    List.decidableBAll _ name.toList
  decidable_of_iff (name ≠ "" ∧ ∀ c ∈ name.toList, Text.isBlank c = false ∧ c ∉ ['=', '/', '&', '\'', '"', '<', '>'])
    ⟨fun h => ⟨h.1, h.2⟩, fun h => ⟨h.nonempty, h.plain⟩⟩

/-- A name is not changed by escaping. -/
theorem IsName.escapeChars {name : String} (h : IsName name) : Text.escapeChars name.toList = name.toList := by
  have hkept : ∀ s : List Char, (∀ c ∈ s, c ∈ name.toList) → Text.escapeChars s = s := by
    intro s hs
    induction s with
    | nil => rfl
    | cons c s ih =>
      have hc := (h.plain c (hs c List.mem_cons_self)).2
      have hone : Text.escapeChar c = [c] := by
        unfold Text.escapeChar
        split
        case h_6 => rfl
        all_goals exact absurd hc (by decide)
      have hrest := ih fun b hb => hs b (List.mem_cons_of_mem c hb)
      rw [Text.escapeChars, List.flatMap_cons, hone, ← Text.escapeChars, hrest]
      rfl
  exact hkept _ fun c hc => hc

/-! ## Building an element -/

/-- An attribute as it is written. -/
def writtenAttribute (p : String × Option String) : Attribute := ⟨Text.escapeHtml p.1, p.2.map Text.escapeHtml⟩

theorem attribute?_act (name : String) (value : Given) (w : World) :
    (attribute? (.str name) value.toValue).act w =
      .ok (value.shown?.map fun shown => writtenAttribute (name, shown)) w := by
  cases value with
  | text s => rfl
  | nothing => rfl
  | switch on => cases on <;> rfl

/-- **The attributes that are written are those that are shown.** -/
theorem attributes_act (attrs : List (String × Given)) (w : World) :
    (attributes ((OrderedMap.ofList (attrs.map fun p => (attributeName p.1, p.2.toValue))).entries.map
      fun (k, v) => (.str k, v))).act w = .ok (attributesText ((shownAttributes attrs).map writtenAttribute)) w := by
  let given : List (String × Given) :=
    (attrs.map fun p => attributeName p.1).eraseDups.filterMap fun name => (lastGiven? attrs name).map (name, ·)
  have hfind : ∀ (l : List (String × Given)) (name : String),
      OrderedMap.findIn name (l.map fun p => (attributeName p.1, p.2.toValue)) =
        (l.find? fun p => name == attributeName p.1).map (·.2.toValue) := by
    intro l name
    induction l with
    | nil => rfl
    | cons p r ih =>
      rw [List.map_cons, OrderedMap.findIn, List.find?_cons, ih]
      cases name == attributeName p.1 <;> rfl
  -- names that coincide are one key: it stays at its first place and holds the last value
  have hentries : (OrderedMap.ofList (attrs.map fun p => (attributeName p.1, p.2.toValue))).entries =
      given.map fun p => (p.1, p.2.toValue) := by
    rw [OrderedMap.entries_eq_filterMap (OrderedMap.nodup_ofList _), OrderedMap.keys_ofList, List.map_map,
      List.map_filterMap]
    refine congrArg (List.filterMap · _) (funext fun name => ?_)
    have hlast : (OrderedMap.ofList (attrs.map fun p => (attributeName p.1, p.2.toValue))).find? name =
        (lastGiven? attrs name).map (·.toValue) := by
      rw [OrderedMap.ofList, OrderedMap.find?_insertAll, ← List.map_reverse, hfind, OrderedMap.find?_empty,
        Option.or_none, lastGiven?, Option.map_map]
      rfl
    rw [hlast, Option.map_map, Option.map_map]
    rfl
  have hshown : given.filterMap (fun p => p.2.shown?.map fun shown => writtenAttribute (p.1, shown)) =
      (shownAttributes attrs).map writtenAttribute := by
    rw [shownAttributes, List.filterMap_filterMap, List.map_filterMap]
    refine congrArg (List.filterMap · _) (funext fun name => ?_)
    cases lastGiven? attrs name with
    | none => rfl
    | some value =>
      rw [Option.map_some, Option.bind_some, Option.bind_some, Option.map_map]
      rfl
  have hact : ((given.map fun p => (Value.str p.1, p.2.toValue)).filterMapM fun p => attribute? p.1 p.2).act w =
      .ok ((shownAttributes attrs).map writtenAttribute) w := by
    rw [← hshown]
    exact Run.filterMapM_act fun (p : String × Given) _ => attribute?_act p.1 p.2 w
  rw [hentries, List.map_map]
  exact Run.bind_ok hact

/-! ## The text of an element -/

theorem Attribute.text_toList (p : String × Option String) :
    ' ' :: (writtenAttribute p).text.toList = Layout.attributeChars
      ((writtenAttribute p).name.toList, (writtenAttribute p).value.map String.toList) := by
  obtain ⟨name, _ | value⟩ := p
  · rfl
  · simp [Attribute.text, writtenAttribute, Layout.attributeChars]

theorem attributesText_toList (as : List Attribute) :
    (attributesText as).toList = as.flatMap fun a => ' ' :: a.text.toList := by
  have hjoined : ∀ (as : List Attribute) (a : Attribute),
      ' ' :: [' '].intercalate ((a :: as).map fun a => a.text.toList) =
        (a :: as).flatMap fun a => ' ' :: a.text.toList := by
    intro as
    induction as with
    | nil => intro a; simp
    | cons b as ih =>
      intro a
      rw [List.flatMap_cons, ← ih b, List.map_cons, List.map_cons, List.intercalate_cons_cons]
      simp
  cases as with
  | nil => rfl
  | cons a as =>
    rw [attributesText, if_neg (by simp), Text.joinWith, String.toList_append, String.toList_intercalate, List.map_map]
    exact hjoined as a

/-- How an element is laid out. -/
def layout (tag : String) (attributes : List (String × Option String)) (children : List String) : Layout where
  tag := Text.escapeChars tag.toList
  attributes := attributes.map fun (name, value) =>
    (Text.escapeChars name.toList, value.map fun s => Text.escapeChars s.toList)
  body := Text.escapeChars (children.flatMap String.toList)

theorem layout_clear (tag : String) (attributes : List (String × Option String)) (children : List String) :
    (layout tag attributes children).Clear where
  tag := escapeChars_clear _
  names a ha := by
    obtain ⟨p, -, rfl⟩ := List.mem_map.1 ha
    exact escapeChars_clear _
  values a ha value hvalue := by
    obtain ⟨p, -, rfl⟩ := List.mem_map.1 ha
    obtain ⟨s, -, rfl⟩ := Option.map_eq_some_iff.1 hvalue
    exact escapeChars_clear _
  body := escapeChars_clear _

theorem unescaped_escapeChars (s : String) : unescaped (Text.escapeChars s.toList) = s := by
  rw [unescaped, withoutReferences_escapeChars, String.ofList_toList]

/-- **A layout says what it was made from.** -/
theorem element_layout (tag : String) (attributes : List (String × Option String)) (children : List String) :
    (layout tag attributes children).element = ⟨tag, attributes, String.join children⟩ := by
  have hattributes : (layout tag attributes children).attributes.map (fun (name, value) =>
      (unescaped name, value.map unescaped)) = attributes := by
    have hone : ∀ p : String × Option String, (unescaped (Text.escapeChars p.1.toList),
        (p.2.map fun s => Text.escapeChars s.toList).map unescaped) = p := by
      intro p
      obtain ⟨name, _ | value⟩ := p
      · rw [unescaped_escapeChars]
        rfl
      · rw [unescaped_escapeChars, Option.map_some, Option.map_some, unescaped_escapeChars]
    rw [layout, List.map_map]
    exact (List.map_congr_left fun p _ => hone p).trans (List.map_id attributes)
  have hbody : unescaped (layout tag attributes children).body = String.join children := by
    rw [layout, unescaped, withoutReferences_escapeChars, ← String.toList_join, String.ofList_toList]
  rw [Layout.element, hattributes, hbody, layout, unescaped_escapeChars]

/-- **An element is built as it is laid out**, and building it changes nothing. -/
theorem element_act (tag : String) (children : List String) (attrs : List (String × Given)) (w : World) :
    ∃ text, (element (.str tag) (children.map .str) (attrs.map fun p => (p.1, p.2.toValue))).act w =
      .ok (.markup text) w ∧ text.toList = (layout tag (shownAttributes attrs) children).chars := by
  have hbody : ((children.map Value.str).mapM escapedText).act w = .ok (children.map Text.escapeHtml) w := by
    rw [List.mapM_map]
    exact Run.mapM_act fun s _ => rfl
  have htag : (escapedText (.str tag)).act w = .ok (Text.escapeHtml tag) w := rfl
  have hnames : (attrs.map fun p => (p.1, p.2.toValue)).map (fun (k, v) => (attributeName k, v)) =
      attrs.map fun p => (attributeName p.1, p.2.toValue) := List.map_map
  refine ⟨"<" ++ Text.escapeHtml tag ++ attributesText ((shownAttributes attrs).map writtenAttribute) ++ ">" ++
    String.join (children.map Text.escapeHtml) ++ "</" ++ Text.escapeHtml tag ++ ">", ?_, ?_⟩
  · simp only [element, Run.bind_act, hnames, attributes_act, hbody, htag]
    rfl
  · have hattribute : ∀ p : String × Option String, ' ' :: (writtenAttribute p).text.toList =
        Layout.attributeChars (Text.escapeChars p.1.toList, p.2.map fun s => Text.escapeChars s.toList) := by
      intro p
      rw [Attribute.text_toList]
      obtain ⟨name, _ | value⟩ := p <;> simp [writtenAttribute, Text.escapeHtml]
    have hattributes : (attributesText ((shownAttributes attrs).map writtenAttribute)).toList =
        (layout tag (shownAttributes attrs) children).attributes.flatMap Layout.attributeChars := by
      rw [attributesText_toList, layout, List.flatMap_map, List.flatMap_map]
      exact congrArg (List.flatMap · _) (funext hattribute)
    have hchildren : (String.join (children.map Text.escapeHtml)).toList =
        Text.escapeChars (children.flatMap String.toList) := by
      simp only [String.toList_join, List.flatMap_map, Text.escapeChars, Text.escapeHtml, String.toList_ofList,
        List.flatMap_assoc]
    have htagtext : (Text.escapeHtml tag).toList = Text.escapeChars tag.toList := String.toList_ofList
    simp only [String.toList_append, hattributes, hchildren, htagtext, Layout.chars, List.append_assoc]
    rfl

/-- **Built markup can be read back.** Whatever the children and the values of attributes are, the text of an element
is laid out with delimiters nowhere but around the tags and the values, and reading it gives the tag, the attributes
that are shown and the children in a row. -/
theorem element_read_back {tag : String} (children : List String) {attrs : List (String × Given)} (htag : IsName tag)
    (hattrs : ∀ p ∈ attrs, IsName (attributeName p.1)) (w : World) :
    ∃ text, (element (.str tag) (children.map .str) (attrs.map fun p => (p.1, p.2.toValue))).act w =
        .ok (.markup text) w ∧
      (∃ l : Layout, text.toList = l.chars ∧ l.Clear) ∧
      readElement? text = some ⟨tag, shownAttributes attrs, String.join children⟩ := by
  obtain ⟨text, hact, htext⟩ := element_act tag children attrs w
  refine ⟨text, hact, ⟨_, htext, layout_clear _ _ _⟩, ?_⟩
  have hread : Layout.read? text.toList = some (layout tag (shownAttributes attrs) children) := by
    rw [htext]
    refine Layout.read?_chars (layout_clear _ _ _) (fun c hc => ?_) fun a ha c hc => ?_
    · rw [layout, htag.escapeChars] at hc
      exact (htag.plain c hc).1
    · obtain ⟨⟨name, shown⟩, hp, rfl⟩ := List.mem_map.1 ha
      have hname : IsName name := by
        obtain ⟨n, hn, hshown⟩ := List.mem_filterMap.1 hp
        obtain ⟨value, -, hvalue⟩ := Option.bind_eq_some_iff.1 hshown
        obtain ⟨s, -, hs⟩ := Option.map_eq_some_iff.1 hvalue
        obtain ⟨p, hmem, rfl⟩ := List.mem_map.1 (List.mem_eraseDups.1 hn)
        exact (Prod.mk.inj hs).1 ▸ hattrs p hmem
      have hc' : c ∈ name.toList := by rwa [← hname.escapeChars]
      exact ⟨(hname.plain c hc').1, fun he => (hname.plain c hc').2 (he ▸ List.mem_cons_self)⟩
  rw [readElement?, hread, Option.map_some, element_layout]

/-- Values that look like markup, keywords that name one attribute, and attributes that are not shown. -/
theorem element_read_back_of_markup :
    ∃ text, (element (.str "p") [.str "a < b &amp; ", .str "</p>"] [("class_", .str "x\" y=\"z"),
        ("data_x", .bool true), ("class", .str "&quot;>"), ("id", .null), ("title", .bool false)]).act {} =
          .ok (.markup text) {} ∧
      (∃ l : Layout, text.toList = l.chars ∧ l.Clear) ∧
      readElement? text = some ⟨"p", [("class", some "&quot;>"), ("data-x", none)], "a < b &amp; </p>"⟩ := by
  have htag : IsName "p" := by decide +kernel
  let attrs : List (String × Given) := [("class_", .text "x\" y=\"z"), ("data_x", .switch true),
    ("class", .text "&quot;>"), ("id", .nothing), ("title", .switch false)]
  have hnames : attrs.map (attributeName ·.1) = ["class", "data-x", "class", "id", "title"] := by decide +kernel
  have hname : ∀ name ∈ ["class", "data-x", "class", "id", "title"], IsName name := by decide +kernel
  have hattrs : ∀ p ∈ attrs, IsName (attributeName p.1) := fun p hp =>
    hname _ (hnames ▸ List.mem_map_of_mem hp)
  have hshown : shownAttributes attrs = [("class", some "&quot;>"), ("data-x", none)] := by decide +kernel
  have hbody : String.join ["a < b &amp; ", "</p>"] = "a < b &amp; </p>" := by decide +kernel
  have hread := element_read_back ["a < b &amp; ", "</p>"] htag hattrs {}
  rw [hshown, hbody] at hread
  exact hread

end Stepwise.Markup
