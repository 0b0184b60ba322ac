import Stepwise.Proofs.CharacterCodes
import Stepwise.Template.Check
/-!
# Templates of texts and prints

A template that only prints items of its context is a row of texts with a print between any two of them. `Prints` is
such a row, as `Prints.ofPieces` takes it from a source in whatever pieces that is written. `tokens_sourceOf` says
into which tokens the source is cut, and `parse_sourceOf` which tree is read from it: a text is one token wherever the
prints leave any of it, and a print is an index whose key is that of the source.
-/

namespace Stepwise.Template

/-- A piece of a source: text, or a print of an item of the context. -/
inductive Piece where
  | text (s : String)
  | print (key : String)

namespace Piece

def source : Piece → String
  | text s => s
  | print key => "\x7b\x7b context['" ++ key ++ "'] \x7d\x7d"

/-- No text begins a tag, and keys stand between their quotes as they are. -/
def IsPlain : Piece → Prop
  | text s => '\x7b' ∉ s.toList
  | print key => ∀ c ∈ key.toList, c ∉ ['\'', '"', '\\', '\x7b', '\x7d', '\n', '\r']

instance : DecidablePred IsPlain
  | text s => inferInstanceAs (Decidable ('\x7b' ∉ s.toList))
  | print key => List.decidableBAll _ key.toList

def key? : Piece → Option String
  | text _ => none
  | print key => some key

end Piece

/-! ## Lines -/

/-- A text whose line breaks are line feeds: a carriage return in front of one goes, and any other one becomes one. -/
def lineFed : List Char → List Char
  | [] => []
  | c :: r => if c = '\r' then (if r.head? = some '\n' then lineFed r else '\n' :: lineFed r) else c :: lineFed r

/-- A text without the line feed at its end, if there is one. -/
def withoutFinalFeed : List Char → List Char
  | [] => []
  | ['\n'] => []
  | c :: r => c :: withoutFinalFeed r

theorem unifyLines_eq_lineFed (s : List Char) : Scan.unifyLines s = lineFed s := by
  fun_induction Scan.unifyLines s with
  | case1 r ih => simp [lineFed, ih]
  | case2 r hno ih =>
    have hhead : r.head? ≠ some '\n' := by
      intro h
      obtain ⟨t, rfl⟩ := List.head?_eq_some_iff.1 h
      exact hno t rfl
    rw [ih, lineFed, if_pos rfl, if_neg hhead]
  | case3 c r hno hno' ih =>
    have hc : c ≠ '\r' := fun h => hno' h
    rw [ih, lineFed, if_neg hc]
  | case4 => rfl

theorem withoutFinalFeed_cons {c : Char} {r : List Char} (h : c ≠ '\n' ∨ r ≠ []) :
    withoutFinalFeed (c :: r) = c :: withoutFinalFeed r := by
  rw [withoutFinalFeed]
  rintro rfl rfl
  exact h.elim (fun h => h rfl) fun h => h rfl

theorem withoutFinalFeed_append (a : List Char) {b : List Char} (h : b ≠ []) :
    withoutFinalFeed (a ++ b) = a ++ withoutFinalFeed b := by
  induction a with
  | nil => rfl
  | cons c a ih =>
    rw [List.cons_append, withoutFinalFeed_cons (.inr (List.append_ne_nil_of_right_ne_nil a h)), ih]
    rfl

theorem withoutLastLineEnd_eq (s : List Char) : Scan.withoutLastLineEnd s = withoutFinalFeed s := by
  rcases List.eq_nil_or_concat s with rfl | ⟨r, c, rfl⟩
  · rfl
  · rw [List.concat_eq_append, Scan.withoutLastLineEnd, List.getLast?_concat, List.dropLast_concat,
      withoutFinalFeed_append r (List.cons_ne_nil _ _)]
    by_cases hc : c = '\n'
    · rw [if_pos (by simp [hc]), hc]
      simp [withoutFinalFeed]
    · rw [if_neg (by simpa using hc), withoutFinalFeed_cons (.inl hc)]
      rfl

/-- Line breaks are told apart on either side of what does not go on with a line feed. -/
theorem lineFed_append {a b : List Char} (h : b.head? ≠ some '\n') : lineFed (a ++ b) = lineFed a ++ lineFed b := by
  induction a with
  | nil => rfl
  | cons c a ih =>
    have hhead : (a ++ b).head? = some '\n' ↔ a.head? = some '\n' := by
      cases a with
      | nil => exact iff_of_false h (by simp)
      | cons d a => exact Iff.rfl
    rw [List.cons_append, lineFed, lineFed, ih]
    simp only [hhead]
    split
    · split <;> rfl
    · rfl

/-- What is behind a text without carriage returns is on lines of its own. -/
theorem lineFed_behind {a : List Char} (h : '\r' ∉ a) (b : List Char) : lineFed (a ++ b) = a ++ lineFed b := by
  induction a with
  | nil => rfl
  | cons c a ih =>
    rw [List.mem_cons, not_or] at h
    rw [List.cons_append, lineFed, if_neg (Ne.symm h.1), ih h.2]
    rfl

/-! ## Rows of texts and prints -/

/-- The characters of a print. -/
def printChars (key : String) : List Char :=
  '\x7b' :: '\x7b' :: ' ' :: 'c' :: 'o' :: 'n' :: 't' :: 'e' :: 'x' :: 't' :: '[' :: '\'' ::
    (key.toList ++ ['\'', ']', ' ', '\x7d', '\x7d'])

/-- A text, and prints with the text behind each of them. -/
structure Prints where
  first : List Char
  rest : List (String × List Char)

namespace Prints

def chars (p : Prints) : List Char := p.first ++ p.rest.flatMap fun (key, text) => printChars key ++ text

/-- The row of pieces behind a text. What stands side by side is one text, and in it line breaks are line feeds; the
last text loses one at its end. -/
def behind (text : List Char) : List Piece → Prints
  | [] => ⟨withoutFinalFeed (lineFed text), []⟩
  | .text s :: pieces => behind (text ++ s.toList) pieces
  | .print key :: pieces => ⟨lineFed text, (key, (behind [] pieces).first) :: (behind [] pieces).rest⟩

def ofPieces (pieces : List Piece) : Prints := behind [] pieces

end Prints

/-- The source of pieces. -/
def sourceOf (pieces : List Piece) : String := String.join (pieces.map Piece.source)

theorem Piece.source_print_toList (key : String) : (Piece.print key).source.toList = printChars key := by
  simp [Piece.source, printChars]

theorem notMem_printChars {key : String} {c : Char} (hkey : c ∉ key.toList)
    (hopening : c ∉ "\x7b\x7b context['".toList) (hclosing : c ∉ "'] \x7d\x7d".toList) : c ∉ printChars key := by
  have hchars : printChars key = "\x7b\x7b context['".toList ++ (key.toList ++ "'] \x7d\x7d".toList) := by
    simp [printChars]
  rw [hchars, List.mem_append, List.mem_append]
  exact not_or.2 ⟨hopening, not_or.2 ⟨hkey, hclosing⟩⟩

/-- A print ends with no line feed. -/
theorem withoutFinalFeed_printChars (a : List Char) (key : String) (b : List Char) :
    withoutFinalFeed (a ++ (printChars key ++ b)) = a ++ (printChars key ++ withoutFinalFeed b) := by
  let opened := a ++ "\x7b\x7b context['".toList ++ key.toList ++ "'] \x7d".toList
  have hchars : ∀ b, a ++ (printChars key ++ b) = opened ++ '\x7d' :: b := by
    intro b
    simp [printChars, opened]
  rw [hchars, hchars, withoutFinalFeed_append _ (List.cons_ne_nil _ _), withoutFinalFeed_cons (.inl (by decide))]

/-- **The row of the pieces is what is left of their source** when its lines are unified. -/
theorem Prints.chars_behind (text : List Char) {pieces : List Piece} (h : ∀ p ∈ pieces, p.IsPlain) :
    (behind text pieces).chars = withoutFinalFeed (lineFed (text ++ pieces.flatMap fun p => p.source.toList)) := by
  induction pieces generalizing text with
  | nil => simp [behind, chars]
  | cons p pieces ih =>
    have hrest : ∀ q ∈ pieces, q.IsPlain := fun q hq => h q (List.mem_cons_of_mem p hq)
    cases p with
    | text s =>
      rw [behind, ih _ hrest, List.flatMap_cons, List.append_assoc]
      rfl
    | print key =>
      have hkey : '\r' ∉ key.toList := fun hmem => h (.print key) List.mem_cons_self '\r' hmem (by decide)
      have hreturn : '\r' ∉ printChars key := notMem_printChars hkey (by decide) (by decide)
      have hchars : (behind text (.print key :: pieces)).chars =
          lineFed text ++ (printChars key ++ (behind [] pieces).chars) := by
        simp [behind, chars]
      have hhead : (printChars key ++ pieces.flatMap fun p => p.source.toList).head? ≠ some '\n' :=
        fun heq => absurd (Option.some.inj heq) (by decide)
      rw [hchars, ih [] hrest, List.nil_append, List.flatMap_cons, Piece.source_print_toList, lineFed_append hhead,
        lineFed_behind hreturn, withoutFinalFeed_printChars]

/-! ## Words of a print -/

namespace Scan

variable {ends : List Char → Option Nat} {closing : Token} {afterPoint : Bool} {stack : List String} {r : Rest}

theorem inside_end {n : Nat} (fuel : Nat) (out : Array Lexeme) (hchars : r.chars ≠ []) (hends : ends r.chars = some n) :
    inside ends closing (fuel + 1) afterPoint [] r out = .ok (r.skip n, out.push ⟨closing, r.line⟩) := by
  rw [inside, if_neg (by simpa using hchars)]
  simp only [List.isEmpty_nil, if_true, hends]

theorem inside_blanks {n : Nat} (fuel : Nat) (out : Array Lexeme) (hends : ends r.chars = none)
    (hblanks : blanksAt r.chars = n + 1) :
    inside ends closing (fuel + 1) afterPoint stack r out =
      inside ends closing fuel false stack (r.skip (n + 1)) out := by
  have hchars : r.chars ≠ [] := fun h => by
    rw [h] at hblanks
    cases hblanks
  rw [inside, if_neg (by simpa using hchars)]
  simp only [hends, hblanks, ite_self]
  rw [if_pos (Nat.succ_pos n)]

/-- A word is taken if no tag ends there, be it that none can. -/
theorem inside_word {t : Token} {n : Nat} {stack' : List String} (fuel : Nat) (out : Array Lexeme)
    (hends : stack.isEmpty = true → ends r.chars = none) (hblanks : blanksAt r.chars = 0)
    (hword : word afterPoint r.chars = .ok (t, n)) (hbalance : balance stack t = .ok stack')
    (hpoint : ∀ s, t = .op s → s ≠ ".") :
    inside ends closing (fuel + 1) afterPoint stack r out =
      inside ends closing fuel false stack' (r.skip n) (out.push ⟨t, r.line⟩) := by
  have hchars : r.chars ≠ [] := fun h => by
    rw [h] at hword
    cases afterPoint <;> cases hword
  have hnone : (if stack.isEmpty = true then ends r.chars else none) = none := by
    split
    case isTrue h => exact hends h
    case isFalse => rfl
  rw [inside, if_neg (by simpa using hchars)]
  simp only [hnone, hblanks, hword]
  rw [if_neg (Nat.lt_irrefl 0)]
  change (balance stack t >>= _) = _
  rw [hbalance]
  cases t with
  | op s =>
    dsimp only [bind, Except.bind]
    split
    case h_1 heq => exact absurd (Token.op.inj heq) (hpoint s rfl)
    case h_2 => rfl
  | _ => rfl

theorem quotedLength?_plain {s : List Char} (hquote : '\'' ∉ s) (hback : '\\' ∉ s) (n : Nat) (tail : List Char) :
    quotedLength? '\'' n (s ++ '\'' :: tail) = some (n + s.length + 1) := by
  induction s generalizing n with
  | nil =>
    rw [List.nil_append, quotedLength?.eq_def]
    rfl
  | cons c s ih =>
    rw [List.mem_cons, not_or] at hquote hback
    have hstep : quotedLength? '\'' n (c :: (s ++ '\'' :: tail)) = quotedLength? '\'' (n + 1) (s ++ '\'' :: tail) := by
      rw [quotedLength?.eq_def]
      split
      case h_1 heq => exact absurd (List.cons.inj heq).1.symm hback.1
      case h_2 heq =>
        cases heq
        rw [if_neg (by simpa using Ne.symm hquote.1)]
      case h_3 heq => cases heq
    rw [List.cons_append, hstep, ih hquote.2 hback.2, List.length_cons]
    exact congrArg some (by omega)

/-- **A text between quotes is one word**, and stands for itself. -/
theorem word_quoted {key : String} (hquote : '\'' ∉ key.toList) (hback : '\\' ∉ key.toList) (tail : List Char) :
    word false ('\'' :: (key.toList ++ '\'' :: tail)) = .ok (.str key, key.length + 2) := by
  have hlength : quotedLength? '\'' 1 (key.toList ++ '\'' :: tail) = some (key.length + 2) := by
    rw [quotedLength?_plain hquote hback, String.length_toList]
    exact congrArg some (by omega)
  have htoken : textToken key.toList = .ok (.str key) := by
    rw [textToken, Script.Written.unescape_escapeNonAscii hback]
    exact congrArg (Except.ok <| Token.str ·) String.ofList_toList
  have htake : (key.toList ++ '\'' :: tail).take (key.length + 2 - 2) = key.toList :=
    List.take_left' String.length_toList
  have hnumber : number? false ('\'' :: (key.toList ++ '\'' :: tail)) = none := rfl
  have hname : ('\'' :: (key.toList ++ '\'' :: tail)).takeWhile Text.isWordChar = [] := rfl
  rw [word, hnumber]
  dsimp only
  rw [hname, if_neg (by decide), if_pos (by decide), hlength]
  simp only [htake, htoken]
  rfl

/-- What is said of a key that stands between quotes as it is. -/
structure IsKey (key : String) : Prop where
  quote : '\'' ∉ key.toList
  backslash : '\\' ∉ key.toList

/-- **A print is cut into its words**, behind the braces that open it. -/
theorem inside_print {key : String} (hkey : IsKey key) {rest : List Char}
    (hr : r.chars = (printChars key).drop 2 ++ rest) (fuel : Nat) (out : Array Lexeme) :
    ∃ r' out', inside printEnd? .printEnd (fuel + 8) false [] r out = .ok (r', out') ∧ r'.chars = rest ∧
      out'.toList.map (·.token) =
        out.toList.map (·.token) ++ [.name "context", .op "[", .str key, .op "]", .printEnd] := by
  let closing := '\'' :: ']' :: ' ' :: '\x7d' :: '\x7d' :: rest
  have hchars : r.chars = ' ' :: 'c' :: 'o' :: 'n' :: 't' :: 'e' :: 'x' :: 't' :: '[' :: '\'' ::
      (key.toList ++ closing) := by
    rw [hr]
    simp [printChars, closing]
  let r₁ := r.skip 1
  let r₂ := r₁.skip 7
  let r₃ := r₂.skip 1
  let r₄ := r₃.skip (key.length + 2)
  let r₅ := r₄.skip 1
  let r₆ := r₅.skip 1
  have h₁ : r₁.chars = 'c' :: 'o' :: 'n' :: 't' :: 'e' :: 'x' :: 't' :: '[' :: '\'' :: (key.toList ++ closing) :=
    congrArg (List.drop 1) hchars
  have h₂ : r₂.chars = '[' :: '\'' :: (key.toList ++ closing) := congrArg (List.drop 7) h₁
  have h₃ : r₃.chars = '\'' :: (key.toList ++ closing) := congrArg (List.drop 1) h₂
  have h₄ : r₄.chars = ']' :: ' ' :: '\x7d' :: '\x7d' :: rest := by
    have hdrop : (key.toList ++ closing).drop key.length = closing := List.drop_left' String.length_toList
    refine (congrArg (List.drop (key.length + 2)) h₃).trans ?_
    rw [List.drop_succ_cons, ← List.drop_drop, hdrop]
    rfl
  have h₅ : r₅.chars = ' ' :: '\x7d' :: '\x7d' :: rest := congrArg (List.drop 1) h₄
  have h₆ : r₆.chars = '\x7d' :: '\x7d' :: rest := congrArg (List.drop 1) h₅
  have hquoted : word false r₃.chars = .ok (.str key, key.length + 2) := by
    rw [h₃]
    exact word_quoted hkey.quote hkey.backslash _
  refine ⟨r₆.skip 2, ((((out.push ⟨.name "context", r₁.line⟩).push ⟨.op "[", r₂.line⟩).push ⟨.str key, r₃.line⟩).push
    ⟨.op "]", r₄.line⟩).push ⟨.printEnd, r₆.line⟩, ?_, congrArg (List.drop 2) h₆, by simp⟩
  -- no tag can end where the bracket is open
  calc inside printEnd? .printEnd (fuel + 8) false [] r out
    _ = inside printEnd? .printEnd (fuel + 7) false [] r₁ out :=
      inside_blanks (n := 0) _ _ (by rw [hchars]; rfl) (by rw [hchars]; rfl)
    _ = inside printEnd? .printEnd (fuel + 6) false [] r₂ _ :=
      inside_word (t := .name "context") (n := 7) _ _ (fun _ => by rw [h₁]; rfl) (by rw [h₁]; rfl) (by rw [h₁]; rfl) rfl
        fun s h => by cases h
    _ = inside printEnd? .printEnd (fuel + 5) false ["]"] r₃ _ :=
      inside_word (t := .op "[") (n := 1) _ _ (fun _ => by rw [h₂]; rfl) (by rw [h₂]; rfl) (by rw [h₂]; rfl) rfl
        fun s h => by cases h; decide
    _ = inside printEnd? .printEnd (fuel + 4) false ["]"] r₄ _ :=
      inside_word _ _ (fun h => by cases h) (by rw [h₃]; rfl) hquoted rfl fun s h => by cases h
    _ = inside printEnd? .printEnd (fuel + 3) false [] r₅ _ :=
      inside_word (t := .op "]") (n := 1) _ _ (fun h => by cases h) (by rw [h₄]; rfl) (by rw [h₄]; rfl) rfl
        fun s h => by cases h; decide
    _ = inside printEnd? .printEnd (fuel + 2) false [] r₆ _ :=
      inside_blanks (n := 0) _ _ (by rw [h₅]; rfl) (by rw [h₅]; rfl)
    _ = .ok (r₆.skip 2, _) := inside_end _ _ (by rw [h₆]; exact List.cons_ne_nil _ _) (by rw [h₆]; rfl)

/-! ## Tokens -/

theorem opening?_of_ne {c : Char} (hc : c ≠ '\x7b') (r : List Char) : opening? (c :: r) = none := by
  unfold opening?
  split
  case h_4 => rfl
  all_goals exact absurd (List.cons.inj ‹_›).1 hc

/-- Text without an opening brace goes on to the next tag. -/
theorem textBefore_append {text : List Char} (htext : '\x7b' ∉ text) (acc r : List Char) :
    textBefore acc (text ++ r) = textBefore (text.reverse ++ acc) r := by
  induction text generalizing acc with
  | nil => rfl
  | cons c text ih =>
    rw [List.mem_cons, not_or] at htext
    rw [List.cons_append, textBefore, opening?_of_ne (Ne.symm htext.1)]
    dsimp only
    rw [ih htext.2, List.reverse_cons, List.append_assoc]
    rfl

end Scan

/-- The tokens of a text: there is none of nothing. -/
def textTokens (text : List Char) : List Token := if text.isEmpty then [] else [.data (String.ofList text)]

def printTokens (key : String) : List Token := [.printStart, .name "context", .op "[", .str key, .op "]", .printEnd]

namespace Prints

def tokens (p : Prints) : List Token :=
  textTokens p.first ++ p.rest.flatMap fun (key, text) => printTokens key ++ textTokens text

/-- No text begins a tag, and the keys stand between their quotes as they are. -/
structure IsPlain (p : Prints) : Prop where
  first : '\x7b' ∉ p.first
  keys : ∀ q ∈ p.rest, Scan.IsKey q.1
  texts : ∀ q ∈ p.rest, '\x7b' ∉ q.2

end Prints

namespace Scan

theorem map_token_pushText (out : Array Lexeme) (text : List Char) (line : Nat) :
    (pushText out text line).toList.map (·.token) = out.toList.map (·.token) ++ textTokens text := by
  unfold pushText textTokens
  split
  · rw [List.append_nil]
  · rw [Array.toList_push, List.map_append]
    rfl

/-- The tokens up to the end of a print, and what is left behind it. -/
theorem whole_print {text : List Char} (htext : '\x7b' ∉ text) {key : String} (hkey : IsKey key) {rest : List Char}
    {r : Rest} (hr : r.chars = text ++ (printChars key ++ rest)) (fuel : Nat) (out : Array Lexeme) :
    ∃ r' out', whole (fuel + 1) r out = whole fuel r' out' ∧ r'.chars = rest ∧
      out'.toList.map (·.token) = out.toList.map (·.token) ++ (textTokens text ++ printTokens key) := by
  have hbefore : textBefore [] r.chars = (text, some .print) := by
    rw [hr, textBefore_append htext, List.append_nil]
    change (text.reverse.reverse, some Opening.print) = _
    rw [List.reverse_reverse]
  have hdrop : r.chars.drop (text.length + 2) = (printChars key).drop 2 ++ rest := by
    rw [hr, ← List.drop_drop, List.drop_left]
    rfl
  have hsign : signAt (r.chars.drop (text.length + 2)) = none := by
    rw [hdrop]
    rfl
  have hkept : keptText text none true r.fresh = text := rfl
  let inner := r.skip (text.length + 2)
  let begun := (pushText out text r.line).push ⟨.printStart, (r.skip text.length).line⟩
  obtain ⟨fuel', hfuel⟩ : ∃ n, inner.chars.length + 1 = n + 8 := by
    refine ⟨inner.chars.length - 7, ?_⟩
    have hlength : inner.chars.length = ((printChars key).drop 2 ++ rest).length := congrArg List.length hdrop
    simp only [printChars, List.length_append, List.length_drop, List.length_cons] at hlength
    omega
  obtain ⟨r', out', hinside, hchars, htokens⟩ := inside_print (r := inner) hkey hdrop fuel' begun
  refine ⟨r', out', ?_, hchars, ?_⟩
  · have hinner : inside printEnd? .printEnd (inner.chars.length + 1) false [] inner begun = .ok (r', out') := by
      rw [hfuel, hinside]
    rw [whole, hbefore]
    simp only [hsign, Option.isSome_none, Bool.false_eq_true, if_false, Nat.add_zero, beq_self_eq_true, hkept]
    change (inside printEnd? .printEnd (inner.chars.length + 1) false [] inner begun >>= _) = _
    rw [hinner]
    rfl
  · rw [htokens, Array.toList_push, List.map_append, map_token_pushText]
    simp [printTokens]

/-- **A row is cut into the tokens of its texts and prints.** -/
theorem whole_tokens {p : Prints} (hp : p.IsPlain) {r : Rest} (hr : r.chars = p.chars) {fuel : Nat}
    (hfuel : p.rest.length < fuel) (out : Array Lexeme) :
    ∃ out', whole fuel r out = .ok out' ∧ out'.toList.map (·.token) = out.toList.map (·.token) ++ p.tokens := by
  obtain ⟨first, rest⟩ := p
  induction rest generalizing first r fuel out with
  | nil =>
    obtain ⟨fuel, rfl⟩ := Nat.exists_eq_succ_of_ne_zero (Nat.ne_of_gt hfuel)
    have hchars : r.chars = first := by
      rw [hr]
      exact List.append_nil first
    have hbefore : textBefore [] r.chars = (first, none) := by
      have h := textBefore_append hp.first [] []
      rw [List.append_nil, List.append_nil] at h
      rw [hchars, h, textBefore, List.reverse_reverse]
    refine ⟨pushText out first r.line, ?_, ?_⟩
    · rw [whole, hbefore]
    · rw [map_token_pushText]
      exact congrArg (List.map _ out.toList ++ ·) (List.append_nil _).symm
  | cons q rest ih =>
    obtain ⟨key, text⟩ := q
    obtain ⟨fuel, rfl⟩ := Nat.exists_eq_succ_of_ne_zero (Nat.ne_of_gt (Nat.zero_lt_of_lt hfuel))
    have hbehind : (⟨text, rest⟩ : Prints).IsPlain :=
      ⟨hp.texts _ List.mem_cons_self, fun q hq => hp.keys q (List.mem_cons_of_mem _ hq),
        fun q hq => hp.texts q (List.mem_cons_of_mem _ hq)⟩
    have hchars : r.chars = first ++ (printChars key ++ (⟨text, rest⟩ : Prints).chars) := by
      rw [hr]
      simp [Prints.chars]
    obtain ⟨r', out₁, hprint, hr', htokens⟩ := whole_print hp.first (hp.keys _ List.mem_cons_self) hchars fuel out
    obtain ⟨out₂, hwhole, htokens'⟩ := ih out₁ text hbehind hr' (Nat.lt_of_succ_lt_succ hfuel)
    refine ⟨out₂, hprint.trans hwhole, ?_⟩
    rw [htokens', htokens]
    simp [Prints.tokens]

end Scan

/-! ## Sources -/

namespace Prints

theorem mem_lineFed {c : Char} {s : List Char} (h : c ∈ lineFed s) : c ∈ s ∨ c = '\n' := by
  induction s with
  | nil => exact .inl h
  | cons d s ih =>
    rw [lineFed] at h
    have hrest : c ∈ lineFed s → c ∈ d :: s ∨ c = '\n' := fun h => (ih h).imp_left (List.mem_cons_of_mem d)
    split at h
    · split at h
      · exact hrest h
      · exact (List.mem_cons.1 h).elim .inr hrest
    · exact (List.mem_cons.1 h).elim (fun he => .inl (he ▸ List.mem_cons_self)) hrest

theorem mem_withoutFinalFeed {c : Char} {s : List Char} (h : c ∈ withoutFinalFeed s) : c ∈ s := by
  fun_induction withoutFinalFeed s with
  | case1 => exact h
  | case2 => cases h
  | case3 d s hno ih =>
    rcases List.mem_cons.1 h with rfl | h
    · exact List.mem_cons_self
    · exact List.mem_cons_of_mem d (ih h)

theorem isPlain_behind {text : List Char} (htext : '\x7b' ∉ text) {pieces : List Piece}
    (h : ∀ p ∈ pieces, p.IsPlain) : (behind text pieces).IsPlain := by
  have hfed : ∀ {text : List Char}, '\x7b' ∉ text → '\x7b' ∉ lineFed text := fun htext hmem =>
    (mem_lineFed hmem).elim htext (by decide)
  induction pieces generalizing text with
  | nil => exact ⟨fun hmem => hfed htext (mem_withoutFinalFeed hmem), List.forall_mem_nil _, List.forall_mem_nil _⟩
  | cons p pieces ih =>
    have hp : p.IsPlain := h p List.mem_cons_self
    have hrest : ∀ q ∈ pieces, q.IsPlain := fun q hq => h q (List.mem_cons_of_mem p hq)
    cases p with
    | text s => exact ih (fun hmem => (List.mem_append.1 hmem).elim htext hp) hrest
    | print key =>
      have hbehind := ih List.not_mem_nil hrest
      have hkey : Scan.IsKey key := ⟨fun hmem => hp _ hmem (by decide), fun hmem => hp _ hmem (by decide)⟩
      exact ⟨hfed htext, List.forall_mem_cons.2 ⟨hkey, hbehind.keys⟩,
        List.forall_mem_cons.2 ⟨hbehind.first, hbehind.texts⟩⟩

theorem length_le_chars (p : Prints) : p.rest.length ≤ p.chars.length := by
  obtain ⟨first, rest⟩ := p
  have hrest : rest.length ≤ (rest.flatMap fun (key, text) => printChars key ++ text).length := by
    induction rest with
    | nil => exact Nat.le_refl _
    | cons q rest ih =>
      have hone : 0 < (printChars q.1).length := Nat.succ_pos _
      rw [List.flatMap_cons, List.length_append, List.length_append, List.length_cons]
      omega
  rw [chars, List.length_append]
  exact Nat.le_add_left_of_le hrest

end Prints

/-- **The tokens of a source are those of its row.** -/
theorem tokens_sourceOf {pieces : List Piece} (h : ∀ p ∈ pieces, p.IsPlain) :
    ∃ ls, tokens (sourceOf pieces) = .ok ls ∧ ls.map (·.token) = (Prints.ofPieces pieces).tokens := by
  have hchars : Scan.withoutLastLineEnd (Scan.unifyLines (sourceOf pieces).toList) =
      (Prints.ofPieces pieces).chars := by
    rw [withoutLastLineEnd_eq, unifyLines_eq_lineFed, sourceOf, String.toList_join, List.flatMap_map, Prints.ofPieces,
      Prints.chars_behind [] h]
    rfl
  have hplain : (Prints.ofPieces pieces).IsPlain := Prints.isPlain_behind List.not_mem_nil h
  obtain ⟨out, hout, htokens⟩ := Scan.whole_tokens hplain
    (r := ⟨(Prints.ofPieces pieces).chars, 1, true⟩) rfl (Nat.lt_succ_of_le (Prints.length_le_chars _)) #[]
  refine ⟨out.toList, ?_, htokens⟩
  rw [tokens, hchars, hout]
  rfl

/-! ## Trees -/

/-- An item of the context. -/
def contextItem (key : String) : Expr := .index (.name "context") (.lit (.str key))

/-- The part for a text: there is none of nothing. -/
def textParts (text : List Char) : List Expr := if text.isEmpty then [] else [.data (String.ofList text)]

namespace Prints

/-- What is printed, in order. -/
def parts (p : Prints) : List Expr :=
  textParts p.first ++ p.rest.flatMap fun (key, text) => contextItem key :: textParts text

/-- The template: one node, if anything is printed. -/
def nodes (p : Prints) : List Node := if p.parts.isEmpty then [] else [.output p.parts]

end Prints

namespace Reading

theorem repeatFor_on {α σ : Type} {step : σ → Reading (σ ⊕ α)} {a a' : σ} {ls ls' : List Lexeme}
    (h : step a ls = .ok (.inl a', ls')) (n : Nat) : repeatFor step (n + 1) a ls = repeatFor step n a' ls' := by
  change Except.bind (step a ls) _ = _
  rw [h]
  rfl

/-- The first lexeme has the first token. -/
theorem exists_lexeme {t : Token} {ts : List Token} {ls : List Lexeme} (h : ls.map (·.token) = t :: ts) :
    ∃ line ls', ls = ⟨t, line⟩ :: ls' ∧ ls'.map (·.token) = ts := by
  obtain ⟨⟨_, line⟩, ls', rfl, rfl, hrest⟩ := List.map_eq_cons_iff.1 h
  exact ⟨line, ls', rfl, hrest⟩

variable (body : BodyReader) (ends : Ends) (gathered : List Expr) (acc : List Node)

/-- Over a text the readers of nodes gather the text, if there is any. -/
theorem turns_text {text : List Char} {ls : List Lexeme} {ts : List Token}
    (h : ls.map (·.token) = textTokens text ++ ts) {n : Nat} (hn : ls.length < n) :
    ∃ ls' n', ls'.map (·.token) = ts ∧ ls'.length < n' ∧ repeatFor (nodesTurn body ends) n (gathered, acc) ls =
      repeatFor (nodesTurn body ends) n' ((textParts text).reverse ++ gathered, acc) ls' := by
  rw [textTokens] at h
  rw [textParts]
  split at h
  case isTrue hempty =>
    rw [if_pos hempty]
    exact ⟨ls, n, h, hn, rfl⟩
  case isFalse hsome =>
    rw [if_neg hsome]
    obtain ⟨l, ls', rfl, hrest⟩ := exists_lexeme h
    obtain ⟨n, rfl⟩ := Nat.exists_eq_succ_of_ne_zero (Nat.ne_of_gt (Nat.zero_lt_of_lt hn))
    exact ⟨ls', n, hrest, Nat.lt_of_succ_lt_succ hn, rfl⟩

/-- Over a print they gather what is printed. -/
theorem turns_print {key : String} {ls : List Lexeme} {ts : List Token} (h : ls.map (·.token) = printTokens key ++ ts)
    {n : Nat} (hn : ls.length < n) :
    ∃ ls' n', ls'.map (·.token) = ts ∧ ls'.length < n' ∧ repeatFor (nodesTurn body ends) n (gathered, acc) ls =
      repeatFor (nodesTurn body ends) n' (contextItem key :: gathered, acc) ls' := by
  obtain ⟨l₁, _, rfl, h₁⟩ := exists_lexeme h
  obtain ⟨l₂, _, rfl, h₂⟩ := exists_lexeme h₁
  obtain ⟨l₃, _, rfl, h₃⟩ := exists_lexeme h₂
  obtain ⟨l₄, _, rfl, h₄⟩ := exists_lexeme h₃
  obtain ⟨l₅, _, rfl, h₅⟩ := exists_lexeme h₄
  obtain ⟨l₆, ls', rfl, hrest⟩ := exists_lexeme h₅
  obtain ⟨n, rfl⟩ := Nat.exists_eq_succ_of_ne_zero (Nat.ne_of_gt (Nat.zero_lt_of_lt hn))
  have hturn : nodesTurn body ends (gathered, acc) (⟨.printStart, l₁⟩ :: ⟨.name "context", l₂⟩ :: ⟨.op "[", l₃⟩ ::
      ⟨.str key, l₄⟩ :: ⟨.op "]", l₅⟩ :: ⟨.printEnd, l₆⟩ :: ls') =
        .ok (.inl (contextItem key :: gathered, acc), ls') := rfl
  refine ⟨ls', n, hrest, ?_, ?_⟩
  · simp only [List.length_cons] at hn
    omega
  · exact repeatFor_on hturn n

/-- **Over a row they gather its parts**, and there is one node of them. -/
theorem turns_prints (p : Prints) {ls : List Lexeme} (h : ls.map (·.token) = p.tokens) {n : Nat} (hn : ls.length < n) :
    repeatFor (nodesTurn body ends) n (gathered, acc) ls =
      .ok ((flush (p.parts.reverse ++ gathered) acc).reverse, []) := by
  obtain ⟨first, rest⟩ := p
  induction rest generalizing first ls n gathered with
  | nil =>
    have htokens : ls.map (·.token) = textTokens first ++ [] := h
    have hparts : (⟨first, []⟩ : Prints).parts = textParts first := List.append_nil _
    obtain ⟨ls', n', hnil, hn', hturns⟩ := turns_text body ends gathered acc htokens hn
    obtain rfl := List.map_eq_nil_iff.1 hnil
    obtain ⟨n', rfl⟩ := Nat.exists_eq_succ_of_ne_zero (Nat.ne_of_gt hn')
    rw [hturns, hparts]
    rfl
  | cons q rest ih =>
    obtain ⟨key, text⟩ := q
    have htokens : ls.map (·.token) =
        textTokens first ++ (printTokens key ++ (⟨text, rest⟩ : Prints).tokens) := by
      rw [h]
      simp [Prints.tokens]
    have hparts : (⟨first, (key, text) :: rest⟩ : Prints).parts =
        textParts first ++ (contextItem key :: (⟨text, rest⟩ : Prints).parts) := by
      simp [Prints.parts]
    obtain ⟨ls₁, n₁, h₁, hn₁, hturns₁⟩ := turns_text body ends gathered acc htokens hn
    obtain ⟨ls₂, n₂, h₂, hn₂, hturns₂⟩ := turns_print body ends ((textParts first).reverse ++ gathered) acc h₁ hn₁
    rw [hturns₁, hturns₂, ih _ hn₂ text h₂, hparts]
    simp

end Reading

namespace Prints

/-- What is printed is text or an item of the context. -/
theorem mem_parts {p : Prints} {e : Expr} (h : e ∈ p.parts) :
    (∃ s, e = .data s) ∨ ∃ q ∈ p.rest, e = contextItem q.1 := by
  have htext : ∀ text : List Char, e ∈ textParts text → ∃ s, e = .data s := by
    intro text h
    rw [textParts] at h
    split at h
    · cases h
    · exact ⟨_, List.mem_singleton.1 h⟩
  rcases List.mem_append.1 h with h | h
  · exact .inl (htext _ h)
  · obtain ⟨q, hq, h⟩ := List.mem_flatMap.1 h
    rcases List.mem_cons.1 h with rfl | h
    · exact .inr ⟨q, hq, rfl⟩
    · exact .inl (htext _ h)

theorem isMeaningful_nodes (p : Prints) : isMeaningful p.nodes = true := by
  have hnamed : ∀ es : List Expr, (∀ e ∈ es, e.wellNamed false = true) → allWellNamed false es = true := by
    intro es h
    induction es with
    | nil => rfl
    | cons e es ih =>
      rw [allWellNamed, h e List.mem_cons_self, ih fun x hx => h x (List.mem_cons_of_mem e hx)]
      rfl
  have hparts : allWellNamed false p.parts = true := hnamed _ fun e he => by
    obtain ⟨s, rfl⟩ | ⟨q, -, rfl⟩ := mem_parts he <;> rfl
  rw [nodes]
  split
  case isTrue => rfl
  case isFalse =>
    change ([Node.output p.parts].all (Node.meaningful false true)) = true
    rw [List.all_cons, Node.meaningful, hparts]
    rfl

end Prints

/-- **The tree of a source is one node of the parts of its row**, and it can be meant. -/
theorem parse_sourceOf {pieces : List Piece} (h : ∀ p ∈ pieces, p.IsPlain) :
    parse (sourceOf pieces) = .ok (Prints.ofPieces pieces).nodes := by
  obtain ⟨ls, hls, htokens⟩ := tokens_sourceOf h
  have hturns := Reading.turns_prints (nodesUntil 199) [] [] [] (Prints.ofPieces pieces) htokens
    (n := ls.length + 2) (by omega)
  have hflush : ∀ parts : List Expr, (flush (parts.reverse ++ []) []).reverse =
      if parts.isEmpty then [] else [.output parts] := by
    intro parts
    rw [List.append_nil, flush, List.isEmpty_reverse, List.reverse_reverse]
    split <;> rfl
  have hnodes : nodesUntil 200 [] ls = .ok ((Prints.ofPieces pieces).nodes, []) := by
    rw [hflush] at hturns
    exact hturns
  have hread : read (sourceOf pieces) = .ok (Prints.ofPieces pieces).nodes := by
    rw [read, hls]
    change Except.bind (nodesUntil 200 [] ls) _ = _
    rw [hnodes]
    rfl
  rw [parse, hread]
  change (if isMeaningful (Prints.ofPieces pieces).nodes = true then _ else _) = _
  rw [if_pos (Prints.isMeaningful_nodes _)]
  rfl

end Stepwise.Template
