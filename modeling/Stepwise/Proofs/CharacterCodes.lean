import Mathlib.Tactic.Ring
import Stepwise.Script.Literal
import Stepwise.Text.Quoted
/-!
# Characters by their codes

A text whose characters outside ASCII are written by their codes is read as the text, unless it held backslashes of
its own. So it is with the words of a template that stand between quotes, which are written like that before they are
read.
-/

namespace Stepwise

/-! ## Codes in base sixteen -/

namespace Text

/-- The digits of a number in base sixteen, as many as are asked for. -/
def hexDigitsOf (width n : Nat) : List Nat := (List.range width).reverse.map fun k => n / 16 ^ k % 16

theorem hexPadded_eq_map (width n : Nat) : hexPadded width n = (hexDigitsOf width n).map hexDigit := by
  rw [hexDigitsOf, List.map_map]
  rfl

theorem hexDigitsOf_lt (width n : Nat) : ∀ d ∈ hexDigitsOf width n, d < 16 := by
  intro d hd
  obtain ⟨k, -, rfl⟩ := List.mem_map.1 hd
  exact Nat.mod_lt _ (by decide)

theorem foldl_hexDigitsOf (width n acc : Nat) :
    (hexDigitsOf width n).foldl (fun n d => n * 16 + d) acc = acc * 16 ^ width + n % 16 ^ width := by
  induction width generalizing acc with
  | zero => simp [hexDigitsOf, Nat.mod_one]
  | succ width ih =>
    have hstep : hexDigitsOf (width + 1) n = n / 16 ^ width % 16 :: hexDigitsOf width n := by
      rw [hexDigitsOf, List.range_succ, List.reverse_append]
      rfl
    rw [hstep, List.foldl_cons, ih, Nat.pow_succ, Nat.mod_mul]
    ring_nf

/-- A digit is a character of ASCII that is read as the digit. -/
theorem hexDigit_read : ∀ d, d < 16 → Number.digitValue? (hexDigit d) = some d ∧ (hexDigit d).toNat < 128 := by
  decide +kernel

theorem digitsIn?_map_hexDigit {ds : List Nat} (h : ∀ d ∈ ds, d < 16) :
    Number.digitsIn? 16 (ds.map hexDigit) = some ds := by
  induction ds with
  | nil => rfl
  | cons d ds ih =>
    have hd := h d List.mem_cons_self
    have hrest := ih fun e he => h e (List.mem_cons_of_mem d he)
    rw [Number.digitsIn?] at hrest ⊢
    rw [List.map_cons, List.mapM_cons, hrest, (hexDigit_read d hd).1]
    simp [hd]

/-! ## Texts in ASCII -/

/-- The letters behind a backslash that say how many digits a code has. -/
def codeWidths : List (Char × Nat) := [('x', 2), ('u', 4), ('U', 8)]

/-- A character is written as it is, or by its code in as many digits as a letter says. -/
theorem escapeNonAscii_cons (c : Char) (s : List Char) :
    escapeNonAscii (c :: s) = c :: escapeNonAscii s ∨
      ∃ l width, (l, width) ∈ codeWidths ∧ c.toNat < 16 ^ width ∧
        escapeNonAscii (c :: s) = '\\' :: l :: (hexPadded width c.toNat ++ escapeNonAscii s) := by
  have hcons : escapeNonAscii (c :: s) = (if c.toNat < 128 then [c]
      else if c.toNat < 256 then ['\\', 'x'] ++ hexPadded 2 c.toNat
      else if c.toNat < 65536 then ['\\', 'u'] ++ hexPadded 4 c.toNat
      else ['\\', 'U'] ++ hexPadded 8 c.toNat) ++ escapeNonAscii s := List.flatMap_cons
  rw [hcons]
  by_cases h128 : c.toNat < 128
  · exact .inl (by rw [if_pos h128]; rfl)
  by_cases h256 : c.toNat < 256
  · exact .inr ⟨'x', 2, by decide, h256, by rw [if_neg h128, if_pos h256]; rfl⟩
  by_cases h65536 : c.toNat < 65536
  · exact .inr ⟨'u', 4, by decide, h65536, by rw [if_neg h128, if_neg h256, if_pos h65536]; rfl⟩
  · exact .inr ⟨'U', 8, by decide, c.val.toNat_lt, by rw [if_neg h128, if_neg h256, if_neg h65536]; rfl⟩

end Text

/-! ## Reading them -/

namespace Script.Written

/-- The digits of a number are read as the number. -/
theorem hexDigits?_hexPadded {width n : Nat} (h : n < 16 ^ width) (r : List Char) :
    hexDigits? width (Text.hexPadded width n ++ r) = some (n, r) := by
  have hlength : (Text.hexPadded width n).length = width := by simp [Text.hexPadded]
  have htake : (Text.hexPadded width n ++ r).take width = Text.hexPadded width n := List.take_left' hlength
  have hdrop : (Text.hexPadded width n ++ r).drop width = r := List.drop_left' hlength
  have hdigits : Number.digitsIn? 16 (Text.hexPadded width n) = some (Text.hexDigitsOf width n) := by
    rw [Text.hexPadded_eq_map]
    exact Text.digitsIn?_map_hexDigit (Text.hexDigitsOf_lt width n)
  have hascii : (Text.hexPadded width n).all (·.toNat < 128) = true := by
    rw [Text.hexPadded_eq_map, List.all_map, List.all_eq_true]
    exact fun d hd => decide_eq_true (Text.hexDigit_read d (Text.hexDigitsOf_lt width n d hd)).2
  have hvalue : Number.valueOfDigits 16 (Text.hexDigitsOf width n) = n := by
    rw [Number.valueOfDigits, Text.foldl_hexDigitsOf, Nat.mod_eq_of_lt h, Nat.zero_mul, Nat.zero_add]
  rw [hexDigits?, htake, hdrop]
  simp only [hlength, if_true, hdigits, Option.bind_some, hascii, hvalue]

/-- A code is read as its character. -/
theorem escape_hexPadded {l : Char} {width : Nat} (hl : (l, width) ∈ Text.codeWidths) {c : Char}
    (hc : c.toNat < 16 ^ width) (r : List Char) :
    escape false l (Text.hexPadded width c.toNat ++ r) = some ([c], r) := by
  have hsmall : ¬ c.toNat > 0x10ffff := by
    rcases c.valid with h | ⟨-, h⟩
    · exact Nat.not_lt.2 (Nat.le_trans (Nat.le_of_lt h) (by decide))
    · exact Nat.not_lt.2 (Nat.le_of_lt_succ h)
  have hcoded : (hexDigits? width (Text.hexPadded width c.toNat ++ r) >>= fun read =>
      if read.1 > 0x10ffff then none else some ([Char.ofNat read.1], read.2)) = some ([c], r) := by
    rw [hexDigits?_hexPadded hc r]
    simp only [Option.bind_eq_bind, Option.bind_some, if_neg hsmall, Char.ofNat_toNat]
  simp only [Text.codeWidths, List.mem_cons, List.not_mem_nil, or_false, Prod.mk.injEq] at hl
  rcases hl with ⟨rfl, rfl⟩ | ⟨rfl, rfl⟩ | ⟨rfl, rfl⟩ <;> exact hcoded

theorem unescapeLoop_plain {c : Char} (hc : c ≠ '\\') (bytes : Bool) (fuel : Nat) (r : List Char) :
    unescapeLoop bytes (fuel + 1) (c :: r) = (unescapeLoop bytes fuel r).map (c :: ·) := by
  rw [unescapeLoop.eq_def]
  split
  case h_1 heq => cases heq
  case h_2 heq => cases heq
  case h_3 heq => exact absurd (List.cons.inj heq).1 hc
  case h_4 hfuel heq =>
    cases heq
    cases hfuel
    rfl

theorem unescapeLoop_escapeNonAscii {s : List Char} (hback : '\\' ∉ s) {fuel : Nat}
    (hfuel : (Text.escapeNonAscii s).length < fuel) : unescapeLoop false fuel (Text.escapeNonAscii s) = some s := by
  induction s generalizing fuel with
  | nil =>
    obtain ⟨fuel, rfl⟩ := Nat.exists_eq_succ_of_ne_zero (Nat.ne_of_gt hfuel)
    rfl
  | cons c s ih =>
    rw [List.mem_cons, not_or] at hback
    obtain ⟨fuel, rfl⟩ := Nat.exists_eq_succ_of_ne_zero (Nat.ne_of_gt (Nat.zero_lt_of_lt hfuel))
    obtain hplain | ⟨l, width, hl, hc, hcode⟩ := Text.escapeNonAscii_cons c s
    · rw [hplain] at hfuel ⊢
      rw [unescapeLoop_plain (Ne.symm hback.1), ih hback.2 (Nat.lt_of_succ_lt_succ hfuel)]
      rfl
    · rw [hcode] at hfuel ⊢
      simp only [List.length_cons, List.length_append] at hfuel
      rw [unescapeLoop, escape_hexPadded hl hc]
      simp only [ih hback.2 (show (Text.escapeNonAscii s).length < fuel by omega)]
      rfl

/-- **Codes are read as what they stand for**, in a text that has no backslashes. -/
theorem unescape_escapeNonAscii {s : List Char} (hback : '\\' ∉ s) :
    unescape false (Text.escapeNonAscii s) = some s :=
  unescapeLoop_escapeNonAscii hback (Nat.lt_succ_self _)

end Script.Written

end Stepwise
