import Stepwise.Proofs.Unquoted
import Stepwise.Document.Read
/-!
# Whole numbers in documents

The decimal text of a whole number stands in a document without quotes, it has the form of a whole number, and it
is read as the number.
-/

namespace Stepwise.Document

variable {c : Char} {cs ds : List Char}

/-! ## The digits of a number -/

theorem toList_toString_nat (n : Nat) : (toString n).toList = Nat.toDigits 10 n := Nat.toList_repr

theorem toList_toString (n : Int) :
    (toString n).toList = (if n < 0 then ['-'] else []) ++ Nat.toDigits 10 n.natAbs := by
  rw [Int.toString_eq_repr]
  cases n with
  | ofNat n => simp [Int.repr]
  | negSucc n =>
    simp [Int.repr, Int.negSucc_lt_zero]

theorem isDigit_of_mem {n : Nat} (h : c ∈ Nat.toDigits 10 n) : c.isDigit = true :=
  Nat.isDigit_of_mem_toDigits (by decide) (by decide) h

/-- The first digit of a number is not zero unless the number is. -/
theorem head_toDigits {n : Nat} (hn : n ≠ 0) : (Nat.toDigits 10 n).head? ≠ some '0' := by
  induction n using Nat.strongRecOn with
  | _ n ih =>
    by_cases hsmall : n < 10
    · rw [Nat.toDigits_of_lt_base hsmall]
      intro h
      have hall : ∀ d : Fin 10, d.val ≠ 0 → Nat.digitChar d.val ≠ '0' := by decide
      exact hall ⟨n, hsmall⟩ hn (Option.some.inj h)
    · have hdiv : 0 < n / 10 := Nat.div_pos (not_lt.1 hsmall) (by decide)
      have hsplit : Nat.toDigits 10 (n / 10) ++ Nat.toDigits 10 (n % 10) = Nat.toDigits 10 n := by
        rw [Nat.toDigits_append_toDigits (by decide) hdiv (Nat.mod_lt n (by decide)), Nat.div_add_mod]
      rw [← hsplit, List.head?_append_of_ne_nil _ (List.ne_nil_of_length_pos Nat.length_toDigits_pos)]
      exact ih _ (Nat.div_lt_self (Nat.pos_of_ne_zero hn) (by decide)) hdiv.ne'

/-- There are ten digits. -/
theorem digit_cases {P : Char → Prop} (h : ∀ d : Fin 10, P (Nat.digitChar d.val)) (hc : c.isDigit = true) : P c := by
  have hrange : 48 ≤ c.toNat ∧ c.toNat ≤ 57 := by
    simp only [Char.isDigit, Bool.and_eq_true, decide_eq_true_eq] at hc
    exact ⟨hc.1, hc.2⟩
  have hall : ∀ d : Fin 10, (Nat.digitChar d.val).toNat = 48 + d.val := by decide
  have hd : c.toNat - 48 < 10 := by omega
  have hchar : Nat.digitChar (c.toNat - 48) = c := by
    refine Char.ext (UInt32.toNat_inj.1 ?_)
    have hdigit : (Nat.digitChar (c.toNat - 48)).toNat = 48 + (c.toNat - 48) := hall ⟨_, hd⟩
    change (Nat.digitChar (c.toNat - 48)).toNat = c.toNat
    omega
  exact hchar ▸ h ⟨_, hd⟩

/-! ## Their style and kind -/

/-- Nothing is found at a character without a meaning of its own. -/
theorem look_quiet {f : Findings} {first last before behind prevSpace prevBreak : Bool} (hbreak : isTextBreak c = false)
    (hspecial : isSpecial c = false) (hspace : c ≠ ' ') (hindicator : isIndicator first before behind c = false) :
    look f first last before behind prevSpace prevBreak c = f := by
  unfold look
  simp [hbreak, hspecial, hspace, hindicator]

theorem scan_digits (f : Findings) (first before prevSpace prevBreak : Bool) (hds : ∀ c ∈ ds, c.isDigit = true) :
    scan f first before prevSpace prevBreak ds = f := by
  induction ds generalizing first before prevSpace prevBreak with
  | nil => rfl
  | cons c ds ih =>
    have hc := hds c List.mem_cons_self
    obtain ⟨hbreak, hspecial, hspace, hindicator⟩ := digit_cases (P := fun c => isTextBreak c = false ∧
      isSpecial c = false ∧ c ≠ ' ' ∧ ∀ first before behind : Bool, isIndicator first before behind c = false) (by decide) hc
    rw [scan, look_quiet hbreak hspecial hspace (hindicator _ _ _)]
    exact ih _ _ _ _ fun d hd => hds d (List.mem_cons_of_mem _ hd)

/-- The text of a whole number: digits, perhaps behind a minus sign. -/
structure IsNumeral (s : List Char) (negative : Bool) (ds : List Char) : Prop where
  text : s = (if negative then ['-'] else []) ++ ds
  ne : ds ≠ []
  digits : ∀ c ∈ ds, c.isDigit = true
  head : ds.head? = some '0' → ds = ['0'] ∧ negative = false

theorem isNumeral_toString (n : Int) : IsNumeral (toString n).toList (n < 0) (Nat.toDigits 10 n.natAbs) := by
  refine ⟨?_, List.ne_nil_of_length_pos Nat.length_toDigits_pos, fun c => isDigit_of_mem, fun h => ?_⟩
  · rw [toList_toString]
    simp only [decide_eq_true_eq]
  by_cases hn : n = 0
  · subst hn
    exact ⟨rfl, rfl⟩
  · exact absurd h (head_toDigits (by omega))

theorem beginsGap_digit (hc : c.isDigit = true) (cs : List Char) : beginsGap (c :: cs) = false :=
  digit_cases (P := fun c => isTextGap c = false) (by decide) hc

theorem IsNumeral.plain {s : List Char} {negative : Bool} (h : IsNumeral s negative ds) : (analyse s).plain = true := by
  obtain ⟨rfl, hne, hds, -⟩ := h
  obtain ⟨d, ds, rfl⟩ := List.exists_cons_of_ne_nil hne
  have hd := hds d List.mem_cons_self
  have hnot : d ≠ '-' ∧ d ≠ '.' := digit_cases (P := fun d => d ≠ '-' ∧ d ≠ '.') (by decide) hd
  cases negative with
  | false =>
    have hscan : scan {} true true false false (d :: ds) = {} := scan_digits _ _ _ _ _ hds
    simp [analyse, hscan, List.isPrefixOf, hnot.1.symm, hnot.2.symm]
  | true =>
    have hdash : isIndicator true true false '-' = false := by decide
    have hscan : scan {} true true false false ('-' :: d :: ds) = {} := by
      rw [scan, beginsGap_digit hd, look_quiet (by decide) (by decide) (by decide) hdash]
      exact scan_digits _ _ _ _ _ hds
    simp [analyse, hscan, List.isPrefixOf, hnot.1.symm]

theorem dropWhile_digits (hds : ∀ c ∈ ds, c.isDigit = true) : ds.dropWhile (isDigitOr ['_']) = [] := by
  induction ds with
  | nil => rfl
  | cons c ds ih =>
    have hc : isDigitOr ['_'] c = true := by rw [isDigitOr, hds c List.mem_cons_self, Bool.true_or]
    rw [List.dropWhile_cons, if_pos hc]
    exact ih fun d hd => hds d (List.mem_cons_of_mem _ hd)

/-- A text with a digit is none of the words without one. -/
theorem not_contains {words : List String} (hwords : words.all (fun w => w.toList.all fun c => !c.isDigit) = true) (hc : c ∈ cs)
    (hdigit : c.isDigit = true) : words.contains (String.ofList cs) = false := by
  rw [List.contains_eq_mem, decide_eq_false_iff_not]
  intro hmem
  have hno := List.all_eq_true.1 (List.all_eq_true.1 hwords _ hmem) c (by rwa [String.toList_ofList])
  rw [hdigit] at hno
  cases hno

theorem IsNumeral.dropSign {s : List Char} {negative : Bool} (h : IsNumeral s negative ds) : dropSign s = ds := by
  obtain ⟨rfl, hne, hds, -⟩ := h
  obtain ⟨d, ds, rfl⟩ := List.exists_cons_of_ne_nil hne
  cases negative with
  | false =>
    have hnot := digit_cases (P := fun d => d ≠ '-' ∧ d ≠ '+') (by decide) (hds d List.mem_cons_self)
    change Document.dropSign (d :: ds) = d :: ds
    unfold Document.dropSign
    split
    case h_1 heq => exact absurd (List.cons.inj heq).1 hnot.2
    case h_2 heq => exact absurd (List.cons.inj heq).1 hnot.1
    case h_3 => rfl
  | true => rfl

theorem IsNumeral.plainTag {s : List Char} {negative : Bool} (h : IsNumeral s negative ds) :
    plainTag (String.ofList s) = tagOf "int" := by
  have hdrop := h.dropSign
  obtain ⟨d, rest, hds⟩ := List.exists_cons_of_ne_nil h.ne
  have hd : d.isDigit = true := h.digits d (by rw [hds]; exact List.mem_cons_self)
  have hmem : d ∈ s := by
    rw [h.text, hds]
    exact List.mem_append_right _ List.mem_cons_self
  have hrest := dropWhile_digits fun c hc => h.digits c (by rw [hds]; exact List.mem_cons_of_mem _ hc)
  have hbool : boolWords.contains (String.ofList s) = false := not_contains (by decide) hmem hd
  have hfloat : isFloatForm s = false := by
    have hinf : [".inf", ".Inf", ".INF"].contains (String.ofList (d :: rest)) = false :=
      not_contains (by decide) List.mem_cons_self hd
    have hnan : [".nan", ".NaN", ".NAN"].contains (String.ofList s) = false := not_contains (by decide) hmem hd
    have hpoint : ∀ c r, s = '.' :: c :: r → False := by
      rintro c r rfl
      have hhead := h.text
      rw [hds] at hhead
      cases negative with
      | false =>
        obtain rfl := (List.cons.inj hhead).1
        exact absurd hd (by decide)
      | true => exact absurd (List.cons.inj hhead).1 (by decide)
    unfold isFloatForm
    rw [hdrop, hds]
    simp only [hinf, hnan, hrest, Bool.or_self, show isSexagesimalPoint [] = false from rfl,
      Bool.and_false]
  have hint : isIntForm s = true := by
    have hzero (r : List Char) (hr : ds = '0' :: r) : r = [] := by
      have hwhole := (h.head (by rw [hr]; rfl)).1
      rw [hr] at hwhole
      exact (List.cons.inj hwhole).2
    unfold isIntForm
    rw [hdrop]
    split
    case h_1 => rfl
    case h_2 r => exact absurd (hzero _ rfl) (List.cons_ne_nil _ _)
    case h_3 r => exact absurd (hzero _ rfl) (List.cons_ne_nil _ _)
    case h_4 r hne _ _ => exact absurd (by rw [hzero r rfl]) hne
    case h_5 c r hne _ _ _ =>
      obtain ⟨rfl, rfl⟩ := List.cons.inj hds
      have hrange : c ≠ '0' → (decide ('1' ≤ c) && decide (c ≤ '9')) = true :=
        digit_cases (P := fun c => c ≠ '0' → (decide ('1' ≤ c) && decide (c ≤ '9')) = true) (by decide) hd
      have hnonzero : c ≠ '0' := by
        rintro rfl
        exact hne rfl (hzero _ rfl)
      rw [if_pos (hrange hnonzero), hrest]
      rfl
    case h_6 => exact absurd rfl h.ne
  unfold Document.plainTag
  simp only [hbool, String.toList_ofList, hfloat, hint]
  rfl

/-! ## Reading them -/

theorem trim_digits (hds : ∀ c ∈ ds, c.isDigit = true) : Text.trim Text.isBlank ds = ds := by
  have hblank {cs : List Char} (hcs : ∀ c ∈ cs, c.isDigit = true) : cs.dropWhile Text.isBlank = cs := by
    cases cs with
    | nil => rfl
    | cons c cs =>
      have hc : Text.isBlank c = false :=
        digit_cases (P := fun c => Text.isBlank c = false) (by decide) (hcs c List.mem_cons_self)
      rw [List.dropWhile_cons, hc]
      rfl
  rw [Text.trim, Text.trimLeft, hblank hds, Text.trimRight, hblank fun c hc => hds c (List.mem_reverse.1 hc),
    List.reverse_reverse]

theorem dropUnderscores?_digits (hds : ∀ c ∈ ds, c.isDigit = true) : Number.dropUnderscores? ds = some ds := by
  induction ds with
  | nil => rfl
  | cons c ds ih =>
    have hc : c ≠ '_' := digit_cases (P := fun c => c ≠ '_') (by decide) (hds c List.mem_cons_self)
    have hmore := ih fun d hd => hds d (List.mem_cons_of_mem _ hd)
    cases ds with
    | nil => simp [Number.dropUnderscores?]
    | cons d ds =>
      have hd : d ≠ '_' := digit_cases (P := fun c => c ≠ '_') (by decide) (hds d (by simp))
      rw [Number.dropUnderscores?] <;> simp_all

theorem digitsIn?_digits (hds : ∀ c ∈ ds, c.isDigit = true) :
    Number.digitsIn? 10 ds = some (ds.map fun c => c.toNat - 48) := by
  induction ds with
  | nil => rfl
  | cons c ds ih =>
    have hc : Number.digitsIn? 10 [c] = some [c.toNat - 48] :=
      digit_cases (P := fun c => Number.digitsIn? 10 [c] = some [c.toNat - 48]) (by decide) (hds c List.mem_cons_self)
    have hmore := ih fun d hd => hds d (List.mem_cons_of_mem _ hd)
    unfold Number.digitsIn? at hc hmore ⊢
    rw [← List.singleton_append, List.mapM_append, hc, hmore]
    rfl

theorem valueOfDigits_digits (ds : List Char) :
    Number.valueOfDigits 10 (ds.map fun c => c.toNat - 48) = Nat.ofDigitChars 10 ds 0 := by
  rw [Number.valueOfDigits, List.foldl_map, Nat.ofDigitChars]
  congr 1
  funext n c
  rw [Nat.mul_comm]
  rfl

/-- Digits are read as their value. -/
theorem intIn_digits (hds : ∀ c ∈ ds, c.isDigit = true) (hne : ds ≠ []) (hhead : ds.head? ≠ some '0')
    (hlength : ds.length ≤ maxDigits) : Builder.intIn 10 ds = pure (Int.ofNat (Nat.ofDigitChars 10 ds 0)) := by
  obtain ⟨d, rest, rfl⟩ := List.exists_cons_of_ne_nil hne
  have hd := hds d List.mem_cons_self
  have hsign : Number.splitSign (d :: rest) = (false, d :: rest) := by
    obtain ⟨hminus, hplus⟩ := digit_cases (P := fun d => d ≠ '-' ∧ d ≠ '+') (by decide) hd
    unfold Number.splitSign
    split
    case h_1 heq => exact absurd (List.cons.inj heq).1 hminus
    case h_2 heq => exact absurd (List.cons.inj heq).1 hplus
    case h_3 => rfl
  have hmark : Number.baseMark 10 (d :: rest) = none := by
    unfold Number.baseMark
    split
    case h_1 heq => exact absurd (congrArg some (List.cons.inj heq).1) hhead
    case h_2 => rfl
  have hread : Number.readInt? 10 (d :: rest) = some (false, 10, (d :: rest).map fun c => c.toNat - 48) := by
    unfold Number.readInt?
    rw [trim_digits hds, hsign]
    simp only [hmark]
    rw [if_neg (by decide)]
    simp only [dropUnderscores?_digits hds, digitsIn?_digits hds]
    rfl
  have hshort : ¬ ((d :: rest).map fun c => c.toNat - 48).length > maxDigits := by
    rw [List.length_map]
    exact not_lt.2 hlength
  unfold Builder.intIn
  rw [hread]
  simp only [hshort, decide_false, Bool.false_and, Bool.false_eq_true, if_false, valueOfDigits_digits]

/-- **The text of a whole number is read as the number**, if it is not too long. -/
theorem intOf_toString {n : Int} (h : (toString n.natAbs).length ≤ maxDigits) :
    Builder.intOf (toString n) = pure (.int n) := by
  have hnumeral := isNumeral_toString n
  generalize hds : Nat.toDigits 10 n.natAbs = ds at hnumeral
  have hlength : ds.length ≤ maxDigits := by
    rw [← hds, ← toList_toString_nat, String.length_toList]
    exact h
  have hvalue : Nat.ofDigitChars 10 ds 0 = n.natAbs := by
    rw [← hds, Nat.ofDigitChars_toDigits (by decide) (by decide)]
  have hfilter : (toString n).toList.filter (fun c => c ≠ '_') = (toString n).toList := by
    rw [List.filter_eq_self, hnumeral.text]
    intro c hc
    rcases List.mem_append.1 hc with hc | hc
    · split at hc
      · rw [List.mem_singleton.1 hc]
        decide
      · cases hc
    · exact digit_cases (P := fun c => decide (c ≠ '_') = true) (by decide) (hnumeral.digits c hc)
  have hzero (r : List Char) (hr : ds = '0' :: r) : r = [] := by
    have hwhole := (hnumeral.head (by rw [hr]; rfl)).1
    rw [hr] at hwhole
    exact (List.cons.inj hwhole).2
  have hcolon : ds.contains ':' = false := by
    rw [List.contains_eq_mem, decide_eq_false_iff_not]
    intro hmem
    exact absurd (hnumeral.digits _ hmem) (by decide)
  have hread (sign : Int) (hsign : sign * n.natAbs = n) (hhead : ds.head? ≠ some '0') :
      (if ds.contains ':' then do
        let parts ← (Text.splitChars ':' ds).mapM (Builder.intIn 10)
        return Value.int (sign * parts.foldl (fun n d => n * 60 + d) 0)
      else return Value.int (sign * (← Builder.intIn 10 ds))) = (pure (.int n) : Builder Value) := by
    rw [hcolon, if_neg Bool.false_ne_true, intIn_digits hnumeral.digits hnumeral.ne hhead hlength, hvalue]
    exact congrArg (fun k => (pure (Value.int k) : Builder Value)) hsign
  have hone : ds = ['0'] → n = 0 := by
    rintro rfl
    exact Int.natAbs_eq_zero.1 hvalue.symm
  have hother (hno : ∀ tail, ds = '0' :: tail → False) : ds.head? ≠ some '0' := fun hhead =>
    have ⟨tail, htail⟩ := List.head?_eq_some_iff.1 hhead
    hno tail htail
  have hunsigned : (∀ r, ds = '-' :: r → False) ∧ ∀ r, ds = '+' :: r → False := by
    constructor <;> rintro r rfl <;> exact absurd (hnumeral.digits _ List.mem_cons_self) (by decide)
  obtain ⟨hminus, hplus⟩ := hunsigned
  unfold Builder.intOf
  simp only [hfilter]
  rw [hnumeral.text]
  by_cases hn : n < 0
  · simp only [hn, decide_true, if_true, List.singleton_append]
    split
    case h_1 => exact absurd rfl hnumeral.ne
    case h_2 => rw [hone rfl]
    case h_3 r => exact absurd (hzero _ rfl) (List.cons_ne_nil _ _)
    case h_4 r => exact absurd (hzero _ rfl) (List.cons_ne_nil _ _)
    case h_5 r hno _ _ =>
      obtain rfl := hzero _ rfl
      exact absurd rfl hno
    case h_6 hno => exact hread (-1) (by omega) (hother hno)
  · simp only [hn, decide_false, Bool.false_eq_true, if_false, List.nil_append]
    split
    case h_1 => exact absurd rfl hnumeral.ne
    case h_2 => rw [hone rfl]
    case h_3 r => exact absurd (hzero _ rfl) (List.cons_ne_nil _ _)
    case h_4 r => exact absurd (hzero _ rfl) (List.cons_ne_nil _ _)
    case h_5 r hno _ _ =>
      obtain rfl := hzero _ rfl
      exact absurd rfl hno
    case h_6 hno => exact hread 1 (by omega) (hother hno)

end Stepwise.Document
