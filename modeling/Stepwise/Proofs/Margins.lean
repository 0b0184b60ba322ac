import Stepwise.Text.Dedent
import Mathlib.Data.List.Basic
/-!
# Lines and margins

A text is its lines with line feeds between them, and can be put together and cut apart again (`splitChars_spec`,
`splitChars_intercalate`). Of a text that begins at the margin, moving it to the left takes nothing but the blanks of
lines that hold nothing else (`dedent_of_margin`). That is felt within a literal of several lines: its first and its
last line end on those of the statement around it, and the lines between them are kept unless they are blank
(`dedent_around`, `kept_eq_iff`).
-/

namespace Stepwise

namespace Text

variable {c d : Char} {s a b l : List Char} {ls : List (List Char)}

/-! ## Lines -/

theorem splitChars_cons_self (c : Char) (s : List Char) : splitChars c (c :: s) = [] :: splitChars c s := by
  change (if c = c then _ else _) = _
  rw [if_pos rfl]
  rfl

theorem splitChars_cons_of_ne (h : d ≠ c) (hs : splitChars c s = l :: ls) :
    splitChars c (d :: s) = (d :: l) :: ls := by
  rw [splitChars] at hs ⊢
  rw [List.foldr_cons, hs, if_neg h]

/-- What holds no sign is not cut at it. -/
theorem splitChars_of_notMem (hs : c ∉ s) : splitChars c s = [s] := by
  induction s with
  | nil => rfl
  | cons d s ih =>
    rw [List.mem_cons, not_or] at hs
    exact splitChars_cons_of_ne (Ne.symm hs.1) (ih hs.2)

theorem intercalate_cons (h : ls ≠ []) : [c].intercalate (l :: ls) = l ++ c :: [c].intercalate ls := by
  cases ls with
  | nil => exact absurd rfl h
  | cons _ _ => simp [List.intercalate]

theorem intercalate_singleton : [c].intercalate [l] = l := by simp [List.intercalate]

/-- What stands in front of lines belongs to the first of them. -/
theorem intercalate_append_first : a ++ [c].intercalate (l :: ls) = [c].intercalate ((a ++ l) :: ls) := by
  by_cases hrest : ls = []
  · rw [hrest, intercalate_singleton, intercalate_singleton]
  · rw [intercalate_cons hrest, intercalate_cons hrest, List.append_assoc]

/-- What stands behind lines belongs to the last of them. -/
theorem intercalate_append_last : [c].intercalate (ls ++ [l]) ++ b = [c].intercalate (ls ++ [l ++ b]) := by
  induction ls with
  | nil => rw [List.nil_append, List.nil_append, intercalate_singleton, intercalate_singleton]
  | cons first ls ih =>
    have hne (x : List Char) : ls ++ [x] ≠ [] := List.append_ne_nil_of_right_ne_nil _ (List.cons_ne_nil _ _)
    rw [List.cons_append, List.cons_append, intercalate_cons (hne _), intercalate_cons (hne _), ← ih,
      List.append_assoc, List.cons_append]

/-- **A text is its lines with the sign between them**, and no line holds the sign. -/
theorem splitChars_spec (c : Char) (s : List Char) :
    splitChars c s ≠ [] ∧ [c].intercalate (splitChars c s) = s ∧ ∀ l ∈ splitChars c s, c ∉ l := by
  induction s with
  | nil => exact ⟨List.cons_ne_nil _ _, rfl, fun l hl => List.mem_singleton.1 hl ▸ List.not_mem_nil⟩
  | cons d s ih =>
    obtain ⟨hne, hwhole, hfree⟩ := ih
    by_cases hd : d = c
    · subst hd
      rw [splitChars_cons_self, intercalate_cons hne, hwhole]
      exact ⟨List.cons_ne_nil _ _, rfl, List.forall_mem_cons.2 ⟨List.not_mem_nil, hfree⟩⟩
    · obtain ⟨l, ls, hs⟩ := List.exists_cons_of_ne_nil hne
      rw [hs] at hwhole hfree
      obtain ⟨hl, hls⟩ := List.forall_mem_cons.1 hfree
      rw [splitChars_cons_of_ne hd hs]
      refine ⟨List.cons_ne_nil _ _, ?_, List.forall_mem_cons.2 ⟨?_, hls⟩⟩
      · rw [← hwhole]
        exact (intercalate_append_first (a := [d])).symm
      · exact fun hmem => (List.mem_cons.1 hmem).elim (fun h => hd h.symm) hl

/-- What stands in front of a text belongs to its first line. -/
theorem splitChars_append (ha : c ∉ a) (hs : splitChars c s = l :: ls) : splitChars c (a ++ s) = (a ++ l) :: ls := by
  induction a with
  | nil => exact hs
  | cons d a ih =>
    rw [List.mem_cons, not_or] at ha
    exact splitChars_cons_of_ne (Ne.symm ha.1) (ih ha.2)

/-- Lines that are put together are found again. -/
theorem splitChars_intercalate (hne : ls ≠ []) (hls : ∀ l ∈ ls, c ∉ l) : splitChars c ([c].intercalate ls) = ls := by
  induction ls with
  | nil => exact absurd rfl hne
  | cons l ls ih =>
    obtain ⟨hl, hls⟩ := List.forall_mem_cons.1 hls
    by_cases hrest : ls = []
    · rw [hrest, intercalate_singleton, splitChars_of_notMem hl]
    · rw [intercalate_cons hrest]
      refine (splitChars_append hl (splitChars_cons_self c _)).trans ?_
      rw [ih hrest hls, List.append_nil]

/-- What is neither the sign nor in a line is not in the text. -/
theorem notMem_intercalate (hd : d ≠ c) : d ∉ [c].intercalate ls ↔ ∀ l ∈ ls, d ∉ l := by
  induction ls with
  | nil => exact iff_of_true List.not_mem_nil fun _ h => nomatch h
  | cons l ls ih =>
    rw [List.forall_mem_cons, ← ih]
    by_cases hrest : ls = []
    · rw [hrest, intercalate_singleton]
      exact (and_iff_left List.not_mem_nil).symm
    · rw [intercalate_cons hrest, List.mem_append, List.mem_cons, not_or, not_or, and_iff_right hd]

/-! ## Common indentation -/

/-- A line of nothing but blanks and tabs is emptied, and any other is as it was. -/
def emptied (l : List Char) : List Char := if l.all isIndent then [] else l

/-- **Where a line begins at the margin, moving to the left changes nothing but lines of blanks.** -/
theorem dedent_of_margin {first : Char} (hfirst : isIndent first = false)
    (hls : ∀ l ∈ (first :: a) :: ls, '\n' ∉ l) :
    dedent (['\n'].intercalate ((first :: a) :: ls)) = ['\n'].intercalate (((first :: a) :: ls).map emptied) := by
  have hcommon : ∀ rest : List (List Char), rest.foldl common [] = [] := by
    intro rest
    induction rest with
    | nil => rfl
    | cons _ _ ih => exact ih
  have hmargin : sharedIndent ((first :: a) :: ls) = [] := by
    have hany : (fun l : List Char => l.any (!isIndent ·)) (first :: a) = true := by
      simp only [List.any_cons, hfirst]
      rfl
    have hindent : (first :: a).takeWhile isIndent = [] :=
      List.takeWhile_cons_of_neg (by rw [hfirst]; exact Bool.false_ne_true)
    have hfilter : ((first :: a) :: ls).filter (fun l => l.any (!isIndent ·)) =
        (first :: a) :: ls.filter (fun l => l.any (!isIndent ·)) := List.filter_cons_of_pos hany
    rw [sharedIndent, hfilter, List.map_cons, hindent]
    exact hcommon _
  rw [dedent, splitChars_intercalate (List.cons_ne_nil _ _) hls, hmargin]
  rfl

theorem emptied_eq_self_iff : emptied l = l ↔ (l.all isIndent = true → l = []) := by
  rw [emptied]
  split
  case isTrue h => exact ⟨fun hl _ => hl.symm, fun hl => (hl h).symm⟩
  case isFalse h => exact iff_of_true rfl fun hall => absurd hall h

theorem emptied_of_mem {x : Char} (hx : x ∈ l) (h : isIndent x = false) : emptied l = l :=
  if_neg fun hall => Bool.false_ne_true (h.symm.trans (List.all_eq_true.1 hall x hx))

/-- The lines of a literal when its text was moved to the left: those between the first and the last are emptied if
they are blank. -/
def keptLines : List (List Char) → List (List Char)
  | [] => []
  | first :: rest => first :: (rest.dropLast.map emptied ++ rest.getLast?.toList)

theorem keptLines_concat (first last : List Char) (mids : List (List Char)) :
    keptLines (first :: (mids ++ [last])) = first :: (mids.map emptied ++ [last]) := by
  rw [keptLines, List.dropLast_concat, List.getLast?_concat]
  rfl

/-- What is left of a literal when its text was moved to the left. -/
def kept (v : List Char) : List Char := ['\n'].intercalate (keptLines (splitChars '\n' v))

/-- **A literal that begins and ends on a line with something else on it keeps all but its blank inner lines.** -/
theorem dedent_around {first x : Char} (v : List Char) (hfirst : isIndent first = false) (ha : '\n' ∉ first :: a)
    (hb : '\n' ∉ b) (hx : x ∈ b) (hlast : isIndent x = false) :
    dedent (first :: a ++ v ++ b) = first :: a ++ kept v ++ b := by
  obtain ⟨hne, hwhole, hfree⟩ := splitChars_spec '\n' v
  obtain ⟨l, rest, hlines⟩ := List.exists_cons_of_ne_nil hne
  rw [kept, hlines]
  rw [hlines] at hwhole hfree
  obtain ⟨hl, hrest⟩ := List.forall_mem_cons.1 hfree
  have hjoin {s t : List Char} (hs : '\n' ∉ s) (ht : '\n' ∉ t) : '\n' ∉ s ++ t := fun h =>
    (List.mem_append.1 h).elim hs ht
  obtain rfl | ⟨mids, last, rfl⟩ := List.eq_nil_or_concat' rest
  · -- all stands on one line
    have hone : emptied (first :: (a ++ l ++ b)) = first :: (a ++ l ++ b) := emptied_of_mem List.mem_cons_self hfirst
    have hdedent := @dedent_of_margin (a ++ l ++ b) [] first hfirst fun y hy =>
      List.mem_singleton.1 hy ▸ hjoin (hjoin ha hl) hb
    rw [List.map_singleton, hone, intercalate_singleton] at hdedent
    rw [← hwhole, intercalate_singleton]
    exact hdedent.trans (by simp [keptLines])
  · have hlastline : '\n' ∉ last := hrest last (List.mem_append_right _ (List.mem_singleton.2 rfl))
    have hmids : ∀ y ∈ mids, '\n' ∉ y := fun y hy => hrest y (List.mem_append_left _ hy)
    have htext (ls : List (List Char)) : first :: a ++ ['\n'].intercalate (l :: (ls ++ [last])) ++ b =
        ['\n'].intercalate ((first :: (a ++ l)) :: (ls ++ [last ++ b])) := by
      rw [intercalate_append_first, ← List.cons_append, intercalate_append_last]
      rfl
    have hopen : emptied (first :: (a ++ l)) = first :: (a ++ l) := emptied_of_mem List.mem_cons_self hfirst
    have hclose : emptied (last ++ b) = last ++ b := emptied_of_mem (List.mem_append_right _ hx) hlast
    have hdedent := @dedent_of_margin (a ++ l) (mids ++ [last ++ b]) first hfirst fun y hy => by
      obtain rfl | hy := List.mem_cons.1 hy
      · exact hjoin ha hl
      · obtain hy | hy := List.mem_append.1 hy
        · exact hmids y hy
        · exact List.mem_singleton.1 hy ▸ hjoin hlastline hb
    rw [List.map_cons, List.map_append, List.map_singleton, hopen, hclose, ← htext, ← htext, hwhole] at hdedent
    rw [hdedent, keptLines_concat]

theorem keptLines_eq_iff {ls : List (List Char)} :
    keptLines ls = ls ↔ ∀ l ∈ ls.tail.dropLast, l.all isIndent = true → l = [] := by
  match ls with
  | [] => exact iff_of_true rfl fun _ h => nomatch h
  | first :: rest =>
    obtain rfl | ⟨mids, last, rfl⟩ := List.eq_nil_or_concat' rest
    · exact iff_of_true rfl fun _ h => nomatch h
    · have hmap : mids.map emptied = mids.map id ↔ ∀ y ∈ mids, emptied y = y := List.map_eq_map_iff
      rw [List.map_id] at hmap
      rw [keptLines_concat, List.cons_inj_right, List.append_left_inj, hmap, List.tail_cons, List.dropLast_concat]
      exact forall₂_congr fun _ _ => emptied_eq_self_iff

theorem notMem_keptLines {ls : List (List Char)} (h : ∀ l ∈ ls, c ∉ l) : ∀ l ∈ keptLines ls, c ∉ l := by
  have hemptied {l : List Char} (hl : c ∉ l) : c ∉ emptied l := by
    rw [emptied]
    split
    case isTrue => exact List.not_mem_nil
    case isFalse => exact hl
  match ls with
  | [] => exact h
  | first :: rest =>
    obtain rfl | ⟨mids, last, rfl⟩ := List.eq_nil_or_concat' rest
    · exact h
    · rw [keptLines_concat]
      rw [List.forall_mem_cons, List.forall_mem_append] at h ⊢
      exact ⟨h.1, List.forall_mem_map.2 fun l hl => hemptied (h.2.1 l hl), h.2.2⟩

/-- Nothing comes in when a text is moved to the left. -/
theorem notMem_kept {v : List Char} (hc : c ≠ '\n') (h : c ∉ v) : c ∉ kept v := by
  rw [← (splitChars_spec '\n' v).2.1, notMem_intercalate hc] at h
  exact (notMem_intercalate hc).2 (notMem_keptLines h)

/-- **All of a literal is kept exactly if none of its inner lines is made of blanks.** -/
theorem kept_eq_iff (v : List Char) :
    kept v = v ↔ ∀ l ∈ (splitChars '\n' v).tail.dropLast, l.all isIndent = true → l = [] := by
  obtain ⟨hne, hwhole, hfree⟩ := splitChars_spec '\n' v
  have hlines : splitChars '\n' (kept v) = keptLines (splitChars '\n' v) := by
    refine splitChars_intercalate ?_ (notMem_keptLines hfree)
    obtain ⟨l, rest, hsplit⟩ := List.exists_cons_of_ne_nil hne
    rw [hsplit]
    exact List.cons_ne_nil _ _
  rw [← keptLines_eq_iff]
  refine ⟨fun h => ?_, fun h => ?_⟩
  · rw [← hlines, h]
  · rw [kept, h, hwhole]

end Text

end Stepwise
