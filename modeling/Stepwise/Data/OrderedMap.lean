/-!
# Maps in insertion order

A list of pairs with distinct keys. A new key goes to the end, writing a key that is present
keeps its place (and its first spelling), and erasing closes the gap. The two views are
`find?` and `keys`; the lemmas below say what each operation does to them.
-/

namespace Stepwise

universe u v

/-- Pairs in the order in which their keys were first written. -/
structure OrderedMap (κ : Type u) (ν : Type v) where
  entries : List (κ × ν)

namespace OrderedMap

variable {κ : Type u} {ν : Type v} [BEq κ]

def empty : OrderedMap κ ν := ⟨[]⟩

instance : Inhabited (OrderedMap κ ν) := ⟨empty⟩

def keys (m : OrderedMap κ ν) : List κ := m.entries.map (·.1)
def values (m : OrderedMap κ ν) : List ν := m.entries.map (·.2)
def size (m : OrderedMap κ ν) : Nat := m.entries.length
def isEmpty (m : OrderedMap κ ν) : Bool := m.entries.isEmpty

/-- The value of the first pair with the key. -/
def findIn (k : κ) : List (κ × ν) → Option ν
  | [] => none
  | (k', v) :: r => if k == k' then some v else findIn k r

def find? (m : OrderedMap κ ν) (k : κ) : Option ν := findIn k m.entries

def contains (m : OrderedMap κ ν) (k : κ) : Bool := (m.find? k).isSome

/-- Writes a pair into a list of pairs, in place if the key is there. -/
def insertIn (k : κ) (v : ν) : List (κ × ν) → List (κ × ν)
  | [] => [(k, v)]
  | (k', v') :: r => if k == k' then (k', v) :: r else (k', v') :: insertIn k v r

def insert (m : OrderedMap κ ν) (k : κ) (v : ν) : OrderedMap κ ν := ⟨insertIn k v m.entries⟩

def eraseIn (k : κ) : List (κ × ν) → List (κ × ν)
  | [] => []
  | (k', v) :: r => if k == k' then r else (k', v) :: eraseIn k r

def erase (m : OrderedMap κ ν) (k : κ) : OrderedMap κ ν := ⟨eraseIn k m.entries⟩

/-- Writes all pairs of a list, first to last. -/
def insertAll (m : OrderedMap κ ν) (l : List (κ × ν)) : OrderedMap κ ν :=
  l.foldl (fun m (k, v) => m.insert k v) m

def ofList (l : List (κ × ν)) : OrderedMap κ ν := empty.insertAll l

/-! ## What the operations do to the views -/

@[simp] theorem find?_empty (k : κ) : (empty : OrderedMap κ ν).find? k = none := rfl

variable [LawfulBEq κ]

@[simp] theorem findIn_insertIn (k k' : κ) (v : ν) (l : List (κ × ν)) :
    findIn k (insertIn k' v l) = if k == k' then some v else findIn k l := by
  induction l with
  | nil => simp [insertIn, findIn]
  | cons p r ih =>
    obtain ⟨a, b⟩ := p
    by_cases h : k' == a
    · have : k' = a := by simpa using h
      subst this
      by_cases h2 : k == k' <;> simp [insertIn, findIn, h2]
    · by_cases h2 : k == a
      · have : k = a := by simpa using h2
        subst this
        have h3 : (k == k') = false := by
          simp only [beq_eq_false_iff_ne, ne_eq]
          intro e; subst e; simp at h
        simp [insertIn, findIn, h, h3]
      · simp [insertIn, findIn, h, h2, ih]

/-- A written key has the written value, and the others are as before. -/
theorem find?_insert (m : OrderedMap κ ν) (k k' : κ) (v : ν) :
    (m.insert k' v).find? k = if k == k' then some v else m.find? k :=
  findIn_insertIn k k' v m.entries

theorem keys_insertIn (k : κ) (v : ν) (l : List (κ × ν)) :
    (insertIn k v l).map (·.1) =
      if (findIn k l).isSome then l.map (·.1) else l.map (·.1) ++ [k] := by
  induction l with
  | nil => simp [insertIn, findIn]
  | cons p r ih =>
    obtain ⟨a, b⟩ := p
    by_cases h : k == a
    · simp [insertIn, findIn, h]
    · by_cases h2 : (findIn k r).isSome <;> simp_all [insertIn, findIn]

/-- A key that is present keeps its place; a new one goes to the end. -/
theorem keys_insert (m : OrderedMap κ ν) (k : κ) (v : ν) :
    (m.insert k v).keys = if m.contains k then m.keys else m.keys ++ [k] :=
  keys_insertIn k v m.entries

theorem mem_of_findIn {k : κ} {v : ν} {l : List (κ × ν)} (h : findIn k l = some v) : (k, v) ∈ l := by
  induction l with
  | nil => cases h
  | cons p r ih =>
    obtain ⟨a, b⟩ := p
    rw [findIn] at h
    split at h
    case isTrue hk =>
      cases h
      rw [eq_of_beq hk]
      exact List.mem_cons_self
    case isFalse => exact List.mem_cons_of_mem _ (ih h)

/-- What is found is there. -/
theorem mem_of_find? {m : OrderedMap κ ν} {k : κ} {v : ν} (h : m.find? k = some v) : (k, v) ∈ m.entries :=
  mem_of_findIn h

theorem contains_iff {m : OrderedMap κ ν} {k : κ} : m.contains k = true ↔ k ∈ m.keys := by
  rw [contains, find?, keys]
  induction m.entries with
  | nil => simp [findIn]
  | cons p r ih =>
    obtain ⟨a, b⟩ := p
    by_cases h : k = a
    · simp [findIn, h]
    · simpa [findIn, h] using ih

/-- What is not among the keys is not found. -/
theorem find?_eq_none {m : OrderedMap κ ν} {k : κ} (h : k ∉ m.keys) : m.find? k = none := by
  rw [← contains_iff, contains, Bool.not_eq_true, Option.isSome_eq_false_iff, Option.isNone_iff_eq_none] at h
  exact h

/-- Where a key stands once, what is found is what stands there. -/
theorem find?_eq_some_iff {m : OrderedMap κ ν} (hm : m.keys.Nodup) {k : κ} {v : ν} :
    m.find? k = some v ↔ (k, v) ∈ m.entries := by
  refine ⟨mem_of_find?, fun h => ?_⟩
  obtain ⟨l⟩ := m
  change (l.map (·.1)).Nodup at hm
  change findIn k l = some v
  induction l with
  | nil => cases h
  | cons p r ih =>
    rw [List.map_cons, List.nodup_cons] at hm
    rcases List.mem_cons.1 h with rfl | hr
    · exact if_pos (beq_self_eq_true k)
    · have hne : k ≠ p.1 := fun hk => hm.1 (hk ▸ List.mem_map.2 ⟨_, hr, rfl⟩)
      rw [findIn, if_neg (by simpa using hne)]
      exact ih hr hm.2

/-- What is found does not depend on the order. -/
theorem find?_perm {m m' : OrderedMap κ ν} (hperm : m'.entries.Perm m.entries) (hm : m.keys.Nodup) (k : κ) :
    m'.find? k = m.find? k := by
  have hm' : m'.keys.Nodup := (hperm.map _).nodup_iff.2 hm
  refine Option.ext fun v => ?_
  rw [find?_eq_some_iff hm', find?_eq_some_iff hm, hperm.mem_iff]

omit [LawfulBEq κ] in
/-- A pair has the written value, or was there before. -/
theorem eq_or_mem_of_mem_insert {m : OrderedMap κ ν} {k : κ} {v : ν} {p : κ × ν} (h : p ∈ (m.insert k v).entries) :
    p.2 = v ∨ p ∈ m.entries := by
  obtain ⟨l⟩ := m
  change p ∈ insertIn k v l at h
  change p.2 = v ∨ p ∈ l
  induction l with
  | nil => exact .inl (List.mem_singleton.1 h ▸ rfl)
  | cons q r ih =>
    rw [insertIn] at h
    split at h
    · rcases List.mem_cons.1 h with rfl | hr
      · exact .inl rfl
      · exact .inr (List.mem_cons_of_mem q hr)
    · rcases List.mem_cons.1 h with rfl | hr
      · exact .inr List.mem_cons_self
      · exact (ih hr).imp_right (List.mem_cons_of_mem q)

theorem keys_erase (m : OrderedMap κ ν) (k : κ) : (m.erase k).keys = m.keys.erase k := by
  rw [erase, keys, keys]
  induction m.entries with
  | nil => rfl
  | cons p r ih =>
    obtain ⟨a, b⟩ := p
    by_cases h : k = a
    · subst h
      simp [eraseIn]
    · have h' : (a == k) = false := beq_false_of_ne (Ne.symm h)
      simpa [eraseIn, h, List.erase_cons, h'] using ih

/-- Another key than the erased one is found as before. -/
theorem find?_erase_of_ne (m : OrderedMap κ ν) {k k' : κ} (h : k ≠ k') :
    (m.erase k').find? k = m.find? k := by
  rw [erase, find?, find?]
  induction m.entries with
  | nil => rfl
  | cons p r ih =>
    obtain ⟨a, b⟩ := p
    by_cases ha : k' = a
    · subst ha
      simp [eraseIn, findIn, h]
    · simp [eraseIn, findIn, ha, ih]

/-- **An erased key is found no more**, and the others are as before. -/
theorem find?_erase {m : OrderedMap κ ν} (hm : m.keys.Nodup) (k k' : κ) :
    (m.erase k').find? k = if k == k' then none else m.find? k := by
  split
  case isTrue h =>
    obtain rfl : k = k' := eq_of_beq h
    apply find?_eq_none
    rw [keys_erase]
    exact hm.not_mem_erase
  case isFalse h => exact m.find?_erase_of_ne fun hk => h (beq_iff_eq.2 hk)

theorem nodup_insert {m : OrderedMap κ ν} (hm : m.keys.Nodup) (k : κ) (v : ν) : (m.insert k v).keys.Nodup := by
  rw [keys_insert]
  split
  case isTrue => exact hm
  case isFalse h =>
    rw [contains_iff] at h
    refine List.nodup_append.2 ⟨hm, by simp, fun a ha b hb => ?_⟩
    rintro rfl
    exact h (List.mem_singleton.1 hb ▸ ha)

theorem nodup_insertAll {m : OrderedMap κ ν} (hm : m.keys.Nodup) (l : List (κ × ν)) : (m.insertAll l).keys.Nodup := by
  induction l generalizing m with
  | nil => exact hm
  | cons p r ih => exact ih (nodup_insert hm p.1 p.2)

theorem nodup_ofList (l : List (κ × ν)) : (ofList l).keys.Nodup := nodup_insertAll (m := empty) List.nodup_nil l

theorem nodup_erase {m : OrderedMap κ ν} (hm : m.keys.Nodup) (k : κ) : (m.erase k).keys.Nodup := by
  rw [keys_erase]
  exact hm.erase k

/-! ## Writing again -/

/-- Of two writes to one key the second counts. -/
theorem insert_insert (m : OrderedMap κ ν) (k : κ) (v v' : ν) : (m.insert k v).insert k v' = m.insert k v' := by
  obtain ⟨l⟩ := m
  refine congrArg mk ?_
  change insertIn k v' (insertIn k v l) = insertIn k v' l
  induction l with
  | nil => simp [insertIn]
  | cons p r ih =>
    obtain ⟨a, b⟩ := p
    by_cases h : k == a
    · simp [insertIn, h]
    · simp [insertIn, h, ih]

omit [LawfulBEq κ] in
/-- Writing what is there changes nothing. -/
theorem insert_of_find? {m : OrderedMap κ ν} {k : κ} {v : ν} (h : m.find? k = some v) : m.insert k v = m := by
  obtain ⟨l⟩ := m
  refine congrArg mk ?_
  change findIn k l = some v at h
  change insertIn k v l = l
  induction l with
  | nil => cases h
  | cons p r ih =>
    obtain ⟨a, b⟩ := p
    by_cases hk : k == a
    · rw [findIn, if_pos hk] at h
      rw [insertIn, if_pos hk, Option.some.inj h]
    · rw [findIn, if_neg hk] at h
      rw [insertIn, if_neg hk, ih h]

/-- A write in place can be put off behind a write to another key. -/
theorem insert_comm {m : OrderedMap κ ν} {k k' : κ} (hk : m.contains k = true) (hne : k ≠ k') (v v' : ν) :
    (m.insert k v).insert k' v' = (m.insert k' v').insert k v := by
  obtain ⟨l⟩ := m
  refine congrArg mk ?_
  change (findIn k l).isSome = true at hk
  change insertIn k' v' (insertIn k v l) = insertIn k v (insertIn k' v' l)
  induction l with
  | nil => cases hk
  | cons p r ih =>
    obtain ⟨a, b⟩ := p
    by_cases ha : k = a
    · subst ha
      simp [insertIn, hne.symm]
    · by_cases ha' : k' = a
      · subst ha'
        simp [insertIn, ha]
      · have hk' : (findIn k r).isSome = true := by simpa [findIn, ha] using hk
        simp [insertIn, ha, ha', ih hk']

theorem contains_insert (m : OrderedMap κ ν) (k k' : κ) (v : ν) :
    (m.insert k' v).contains k = (k == k' || m.contains k) := by
  rw [contains, contains, find?_insert]
  split
  case isTrue h => rw [h]; rfl
  case isFalse h => rw [Bool.not_eq_true] at h; rw [h]; rfl

/-- What is not written is as before. -/
theorem find?_insertAll_of_notMem {l : List (κ × ν)} {k : κ} (h : k ∉ l.map (·.1)) (m : OrderedMap κ ν) :
    (m.insertAll l).find? k = m.find? k := by
  induction l generalizing m with
  | nil => rfl
  | cons p r ih =>
    rw [List.map_cons, List.mem_cons, not_or] at h
    have hrest : (m.insertAll (p :: r)).find? k = ((m.insert p.1 p.2).insertAll r).find? k := rfl
    rw [hrest, ih h.2, find?_insert, if_neg (by simpa using h.1)]

omit [LawfulBEq κ] in
theorem insertAll_append (m : OrderedMap κ ν) (l l' : List (κ × ν)) :
    m.insertAll (l ++ l') = (m.insertAll l).insertAll l' :=
  List.foldl_append

/-- Where no key is written twice, a key has what is written under it, or what it had. -/
theorem find?_insertAll_of_nodup {l : List (κ × ν)} (h : (l.map (·.1)).Nodup) (m : OrderedMap κ ν) (k : κ) :
    (m.insertAll l).find? k = ((mk l).find? k).or (m.find? k) := by
  change _ = (findIn k l).or _
  induction l generalizing m with
  | nil => rfl
  | cons p r ih =>
    obtain ⟨a, b⟩ := p
    rw [List.map_cons, List.nodup_cons] at h
    change ((m.insert a b).insertAll r).find? k = _
    rw [ih h.2, find?_insert, findIn]
    by_cases ha : k == a
    · have hr : (mk r).find? k = none := find?_eq_none (eq_of_beq ha ▸ h.1)
      change findIn k r = none at hr
      rw [if_pos ha, if_pos ha, hr]
      rfl
    · rw [if_neg ha, if_neg ha]

/-- A new key goes to the end. -/
theorem entries_insert_of_notMem {m : OrderedMap κ ν} {k : κ} (h : k ∉ m.keys) (v : ν) :
    (m.insert k v).entries = m.entries ++ [(k, v)] := by
  obtain ⟨l⟩ := m
  change k ∉ l.map (·.1) at h
  change insertIn k v l = l ++ [(k, v)]
  induction l with
  | nil => rfl
  | cons p l ih =>
    rw [List.map_cons, List.mem_cons, not_or] at h
    rw [insertIn, if_neg (by simpa using h.1), ih h.2]
    rfl

/-- Where no key is written twice or is there already, what is written stands at the end as it is. -/
theorem entries_insertAll_of_nodup {l : List (κ × ν)} {m : OrderedMap κ ν} (h : (m.keys ++ l.map (·.1)).Nodup) :
    (m.insertAll l).entries = m.entries ++ l := by
  induction l generalizing m with
  | nil => exact (List.append_nil _).symm
  | cons p r ih =>
    obtain ⟨k, v⟩ := p
    have hk : k ∉ m.keys := fun hmem => (List.nodup_append.1 h).2.2 k hmem k List.mem_cons_self rfl
    have hinsert := entries_insert_of_notMem hk v
    have hrest : ((m.insert k v).keys ++ r.map (·.1)).Nodup := by
      rw [keys, hinsert, List.map_append, List.append_assoc]
      exact h
    calc (m.insertAll ((k, v) :: r)).entries
        = ((m.insert k v).insertAll r).entries := rfl
      _ = m.entries ++ (k, v) :: r := by rw [ih hrest, hinsert, List.append_assoc]; rfl

/-- What is written later on need not be written before. -/
theorem insertAll_insert_of_mem {l : List (κ × ν)} {k : κ} (h : k ∈ l.map (·.1)) {m : OrderedMap κ ν}
    (hm : m.contains k = true) (v : ν) : (m.insert k v).insertAll l = m.insertAll l := by
  induction l generalizing m with
  | nil => cases h
  | cons p r ih =>
    obtain ⟨a, b⟩ := p
    change ((m.insert k v).insert a b).insertAll r = (m.insert a b).insertAll r
    by_cases ha : k = a
    · rw [ha, insert_insert]
    · have hr : k ∈ r.map (·.1) := (List.mem_cons.1 h).resolve_left ha
      rw [insert_comm hm ha]
      exact ih hr (by rw [contains_insert, hm, Bool.or_true])

theorem contains_insertAll {m : OrderedMap κ ν} {k : κ} (h : m.contains k = true) (l : List (κ × ν)) :
    (m.insertAll l).contains k = true := by
  induction l generalizing m with
  | nil => exact h
  | cons p r ih => exact ih (by rw [contains_insert, h, Bool.or_true])

/-- **Writing all pairs of a list a second time changes nothing.** -/
theorem insertAll_insertAll (m : OrderedMap κ ν) (l : List (κ × ν)) : (m.insertAll l).insertAll l = m.insertAll l := by
  induction l generalizing m with
  | nil => rfl
  | cons p r ih =>
    obtain ⟨k, v⟩ := p
    change (((m.insert k v).insertAll r).insert k v).insertAll r = (m.insert k v).insertAll r
    have hthere : ((m.insert k v).insertAll r).contains k = true :=
      contains_insertAll (by rw [contains_insert, beq_self_eq_true, Bool.true_or]) r
    by_cases hr : k ∈ r.map (·.1)
    · rw [insertAll_insert_of_mem hr hthere, ih]
    · have hlast : ((m.insert k v).insertAll r).find? k = some v := by
        rw [find?_insertAll_of_notMem hr, find?_insert, if_pos (beq_self_eq_true k)]
      rw [insert_of_find? hlast, ih]

/-! ## Firsts and lasts -/

omit [LawfulBEq κ] in
theorem findIn_append (k : κ) (l l' : List (κ × ν)) : findIn k (l ++ l') = (findIn k l).or (findIn k l') := by
  induction l with
  | nil => rfl
  | cons p r ih =>
    rw [List.cons_append, findIn, findIn, ih]
    split <;> rfl

/-- One more element stands at the end unless it was there before. -/
theorem eraseDups_concat (l : List κ) (k : κ) :
    (l ++ [k]).eraseDups = if k ∈ l then l.eraseDups else l.eraseDups ++ [k] := by
  rw [List.eraseDups_append]
  split
  case isTrue h => simp [List.removeAll, h]
  case isFalse h => simp [List.removeAll, h, List.eraseDups_cons]

/-- The last pair that is written counts. -/
theorem find?_insertAll (m : OrderedMap κ ν) (l : List (κ × ν)) (k : κ) :
    (m.insertAll l).find? k = (findIn k l.reverse).or (m.find? k) := by
  induction l generalizing m with
  | nil => rfl
  | cons p r ih =>
    have hrest : (m.insertAll (p :: r)).find? k = ((m.insert p.1 p.2).insertAll r).find? k := rfl
    rw [hrest, ih, List.reverse_cons, findIn_append, find?_insert, Option.or_assoc, findIn, findIn]
    split <;> rfl

/-- Keys stand where they are written first. -/
theorem keys_insertAll {m : OrderedMap κ ν} {before : List κ} (hm : m.keys = before.eraseDups) (l : List (κ × ν)) :
    (m.insertAll l).keys = (before ++ l.map (·.1)).eraseDups := by
  induction l generalizing m before with
  | nil => rw [List.map_nil, List.append_nil]; exact hm
  | cons p r ih =>
    have hinsert : (m.insert p.1 p.2).keys = (before ++ [p.1]).eraseDups := by
      rw [keys_insert, eraseDups_concat]
      simp only [contains_iff, hm, List.mem_eraseDups]
    have h := ih hinsert
    rwa [List.append_assoc] at h

theorem keys_ofList (l : List (κ × ν)) : (ofList l).keys = (l.map (·.1)).eraseDups := by
  have hempty : (empty : OrderedMap κ ν).keys = ([] : List κ).eraseDups := rfl
  exact keys_insertAll hempty l

theorem isEmpty_ofList (l : List (κ × ν)) : (ofList l).isEmpty = l.isEmpty := by
  have hkeys : (ofList l).isEmpty = (l.map (·.1)).eraseDups.isEmpty := by
    rw [← keys_ofList, keys, List.isEmpty_map]
    rfl
  rw [hkeys]
  cases l with
  | nil => rfl
  | cons p r =>
    rw [List.map_cons, List.eraseDups_cons]
    rfl

/-- Keys and values make the map. -/
theorem entries_eq_filterMap {m : OrderedMap κ ν} (hm : m.keys.Nodup) :
    m.entries = m.keys.filterMap fun k => (m.find? k).map (k, ·) := by
  obtain ⟨l⟩ := m
  change (l.map (·.1)).Nodup at hm
  change l = (l.map (·.1)).filterMap fun k => (findIn k l).map (k, ·)
  have hpairs : ∀ r ⊆ l, r = (r.map (·.1)).filterMap fun k => (findIn k l).map (k, ·) := by
    intro r hr
    induction r with
    | nil => rfl
    | cons p r ih =>
      have hfound : findIn p.1 l = some p.2 := (find?_eq_some_iff hm).2 (hr List.mem_cons_self)
      rw [List.map_cons, List.filterMap_cons, hfound, ← ih fun q hq => hr (List.mem_cons_of_mem p hq)]
      rfl
  exact hpairs l fun p hp => hp

end OrderedMap

end Stepwise
