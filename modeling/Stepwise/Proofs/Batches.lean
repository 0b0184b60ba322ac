import Stepwise.Proofs.Accessors
import Stepwise.Proofs.Rereading
import Stepwise.Proofs.Threads
import Stepwise.Recipe.Batch
/-!
# Loading many recipes

Each item of a batch is loaded in the world that the items before it left. A recipe that is loaded later is the same
as one that is loaded at once, but that what is new in it stands elsewhere (`Recipe.load_later`, `Recipe.Alike`), so
that an item can be spoken of by itself (`World.alone`). `Batch.add_ends` says what one more item does to the map, and
`Batch.load_ends` what a whole list comes to: the map holds the `World.table` of the items that load. An item ends the
loading if there is nothing to unpack in it, or if a message has to name its source and cannot (`World.Passes`).
-/

namespace Stepwise

/-! ## Worlds without loose ends -/

/-- The object that a value is, if it is one, is in the world. -/
def Value.IsIn (v : Value) (w : World) : Prop := ∀ a, v.addr? = some a → a < w.store.size

/-- What the objects of the world are shown by is in the world. -/
def World.IsWhole (w : World) : Prop := ∀ (a : Addr) (o : Obj), w.store[a]? = some o → ∀ v ∈ o.shown, Value.IsIn v w

variable {w u v v' : World} {R : Pairing}

theorem Value.IsIn.exists_object {a : Addr} (h : (Value.ref a).IsIn w) : ∃ o, w.store[a]? = some o :=
  ⟨_, Array.getElem?_eq_getElem (h a rfl)⟩

theorem Value.like_of_isIn (hR : ∀ a, a < w.store.size → R a a) {x : Value} (hx : x.IsIn w) : x.Like R x := by
  cases x with
  | ref a => exact .object (hR a (hx a rfl))
  | _ => exact .same rfl

namespace World

theorem Retains.of_store (h : w.Retains u) (hv : v.store = u.store) : w.Retains v := fun a o ho => hv ▸ h a o ho

/-- Other objects may have been made, but those that stand for each other are there. -/
theorem Like.retains (h : w.Like R v) (hu : v.Retains u) : w.Like R u where
  one_to_one := h.one_to_one
  objects hab := by
    obtain ⟨o, o', ho, ho', hlike⟩ := h.objects hab
    exact ⟨o, o', ho, hu _ _ ho', hlike⟩

/-- What was in the world stands for itself, and what is new since then for what is new elsewhere. -/
def besidePair (w u v : World) : Pairing := fun a b => (a < w.store.size ∧ a = b) ∨ Document.newPair w u v a b

/-- **What was there is the same in worlds that come about by the same making.** -/
theorem IsWhole.like_of_twins (hw : w.IsWhole) (hu : w.Retains u) (h : Document.Twins w u v v') :
    v.Like (besidePair w u v) v' where
  one_to_one {a a' b b'} hab hab' := by
    -- what is new is behind what was there, in both worlds
    have hbehind {c d : Addr} (hnew : Document.newPair w u v c d) : w.store.size ≤ c ∧ w.store.size ≤ d := by
      obtain ⟨hnew, -, hshift⟩ := hnew
      have hle := hu.size_le
      omega
    obtain ⟨hold, rfl⟩ | hnew := hab
    · obtain ⟨-, rfl⟩ | hnew' := hab'
      · exact Iff.rfl
      · refine iff_of_false ?_ ?_
        · rintro rfl
          exact absurd hold (Nat.not_lt.2 (hbehind hnew').1)
        · rintro rfl
          exact absurd hold (Nat.not_lt.2 (hbehind hnew').2)
    · obtain ⟨hold, rfl⟩ | hnew' := hab'
      · refine iff_of_false ?_ ?_
        · rintro rfl
          exact absurd hold (Nat.not_lt.2 (hbehind hnew).1)
        · rintro rfl
          exact absurd hold (Nat.not_lt.2 (hbehind hnew).2)
      · exact Document.newPair_one_to_one hnew hnew'
  objects {a b} hab := by
    obtain ⟨hold, rfl⟩ | hnew := hab
    · have ho := Array.getElem?_eq_getElem hold
      refine ⟨_, _, h.kept _ _ ho, h.kept' _ _ (hu _ _ ho), Obj.like_self fun x hx => ?_⟩
      exact Value.like_of_isIn (fun c hc => .inl ⟨hc, rfl⟩) (hw a _ ho x hx)
    · obtain ⟨o, o', ho, ho', hlike⟩ := h.objects hnew
      exact ⟨o, o', ho, ho', hlike.like.mono fun _ _ => .inr⟩

end World

/-! ## Recipes that are alike -/

/-- The recipes, each in its world, are the same but for the addresses of objects that are new since `w`. -/
def Recipe.Alike (w v v' : World) (r r' : Recipe) : Prop :=
  ∃ R : Pairing, (∀ a, a < w.store.size → R a a) ∧ v.Like R v' ∧ r.Like R r'

namespace Recipe.Alike

variable {v'' : World} {r r' r'' : Recipe}

theorem name_eq (h : Recipe.Alike w v v' r r') : r.name = r'.name := by
  obtain ⟨_, -, -, hlike⟩ := h
  exact hlike.name

/-- It stays so whatever is made afterwards. -/
theorem retains (h : Recipe.Alike w v v' r r') (hv : v'.Retains v'') : Recipe.Alike w v v'' r r' := by
  obtain ⟨R, hold, hworlds, hlike⟩ := h
  exact ⟨R, hold, hworlds.retains hv, hlike⟩

theorem symm (h : Recipe.Alike w v v' r r') : Recipe.Alike w v' v r' r := by
  obtain ⟨R, hold, hworlds, hlike⟩ := h
  exact ⟨fun a b => R b a, hold, hworlds.symm, hlike.symm⟩

theorem trans (h : Recipe.Alike w v v' r r') (h' : Recipe.Alike w v' v'' r' r'') : Recipe.Alike w v v'' r r'' := by
  obtain ⟨R, hold, hworlds, hlike⟩ := h
  obtain ⟨S, hold', hworlds', hlike'⟩ := h'
  exact ⟨Relation.Comp R S, fun a ha => ⟨a, hold a ha, hold' a ha⟩, hworlds.trans hworlds', hlike.trans hlike'⟩

end Recipe.Alike

/-- Loading ends alike, and changes nothing that was there: with recipes that are, or with the same error. -/
inductive Recipe.LoadsAlike (w u : World) : Ending Recipe → Ending Recipe → Prop
  | loaded {r r' : Recipe} {v v' : World} : u.Retains v' → Alike w v v' r r' → LoadsAlike w u (.ok r v) (.ok r' v')
  | failed {cls message : String} {error error' : Addr} {v v' : World} : u.Retains v' →
      v.store[error]? = some (.error (.cls cls) [.str message] []) →
      v'.store[error']? = some (.error (.cls cls) [.str message] []) →
      LoadsAlike w u (.error (.raised error) v) (.error (.raised error') v')

namespace Recipe

theorem loadsAlike_raise (h : u.Retains v') (cls message : String) :
    LoadsAlike w u ((Run.raise cls message).act v) ((Run.raise cls message).act v') :=
  .failed (h.push _) Array.getElem?_push_size Array.getElem?_push_size

theorem loadsAlike_of_looks {x y : Run Recipe} (hw : w.IsWhole) (hu : w.Retains u) (h : Document.Twins w u v v')
    (hxy : x.LooksAlike (w.besidePair u v) (Recipe.Like (w.besidePair u v)) y) :
    LoadsAlike w u (x.act v) (y.act v') := by
  have hlike := hw.like_of_twins hu h
  have hend := hxy v v' hlike
  generalize x.act v = e, y.act v' = e' at hend
  cases hend with
  | result hl hl' hr => exact .loaded (h.kept'.of_store hl') ⟨_, fun a ha => .inl ⟨ha, rfl⟩, hlike.congr hl hl', hr⟩
  | raised hl hl' =>
    exact .failed ((h.kept'.push _).of_store hl') (hl ▸ Array.getElem?_push_size) (hl' ▸ Array.getElem?_push_size)

/-- **A recipe is loaded alike later**, from what was there before. -/
theorem load_later (hw : w.IsWhole) (hu : w.Retains u) {raw source : Value} (hraw : raw.IsIn w)
    (hsource : source.IsIn w) :
    LoadsAlike w u ((load raw source).act w) ((load raw source).act u) := by
  have hold {z : World} (a : Addr) (ha : a < w.store.size) : w.besidePair u z a a := .inl ⟨ha, rfl⟩
  rw [load]
  cases raw.text? with
  | none =>
    exact loadsAlike_of_looks hw hu (.refl w u)
      (looksAlike_ofValue (Value.like_of_isIn hold hraw) (Value.like_of_isIn hold hsource))
  | some text =>
    have hread := Document.read_twice text w u
    dsimp only
    rw [ofText, Run.bind_act, Run.bind_act]
    generalize (Document.read text).act w = e, (Document.read text).act u = e' at hread
    cases hread with
    | raised h => exact .failed (h.kept'.push _) Array.getElem?_push_size Array.getElem?_push_size
    | value h hxy =>
      exact loadsAlike_of_looks hw hu h
        (looksAlike_ofValue (hxy.mono fun _ _ => .inr) (Value.like_of_isIn hold hsource))
    | @fault fault v v' h =>
      cases fault with
      | malformed => exact loadsAlike_raise h.kept' _ _
      | noSuchChar n =>
        dsimp only
        split
        · exact loadsAlike_raise h.kept' _ _
        · exact loadsAlike_raise h.kept' _ _

end Recipe

/-! ## One item -/

/-- The result, if there is one, and the world in which it is there. -/
def Ending.left? {α : Type} : Ending α → Option (α × World)
  | .ok a left => some (a, left)
  | .error .. => none

/-- The messages that name the text of an error are always told. -/
theorem exists_errorMessage {error : Addr} {cls message : String}
    (h : w.store[error]? = some (.error (.cls cls) [.str message] [])) :
    ∃ text, (errorMessage error).act w = .ok text w := by
  have hbelow (above : String) : ∃ b, Value.isSubclass (.cls cls) (.cls above) = pure b := ⟨_, rfl⟩
  rw [errorMessage_act h]
  unfold errorText
  dsimp only
  obtain ⟨b₁, h₁⟩ := hbelow "KeyError"
  obtain ⟨b₂, h₂⟩ := hbelow "OSError"
  obtain ⟨b₃, h₃⟩ := hbelow "UnicodeDecodeError"
  obtain ⟨b₄, h₄⟩ := hbelow "UnicodeEncodeError"
  obtain ⟨b₅, h₅⟩ := hbelow "SyntaxError"
  rw [h₁, h₂, h₃, h₄, h₅]
  simp only [pure_bind, List.lookup_nil]
  repeat' split
  all_goals exact ⟨_, rfl⟩

namespace World

/-- The content of an item and its source, if the item is not an empty tuple. -/
def unpacked? (w : World) (item : Value) : Option (Value × Value) :=
  match w.tuple? item with
  | some [] => none
  | some [content] => some (content, .null)
  | some (content :: source :: _) => some (content, source)
  | none => match w.dict? item with
    | some d => match d.getText? "content" with
      | some content => some (content, d.field "path")
      | none => some (item, .null)
    | none => some (item, .null)

theorem tuple?_later (hu : w.Retains u) {v : Value} (hv : v.IsIn w) : u.tuple? v = w.tuple? v := by
  cases v with
  | ref a =>
    obtain ⟨o, ho⟩ := hv.exists_object
    rw [tuple?, tuple?, hu a _ ho, ho]
  | _ => rfl

theorem dict?_later (hu : w.Retains u) {v : Value} (hv : v.IsIn w) : u.dict? v = w.dict? v := by
  cases v with
  | ref a =>
    obtain ⟨o, ho⟩ := hv.exists_object
    rw [dict?, dict?, contents?, contents?, hu a _ ho, ho]
  | _ => rfl

theorem unpacked?_later (hu : w.Retains u) {item : Value} (hitem : item.IsIn w) :
    u.unpacked? item = w.unpacked? item := by
  rw [unpacked?, unpacked?, tuple?_later hu hitem, dict?_later hu hitem]

theorem unpacked?_isIn (hw : w.IsWhole) {item content source : Value} (hitem : item.IsIn w)
    (h : w.unpacked? item = some (content, source)) : content.IsIn w ∧ source.IsIn w := by
  have hnull : Value.IsIn .null w := fun _ h => nomatch h
  cases item with
  | ref a =>
    obtain ⟨o, ha⟩ := hitem.exists_object
    have hshown (x : Value) (hx : x ∈ o.shown) : x.IsIn w := hw a o ha x hx
    rw [unpacked?, tuple?, dict?, contents?, ha] at h
    cases o with
    | tuple owner xs =>
      have hitems (x : Value) (hx : x ∈ xs) : x.IsIn w := hshown x (by simp [Obj.shown, Obj.parts, hx])
      rcases xs with _ | ⟨first, _ | ⟨second, rest⟩⟩
      · cases h
      · cases h
        exact ⟨hitems _ (by simp), hnull⟩
      · cases h
        exact ⟨hitems _ (by simp), hitems _ (by simp)⟩
    | dict f d =>
      have hvalue (name : String) (x : Value) (hx : d.getText? name = some x) : x.IsIn w := by
        obtain ⟨p, hp, rfl⟩ := Option.map_eq_some_iff.1 hx
        exact hshown _ (Obj.pair_shown f (List.mem_map_of_mem (OrderedMap.mem_of_find? hp))).2
      dsimp only at h
      split at h
      case h_1 x hx =>
        cases h
        refine ⟨hvalue _ _ hx, ?_⟩
        rw [Dict.field]
        cases hpath : d.getText? "path" with
        | none => exact hnull
        | some path => exact hvalue _ _ hpath
      case h_2 =>
        cases h
        exact ⟨hitem, hnull⟩
    | _ =>
      cases h
      exact ⟨hitem, hnull⟩
  | _ =>
    cases h
    exact ⟨hitem, hnull⟩

end World

namespace Batch

/-- An empty tuple has nothing to unpack. -/
theorem unpack_act (item : Value) (w : World) : (unpack item).act w = match w.unpacked? item with
    | some entry => .ok entry w
    | none =>
      .error (.raised w.store.size) (w.raising "ValueError" "not enough values to unpack (expected 2, got 1)") := by
  obtain ⟨r, hr, hdict⟩ := Value.dict?_act (rfl : w.store = w.store) item
  rw [unpack, Run.bind_ok (Value.tuple?_act item w), World.unpacked?]
  cases w.tuple? item with
  | some xs =>
    rcases xs with _ | ⟨content, _ | ⟨source, _⟩⟩ <;> rfl
  | none =>
    dsimp only
    rw [Run.bind_ok hr, ← hdict]
    cases r with
    | none => rfl
    | some r =>
      obtain ⟨a, f, d⟩ := r
      dsimp only [Option.map_some]
      cases d.getText? "content" <;> rfl

theorem looksAlike_sourceText {source source' : Value} (h : source.Like R source') :
    (sourceText source).LooksAlike R Eq (sourceText source') := by
  refine (Value.looksAlike_truthy h).bind_eq fun given => ?_
  split
  · exact Value.looksAlike_plain h
  · exact .pure rfl

theorem inspects_sourceText (source : Value) : (sourceText source).Inspects textErrors := by
  refine (Value.inspects_truthy source).bind fun given => ?_
  split
  · exact Value.inspects_plain source
  · exact .pure _

/-- How messages name a source, if they can, does not change. -/
theorem sourceText_later (hw : w.IsWhole) {source : Value} (hsource : source.IsIn w) :
    (∃ text, ∀ z, w.Retains z → (sourceText source).act z = .ok text z) ∨
      ∀ z, w.Retains z → ∃ failure left, (sourceText source).act z = .error failure left := by
  have hends (z : World) (hz : w.Retains z) :
      Ending.LooksAlike Eq w z ((sourceText source).act w) ((sourceText source).act z) := by
    have hlike : source.Like (w.besidePair z w) source := Value.like_of_isIn (fun a ha => .inl ⟨ha, rfl⟩) hsource
    exact looksAlike_sourceText hlike w z (hw.like_of_twins hz (.refl w z))
  cases hend : (sourceText source).act w with
  | ok text left =>
    refine .inl ⟨text, fun z hz => ?_⟩
    have hlater := hends z hz
    rw [hend] at hlater
    cases hz' : (sourceText source).act z with
    | ok text' left' =>
      rw [hz'] at hlater
      cases hlater with
      | result _ _ heq => rw [← heq, (inspects_sourceText source).eq_of_ok hz']
    | error failure left' =>
      rw [hz'] at hlater
      cases hlater
  | error failure left =>
    refine .inr fun z hz => ?_
    have hlater := hends z hz
    rw [hend] at hlater
    cases hz' : (sourceText source).act z with
    | ok text' left' =>
      rw [hz'] at hlater
      cases hlater
    | error failure' left' => exact ⟨failure', left', rfl⟩

/-- Loads what an item holds. -/
def single (item : Value) : Run Recipe := do
  let (content, source) ← unpack item
  Recipe.load content source

end Batch

namespace World

/-- The recipe that an item is loaded as by itself, and the world in which it is there. -/
def alone (w : World) (item : Value) : Option (Recipe × World) := ((Batch.single item).act w).left?

theorem alone_of_empty {item : Value} (h : w.unpacked? item = none) : w.alone item = none := by
  rw [alone, Batch.single, Run.bind_act, Batch.unpack_act, h]
  rfl

theorem alone_of_unpacked {item content source : Value} (h : w.unpacked? item = some (content, source)) :
    w.alone item = ((Recipe.load content source).act w).left? := by
  rw [alone, Batch.single, Run.bind_act, Batch.unpack_act, h]

/-- Messages can name the source of the item: it is no empty tuple, and its source has a text. -/
def Named (w : World) (item : Value) : Prop :=
  ∃ content source text, w.unpacked? item = some (content, source) ∧ (Batch.sourceText source).act w = .ok text w

/-- An item that is unpacked is named in every later world, or in none. -/
theorem named_cases (hw : w.IsWhole) {item content source : Value} (hitem : w.unpacked? item = some (content, source))
    (hsource : source.IsIn w) :
    (w.Named item ∧ ∃ text, ∀ z, w.Retains z → (Batch.sourceText source).act z = .ok text z) ∨
      (¬ w.Named item ∧ ∀ z, w.Retains z → ∃ failure left, (Batch.sourceText source).act z = .error failure left) := by
  obtain ⟨text, htext⟩ | hfail := Batch.sourceText_later hw hsource
  · exact .inl ⟨⟨content, source, text, hitem, htext w (.refl w)⟩, text, htext⟩
  · refine .inr ⟨?_, hfail⟩
    rintro ⟨_, _, text, hthis, htext⟩
    cases hitem.symm.trans hthis
    obtain ⟨_, _, hend⟩ := hfail w (.refl w)
    cases hend.symm.trans htext

end World

namespace Batch

/-- What becomes of one more item: it is left out, or its recipe is there under its name; or a message would have to
name its source and cannot. -/
inductive AddEnds (w u : World) (recipes : OrderedMap String Recipe) (item : Value) :
    Ending (OrderedMap String Recipe) → Prop
  | skipped {left : World} : w.alone item = none → w.Named item → u.Retains left →
      AddEnds w u recipes item (.ok recipes left)
  | added {r r' : Recipe} {v left : World} : w.alone item = some (r, v) →
      (recipes.contains r.name = true → w.Named item) → u.Retains left →
      Recipe.Alike w v left r r' → AddEnds w u recipes item (.ok (recipes.insert r.name r') left)
  | stopped {failure : Failure} {left : World} :
      (∀ r v, w.alone item = some (r, v) → recipes.contains r.name = true) → ¬ w.Named item →
      AddEnds w u recipes item (.error failure left)

theorem add_ends (hw : w.IsWhole) (hu : w.Retains u) {item : Value} (hitem : item.IsIn w)
    (recipes : OrderedMap String Recipe) :
    AddEnds w u recipes item ((add recipes item).act u) := by
  rw [add, Run.bind_act, unpack_act, World.unpacked?_later hu hitem]
  cases hentry : w.unpacked? item with
  | none =>
    have halone := World.alone_of_empty hentry
    refine .stopped (fun r v h => absurd (halone.symm.trans h).symm (Option.some_ne_none _)) ?_
    rintro ⟨content, source, text, h, -⟩
    cases hentry.symm.trans h
  | some entry =>
    obtain ⟨content, source⟩ := entry
    obtain ⟨hcontent, hsource⟩ := World.unpacked?_isIn hw hitem hentry
    have hload := Recipe.load_later hw hu hcontent hsource
    have halone := World.alone_of_unpacked hentry
    dsimp only
    rw [Run.bind_act, Run.outcome_act]
    generalize (Recipe.load content source).act w = e, (Recipe.load content source).act u = e' at hload halone
    have hnamed := World.named_cases hw hentry hsource
    cases hload with
    | @loaded r r' v v' hkept halike =>
      have hname : r'.name = r.name := halike.name_eq.symm
      -- a recipe that replaces another one is reported with its source
      change AddEnds w u recipes item (Run.act (if recipes.contains r'.name then _ else _) v')
      rw [hname]
      split
      case isTrue hcontains =>
        obtain ⟨hnamed, text, htext⟩ | ⟨hnot, hfail⟩ := hnamed
        · rw [Run.bind_act, htext v' (hu.trans hkept)]
          exact .added halone (fun _ => hnamed) hkept (halike.retains fun _ _ h => h)
        · obtain ⟨failure, left, hend⟩ := hfail v' (hu.trans hkept)
          rw [Run.bind_act, hend]
          refine .stopped (fun r₁ v₁ h => ?_) hnot
          cases halone.symm.trans h
          exact hcontains
      case isFalse hcontains => exact .added halone (fun h => absurd h hcontains) hkept halike
    | @failed cls message error error' v v' hkept _ herror' =>
      -- the report tells the source first, and then the error, which can always be told
      obtain ⟨told, hmessage⟩ := exists_errorMessage herror'
      change AddEnds w u recipes item (Run.act (sourceText source >>= _) v')
      obtain ⟨hnamed, text, htext⟩ | ⟨hnot, hfail⟩ := hnamed
      · rw [Run.bind_act, htext v' (hu.trans hkept)]
        dsimp only
        rw [Run.bind_act, hmessage]
        exact .skipped halone hnamed hkept
      · obtain ⟨failure, left, hend⟩ := hfail v' (hu.trans hkept)
        rw [Run.bind_act, hend]
        exact .stopped (fun r₁ v₁ h => absurd (halone.symm.trans h).symm (Option.some_ne_none _)) hnot

end Batch

/-! ## All items -/

namespace OrderedMap

variable {κ ν : Type} [BEq κ]

theorem ofList_concat (l : List (κ × ν)) (k : κ) (x : ν) : ofList (l ++ [(k, x)]) = (ofList l).insert k x := by
  rw [ofList, insertAll_append]
  rfl

variable [LawfulBEq κ]

/-- Maps with the same keys in the same order and the same values under them are the same. -/
theorem ext_find? {m m' : OrderedMap κ ν} (hm : m.keys.Nodup) (hkeys : m.keys = m'.keys)
    (hfind : ∀ k, m.find? k = m'.find? k) :
    m = m' := by
  have hentries := entries_eq_filterMap hm
  rw [hkeys, funext hfind, ← entries_eq_filterMap (hkeys ▸ hm)] at hentries
  obtain ⟨l⟩ := m
  obtain ⟨l'⟩ := m'
  exact congrArg OrderedMap.mk hentries

/-- The last pair of the list counts. -/
theorem find?_ofList (l : List (κ × ν)) (k : κ) : (ofList l).find? k = findIn k l.reverse := by
  rw [ofList, find?_insertAll, find?_empty, Option.or_none]

/-- The last of those that are written under the key counts. -/
theorem findIn_reverse_map {α : Type} (f : α → κ) (l : List α) (k : κ) :
    findIn k (l.map fun a => (f a, a)).reverse = (l.filter (f · == k)).getLast? := by
  induction l using List.reverseRecOn with
  | nil => rfl
  | append_singleton l a ih =>
    rw [List.map_append, List.reverse_append, List.filter_append, List.getLast?_append, ← ih, List.map_singleton,
      List.reverse_singleton, List.singleton_append, findIn, List.filter_singleton, BEq.comm]
    cases f a == k <;> rfl

/-- To write a list is to write the map that it makes. -/
theorem insertAll_ofList (l l' : List (κ × ν)) : (ofList l).insertAll (ofList l').entries = ofList (l ++ l') := by
  refine ext_find? (nodup_insertAll (nodup_ofList l) _) ?_ fun k => ?_
  · rw [keys_insertAll (keys_ofList l), keys_ofList, List.map_append]
    change (l.map (·.1) ++ (ofList l').keys).eraseDups = _
    rw [keys_ofList, eraseDups_append_eraseDups]
  · have hlast : (OrderedMap.mk (ofList l').entries).find? k = findIn k l'.reverse := find?_ofList l' k
    rw [find?_insertAll_of_nodup (nodup_ofList l'), hlast, ofList, ofList, insertAll_append, find?_insertAll _ l']

end OrderedMap

namespace World

/-- The recipes that are loaded from the items, each by itself, in their order. -/
def loaded (w : World) (items : List Value) : List (Recipe × World) := items.filterMap w.alone

/-- The names of the items that load. -/
def names (w : World) (items : List Value) : List String := (w.loaded items).map (·.1.name)

/-- The recipes under their names. -/
def table (w : World) (items : List Value) : OrderedMap String (Recipe × World) :=
  OrderedMap.ofList ((w.loaded items).map fun p => (p.1.name, p))

/-- The item does not end the loading behind items with these names: messages can name its source, or none has to. -/
def Survives (w : World) (known : List String) (item : Value) : Prop :=
  w.Named item ∨ ∃ r v, w.alone item = some (r, v) ∧ r.name ∉ known

/-- The map holds what the items hold that load: the names of these in the order in which they come first, and under
each name the recipe of the last item that has it. -/
structure Collects (w : World) (items : List Value) (recipes : OrderedMap String Recipe) (left : World) : Prop where
  keys : recipes.keys = (w.names items).eraseDups
  named (name : String) (r : Recipe) : recipes.find? name = some r → r.name = name
  last (name : String) : Option.Rel (fun p r => Recipe.Alike w p.2 left p.1 r)
    ((w.loaded items).filter (·.1.name == name)).getLast? (recipes.find? name)

/-- Some items that do not load are left out. -/
inductive Drops (w : World) : List Value → List Value → Prop
  | nil : Drops w [] []
  | keep (item : Value) {items kept : List Value} : Drops w items kept → Drops w (item :: items) (item :: kept)
  | drop {item : Value} {items kept : List Value} : w.alone item = none → Drops w items kept →
      Drops w (item :: items) kept

theorem loaded_append (w : World) (items items' : List Value) :
    w.loaded (items ++ items') = w.loaded items ++ w.loaded items' :=
  List.filterMap_append

theorem table_append (w : World) (items items' : List Value) :
    w.table (items ++ items') = (w.table items).insertAll (w.table items').entries := by
  rw [table, loaded_append, List.map_append, ← OrderedMap.insertAll_ofList]
  rfl

theorem keys_table (w : World) (items : List Value) : (w.table items).keys = (w.names items).eraseDups := by
  rw [table, OrderedMap.keys_ofList, names, List.map_map]
  rfl

theorem find?_table (w : World) (items : List Value) (name : String) :
    (w.table items).find? name = ((w.loaded items).filter (·.1.name == name)).getLast? := by
  rw [table, OrderedMap.find?_ofList, OrderedMap.findIn_reverse_map fun p : Recipe × World => p.1.name]

theorem Drops.loaded_eq {items kept : List Value} (h : w.Drops items kept) : w.loaded kept = w.loaded items := by
  induction h with
  | nil => rfl
  | @keep item items kept _ ih =>
    have hone (items : List Value) : w.loaded (item :: items) = w.loaded [item] ++ w.loaded items :=
      w.loaded_append [item] items
    rw [hone kept, hone items, ih]
  | drop halone _ ih => rw [ih, loaded, loaded, List.filterMap_cons_none halone]

theorem Drops.sublist {items kept : List Value} (h : w.Drops items kept) : kept.Sublist items := by
  induction h with
  | nil => exact .slnil
  | keep item _ ih => exact ih.cons_cons item
  | drop _ _ ih => exact ih.cons _

/-- What is left stood behind items with the same names. -/
theorem Drops.split {items kept : List Value} (h : w.Drops items kept) {before' after' : List Value} {item : Value}
    (hkept : kept = before' ++ item :: after') :
    ∃ before after, items = before ++ item :: after ∧ w.Drops before before' := by
  induction h generalizing before' with
  | nil => cases before' <;> cases hkept
  | keep first hrest ih =>
    cases before' with
    | nil =>
      cases hkept
      exact ⟨[], _, rfl, .nil⟩
    | cons =>
      cases hkept
      obtain ⟨before, after, rfl, hbefore⟩ := ih rfl
      exact ⟨first :: before, after, rfl, .keep first hbefore⟩
  | drop halone _ ih =>
    obtain ⟨before, after, rfl, hbefore⟩ := ih hkept
    exact ⟨_ :: before, after, rfl, .drop halone hbefore⟩

/-- One more item that does not load leaves the table as it is. -/
theorem table_concat_none {item : Value} (halone : w.alone item = none) (items : List Value) :
    w.table (items ++ [item]) = w.table items := by
  rw [table, table, loaded_append, loaded, loaded, List.filterMap_cons_none halone, List.filterMap_nil, List.append_nil]

/-- One more item that loads is written into the table. -/
theorem table_concat_some {item : Value} {p : Recipe × World} (halone : w.alone item = some p) (items : List Value) :
    w.table (items ++ [item]) = (w.table items).insert p.1.name p := by
  rw [table, table, loaded_append, loaded, loaded, List.filterMap_cons_some halone, List.filterMap_nil, List.map_append,
    List.map_singleton, OrderedMap.ofList_concat]

theorem Survives.mono {known known' : List String} {item : Value} (h : w.Survives known item) (hsub : known' ⊆ known) :
    w.Survives known' item :=
  h.imp_right fun ⟨r, v, halone, hnew⟩ => ⟨r, v, halone, fun hr => hnew (hsub hr)⟩

/-- A source that is a text, or no source at all, can be named. -/
theorem named_of_source {item content source : Value} (hentry : w.unpacked? item = some (content, source))
    (hsource : source = .null ∨ ∃ text, source = .str text) : w.Named item := by
  obtain rfl | ⟨text, rfl⟩ := hsource
  · exact ⟨content, .null, _, hentry, rfl⟩
  · refine ⟨content, .str text, if text.isEmpty then "<unknown>" else text, hentry, ?_⟩
    change Run.act (if !text.isEmpty then (Value.str text).plain else pure "<unknown>") w = _
    cases text.isEmpty <;> rfl

/-- No item ends the loading: messages can name its source, unless it loads under a name that none before it has. -/
def Passes (w : World) (items : List Value) : Prop :=
  ∀ before item after, items = before ++ item :: after → w.Survives (w.names before) item

namespace Passes

variable {xs ys : List Value}

theorem of_named {items : List Value} (h : ∀ item ∈ items, w.Named item) : w.Passes items := by
  rintro before item after rfl
  exact .inl (h item (List.mem_append_right _ List.mem_cons_self))

theorem left (h : w.Passes (xs ++ ys)) : w.Passes xs := by
  rintro before item after rfl
  exact h before item (after ++ ys) (List.append_assoc _ _ _)

/-- Fewer names are known if less stands before. -/
theorem right (h : w.Passes (xs ++ ys)) : w.Passes ys := by
  rintro before item after rfl
  refine (h (xs ++ before) item after (List.append_assoc _ _ _).symm).mono ?_
  rw [names, names, loaded_append, List.map_append]
  exact List.subset_append_right _ _

theorem drops {items kept : List Value} (h : w.Passes items) (hkept : w.Drops items kept) : w.Passes kept := by
  intro before' item after' heq
  obtain ⟨before, after, hitems, hbefore⟩ := hkept.split heq
  have hsurvives := h before item after hitems
  rwa [names, ← hbefore.loaded_eq] at hsurvives

theorem concat_iff {items : List Value} {item : Value} :
    w.Passes (items ++ [item]) ↔ w.Passes items ∧ w.Survives (w.names items) item := by
  refine ⟨fun h => ⟨h.left, h items item [] rfl⟩, ?_⟩
  rintro ⟨h, hlast⟩ before other after heq
  obtain rfl | ⟨after, last, rfl⟩ := List.eq_nil_or_concat after
  · -- it is the last one
    obtain ⟨rfl, hother⟩ := List.append_inj' heq rfl
    cases hother
    exact hlast
  · have hshorter : items ++ [item] = (before ++ other :: after) ++ [last] := by
      rw [heq, List.concat_eq_append, List.append_assoc, List.cons_append]
    exact h before other after (List.append_inj' hshorter rfl).1

end Passes

end World

namespace Batch

/-- The map holds what the table of the items holds. -/
def Holds (w : World) (items : List Value) (recipes : OrderedMap String Recipe) (left : World) : Prop :=
  (w.table items).Like (fun p r => Recipe.Alike w p.2 left p.1 r) recipes

namespace Holds

variable {items : List Value} {recipes : OrderedMap String Recipe}

theorem nil (w u : World) : Holds w [] .empty u := List.Forall₂.nil

theorem keys_eq (h : Holds w items recipes u) : recipes.keys = (w.names items).eraseDups :=
  (OrderedMap.Like.keys_eq h).symm.trans (World.keys_table w items)

theorem contains_iff (h : Holds w items recipes u) {name : String} :
    recipes.contains name = true ↔ name ∈ w.names items := by
  rw [OrderedMap.contains_iff, h.keys_eq, List.mem_eraseDups]

/-- It stays so whatever is made afterwards. -/
theorem retains (h : Holds w items recipes u) (hleft : u.Retains v) : Holds w items recipes v :=
  OrderedMap.Like.imp h fun _ _ halike => halike.retains hleft

/-- Maps that hold the same table are the same. -/
theorem alike {kept : List Value} {recipes' : OrderedMap String Recipe} (h : Holds w items recipes u)
    (h' : Holds w kept recipes' v)
    (htable : w.table kept = w.table items) : recipes.Like (Recipe.Alike w u v) recipes' := by
  rw [Holds, htable] at h'
  exact OrderedMap.Like.trans (OrderedMap.Like.symm h fun _ _ halike => halike.symm) h' fun _ _ _ => Recipe.Alike.trans

theorem append {xs ys : List Value} {first second : OrderedMap String Recipe} (h : Holds w xs first u)
    (h' : Holds w ys second u) :
    Holds w (xs ++ ys) (first.insertAll second.entries) u := by
  rw [Holds, World.table_append]
  exact OrderedMap.Like.insertAll h h'

/-- Under each name the recipe of the last item stands. -/
theorem collects (h : Holds w items recipes u) : w.Collects items recipes u where
  keys := h.keys_eq
  named name r hr := by
    have hfound := OrderedMap.Like.find? h name
    rw [hr] at hfound
    generalize htable : (w.table items).find? name = found at hfound
    cases hfound with
    | @some p _ halike =>
      rw [World.find?_table] at htable
      have hp := List.mem_filter.1 (List.mem_of_getLast? htable)
      exact halike.name_eq.symm.trans (beq_iff_eq.1 hp.2)
  last name := World.find?_table w items name ▸ OrderedMap.Like.find? h name

end Holds

/-- Loading the items ends with all that they hold, if no item ends it, and with an error else. -/
inductive LoadEnds (w u : World) (items : List Value) : Ending (OrderedMap String Recipe) → Prop
  | loaded {recipes : OrderedMap String Recipe} {left : World} : w.Passes items → u.Retains left →
      Holds w items recipes left → LoadEnds w u items (.ok recipes left)
  | stopped {failure : Failure} {left : World} : ¬ w.Passes items → LoadEnds w u items (.error failure left)

variable {items : List Value} {recipes recipes' : OrderedMap String Recipe} {left : World}

theorem AddEnds.loadEnds {item : Value} (hpasses : w.Passes items) (hu : u.Retains v) (h : Holds w items recipes v)
    {ending : Ending (OrderedMap String Recipe)} (hadd : AddEnds w v recipes item ending) :
    LoadEnds w u (items ++ [item]) ending := by
  cases hadd with
  | skipped halone hnamed hleft =>
    refine .loaded (World.Passes.concat_iff.2 ⟨hpasses, .inl hnamed⟩) (hu.trans hleft) ?_
    rw [Holds, World.table_concat_none halone]
    exact h.retains hleft
  | @added r r' z left halone hnamed hleft halike =>
    refine .loaded (World.Passes.concat_iff.2 ⟨hpasses, ?_⟩) (hu.trans hleft) ?_
    · by_cases hknown : r.name ∈ w.names items
      · exact .inl (hnamed (h.contains_iff.2 hknown))
      · exact .inr ⟨r, z, halone, hknown⟩
    · rw [Holds, World.table_concat_some halone]
      exact OrderedMap.Like.insert (h.retains hleft) r.name halike
  | stopped hknown hnot =>
    refine .stopped fun hall => ?_
    obtain hnamed | ⟨r, z, halone, hnew⟩ := (World.Passes.concat_iff.1 hall).2
    · exact hnot hnamed
    · exact hnew (h.contains_iff.1 (hknown r z halone))

/-- By induction on the items, the last one first: what is before it is held when it comes. -/
theorem fold_ends (hw : w.IsWhole) (hu : w.Retains u) (hitems : ∀ item ∈ items, item.IsIn w) :
    LoadEnds w u items ((items.foldlM add .empty).act u) := by
  induction items using List.reverseRecOn with
  | nil => exact .loaded (fun before item after h => by cases before <;> cases h) (.refl u) (Holds.nil w u)
  | append_singleton items item ih =>
    have hbefore := ih fun item hitem => hitems item (List.mem_append_left _ hitem)
    rw [List.foldlM_append, Run.bind_act]
    generalize (items.foldlM add .empty).act u = ending at hbefore
    cases hbefore with
    | @loaded recipes v hpasses hv h =>
      dsimp only
      simp only [List.foldlM_cons, List.foldlM_nil, bind_pure]
      have hitem := hitems item (List.mem_append_right _ List.mem_cons_self)
      exact (add_ends hw (hu.trans hv) hitem recipes).loadEnds hpasses hv h
    | stopped hnot => exact .stopped fun hall => hnot hall.left

theorem load_ends (hw : w.IsWhole) (hu : w.Retains u) (hitems : ∀ item ∈ items, item.IsIn w) :
    LoadEnds w u items ((load items).act u) := by
  have hfold := fold_ends hw hu hitems
  rw [load, Run.bind_act]
  generalize (items.foldlM add .empty).act u = ending at hfold
  cases hfold with
  | loaded hpasses hleft h => exact .loaded hpasses hleft (h.retains fun _ _ ho => ho)
  | stopped hnot => exact .stopped hnot

/-- Items of which none ends it are loaded, in a later world too. -/
theorem exists_load (hw : w.IsWhole) (hu : w.Retains u) (hitems : ∀ item ∈ items, item.IsIn w)
    (hpasses : w.Passes items) :
    ∃ recipes left, (load items).act u = .ok recipes left ∧ u.Retains left ∧ Holds w items recipes left := by
  have hends := load_ends hw hu hitems
  generalize (load items).act u = ending at hends ⊢
  cases hends with
  | loaded _ hleft h => exact ⟨_, _, rfl, hleft, h⟩
  | stopped hnot => exact absurd hpasses hnot

theorem holds_of_load (hw : w.IsWhole) (hitems : ∀ item ∈ items, item.IsIn w)
    (hload : (load items).act w = .ok recipes left) :
    w.Passes items ∧ Holds w items recipes left := by
  have hends := load_ends hw (.refl w) hitems
  rw [hload] at hends
  cases hends with
  | loaded hpasses _ h => exact ⟨hpasses, h⟩

/-- Without items that do not load the map is the same. -/
theorem load_dropped (hw : w.IsWhole) (hitems : ∀ item ∈ items, item.IsIn w) (hpasses : w.Passes items)
    (h : Holds w items recipes left) {kept : List Value} (hkept : w.Drops items kept) :
    ∃ recipes' left', (load kept).act w = .ok recipes' left' ∧ recipes.Like (Recipe.Alike w left left') recipes' := by
  have hin (item : Value) (hitem : item ∈ kept) : item.IsIn w := hitems item (hkept.sublist.subset hitem)
  obtain ⟨recipes', left', hload, -, h'⟩ := exists_load hw (.refl w) hin (hpasses.drops hkept)
  refine ⟨recipes', left', hload, h.alike h' ?_⟩
  rw [World.table, World.table, hkept.loaded_eq]

/-- Loading in two parts makes the same map as loading at once. -/
theorem load_append {xs ys : List Value} (hw : w.IsWhole) (hitems : ∀ item ∈ xs ++ ys, item.IsIn w)
    (hpasses : w.Passes (xs ++ ys))
    (h : Holds w (xs ++ ys) recipes left) :
    ∃ first middle second last, (load xs).act w = .ok first middle ∧ (load ys).act middle = .ok second last ∧
      recipes.Like (Recipe.Alike w left last) (first.insertAll second.entries) := by
  obtain ⟨first, middle, hxs, hmiddle, hfirst⟩ :=
    exists_load hw (.refl w) (fun item hitem => hitems item (List.mem_append_left _ hitem)) hpasses.left
  obtain ⟨second, last, hys, hlast, hsecond⟩ :=
    exists_load hw hmiddle (fun item hitem => hitems item (List.mem_append_right _ hitem)) hpasses.right
  exact ⟨first, middle, second, last, hxs, hys, h.alike ((hfirst.retains hlast).append hsecond) rfl⟩

/-- **Which items end a batch.** It returns a map exactly if messages can name the source of every item that does not
load or that repeats a name, and no item is an empty tuple. The items that do not load then have no effect on
the others. -/
theorem load_returns_iff (hw : w.IsWhole) (hitems : ∀ item ∈ items, item.IsIn w) :
    ((∃ recipes left, (load items).act w = .ok recipes left) ↔ w.Passes items) ∧
      ∀ recipes left, (load items).act w = .ok recipes left → w.Collects items recipes left ∧
        ∀ kept, w.Drops items kept → ∃ recipes' left',
          (load kept).act w = .ok recipes' left' ∧ recipes.Like (Recipe.Alike w left left') recipes' := by
  refine ⟨⟨?_, fun hpasses => ?_⟩, fun recipes left hload => ?_⟩
  · rintro ⟨recipes, left, hload⟩
    exact (holds_of_load hw hitems hload).1
  · obtain ⟨recipes, left, hload, -⟩ := exists_load hw (.refl w) hitems hpasses
    exact ⟨recipes, left, hload⟩
  · obtain ⟨hpasses, h⟩ := holds_of_load hw hitems hload
    exact ⟨h.collects, fun kept hkept => load_dropped hw hitems hpasses h hkept⟩

/-- Without the text that is no definition the batch is the same. -/
theorem load_returns_of_list :
    ∃ recipes left recipes' left',
      (load [.str "jinx_name: alpha\n", .str "- 1\n", .str "jinx_name: beta\n"]).act {} = .ok recipes left ∧
        (load [.str "jinx_name: alpha\n", .str "jinx_name: beta\n"]).act {} = .ok recipes' left' ∧
          recipes.Like (Recipe.Alike {} left left') recipes' := by
  have hwhole : World.IsWhole {} := fun a o h => nomatch h
  have hitems : ∀ item ∈ [Value.str "jinx_name: alpha\n", .str "- 1\n", .str "jinx_name: beta\n"], item.IsIn {} := by
    simp [Value.IsIn, Value.addr?]
  have hpasses : World.Passes {} [.str "jinx_name: alpha\n", .str "- 1\n", .str "jinx_name: beta\n"] := by
    refine .of_named fun item hitem => ?_
    simp only [List.mem_cons, List.not_mem_nil, or_false] at hitem
    rcases hitem with rfl | rfl | rfl <;> exact World.named_of_source rfl (.inl rfl)
  have halone : World.alone {} (.str "- 1\n") = none := by
    rw [← Option.isNone_iff_eq_none]
    decide +kernel
  have hiff := load_returns_iff hwhole hitems
  obtain ⟨recipes, left, hload⟩ := hiff.1.2 hpasses
  obtain ⟨recipes', left', hload', hlike⟩ := (hiff.2 recipes left hload).2 _ (.keep _ (.drop halone (.keep _ .nil)))
  exact ⟨recipes, left, recipes', left', hload, hload', hlike⟩

/-- An empty tuple ends the loading, and what stands behind it is not loaded. -/
theorem load_stopped_by_empty_tuple :
    let w : World := { store := #[.tuple none []] }
    let ending := (load [.str "jinx_name: alpha\n", .ref 0, .str "jinx_name: beta\n"]).act w
    ending.raisedClass? = some "ValueError" ∧ ¬ ∃ recipes left, ending = .ok recipes left := by
  intro w ending
  have hraised : ending.raisedClass? = some "ValueError" := by decide +kernel
  refine ⟨hraised, ?_⟩
  rintro ⟨recipes, left, hend⟩
  rw [hend] at hraised
  cases hraised

end Batch

end Stepwise
