import Mathlib.Data.List.Induction
import Stepwise.Proofs.Failing
/-!
# What a context holds at first

A context is built by writing one layer over the other: the defaults of the recipe, the inputs and the rest.
`Engine.Begins` says in one rule for values and one for the order of keys what that comes to, whatever the
layers have in common: the last layer that has a key gives its value, the first one its place and its
spelling, and the output is empty and comes first. `Engine.buildContext_begins` says that every context that is
built over mappings begins so, and that writing to it afterwards changes nothing that was there before.
-/

namespace Stepwise

/-- What is repeated at the end need not have been gone through before. -/
theorem eraseDups_append_eraseDups {α : Type} [BEq α] [LawfulBEq α] (l l' : List α) :
    (l ++ l'.eraseDups).eraseDups = (l ++ l').eraseDups := by
  induction l' using List.reverseRecOn with
  | nil => rfl
  | append_singleton l' a ih =>
    have hconcat : (l ++ (l' ++ [a])).eraseDups =
        if a ∈ l ++ l' then (l ++ l').eraseDups else (l ++ l').eraseDups ++ [a] := by
      rw [← List.append_assoc, OrderedMap.eraseDups_concat]
    rw [hconcat, OrderedMap.eraseDups_concat]
    by_cases h : a ∈ l'
    · rw [if_pos h, if_pos (List.mem_append_right l h), ih]
    · rw [if_neg h, ← List.append_assoc, OrderedMap.eraseDups_concat, ih]
      simp only [List.mem_append, List.mem_eraseDups]

/-! ## Layers written into a dictionary -/

namespace Dict

variable {d e : Dict} {k : Key} {entries : List (Key × Value × Value)}

/-- Writes entries into a dictionary, first to last. -/
def putEntries (d : Dict) (entries : List (Key × Value × Value)) : Dict :=
  entries.foldl (fun d (k, s, v) => d.put k s v) d

/-- The value that is written last under a key. -/
def last? (k : Key) (entries : List (Key × Value × Value)) : Option Value :=
  Dict.get? ⟨entries.reverse⟩ k

/-- The keys of a dictionary with their spellings. -/
def spellings (entries : List (Key × Value × Value)) : List (Key × Value) := entries.map fun e => (e.1, e.2.1)

theorem findIn_spellings (k : Key) (entries : List (Key × Value × Value)) :
    OrderedMap.findIn k (spellings entries) = (OrderedMap.findIn k entries).map (·.1) := by
  induction entries with
  | nil => rfl
  | cons entry rest ih =>
    rw [spellings, List.map_cons, OrderedMap.findIn, OrderedMap.findIn, ← spellings, ih]
    split <;> rfl

theorem put_eq_insert (d : Dict) (k : Key) (s v : Value) :
    d.put k s v = d.insert k (((d.find? k).map (·.1)).getD s, v) := by
  rw [put]
  cases d.find? k <;> rfl

theorem nodup_putEntries (h : d.keys.Nodup) (entries : List (Key × Value × Value)) :
    (d.putEntries entries).keys.Nodup := by
  induction entries generalizing d with
  | nil => exact h
  | cons entry rest ih =>
    obtain ⟨k, s, v⟩ := entry
    have hput : (d.put k s v).keys.Nodup := by
      rw [put_eq_insert]
      exact OrderedMap.nodup_insert h _ _
    exact ih hput

theorem last?_append (k : Key) (entries entries' : List (Key × Value × Value)) :
    last? k (entries ++ entries') = (last? k entries').or (last? k entries) := by
  rw [last?, List.reverse_append, get?, OrderedMap.find?, OrderedMap.findIn_append, Option.map_or]
  rfl

/-- In a dictionary nothing is written twice. -/
theorem last?_entries (h : d.keys.Nodup) (k : Key) : last? k d.entries = d.get? k :=
  congrArg (Option.map Prod.snd) (OrderedMap.find?_perm (List.reverse_perm d.entries) h k)

/-- **The last value that is written counts**, and otherwise the one that was there. -/
theorem get?_putEntries (d : Dict) (entries : List (Key × Value × Value)) (k : Key) :
    (d.putEntries entries).get? k = (last? k entries).or (d.get? k) := by
  induction entries generalizing d with
  | nil => rfl
  | cons entry rest ih =>
    obtain ⟨k', s, v⟩ := entry
    have hone : last? k [(k', s, v)] = if k == k' then some v else none := by
      rw [last?, get?, OrderedMap.find?, List.reverse_singleton, OrderedMap.findIn]
      split <;> rfl
    have hrest : (d.putEntries ((k', s, v) :: rest)).get? k = (last? k rest).or ((d.put k' s v).get? k) := ih _
    rw [hrest, get?_put, ← List.singleton_append, last?_append, Option.or_assoc, hone]
    split <;> rfl

/-- The keys of a dictionary stand as they first occur, in their order and with their spelling. -/
structure InOrder (d : Dict) (occurrences : List (Key × Value)) : Prop where
  keys_eq : d.keys = (occurrences.map (·.1)).eraseDups
  spelled : ∀ k, (d.find? k).map (·.1) = OrderedMap.findIn k occurrences

namespace InOrder

variable {o o' : List (Key × Value)}

theorem empty : Dict.empty.InOrder [] := ⟨rfl, fun _ => rfl⟩

theorem mem_keys_iff (h : d.InOrder o) : k ∈ d.keys ↔ k ∈ o.map (·.1) := by rw [h.keys_eq, List.mem_eraseDups]

/-- A write is one more occurrence. -/
theorem put (h : d.InOrder o) (k : Key) (s v : Value) : (d.put k s v).InOrder (o ++ [(k, s)]) := by
  rw [put_eq_insert]
  constructor
  · rw [OrderedMap.keys_insert, List.map_append, List.map_singleton, OrderedMap.eraseDups_concat, h.keys_eq]
    simp only [OrderedMap.contains_iff, h.mem_keys_iff]
  · intro k'
    rw [OrderedMap.find?_insert, OrderedMap.findIn_append, ← h.spelled k', OrderedMap.findIn, OrderedMap.findIn]
    by_cases hk : k' == k
    · rw [if_pos hk, if_pos hk, eq_of_beq hk]
      cases d.find? k <;> rfl
    · rw [if_neg hk, if_neg hk, Option.or_none]

/-- Writing over a key that is there is none. -/
theorem put_of_mem (h : d.InOrder o) (hk : k ∈ o.map (·.1)) (s v : Value) : (d.put k s v).InOrder o := by
  have hput := h.put k s v
  refine ⟨?_, fun k' => ?_⟩
  · rw [hput.keys_eq, List.map_append, List.map_singleton, OrderedMap.eraseDups_concat, if_pos hk]
  · rw [hput.spelled, OrderedMap.findIn_append, OrderedMap.findIn, OrderedMap.findIn]
    have hthere : (OrderedMap.findIn k o).isSome = true := OrderedMap.contains_iff.2 hk
    by_cases hk' : k' == k
    · rw [eq_of_beq hk', Option.or_of_isSome hthere]
    · rw [if_neg hk', Option.or_none]

/-- **Written entries are occurrences behind those that were there.** -/
theorem putEntries (h : d.InOrder o) (entries : List (Key × Value × Value)) :
    (d.putEntries entries).InOrder (o ++ spellings entries) := by
  induction entries generalizing d o with
  | nil => rwa [spellings, List.map_nil, List.append_nil]
  | cons entry rest ih =>
    have hrest := ih (h.put entry.1 entry.2.1 entry.2.2)
    rwa [List.append_assoc] at hrest

/-- What a dictionary has written stands for what was written into it. -/
theorem replace (h : d.InOrder (o ++ spellings e.entries)) (he : e.InOrder o') : d.InOrder (o ++ o') := by
  have hkeys : (spellings e.entries).map (·.1) = e.keys := List.map_map
  refine ⟨?_, fun k => ?_⟩
  · rw [h.keys_eq, List.map_append, List.map_append, hkeys, he.keys_eq, eraseDups_append_eraseDups]
  · rw [h.spelled, OrderedMap.findIn_append, OrderedMap.findIn_append, ← he.spelled k, findIn_spellings]
    rfl

end InOrder

/-! ### Dictionaries of texts -/

/-- A name and its value as an entry. -/
def textEntry (p : String × Value) : Key × Value × Value := (textKey p.1, .str p.1, p.2)

theorem ofTexts_eq_putEntries (l : List (String × Value)) : ofTexts l = empty.putEntries (l.map textEntry) := by
  rw [putEntries, List.foldl_map]
  rfl

/-- A map by names as a dictionary. -/
def ofMap (m : OrderedMap String Value) : Dict := ⟨m.entries.map textEntry⟩

theorem putText_ofMap (m : OrderedMap String Value) (n : String) (v : Value) :
    (ofMap m).putText n v = ofMap (m.insert n v) := by
  have hkey : ∀ n', (textKey n == textKey n') = (n == n') := fun n' => by
    rw [Bool.eq_iff_iff, beq_iff_eq, beq_iff_eq]
    exact ⟨fun h => by cases h; rfl, fun h => h ▸ rfl⟩
  have hfind : ∀ l : List (String × Value), OrderedMap.findIn (textKey n) (l.map textEntry) =
      (OrderedMap.findIn n l).map fun x => (.str n, x) := by
    intro l
    induction l with
    | nil => rfl
    | cons p r ih =>
      rw [List.map_cons, textEntry, OrderedMap.findIn, OrderedMap.findIn, hkey, ih]
      by_cases hn : n == p.1
      · rw [if_pos hn, if_pos hn, eq_of_beq hn]
        rfl
      · rw [if_neg hn, if_neg hn]
  have hinsert : ∀ l : List (String × Value), OrderedMap.insertIn (textKey n) (.str n, v) (l.map textEntry) =
      (OrderedMap.insertIn n v l).map textEntry := by
    intro l
    induction l with
    | nil => rfl
    | cons p r ih =>
      rw [List.map_cons, textEntry, OrderedMap.insertIn, OrderedMap.insertIn, hkey, ih]
      by_cases hn : n == p.1
      · rw [if_pos hn, if_pos hn, eq_of_beq hn]
        rfl
      · rw [if_neg hn, if_neg hn]
        rfl
  have hput : (ofMap m).putText n v = (ofMap m).insert (textKey n) (.str n, v) := by
    rw [putText, put, ofMap, OrderedMap.find?, hfind]
    cases OrderedMap.findIn n m.entries <;> rfl
  rw [hput]
  exact congrArg OrderedMap.mk (hinsert m.entries)

/-- The dictionary of texts is that of the map of the names. -/
theorem ofTexts_eq_ofMap (l : List (String × Value)) : ofTexts l = ofMap (OrderedMap.ofList l) := by
  have hfold : ∀ (l : List (String × Value)) (m : OrderedMap String Value),
      l.foldl (fun d p => putText d p.1 p.2) (ofMap m) = ofMap (m.insertAll l) := by
    intro l
    induction l with
    | nil => exact fun m => rfl
    | cons p r ih =>
      obtain ⟨n, v⟩ := p
      intro m
      rw [List.foldl_cons]
      dsimp only
      rw [putText_ofMap, ih]
      rfl
  exact hfold l .empty

/-- A map by names is written as it is. -/
theorem ofTexts_entries {m : OrderedMap String Value} (hm : m.keys.Nodup) : ofTexts m.entries = ofMap m := by
  have hagain : (OrderedMap.ofList m.entries).entries = m.entries := OrderedMap.entries_insertAll_of_nodup hm
  rw [ofTexts_eq_ofMap, ofMap, hagain]
  rfl

/-- Names that are written into a map make the dictionary that they make at once. -/
theorem ofTexts_ofList (l : List (String × Value)) : ofTexts (OrderedMap.ofList l).entries = ofTexts l := by
  rw [ofTexts_entries (OrderedMap.nodup_ofList l), ofTexts_eq_ofMap]

end Dict

/-! ## Declarations -/

namespace Input

/-- The mapping that a declaration is; a bare name declares none. -/
def contents (i : Input) : Dict := Dict.ofTexts i.pairs

end Input

namespace Recipe

/-- The value that the last declaration which contains a key gives it. -/
def declared? (recipe : Recipe) (k : Key) : Option Value :=
  recipe.inputs.reverse.findSome? fun i => i.contents.get? k

/-- The names of the declarations with values, as they occur. -/
def declaredNames (recipe : Recipe) : List (Key × Value) :=
  recipe.inputs.flatMap fun i => i.pairs.map fun p => (Dict.textKey p.1, .str p.1)

/-- The dictionary of the defaults. -/
def defaultContents (recipe : Recipe) : Dict := Dict.ofTexts recipe.defaults.entries

theorem defaultContents_eq (recipe : Recipe) :
    recipe.defaultContents = Dict.empty.putEntries (recipe.inputs.flatMap fun i => i.pairs.map Dict.textEntry) := by
  have hdefaults : recipe.defaults = OrderedMap.ofList (recipe.inputs.flatMap Input.pairs) := rfl
  rw [defaultContents, hdefaults, Dict.ofTexts_ofList, Dict.ofTexts_eq_putEntries, List.map_flatMap]

/-- **A default is that of the last declaration.** -/
theorem get?_defaultContents (recipe : Recipe) (k : Key) : recipe.defaultContents.get? k = recipe.declared? k := by
  have hlast : ∀ inputs : List Input, Dict.last? k (inputs.flatMap fun i => i.pairs.map Dict.textEntry) =
      inputs.reverse.findSome? fun i => i.contents.get? k := by
    intro inputs
    induction inputs with
    | nil => rfl
    | cons i rest ih =>
      have hone : i.contents.get? k = Dict.last? k (i.pairs.map Dict.textEntry) := by
        rw [Input.contents, Dict.ofTexts_eq_putEntries, Dict.get?_putEntries]
        exact Option.or_none
      rw [List.flatMap_cons, Dict.last?_append, ih, List.reverse_cons, List.findSome?_append, ← hone,
        List.findSome?_singleton]
  rw [defaultContents_eq, Dict.get?_putEntries, hlast]
  exact Option.or_none

theorem defaultContents_inOrder (recipe : Recipe) : recipe.defaultContents.InOrder recipe.declaredNames := by
  have h := Dict.InOrder.empty.putEntries (recipe.inputs.flatMap fun i => i.pairs.map Dict.textEntry)
  rw [← defaultContents_eq, Dict.spellings, List.map_flatMap, List.nil_append] at h
  simp only [List.map_map] at h
  exact h

end Recipe

/-! ## Writing to a context -/

open Run (Inspects TouchesOnly)

/-- The classes of the errors that looking for the place of a key may raise. -/
def keyErrors : List String := "TypeError" :: textErrors

theorem inspects_classMember (c : Value) (name : String) : (classMember? c name).Inspects keyErrors := by
  refine (Value.inspects_lineageAt 32 c).bind fun line => ?_
  induction line with
  | nil => exact .pure _
  | cons c rest ih =>
    unfold classMember?.go
    split
    · refine (Inspects.load _).bind fun o => ?_
      split
      · split
        · exact .pure _
        · exact ih
      · exact ih
    · exact ih

/-- **Looking for the place of a key changes nothing.** -/
theorem Value.inspects_key (v : Value) : v.key.Inspects keyErrors := by
  have hkey : ∀ n v, (Value.keyAt n v).Inspects keyErrors := by
    intro n
    induction n with
    | zero => exact fun v => .raise _ (by decide)
    | succ n ih =>
      intro v
      unfold Value.keyAt
      cases v with
      | ref a =>
        have hname : (Value.ref a).kindName.Inspects keyErrors :=
          (Value.inspects_classOf _).bind fun c => Value.inspects_classLabel c
        have hrefuse : (do Run.typeError ("unhashable type: '" ++ (← (Value.ref a).kindName) ++ "'") :
            Run Key).Inspects keyErrors := hname.bind fun name => .raise _ (by decide)
        refine (Inspects.load a).bind fun o => ?_
        dsimp only
        -- every branch is put together from runs that look
        repeat' first
          | exact .pure _
          | exact hrefuse
          | exact ih _
          | exact (inspects_failUndefined _).mono (by decide)
          | exact Inspects.mapM ih _
          | exact inspects_classMember _ _
          | refine Inspects.bind ?_ (fun _ => ?_)
          | split
      | _ => exact .pure _
  exact hkey displayDepth v

namespace Context

/-- A change of a context by itself: an item is written, an item is deleted, the pairs of a mapping are written,
or everything is deleted. -/
inductive Edit where
  | assign (key value : Value)
  | delete (key : Value)
  | update (pairs : List (Value × Value))
  | clear

/-- Makes the change. -/
def Edit.run (m : Machine) (context : Addr) : Edit → Run Unit
  | assign key value => setItem m (.ref context) key value
  | delete key => deleteItem (.ref context) key
  | update pairs => pairs.forM fun p => Run.putItem context p.1 p.2
  | clear => Run.setDict context Dict.empty

/-- The world after changes, whether or not they succeed. -/
def edited (m : Machine) (context : Addr) (edits : List Edit) (w : World) : World :=
  edits.foldl (fun w edit => ((edit.run m context).act w).world) w

theorem touchesOnly_putItem (context : Addr) (key value : Value) :
    (Run.putItem context key value).TouchesOnly context :=
  key.inspects_key.touchesOnly.bind fun _ => .update _ _

/-- **A change of a context changes nothing else.** -/
theorem Edit.keeps (m : Machine) {context : Addr} {w : World} (hw : w.HasContext context) (edit : Edit) {a : Addr}
    (ha : a ≠ context) (hlt : a < w.store.size) :
    ((edit.run m context).act w).world.store[a]? = w.store[a]? := by
  obtain ⟨names, d, hd⟩ := hw
  cases edit with
  | assign key value =>
    have hrun : ((Edit.assign key value).run m context).act w = (Run.putItem context key value).act w := by
      simp only [run, setItem, Run.bind_act, Run.load_act hd]
    rw [hrun]
    exact touchesOnly_putItem context key value w a ha hlt
  | delete key =>
    let erase (k : Key) : Run Unit :=
      if OrderedMap.contains d k then Run.save context (.dict (.context names) (OrderedMap.erase d k))
      else Run.raiseWith "KeyError" [key]
    have hrun : ((Edit.delete key).run m context).act w = (key.key >>= erase).act w := by
      simp only [run, deleteItem, Run.bind_act, Run.load_act hd, erase]
    have herase : ∀ k, (erase k).TouchesOnly context := by
      intro k w' b hb hb'
      dsimp only [erase]
      split
      · exact (Array.getElem?_modify ..).trans (if_neg hb.symm)
      · change (w'.store.push _)[b]? = _
        rw [Array.getElem?_push, if_neg (Nat.ne_of_lt hb')]
    rw [hrun]
    exact (key.inspects_key.touchesOnly.bind herase) w a ha hlt
  | update pairs =>
    have hpairs : (pairs.forM fun p => Run.putItem context p.1 p.2).TouchesOnly context := by
      induction pairs with
      | nil => exact .pure ()
      | cons p rest ih => exact (touchesOnly_putItem context p.1 p.2).bind fun _ => ih
    exact hpairs w a ha hlt
  | clear => exact TouchesOnly.update _ (by intro o; cases o <;> rfl) w a ha hlt

/-- **Nor do many.** -/
theorem edited_keeps (m : Machine) {context : Addr} {w : World} (hw : w.HasContext context) (edits : List Edit)
    {a : Addr} (ha : a ≠ context) (hlt : a < w.store.size) : (edited m context edits w).store[a]? = w.store[a]? := by
  induction edits generalizing w with
  | nil => rfl
  | cons edit rest ih =>
    have hfirst := edit.keeps m hw ha hlt
    have hlt' : a < ((edit.run m context).act w).world.store.size :=
      (Array.getElem?_eq_some_iff.1 (hfirst.trans (Array.getElem?_eq_getElem hlt))).1
    exact (ih (hw.grows ((edit.run m context).grows w)) hlt').trans hfirst

end Context

/-! ## Building -/

/-- The value is a mapping with these contents, or nothing. -/
inductive World.Maps (w : World) : Value → Dict → Prop
  | nothing : Maps w .null Dict.empty
  | mapping {a : Addr} {f : DictFlavour} {d : Dict} : w.store[a]? = some (.dict f d) → d.keys.Nodup →
      (∀ entry ∈ d.entries, w.HasKey entry.2.1 entry.1) → Maps w (.ref a) d

theorem World.Maps.layer {w : World} {v : Value} {d : Dict} (h : w.Maps v d) : w.Layer v d.entries := by
  cases h with
  | nothing => exact .nothing
  | mapping ha _ hkeys => exact .mapping ha hkeys

theorem World.Maps.nodup {w : World} {v : Value} {d : Dict} (h : w.Maps v d) : d.keys.Nodup := by
  cases h with
  | nothing => exact List.nodup_nil
  | mapping _ hnodup _ => exact hnodup

namespace Engine

/-- What a context holds at first, by the recipe and by the contents of the inputs and of the rest. -/
structure Begins (recipe : Recipe) (ins ext d : Dict) : Prop where
  output : d.getText? "output" = some .null
  holds : ∀ k, k ≠ Dict.textKey "output" → d.get? k = (ext.get? k).or ((ins.get? k).or (recipe.declared? k))
  inOrder : d.InOrder ((Dict.textKey "output", .str "output") :: recipe.declaredNames ++
    Dict.spellings ins.entries ++ Dict.spellings ext.entries)

/-- **The layers come to one rule for values and one for their order.** -/
theorem firstContents_begins (recipe : Recipe) {ins ext : Dict} (hins : ins.keys.Nodup) (hext : ext.keys.Nodup) :
    Begins recipe ins ext (firstContents recipe ins.entries ext.entries) := by
  let start : Dict := Dict.ofTexts [("output", .null)]
  let full := ((start.putEntries recipe.defaultContents.entries).putEntries ins.entries).putEntries ext.entries
  have hcontents : firstContents recipe ins.entries ext.entries = full.putText "output" .null := rfl
  have hdefaults : recipe.defaultContents.keys.Nodup := by
    rw [recipe.defaultContents_eq]
    exact Dict.nodup_putEntries (d := Dict.empty) List.nodup_nil _
  refine ⟨?_, fun k hk => ?_, ?_⟩
  · rw [hcontents, Dict.getText?, Dict.putText, Dict.get?_put, if_pos (beq_self_eq_true _)]
  · have hstart : start.get? k = none := by
      change Option.map _ (if k == Dict.textKey "output" then _ else none) = none
      rw [if_neg (by simpa using hk)]
      rfl
    rw [hcontents, Dict.putText, Dict.get?_put, if_neg (by simpa using hk), Dict.get?_putEntries,
      Dict.get?_putEntries, Dict.get?_putEntries, hstart, Dict.last?_entries hext, Dict.last?_entries hins,
      Dict.last?_entries hdefaults, recipe.get?_defaultContents, Option.or_none]
  · have hstart : start.InOrder [(Dict.textKey "output", .str "output")] := Dict.InOrder.empty.put _ _ _
    have hdeclared := (hstart.putEntries recipe.defaultContents.entries).replace recipe.defaultContents_inOrder
    have hfull := (hdeclared.putEntries ins.entries).putEntries ext.entries
    exact hfull.put_of_mem (by simp [Context.outputKey]) _ _

/-- **What every context holds at first.** It is new, `output` is nothing whatever the layers hold, every other key
has the value of the last layer that has it, and the keys stand as they first occur in the layers. The objects that
were there before are what they were, however much is written to the context or deleted from it afterwards. -/
theorem buildContext_begins (p : Platform) (recipe : Recipe) {inputs extra : Value} {w : World} {ins ext : Dict}
    (hin : w.Maps inputs ins) (hext : w.Maps extra ext) :
    ∃ context w' d, (buildContext p recipe inputs extra).act w = .ok context w' ∧ w.store.size ≤ context ∧
      w'.store[context]? = some (.dict (.context []) d) ∧ Begins recipe ins ext d ∧
      ∀ m edits a, a < w.store.size → (Context.edited m context edits w').store[a]? = w.store[a]? := by
  let d := firstContents recipe ins.entries ext.entries
  let w' := withContext w recipe ins.entries ext.entries
  have hd : w'.store[w.store.size + 1]? = some (.dict (.context []) d) := by
    have hsize : (w.store.push (.dict .plain (Dict.ofTexts recipe.defaults.entries))).size = w.store.size + 1 :=
      Array.size_push _
    rw [← hsize]
    exact Array.getElem?_push_size
  refine ⟨_, w', d, buildContext_act p recipe hin.layer hext.layer, Nat.le_succ _, hd,
    firstContents_begins recipe hin.nodup hext.nodup, fun m edits a ha => ?_⟩
  let made : World := { w with store := w.store.push (.dict .plain (Dict.ofTexts recipe.defaults.entries)) }
  have hsame : w'.store[a]? = w.store[a]? := by
    have hmade : made.store[a]? = some w.store[a] := World.get_push (Array.getElem?_eq_getElem ha) _
    rw [Array.getElem?_eq_getElem ha]
    exact World.get_push hmade _
  have hlt : a < w'.store.size :=
    (Array.getElem?_eq_some_iff.1 (hsame.trans (Array.getElem?_eq_getElem ha))).1
  exact (Context.edited_keeps m ⟨[], d, hd⟩ edits (Nat.ne_of_lt (Nat.lt_succ_of_lt ha)) hlt).trans hsame

/-- A recipe that declares a name twice, and one that is not its own. -/
def declaringTwice : Recipe :=
  ⟨"twice", "", [.defaults ⟨[("a", .int 1), ("output", .int 0)]⟩, .required "c",
    .defaults ⟨[("b", .int 2), ("a", .int 3)]⟩], [], .null⟩

/-- Inputs under a whole number and a name. -/
def numberedInputs : Dict := ⟨[([.whole 1], .int 1, .str "one"), (Dict.textKey "b", .str "b", .int 4)]⟩

/-- The same number as a truth value, and an output. -/
def trueRest : Dict := ⟨[([.whole 1], .bool true, .str "yes"), (Dict.textKey "output", .str "output", .int 5)]⟩

/-- The later declaration counts in the place of the earlier, the output is nothing, and a truth value is the key
that the number was. -/
theorem begins_of_declaringTwice : ∃ context w' d,
    (buildContext barePlatform declaringTwice (.ref 0) (.ref 1)).act
      { store := #[.dict .plain numberedInputs, .dict .plain trueRest] } = .ok context w' ∧
    w'.store[context]? = some (.dict (.context []) d) ∧
    d.keys = [Dict.textKey "output", Dict.textKey "a", Dict.textKey "b", [.whole 1]] ∧
    d.getText? "output" = some .null ∧ d.getText? "a" = some (.int 3) ∧ d.getText? "b" = some (.int 4) ∧
    d.get? [.whole 1] = some (.str "yes") := by
  let w : World := { store := #[.dict .plain numberedInputs, .dict .plain trueRest] }
  have hin : w.Maps (.ref 0) numberedInputs := by
    refine .mapping rfl (by decide +kernel) fun entry he => ?_
    rcases List.mem_cons.1 he with rfl | he
    · exact fun _ _ => rfl
    · cases List.mem_singleton.1 he
      exact fun _ _ => rfl
  have hext : w.Maps (.ref 1) trueRest := by
    refine .mapping rfl (by decide +kernel) fun entry he => ?_
    rcases List.mem_cons.1 he with rfl | he
    · exact fun _ _ => rfl
    · cases List.mem_singleton.1 he
      exact fun _ _ => rfl
  obtain ⟨context, w', d, hact, -, hd, hbegins, -⟩ := buildContext_begins barePlatform declaringTwice hin hext
  refine ⟨context, w', d, hact, hd, ?_, hbegins.output, ?_, ?_, ?_⟩
  · rw [hbegins.inOrder.keys_eq]
    decide +kernel
  · exact (hbegins.holds (Dict.textKey "a") (by decide)).trans rfl
  · exact (hbegins.holds (Dict.textKey "b") (by decide)).trans rfl
  · exact (hbegins.holds [.whole 1] (by decide)).trans rfl

end Engine

end Stepwise
