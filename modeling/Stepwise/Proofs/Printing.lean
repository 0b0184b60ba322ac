import Mathlib.Data.List.SplitBy
import Stepwise.Proofs.Components
import Stepwise.Proofs.Prints
import Stepwise.Proofs.Readiness
/-!
# What templates of texts and prints render

A row of texts and prints is rendered as the texts with the values of the context between them, each of them escaped
if the settings of the template say so (`renderPage_act`). Nothing that was there before is changed by that. So such a
template is a component, whatever stands in it, and what the component answers is what the context holds when it is
called (`Toolchain.prints_shown`).
-/

namespace Stepwise

theorem Run.iterate_done {σ α : Type} {step : σ → Run (σ ⊕ α)} {s : σ} {a : α} {w : World}
    (h : (step s).act w = .ok (.inr a) w) (n : Nat) : (iterate step (n + 1) s).act w = .ok a w := by
  change turns step .common (n + 1) s w = _
  rw [turns]
  rw [Run.act] at h
  rw [h]

namespace World

/-- There is a dictionary at the address. -/
def HasDict (w : World) (a : Addr) : Prop := ∃ f d, w.store[a]? = some (.dict f d)

/-- A dictionary stays one. -/
theorem HasDict.grows {w w' : World} {a : Addr} (h : w.HasDict a) (hw : w.Grows w') : w'.HasDict a := by
  obtain ⟨f, d, ha⟩ := h
  obtain ⟨o, ho, hbecomes⟩ := hw.becomes a _ ha
  have hkind := hbecomes.kind_eq
  cases o with
  | dict f' d' => exact ⟨f', d', ho⟩
  | _ => cases f <;> cases hkind

end World

namespace Template

variable {host : Host} {n : Nat} {place : Place} {w : World}

/-! ## Pieces -/

/-- **Pieces that are texts are put together**, in every world. -/
theorem joinPieces_act {α : Type} {l : List α} {piece : α → Value} {text : α → String}
    (h : ∀ x ∈ l, (piece x).text? = some (text x)) (w : World) :
    (joinPieces (l.map piece)).act w = .ok (String.join (l.map text)) w := by
  have hpayload : ∀ {v : Value} {s : String}, v.text? = some s → v.payload.act w = .ok v w := by
    intro v s hv
    cases v <;> first | rfl | cases hv
  have hindexed : (l.map piece).zipIdx = l.zipIdx.map (Prod.map piece id) := List.zipIdx_map ..
  have htexts : l.zipIdx.map (fun q => text q.1) = l.map text := by
    change l.zipIdx.map (text ∘ Prod.fst) = _
    rw [← List.map_map, List.zipIdx_map_fst]
  rw [joinPieces, hindexed, List.mapM_map, Run.bind_act, Run.mapM_act (g := fun q => text q.1), htexts]
  · rfl
  · intro q hq
    have htext := h q.1 (List.fst_mem_of_mem_zipIdx hq)
    simp only [Function.comp_apply, Prod.map, Run.bind_act, hpayload htext, htext, Run.pure_act]

section

variable {m : Machine} {value : Expr → Value} {text : Expr → String}

/-- The piece of a group: the value if there is one only, and otherwise their text. -/
def groupValue (value : Expr → Value) (text : Expr → String) : List Expr → Value
  | [e] => value e
  | es => .str (String.join (es.map text))

theorem printGroup_act {es : List Expr} (hvalue : ∀ e ∈ es, (printValue m place e).act w = .ok (value e) w)
    (htext : ∀ e ∈ es, (value e).text? = some (text e)) :
    (printGroup m place es).act w = .ok (groupValue value text es) w := by
  have hmany : (es.mapM (printValue m place)).act w = .ok (es.map value) w := Run.mapM_act hvalue
  have htexts : (es.map value).filterMap Value.text? = es.map text := by
    rw [List.filterMap_map, ← List.filterMap_eq_map]
    exact List.filterMap_congr htext
  match es with
  | [e] => exact hvalue e List.mem_cons_self
  | [] => rfl
  | _ :: _ :: _ =>
    rw [printGroup]
    · rw [Run.bind_ok hmany, htexts]
      rfl
    · simp

theorem text?_groupValue {es : List Expr} (htext : ∀ e ∈ es, (value e).text? = some (text e)) :
    (groupValue value text es).text? = some (String.join (es.map text)) := by
  match es with
  | [e] =>
    rw [groupValue, htext e List.mem_cons_self]
    simp
  | [] => rfl
  | _ :: _ :: _ => rfl

/-- **Pieces are put together in groups**, and no text is lost. -/
theorem printAll_act {parts : List Expr} (hvalue : ∀ e ∈ parts, (printValue m place e).act w = .ok (value e) w)
    (htext : ∀ e ∈ parts, (value e).text? = some (text e)) :
    ∃ pieces, (printAll m place parts).act w = .ok pieces w ∧
      ∀ w', (joinPieces pieces).act w' = .ok (String.join (parts.map text)) w' := by
  let groups := parts.splitBy fun a b => isSettled place a && isSettled place b
  have hflat : groups.flatten = parts := List.flatten_splitBy ..
  have hmem : ∀ es ∈ groups, ∀ e ∈ es, e ∈ parts := fun es hes e he => hflat ▸ List.mem_flatten_of_mem hes he
  refine ⟨groups.map (groupValue value text), ?_, fun w' => ?_⟩
  · exact Run.mapM_act fun es hes =>
      printGroup_act (fun e he => hvalue e (hmem es hes e he)) fun e he => htext e (hmem es hes e he)
  · rw [joinPieces_act fun es hes => text?_groupValue fun e he => htext e (hmem es hes e he)]
    refine congrArg (EStateM.Result.ok · w') (String.toList_injective ?_)
    simp only [String.toList_join, List.flatMap_map]
    rw [← hflat, List.flatten_eq_flatMap, List.flatMap_assoc]
    rfl

end

/-! ## What is printed -/

theorem pageAt_act {a : Addr} {p : Page} (h : w.store[a]? = some (.page p)) : (pageAt a).act w = .ok p w := by
  simp only [pageAt, Run.bind_act, Run.load_act h, Run.pure_act]

theorem valueOf_act {names : Names} {id : String} {v : Value} (hnames : w.store[place.names]? = some (.names names))
    (hv : names.vars.lookup id = some (some v)) : (valueOf place id).act w = .ok v w := by
  have hat : (namesAt place.names).act w = .ok names w := by
    simp only [namesAt, Run.bind_act, Run.load_act hnames, Run.pure_act]
  have hpatience : Run.patience = 999999999 + 1 := rfl
  have hlookup : (lookup? place id).act w = .ok (some (some v)) w := by
    rw [lookup?, hpatience]
    refine Run.iterate_done ?_ _
    simp only [Run.bind_act, hat, hv, Run.pure_act]
  simp only [valueOf, Run.bind_act, hlookup, Run.pure_act]

/-- An item that a dictionary has is the value of the index, whatever attributes the dictionary has. -/
theorem itemOf_act (m : Machine) {a : Addr} {f : DictFlavour} {d : Dict} (ha : w.store[a]? = some (.dict f d))
    {key : String} {v : Value} (hv : d.get? (Dict.textKey key) = some v) :
    (itemOf m place (.ref a) (.str key)).act w = .ok v w := by
  have hpayload : (Value.ref a).payload.act w = .ok (.ref a) w := by
    simp only [Value.payload, Run.bind_act, Run.load_act ha, Run.pure_act]
  have hkey : (Value.str key).key.act w = .ok (Dict.textKey key) w := rfl
  have hget : (getItem m (.ref a) (.str key)).act w = .ok v w := by
    simp only [getItem, Run.bind_act, hpayload, Run.load_act ha, hkey, hv, Run.pure_act]
  have hown : (ownItem? m (.ref a) (.str key)).act w = .ok (some v) w := by
    simp only [ownItem?, Run.bind_act, Run.outcome_act, hget, Run.Ending.outcome, Run.pure_act]
  simp only [itemOf, Run.bind_act, hown, Run.pure_act]

/-- **An item of the context is what the context holds.** -/
theorem contextItem_act {names : Names} (hnames : w.store[place.names]? = some (.names names)) {c : Addr}
    (hcontext : names.vars.lookup "context" = some (some (.ref c))) {f : DictFlavour} {d : Dict}
    (hc : w.store[c]? = some (.dict f d)) {key : String} {v : Value} (hv : d.get? (Dict.textKey key) = some v) :
    ((Machine.at host (n + 2)).expr place (contextItem key)).act w = .ok v w := by
  change (evaluate (Machine.at host (n + 1)) place (contextItem key)).act w = _
  have hname : ((Machine.at host (n + 1)).expr place (.name "context")).act w = .ok (.ref c) w :=
    valueOf_act hnames hcontext
  have hlit : ((Machine.at host (n + 1)).expr place (.lit (.str key))).act w = .ok (.str key) w := rfl
  simp only [evaluate, contextItem, Run.bind_act, hname, hlit]
  exact itemOf_act _ hc hv

/-- What a text is printed as. -/
def printed (escapes : Bool) (s : String) : Value := if escapes then .markup (Text.escapeHtml s) else .str s

/-- What is shown of it then. -/
def shownText (escapes : Bool) (s : String) : String := if escapes then Text.escapeHtml s else s

theorem text?_printed (escapes : Bool) (s : String) : (printed escapes s).text? = some (shownText escapes s) := by
  cases escapes <;> rfl

theorem printValue_act {settings : TemplateSettings} (hplace : place.escaping = ordinaryEscaping settings) {m : Machine}
    {key s : String} (hvalue : (m.expr place (contextItem key)).act w = .ok (.str s) w) :
    (printValue m place (contextItem key)).act w = .ok (printed settings.autoescape s) w := by
  have hescapes : place.escapesNow.act w = .ok settings.autoescape w := by
    rw [Place.escapesNow, hplace, ordinaryEscaping]
    cases settings.autoescape <;> rfl
  have hprint : printValue m place (contextItem key) = (do
      let v ← m.expr place (contextItem key)
      if ← place.escapesNow then escaped v else return .str (← v.plain)) := rfl
  rw [hprint]
  simp only [Run.bind_act, hvalue, hescapes]
  cases settings.autoescape <;> rfl

end Template

/-! ## Rows -/

namespace Template.Prints

variable {place : Place} {w : World} {p : Prints}

/-- The text of a row, with what is shown for its keys. -/
def text (shownFor : String → String) (p : Prints) : String :=
  String.ofList (p.first ++ p.rest.flatMap fun (key, text) => (shownFor key).toList ++ text)

/-- What is shown of a part of a row. -/
def partText (shownFor : String → String) : Expr → String
  | .data s => s
  | .index _ (.lit (.str key)) => shownFor key
  | _ => ""

theorem join_partText (shownFor : String → String) (p : Prints) :
    String.join (p.parts.map (partText shownFor)) = p.text shownFor := by
  have htext : ∀ text : List Char, (textParts text).flatMap (fun e => (partText shownFor e).toList) = text := by
    intro text
    rw [textParts]
    split
    case isTrue h => exact (List.isEmpty_iff.1 h).symm
    case isFalse => simp [partText]
  refine String.toList_injective ?_
  simp only [String.toList_join, List.flatMap_map, parts, List.flatMap_append, htext, text, String.toList_ofList,
    List.flatMap_assoc, List.flatMap_cons]
  rfl

/-- The keys of a row stand for texts in a dictionary. -/
def Held (p : Prints) (d : Dict) (held : String → String) : Prop :=
  ∀ q ∈ p.rest, d.get? (Dict.textKey q.1) = some (.str (held q.1))

/-- **Rendering a row gives its text**, and changes nothing. -/
theorem nodes_act (host : Host) (n : Nat) {settings : TemplateSettings}
    (hplace : place.escaping = ordinaryEscaping settings) {names : Names}
    (hnames : w.store[place.names]? = some (.names names)) {c : Addr}
    (hcontext : p.rest ≠ [] → names.vars.lookup "context" = some (some (.ref c))) {f : DictFlavour} {d : Dict}
    (hc : w.store[c]? = some (.dict f d)) {held : String → String} (hheld : p.Held d held) :
    ∃ pieces, ((Machine.at host (n + 3)).nodes place p.nodes).act w = .ok pieces w ∧
      ∀ w', (joinPieces pieces).act w' = .ok (p.text fun key => shownText settings.autoescape (held key)) w' := by
  let value : Expr → Value
    | .data s => .str s
    | .index _ (.lit (.str key)) => printed settings.autoescape (held key)
    | _ => .null
  have hvalue : ∀ e ∈ p.parts, (printValue (Machine.at host (n + 2)) place e).act w = .ok (value e) w := by
    intro e he
    obtain ⟨s, rfl⟩ | ⟨q, hq, rfl⟩ := mem_parts he
    · rfl
    · exact printValue_act hplace (contextItem_act hnames (hcontext (List.ne_nil_of_mem hq)) hc (hheld q hq))
  have htext : ∀ e ∈ p.parts,
      (value e).text? = some (partText (fun key => shownText settings.autoescape (held key)) e) := by
    intro e he
    obtain ⟨s, rfl⟩ | ⟨q, -, rfl⟩ := mem_parts he
    · rfl
    · exact text?_printed _ _
  obtain ⟨pieces, hpieces, hjoined⟩ := printAll_act hvalue htext
  simp only [join_partText] at hjoined
  change ∃ pieces, (renderNodes (Machine.at host (n + 2)) place p.nodes).act w = .ok pieces w ∧ _
  rw [nodes]
  split
  case isTrue hempty =>
    have hnil : p.parts = [] := List.isEmpty_iff.1 hempty
    refine ⟨[], rfl, fun w' => ?_⟩
    rw [← join_partText, hnil]
    rfl
  case isFalse =>
    refine ⟨pieces, ?_, hjoined⟩
    have hnode : (renderNode (Machine.at host (n + 2)) place (.output p.parts)).act w = .ok pieces w := hpieces
    simp only [renderNodes, List.mapM_cons, List.mapM_nil, Run.bind_act, hnode, Run.pure_act, List.flatten_cons,
      List.flatten_nil, List.append_nil]

/-- The only name that a row reads is the context. -/
theorem readsOf_parts (p : Prints) : p.parts.flatMap Expr.reads = p.rest.map fun _ => "context" := by
  have htext : ∀ text : List Char, (textParts text).flatMap Expr.reads = [] := by
    intro text
    rw [textParts]
    split <;> rfl
  have hitem : ∀ key, (contextItem key).reads = ["context"] := fun _ => rfl
  rw [parts, List.flatMap_append, htext, List.nil_append, List.flatMap_assoc, ← List.flatMap_pure_eq_map]
  refine congrArg (List.flatMap · p.rest) (funext fun q => ?_)
  rw [List.flatMap_cons, hitem, htext]
  rfl

/-- A row has one name, that of the context, if it prints anything at all. -/
theorem symbols_nodes (p : Prints) : Symbols.ofBody [] p.nodes =
    ⟨if p.rest.isEmpty then [] else [("context", .fromPage)], []⟩ := by
  have hread : ∀ (rest : List (String × List Char)), (rest.map fun _ => "context").foldl (Symbols.read fun _ => false)
      ⟨[("context", .fromPage)], []⟩ = ⟨[("context", .fromPage)], []⟩ := by
    intro rest
    induction rest with
    | nil => rfl
    | cons q rest ih => exact ih
  rw [nodes]
  split
  case isTrue hempty =>
    have hreads := readsOf_parts p
    rw [List.isEmpty_iff.1 hempty] at hreads
    have hrest : p.rest = [] := List.map_eq_nil_iff.1 hreads.symm
    rw [hrest]
    rfl
  case isFalse =>
    change (p.parts.flatMap Expr.reads).foldl (Symbols.read fun _ => false) {} = _
    rw [readsOf_parts]
    cases p.rest with
    | nil => rfl
    | cons q rest => exact hread rest

/-- It does not ask for itself. -/
theorem isFree_self (p : Prints) : isFree "self" p.nodes = false := by
  have hmentions : ∀ m ∈ p.nodes.flatMap Node.mentions, m = .read "context" := by
    intro m hm
    obtain ⟨node, hnode, hm⟩ := List.mem_flatMap.1 hm
    rw [nodes] at hnode
    split at hnode
    · cases hnode
    · obtain rfl := List.mem_singleton.1 hnode
      obtain ⟨e, he, hm⟩ := List.mem_flatMap.1 hm
      obtain ⟨id, hid, rfl⟩ := List.mem_map.1 hm
      have hcontext : id ∈ p.parts.flatMap Expr.reads := List.mem_flatMap.2 ⟨e, he, hid⟩
      rw [readsOf_parts] at hcontext
      obtain ⟨-, -, rfl⟩ := List.mem_map.1 hcontext
      rfl
  have hnone : (p.nodes.flatMap Node.mentions).find? (fun m => m == .read "self" || m == .write "self") = none := by
    refine List.find?_eq_none.2 fun m hm => ?_
    rw [hmentions m hm]
    decide
  rw [isFree, hnone]

end Template.Prints

namespace Template

theorem reads_variablesOf (toolchain : Addr) : (variablesOf toolchain).Reads := by
  refine Run.Inspects.reads ?_
  have hshown : (shown? toolchain).Inspects [] := .bind (.load toolchain) fun o => by
    cases o <;> exact .pure _
  refine .bind hshown fun found => ?_
  cases found with
  | none => exact .pure _
  | some a =>
    refine .bind (.load a) fun o => ?_
    cases o with
    | environment globals => exact .bind (.load globals) fun o => by cases o <;> exact .pure _
    | _ => exact .pure _

end Template

namespace Template.Prints

variable (host : Host) (n : Nat) {w : World} {p : Prints}

/-- The names of a row: the context, if it prints anything at all. -/
def names (p : Prints) (c outer : Addr) : Names :=
  ⟨if p.rest.isEmpty then [] else [("context", some (.ref c))], [], some outer⟩

theorem lookup_names {c outer : Addr} (hrest : p.rest ≠ []) :
    (p.names c outer).vars.lookup "context" = some (some (.ref c)) := by
  rw [names, if_neg (by simpa using hrest)]
  rfl

/-- A row is entered with its names, which the page knows. -/
theorem enter_act {outer : Place} {page : Page} (hpage : w.store[outer.page]? = some (.page page)) {c : Addr}
    (hvariable : page.variable? "context" = some (.ref c)) :
    (enter outer (Symbols.ofBody [] p.nodes) []).act w =
      .ok { outer with names := w.store.size, topLevel := false }
        { w with store := w.store.push (.names (p.names c outer.names)) } := by
  have hstarts : (startValues outer ⟨if p.rest.isEmpty then [] else [("context", .fromPage)], []⟩ []).act w =
      .ok (p.names c outer.names).vars w := by
    simp only [startValues, Run.bind_act, pageAt_act hpage, names]
    cases p.rest.isEmpty with
    | true => rfl
    | false =>
      rw [← hvariable]
      rfl
  rw [symbols_nodes, enter, Run.bind_act, hstarts]
  rfl

/-- **Rendering a template of a row gives the text of the row**, with what the context holds, and whatever other
variables there are. All that was there before stays as it is. -/
theorem renderPage_act {t : Template} (hbody : t.body = p.nodes) {given : List (String × Value)} {c : Addr}
    (hgiven : given.lookup "context" = some (.ref c)) {f : DictFlavour} {d : Dict}
    (hc : w.store[c]? = some (.dict f d)) {held : String → String} (hheld : p.Held d held) :
    ∃ page pieces left, (renderPage (Machine.at host (n + 3)) t given).act w = .ok (page, pieces) left ∧
      (∃ x, left.store[page]? = some (.page x) ∧ x.set = []) ∧ w.Retains left ∧
      ∀ w', (joinPieces pieces).act w' = .ok (p.text fun key => shownText t.settings.autoescape (held key)) w' := by
  obtain ⟨vars, hvars⟩ := reads_variablesOf t.toolchain w
  let page : Page := {
    settings := t.settings, given := given ++ vars, set := [], exported := []
    blocks := (blocksOf t.body).map fun block => ⟨block.1, block.2⟩
    escapes := t.settings.autoescape }
  -- a rendering makes three objects: its page, the outermost names and those of the row
  let w₁ : World := { w with store := w.store.push (.page page) }
  let w₂ : World := { w₁ with store := w₁.store.push (.names ⟨[], [], none⟩) }
  let outer : Place := ⟨w.store.size, w₁.store.size, ordinaryEscaping t.settings, false⟩
  let w₃ : World := { w₂ with store := w₂.store.push (.names (p.names c outer.names)) }
  let place : Place := { outer with names := w₂.store.size, topLevel := true }
  have hpage : w₂.store[w.store.size]? = some (.page page) := World.get_push Array.getElem?_push_size _
  have hvariable : page.variable? "context" = some (.ref c) := by
    change (given ++ vars).lookup "context" = _
    rw [List.lookup_append, hgiven]
    rfl
  have henter : (enter outer (Symbols.ofBody [] t.body) []).act w₂ = .ok { place with topLevel := false } w₃ := by
    rw [hbody]
    exact enter_act hpage hvariable
  have hkept : w.Retains w₃ := (((World.Retains.refl w).push _).push _).push _
  have hplace : place.escaping = ordinaryEscaping t.settings := rfl
  obtain ⟨pieces, hpieces, hjoined⟩ :=
    nodes_act host n hplace Array.getElem?_push_size lookup_names (hkept c _ hc) hheld
  refine ⟨w.store.size, pieces, w₃, ?_, ⟨page, World.get_push hpage _, rfl⟩, hkept, hjoined⟩
  have hself : ["self"].filter (fun name => isFree name t.body) = [] := by
    rw [hbody]
    simp [isFree_self]
  have houter : (outermost w.store.size (ordinaryEscaping t.settings)).act w₁ = .ok outer w₂ := rfl
  have hbody' : ((Machine.at host (n + 3)).nodes place t.body).act w₃ = .ok pieces w₃ := by
    rw [hbody]
    exact hpieces
  have hnew : (Run.alloc (.page page)).act w = .ok w.store.size w₁ := rfl
  rw [renderPage, hself]
  exact (Run.bind_ok hvars).trans <| (Run.bind_ok hnew).trans <| (Run.bind_ok houter).trans <|
    (Run.bind_ok (a := []) rfl).trans <| (Run.bind_ok henter).trans (Run.bind_ok hbody')

/-- **So does rendering it as a component**, and the text is markup. -/
theorem rendered_act {t : Template} (hbody : t.body = p.nodes) {c : Addr} {f : DictFlavour} {d : Dict}
    (hc : w.store[c]? = some (.dict f d)) {held : String → String} (hheld : p.Held d held) (props : Value) :
    ∃ left, (rendered (Machine.at host (n + 3)) t (.ref c) props).act w =
        .ok (.markup (p.text fun key => shownText t.settings.autoescape (held key))) left ∧
      w.Retains left := by
  have hgiven : [("context", Value.ref c), ("props", props)].lookup "context" = some (.ref c) := rfl
  obtain ⟨page, pieces, left, hrender, -, hkept, hjoined⟩ := renderPage_act host n hbody hgiven hc hheld
  refine ⟨left, ?_, hkept⟩
  rw [rendered]
  exact (Run.bind_ok hrender).trans (Run.bind_ok (hjoined left))

/-- **The component of a template of a row is the template as a whole**: it exports nothing. -/
theorem componentOf_act {t : Template} (hbody : t.body = p.nodes) {c : Addr} {f : DictFlavour} {d : Dict}
    (hc : w.store[c]? = some (.dict f d)) {held : String → String} (hheld : p.Held d held) :
    ∃ k left, (componentOf (Machine.at host (n + 3)) t (.ref c) "component").act w = .ok (.ref k) left ∧
      left.IsComponent k t (.ref c) ∧ w.Retains left := by
  have hgiven : [("context", Value.ref c)].lookup "context" = some (.ref c) := rfl
  obtain ⟨page, pieces, w₁, hrender, ⟨x, hpage, hset⟩, hkept, -⟩ :=
    renderPage_act host n hbody hgiven hc hheld
  have hexports : x.exports = [] := by
    rw [Page.exports, hset]
    rfl
  let w₂ : World := { w₁ with store := w₁.store.push (.templateModule [] pieces) }
  let w₃ : World := { w₂ with store := w₂.store.push (.template t) }
  let w₄ : World := { w₃ with store := w₃.store.push (.component w₂.store.size (.ref c)) }
  have hmodule : w₂.store[w₁.store.size]? = some (.templateModule [] pieces) := Array.getElem?_push_size
  have htemplate : w₃.store[w₂.store.size]? = some (.template t) := Array.getElem?_push_size
  have hevaluated : (exportsOf (Machine.at host (n + 3)) t (.ref c)).act w = .ok (.ref w₁.store.size) w₂ := by
    rw [exportsOf]
    refine (Run.bind_ok hrender).trans ((Run.bind_ok (pageAt_act hpage)).trans ?_)
    rw [hexports]
    rfl
  have hnothing : (exported? (.ref w₁.store.size) "component").act w₂ = .ok none w₂ := by
    have hobject : (Run.object? (.ref w₁.store.size)).act w₂ = .ok (some (.templateModule [] pieces)) w₂ :=
      Run.bind_ok (Run.load_act hmodule)
    rw [exported?, Run.bind_ok hobject]
    rfl
  refine ⟨w₃.store.size, w₄, ?_, ⟨w₂.store.size, Array.getElem?_push_size, World.get_push htemplate _⟩,
    ((hkept.push _).push _).push _⟩
  rw [componentOf]
  exact (Run.bind_ok hevaluated).trans ((Run.bind_ok hnothing).trans rfl)

end Template.Prints

/-! ## Toolchains at rest -/

namespace SharedLoading

variable {ε : Type} {s : SharedLoading ε} {x : ε}

/-- What a loader hands over that always hands over the same. -/
theorem Hands.eq_some {handed : Option ε} {e : LoadEvent ε} (h : s.Hands handed e)
    (ha : s.Allows (fun _ => .ok (some x)) e) : handed = some x := by
  obtain ⟨k, hk, rfl | rfl⟩ := h
  · exact Except.ok.inj (ha hk)
  · exact (Except.ok.inj (ha hk)).symm

/-- With such a loader there is no other environment. -/
theorem environment_after {events : List (LoadEvent ε)} (hs : ∀ y ∈ s.loading.environment, y = x)
    (h : s.Obeys (fun _ => .ok (some x)) events) : ∀ y ∈ (s.after events).loading.environment, y = x := by
  induction events generalizing s with
  | nil => exact hs
  | cons e rest ih =>
    refine ih (fun y hy => ?_) h.2
    rcases s.environment_step e with heq | hhands
    · exact hs y (heq ▸ hy)
    · rw [hhands.eq_some h.1] at hy
      exact (Option.some.inj hy).symm

end SharedLoading

/-- A load that is run from its beginning to its end leaves what it hands over. -/
theorem Loading.run_created {ε : Type} (l : Loading ε) (handed : Option ε) :
    ((({ l with loads := l.loads ++ [.created] } : Loading ε).begin l.loads.length).finish l.loads.length
      (.ok handed)).tell l.loads.length =
      { environment := handed, loads := l.loads ++ [.told (.ok handed)], begun := l.begun + 1 } := by
  simp [Loading.begin, Loading.finish, Loading.tell, Loading.put]

namespace Toolchain

open Template
open Engine (barePlatform)

/-- The environment that the ordinary loader hands over. -/
def ordinaryEnvironment (t : Toolchain) : Environment := .templates ⟨t.settings.autoescape, t.settings.strictUndefined⟩

/-- The toolchain has the ordinary loader, its loads have come about as this loader allows, and none is on its way. -/
structure IsOrdinary (t : Toolchain) : Prop where
  loader : t.loader = Loader.ordinary
  reached : ∃ events, SharedLoading.Obeys (fun _ => .ok (some t.ordinaryEnvironment)) {} events ∧
    (SharedLoading.run events).loading = t.loading
  rests : ∀ x ∈ t.loading.loads, ∃ e, x = .told e

/-- Its environment is there, or the next caller loads it. -/
theorem IsOrdinary.environment_cases {t : Toolchain} (h : t.IsOrdinary) :
    t.loading.environment = some t.ordinaryEnvironment ∨
      t.loading.environment = none ∧ t.loading.needsLoad = true := by
  obtain ⟨events, hobeys, hloading⟩ := h.reached
  cases he : t.loading.environment with
  | some y =>
    left
    have hsame := SharedLoading.environment_after (s := {}) (fun y hy => nomatch hy) hobeys
    change ∀ y ∈ (SharedLoading.run events).loading.environment, _ at hsame
    rw [hloading, he] at hsame
    rw [hsame y rfl]
  | none =>
    right
    have hstart : ({} : SharedLoading Environment).Agrees :=
      ⟨fun k ⟨x, hx, _⟩ => (nomatch hx), fun c hc => (nomatch hc)⟩
    have hagrees : (SharedLoading.run events).Agrees := hstart.after hobeys fun _ => by simp
    have hneeds := hagrees.needsLoad (by rw [hloading, he]) (by rw [hloading]; exact h.rests)
    rw [hloading] at hneeds
    exact ⟨rfl, hneeds⟩

variable {a : Addr} {t : Toolchain} {w : World} {pieces : List Piece}

/-- A caller that begins a load with the ordinary loader ends it with the environment. -/
theorem ensureInitialized_loads (ha : w.store[a]? = some (.toolchain t)) (hloader : t.loader = Loader.ordinary)
    (hnone : t.loading.environment = none) (hneeds : t.loading.needsLoad = true) :
    ∃ begun t', (ensureInitialized a).act w = .ok () begun ∧ begun.store[a]? = some (.toolchain t') ∧
      t'.settings = t.settings ∧ t'.loading.environment = some t.ordinaryEnvironment := by
  let k := t.loading.loads.length
  let created : Loading Environment := { t.loading with loads := t.loading.loads ++ [.created] }
  have hjoin : t.loading.join = (k, created) := if_pos hneeds
  obtain ⟨w₁, henter, ht₁⟩ := enter_joins ha hnone
  rw [hjoin] at henter ht₁
  obtain ⟨w₂, h₂, ht₂⟩ := runLoad_act ht₁ k
  have hcreated : created.isCreated k = true := by simp [created, k, Loading.isCreated]
  have hend : ({ t with loading := created } : Toolchain).nextEnd = .ok (some t.ordinaryEnvironment) := by
    simp only [nextEnd, hloader]
    rfl
  have hloads := Loading.run_created t.loading (some t.ordinaryEnvironment)
  simp only [hcreated, if_true, hend] at ht₂
  rw [hloads] at ht₂
  have hsettle : (settle a k).act w₂ = .ok () w₂ := by
    rw [settle, Run.bind_ok (fetch_act ht₂)]
    simp [Loading.known?, k]
  refine ⟨w₂, _, ?_, ht₂, rfl, rfl⟩
  rw [ensureInitialized, Run.bind_ok henter]
  exact (Run.bind_ok h₂).trans hsettle

/-- **An ordinary toolchain has its environment** when it has been asked for, with its own settings. -/
theorem ensureInitialized_ordinary (ha : w.store[a]? = some (.toolchain t)) (h : t.IsOrdinary) :
    ∃ begun t', (ensureInitialized a).act w = .ok () begun ∧ begun.store[a]? = some (.toolchain t') ∧
      t'.settings = t.settings ∧ t'.loading.environment = some t.ordinaryEnvironment := by
  rcases h.environment_cases with hsome | ⟨hnone, hneeds⟩
  · refine ⟨w, t, ?_, ha, rfl, hsome⟩
    rw [ensureInitialized, Run.bind_ok (enter_found ha hsome)]
    rfl
  · exact ensureInitialized_loads ha h.loader hnone hneeds

/-- A source that parses is compiled with the settings of the environment. -/
theorem compile_act {settings : TemplateSettings} {source : String} {body : List Node}
    (ha : w.store[a]? = some (.toolchain t)) (he : t.loading.environment = some (.templates settings))
    (hparse : Template.parse source = .ok body) : (compile a source).act w = .ok ⟨settings, body, a⟩ w := by
  have henvironment : (environment a).act w = .ok (.templates settings) w := by
    rw [environment_act ha, he]
  rw [compile, Run.bind_ok henvironment]
  dsimp only
  rw [hparse]
  rfl

/-- The keys that pieces print. -/
def printedKeys (pieces : List Piece) : List String := pieces.filterMap Piece.key?

theorem mem_printedKeys {text : List Char} {pieces : List Piece} {q : String × List Char}
    (hq : q ∈ (Prints.behind text pieces).rest) : q.1 ∈ printedKeys pieces := by
  induction pieces generalizing text with
  | nil => cases hq
  | cons p pieces ih =>
    cases p with
    | text s => exact ih hq
    | print key =>
      rcases List.mem_cons.1 hq with rfl | hq
      · exact List.mem_cons_self
      · exact List.mem_cons_of_mem key (ih hq)

/-- **A source of texts and prints is a component that shows its context.** In whatever pieces such a source is written,
an ordinary toolchain makes a component of it with a context in which all its keys stand for texts, and leaves the
context as it is. Calling that component with properties, in any world from then on in which the keys stand for texts,
gives the texts of the source with those that the keys stand for then, escaped if the settings say so; and what was
there before is left as it is. -/
theorem prints_shown (host : Host) (n : Nat) {a c : Addr} {t : Toolchain} {w : World} {pieces : List Piece}
    (ha : w.store[a]? = some (.toolchain t)) (hordinary : t.IsOrdinary) (hname : t.settings.componentName = "component")
    (hpieces : ∀ p ∈ pieces, p.IsPlain) (hc : w.HasDict c)
    (hheld : ∀ key ∈ printedKeys pieces, ∃ s, w.item? c (Dict.textKey key) = some (.str s)) (step : String) :
    ∃ k left, (invoke (Machine.at host (n + 3)) a (sourceOf pieces) (.ref c) step).act w = .ok (some (.ref k)) left ∧
      left.store[c]? = w.store[c]? ∧
      ∀ later, left.Grows later → ∀ held : String → String,
        (∀ key ∈ printedKeys pieces, later.item? c (Dict.textKey key) = some (.str (held key))) →
        ∀ props d, later.Holds props d → ∀ host n, ∃ last,
          ((Machine.at host (n + 4)).apply (.ref k) [props]).act later =
            .ok (.markup ((Prints.ofPieces pieces).text fun key => shownText t.settings.autoescape (held key))) last ∧
          later.Retains last := by
  obtain ⟨f, d, hd⟩ := hc
  let row := Prints.ofPieces pieces
  let template : Template := ⟨⟨t.settings.autoescape, t.settings.strictUndefined⟩, row.nodes, a⟩
  -- the component is the template itself after a first rendering, whose texts nobody sees
  obtain ⟨held₀, hheld₀⟩ : ∃ held₀, row.Held d held₀ := by
    refine ⟨fun key => (((d.get? (Dict.textKey key)).bind Value.text?).getD ""), fun q hq => ?_⟩
    obtain ⟨s, hs⟩ := hheld q.1 (mem_printedKeys hq)
    rw [World.item?_eq hd] at hs
    simp only [hs]
    rfl
  obtain ⟨begun, t', hbegun, ha', hsettings, henvironment⟩ := ensureInitialized_ordinary ha hordinary
  have hca : c ≠ a := by
    rintro rfl
    cases hd.symm.trans ha
  have hframe : begun.store[c]? = some (.dict f d) := by
    have htouches := touchesOnly_ensureInitialized a w c hca (Array.getElem?_eq_some_iff.1 hd).1
    rw [hbegun] at htouches
    exact htouches.trans hd
  have hcompile : (compile a (sourceOf pieces)).act begun = .ok template begun :=
    compile_act ha' henvironment (parse_sourceOf hpieces)
  obtain ⟨k, left, hcomponent, hk, hkept⟩ :=
    Prints.componentOf_act host n (t := template) rfl hframe hheld₀
  have hproduce : (produce (Machine.at host (n + 3)) a (sourceOf pieces) (.ref c) step).act begun =
      .ok (some (.ref k)) left := by
    refine Run.recoverOrdinary_ok ?_
    simp only [Run.bind_act, hcompile, fetch_act ha', hsettings, hname, hcomponent, Run.pure_act]
  refine ⟨k, left, ?_, ?_, fun later hlater held hheld props d' hprops host n => ?_⟩
  · rw [invoke, Run.bind_ok hbegun, hproduce]
  · rw [hkept c _ hframe, hd]
  · obtain ⟨f', d'', hd''⟩ := World.HasDict.grows ⟨f, d, hkept c _ hframe⟩ hlater
    let copied : World := { later with store := later.store.push (.dict .plain d') }
    have hrow : row.Held d'' held := fun q hq => by
      rw [← World.item?_eq hd'', hheld q.1 (mem_printedKeys hq)]
    have hcopied : copied.store[c]? = some (.dict f' d'') := World.get_push hd'' _
    obtain ⟨last, hrendered, hleft⟩ :=
      Prints.rendered_act host n (t := template) rfl hcopied hrow (.ref later.store.size)
    refine ⟨last, ?_, fun b o h => hleft b o (World.get_push h _)⟩
    rw [(hk.grows hlater).apply_act hprops]
    exact (Run.bind_ok rfl).trans hrendered

/-- Text that looks like the end of a tag, line breaks across two pieces, a key outside ASCII, and a last line that is
ended. -/
def labels : List Piece :=
  [.text "a \x7d\x7d % \r", .text "\nb: ", .print "k", .print "é < &", .text "& c\r\n"]

/-- The world with a toolchain and a context for them. -/
def labelsWorld : World where
  store := #[.toolchain { settings := {}, loader := Loader.ordinary },
    .dict (.context []) (Dict.ofTexts [("k", .str "<b>"), ("é < &", .str "\x7b\x7b x \x7d\x7d")])]

/-- The values are escaped, and are no templates themselves. -/
theorem prints_shown_of_labels : ∃ k left last,
    (invoke barePlatform.machine 0 (sourceOf labels) (.ref 1) "s").act labelsWorld = .ok (some (.ref k)) left ∧
    (barePlatform.machine.apply (.ref k) [.null]).act left =
      .ok (.markup "a \x7d\x7d % \nb: &lt;b&gt;\x7b\x7b x \x7d\x7d& c") last := by
  let held : String → String := fun key => if key = "k" then "<b>" else "\x7b\x7b x \x7d\x7d"
  have hordinary : IsOrdinary { settings := {}, loader := Loader.ordinary } :=
    ⟨rfl, ⟨[], trivial, rfl⟩, fun x hx => nomatch hx⟩
  have hplain : ∀ p ∈ labels, p.IsPlain := by decide +kernel
  have hkeys : printedKeys labels = ["k", "é < &"] := rfl
  have hheld : ∀ key ∈ printedKeys labels, labelsWorld.item? 1 (Dict.textKey key) = some (.str (held key)) := by
    rw [hkeys, List.forall_mem_cons, List.forall_mem_singleton]
    exact ⟨rfl, rfl⟩
  have htext : (Prints.ofPieces labels).text (fun key => shownText true (held key)) =
      "a \x7d\x7d % \nb: &lt;b&gt;\x7b\x7b x \x7d\x7d& c" := by
    decide +kernel
  obtain ⟨k, left, hinvoke, hcontext, hcall⟩ := prints_shown barePlatform.host 61 (w := labelsWorld) (a := 0) (c := 1)
    rfl hordinary rfl hplain ⟨_, _, rfl⟩ (fun key hkey => ⟨_, hheld key hkey⟩) "s"
  have hleft : ∀ key ∈ printedKeys labels, left.item? 1 (Dict.textKey key) = some (.str (held key)) := by
    intro key hkey
    rw [← hheld key hkey, World.item?, World.item?, World.contents?, World.contents?, hcontext]
  obtain ⟨last, happly, -⟩ := hcall left (.refl left) held hleft .null _ .nothing barePlatform.host 60
  exact ⟨k, left, last, hinvoke, by rw [← htext]; exact happly⟩

end Toolchain

end Stepwise
