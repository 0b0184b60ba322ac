import Stepwise.Run.Format
import Stepwise.Template.Access
/-!
# Texts with places

A text holds places in braces, which stand for arguments by number, by name or in order, for their
attributes and items, and for a format, which may hold places itself. Only what templates may
see can be put in. Into text that counts as escaped, values are put escaped.
-/

namespace Stepwise.Template.Formatting

/-! ## Places -/

/-- A place in a text: what it stands for, how that is turned into text first, and the format. -/
structure Slot where
  name : List Char
  conversion : Option Char := none
  spec : List Char := []
  deriving Inhabited

/-- The text up to the next place, that place, and what is behind it. -/
structure Segment where
  literal : List Char
  slot : Option Slot
  rest : List Char
  deriving Inhabited

private def opens (c : Char) : Bool := c == '\x7b'
private def closes (c : Char) : Bool := c == '\x7d'

/-- The name of a place, the sign that ends it and the rest. Inside square brackets no sign ends it. -/
private def slotName : Bool → List Char → List Char → Except String (List Char × Option Char × List Char)
  | _, acc, [] => .ok (acc.reverse, none, [])
  | true, acc, c :: r => slotName (c != ']') (c :: acc) r
  | false, acc, c :: r =>
    if opens c then .error "unexpected '\x7b' in field name"
    else if closes c || c == ':' || c == '!' then .ok (acc.reverse, some c, r)
    else slotName (c == '[') (c :: acc) r

/-- The format of a place, up to the brace that closes it, and the rest. -/
private def slotSpec : Nat → List Char → List Char → Except String (List Char × List Char)
  | _, _, [] => .error "unmatched '\x7b' in format spec"
  | nested, acc, c :: r =>
    if opens c then slotSpec (nested + 1) (c :: acc) r
    else if closes c then
      match nested with
      | 0 => .ok (acc.reverse, r)
      | n + 1 => slotSpec n (c :: acc) r
    else slotSpec nested (c :: acc) r

private def readSlot (s : List Char) : Except String (Slot × List Char) := do
  let (name, sign, r) ← slotName false [] s
  match sign with
  | some '!' =>
    match r with
    | [] => throw "end of string while looking for conversion specifier"
    | k :: r =>
      match r with
      | ':' :: r =>
        let (spec, r) ← slotSpec 0 [] r
        return (⟨name, some k, spec⟩, r)
      | c :: r => if closes c then return (⟨name, some k, []⟩, r) else throw "expected ':' after conversion specifier"
      | [] => throw "unmatched '\x7b' in format spec"
  | some ':' =>
    let (spec, r) ← slotSpec 0 [] r
    return (⟨name, none, spec⟩, r)
  | some _ => return (⟨name, none, []⟩, r)
  | none => throw "expected '\x7d' before end of string"

/-- The next segment of a text; a doubled brace is text and ends its segment. -/
private def segment : List Char → List Char → Except String Segment
  | acc, [] => .ok ⟨acc.reverse, none, []⟩
  | acc, c :: r =>
    if opens c || closes c then
      match r with
      | d :: r' =>
        if c == d then .ok ⟨(c :: acc).reverse, none, r'⟩
        else if closes c then .error "Single '\x7d' encountered in format string"
        else do
          let (slot, rest) ← readSlot r
          return ⟨acc.reverse, some slot, rest⟩
      | [] =>
        if closes c then .error "Single '\x7d' encountered in format string"
        else .error "Single '\x7b' encountered in format string"
    else segment (c :: acc) r

/-! ## Names of places -/

/-- A step behind the first part of a name. -/
inductive Step where
  | attr (id : String)
  | item (i : Value)

/-- A run of digits as a number. -/
private def number? (s : List Char) : Run (Option Nat) := do
  if !s.isEmpty && s.all Text.isDecimal then
    let n := Number.valueOfDigits 10 (s.filterMap Text.decimalValue?)
    if n ≥ Nat.pow 2 63 then Run.valueError "Too many decimal digits in format string"
    return some n
  else return none

private def stepsOf : Nat → List Char → Run (List Step)
  | 0, _ | _, [] => return []
  | fuel + 1, '.' :: r => do
    let id := r.takeWhile fun c => c != '.' && c != '['
    if id.isEmpty then Run.valueError "Empty attribute in format string"
    return .attr (String.ofList id) :: (← stepsOf fuel (r.drop id.length))
  | fuel + 1, '[' :: r => do
    let i := r.takeWhile (· != ']')
    if i.length = r.length then Run.valueError "Missing ']' in format string"
    if i.isEmpty then Run.valueError "Empty attribute in format string"
    let v := match ← number? i with
      | some n => Value.int n
      | none => .str (String.ofList i)
    return .item v :: (← stepsOf fuel (r.drop (i.length + 1)))
  | _, _ => Run.valueError "Only '.' or '[' may follow ']' in format field specifier"

/-! ## Filling places -/

/-- What fills the places of a text. -/
structure Filling where
  place : Place
  pos : List Value
  named : Value
  /-- Are values escaped? -/
  escapes : Bool

/-- Whether places go by order, with the number of the next, or have numbers of their own. -/
abbrev Order := Option Nat

private def nameOrOrder (order : Order) (name : List Char) : Run (List Char × Order) := do
  let manual {α : Type} : Run α :=
    Run.valueError "cannot switch from manual field specification to automatic field numbering"
  if name.isEmpty then
    match order with
    | some n => return ((toString n).toList, some (n + 1))
    | none => manual
  else if name.all Text.isDigitLike then
    match order with
    | some 0 | none => return (name, none)
    | some _ => manual
  else return (name, order)

/-- The value that a name stands for. -/
private def resolve (m : Machine) (f : Filling) (name : List Char) : Run Value := do
  let first := name.takeWhile fun c => c != '.' && c != '['
  let start ← match ← number? first with
    | some n =>
      match f.pos[n]? with
      | some v => pure v
      | none => Run.indexError "tuple index out of range"
    | none => getItem m f.named (.str (String.ofList first))
  let steps ← stepsOf name.length (name.drop first.length)
  steps.foldlM (fun v step => match step with
    | .attr id => attributeOf m f.place v id
    | .item i => itemOf m f.place v i) start

private def converted (v : Value) : Option Char → Run Value
  | none => return v
  | some 's' => return .str (← v.plain)
  | some 'r' => return .str (← v.display)
  | some 'a' => return .str (String.ofList (Text.escapeNonAscii (← v.display).toList))
  | some c => Run.valueError ("Unknown conversion specifier " ++ String.singleton c)

/-- A value as it is put into text that counts as escaped. -/
private def escapedBy (v : Value) (spec : String) : Run String := do
  match v with
  | .markup s =>
    if spec.isEmpty then return s else Run.valueError "Unsupported format specification for Markup."
  | _ =>
    match ← Run.object? v with
    | some (.undefined u) =>
      if u.lenience == .chainable && !spec.isEmpty then
        Run.valueError ("Format specifier " ++ spec ++ " given, but <class '" ++
          (← Value.classPath (← Value.classOf v)) ++ "'> does not define __html_format__. A class that defines " ++
          "__html__ must define __html_format__ to work with format specifiers.")
      else return Text.escapeHtml (← formatValue v spec)
    | _ => return Text.escapeHtml (← formatValue v spec)

/-- Fills the places of a text, those inside of formats first. -/
private def fill (m : Machine) (f : Filling) : Nat → Nat → List Char → Order → List Char → Run (List Char × Order)
  | 0, _, _, _, _ | _, 0, _, _, _ => Run.valueError "Max string recursion exceeded"
  | depth + 1, fuel + 1, s, order, acc =>
    if s.isEmpty then return (acc, order)
    else match segment [] s with
      | .error e => Run.valueError e
      | .ok seg => do
        let acc := acc ++ seg.literal
        match seg.slot with
        | none => fill m f (depth + 1) fuel seg.rest order acc
        | some slot =>
          let (name, order) ← nameOrOrder order slot.name
          let v ← converted (← resolve m f name) slot.conversion
          let (spec, order) ← fill m f depth (slot.spec.length + 1) slot.spec order []
          let spec := String.ofList spec
          let t ← if f.escapes then escapedBy v spec else formatValue v spec
          fill m f (depth + 1) fuel seg.rest order (acc ++ t.toList)
termination_by depth fuel => (depth, fuel)

/-- Puts arguments into a text, or the items of a single mapping. -/
def apply (m : Machine) (place : Place) (text : Value) (fromMapping : Bool) (a : Args) : Run Value := do
  let (pos, named) ← if fromMapping then do
      if !a.named.isEmpty then Run.typeError "format_map() takes no keyword arguments"
      match a.pos with
      | [v] => pure (([] : List Value), v)
      | vs => Run.typeError ("format_map() takes exactly one argument (" ++ toString vs.length ++ " given)")
    else pure (a.pos, ← Run.dict (Dict.ofTexts a.named))
  let escapes := match text with
    | .markup _ => true
    | _ => false
  let s := (text.text?.getD "").toList
  let (t, _) ← fill m ⟨place, pos, named, escapes⟩ 3 (s.length + 1) s (some 0) []
  return if escapes then .markup (String.ofList t) else .str (String.ofList t)

end Stepwise.Template.Formatting
