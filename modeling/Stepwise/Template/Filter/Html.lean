import Stepwise.Library.Json
import Stepwise.Template.Filter.Sequences
import Stepwise.Value.Spread
/-!
# Filters of HTML

Escaping and its opposite, joining and replacing with regard to what is escaped, and values as
attributes, as JSON and as parts of addresses.
-/

namespace Stepwise.Template.Filter

/-! ## Escaping -/

private def stripTags (a : Application) : Run Value := do
  return .str (String.ofList (Texts.withoutReferences (Texts.withoutTags (← a.value.plain).toList)))

/-! ## Joining and replacing -/

private def join (a : Application) : Run Value := do
  let m := a.machine
  let between := a.argument "d" (.str "")
  let source ← match a.present? "attribute" with
    | some path => do
      let f ← pathFunction a.place path none false
      Run.new (.cursor "map" (.map f [← a.value.reader]))
    | none => pure a.value
  if !(← a.escapes) then
    let d ← between.plain
    return .str (Text.joinWith d (← (← m.collect source).mapM Value.plain))
  let joined (d : Value) (vs : List Value) : Run Value := do callOwn m d "join" [← Run.list vs]
  if ← hasHtml between then
    let d ← softText between
    joined d (← (← m.collect source).mapM softText)
  else
    let vs ← (← m.collect source).mapM fun v => do
      if ← hasHtml v then return (true, v) else return (false, Value.str (← v.plain))
    let d ← if vs.any (·.1) then escaped between else do pure (.str (← between.plain))
    joined d (vs.map (·.2))

private def replace (a : Application) : Run Value := do
  let m := a.machine
  let old := a.argument "old" .null
  let new := a.argument "new" .null
  let count := (a.present? "count").getD (.int (-1))
  if !(← a.escapes) then
    callOwn m (.str (← a.value.plain)) "replace" [.str (← old.plain), .str (← new.plain), count]
  else
    let escapeFirst ← if ← hasHtml old then pure true
      else do pure ((← hasHtml new) && !(← hasHtml a.value))
    let s ← if escapeFirst then escaped a.value else softText a.value
    callOwn m s "replace" [← softText old, ← softText new, count]

/-! ## Values in documents -/

private def toJson (a : Application) : Run Value := do
  let named := ("sort_keys", .bool true) :: ((a.present? "indent").map fun v => ("indent", v)).toList
  let text ← Json.call a.machine "dumps" ⟨[a.value], named⟩
  let safe (c : Char) : List Char :=
    if ['<', '>', '&', '\''].contains c then '\\' :: 'u' :: Text.hexPadded 4 c.toNat else [c]
  return .markup (String.ofList ((text.text?.getD "").toList.flatMap safe))

private def attributes (a : Application) : Run Value := do
  let pairs ← itemPairs a.machine a.value
  let parts ← pairs.filterMapM fun (k, v) => do
    if v.isNull || (← isUndefined v) then return none
    match (← k.payload).text? with
    | some name =>
      if name.toList.any fun c => Text.isAsciiBlank c || ['/', '>', '='].contains c then
        Run.valueError ("Invalid character in attribute name: " ++ (← k.display))
    | none =>
      match ← k.payload with
      | .bytes _ => Run.typeError "cannot use a string pattern on a bytes-like object"
      | _ => Run.typeError ("expected string or bytes-like object, got '" ++ (← k.kindName) ++ "'")
    return some ((← escapedText k) ++ "=\"" ++ (← escapedText v) ++ "\"")
  let text := Text.joinWith " " parts
  let space := (← (a.argument "autospace" (.bool true)).truthy) && !text.isEmpty
  return textValue (← a.escapes) (if space then " " ++ text else text)

/-! ## Parts of addresses -/

/-- Does a byte stand for itself in an address? -/
private def isPlainByte (x : UInt8) : Bool :=
  let c := Char.ofNat x.toNat
  c.isAlphanum || ['_', '.', '-', '~'].contains c

/-- Bytes as a part of an address; slashes are kept in a path, and blanks are pluses in a query. -/
def addressPart (inQuery : Bool) (b : List UInt8) : String :=
  String.ofList (b.flatMap fun x =>
    if isPlainByte x || (!inQuery && x == 0x2f) then [Char.ofNat x.toNat]
    else if inQuery && x == 0x20 then ['+']
    else '%' :: (Text.hexPadded 2 x.toNat).map Char.toUpper)

private def partOf (inQuery : Bool) (v : Value) : Run String := do
  match ← v.payload with
  | .bytes b => return addressPart inQuery b
  | _ => return addressPart inQuery (Text.encodeUtf8 (← v.plain))

private def urlEncode (a : Application) : Run Value := do
  let m := a.machine
  let isText := (← a.value.payload).text?.isSome
  if isText || !(← isIterable a.value) then return .str (← partOf false a.value)
  let pairs ← match ← a.value.dict? with
    | some _ => itemPairs m a.value
    | none => do
      (← m.collect a.value).mapM fun p => do
        let parts ← m.unpack 2 p
        return (parts.headD .null, parts.getD 1 .null)
  let parts ← pairs.mapM fun (k, v) => do return (← partOf true k) ++ "=" ++ (← partOf true v)
  return .str (Text.joinWith "&" parts)

/-- The filters of HTML. -/
def ofHtml? : String → Option (Application → Run Value)
  | "e" | "escape" => some fun a => escaped a.value
  | "forceescape" => some fun a => do return .markup (Text.escapeHtml (← a.value.plain))
  | "safe" => some fun a => marked a.value
  | "striptags" => some stripTags
  | "join" => some join
  | "replace" => some replace
  | "tojson" => some toJson
  | "xmlattr" => some attributes
  | "urlencode" => some urlEncode
  | "pprint" => some fun a => do return .str (← Spread.text a.machine a.value)
  | _ => none

end Stepwise.Template.Filter
