import Stepwise.Run.Convert
import Stepwise.Text.Html
/-!
# Building markup

Elements are built from a tag, children and attributes. Every text that goes in is escaped once;
text that is marked as escaped already goes in as it is.
-/

namespace Stepwise.Markup

/-- An attribute whose name and value are escaped already. -/
structure Attribute where
  name : String
  /-- None for an attribute that is only a name. -/
  value : Option String
  deriving DecidableEq, Inhabited

namespace Attribute

def text (a : Attribute) : String :=
  match a.value with
  | none => a.name
  | some v => a.name ++ "=\"" ++ v ++ "\""

end Attribute

/-- Attributes in front of which a blank stands. -/
def attributesText (as : List Attribute) : String :=
  if as.isEmpty then "" else " " ++ Text.joinWith " " (as.map Attribute.text)

/-- The attribute for a name and a value; nothing and false leave it out, true is a bare name. -/
def attribute? (name value : Value) : Run (Option Attribute) := do
  match value with
  | .null | .bool false => return none
  | .bool true => return some ⟨← escapedText name, none⟩
  | _ => return some ⟨← escapedText name, some (← escapedText value)⟩

/-- The attributes of a mapping. -/
def attributes (pairs : List (Value × Value)) : Run String := do
  let as ← pairs.filterMapM fun (k, v) => attribute? k v
  return attributesText as

/-- The attributes of a value: a mapping, or something empty. -/
def attributesOf (v : Value) : Run Value := do
  if ← v.truthy then
    match ← v.dict? with
    | some (_, _, d) => return .markup (← attributes d.pairs)
    | none => Run.attributeError ("'" ++ (← v.kindName) ++ "' object has no attribute 'items'")
  else return .markup ""

/-- The attribute name that a keyword stands for: no underscores at the end, and dashes for the
others. -/
def attributeName (keyword : String) : String :=
  String.ofList ((Text.trimRight (· = '_') keyword.toList).map fun c => if c = '_' then '-' else c)

/-- An element around its children. Of two keywords with one attribute name the later value
counts, in the place of the earlier. -/
def element (tag : Value) (children : List Value) (keywords : List (String × Value)) : Run Value := do
  let named := OrderedMap.ofList (keywords.map fun (k, v) => (attributeName k, v))
  let as ← attributes (named.entries.map fun (k, v) => (.str k, v))
  let body ← children.mapM escapedText
  let name ← escapedText tag
  return .markup ("<" ++ name ++ as ++ ">" ++ String.join body ++ "</" ++ name ++ ">")

end Stepwise.Markup
