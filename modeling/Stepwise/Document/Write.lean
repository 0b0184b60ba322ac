import Stepwise.Document.Layout
import Stepwise.Text.Base64
import Stepwise.Value.Compare
/-!
# Documents of values

A value becomes a graph of nodes and the graph is laid out as text. An object becomes one node
however often it is met, so sharing survives; small immutable values become a node each time.
-/

namespace Stepwise.Document

/-- The nodes made so far, and which objects they stand for. -/
structure Draft where
  graph : Graph
  known : List (Addr × NodeId)

namespace Draft

/-- Adds a node. -/
def add (d : Draft) (kind : String) (c : Content) : NodeId × Draft :=
  (d.graph.size, { d with graph := d.graph.push ⟨tagOf kind, c⟩ })

/-- Adds the node of an object. -/
def addObject (d : Draft) (a : Addr) (kind : String) (c : Content) : NodeId × Draft :=
  let (id, d) := d.add kind c
  (id, { d with known := (a, id) :: d.known })

/-- Fills the node of a collection, whose members have been added behind it. -/
def setContent (d : Draft) (id : NodeId) (c : Content) : Draft :=
  { d with graph := d.graph.modify id fun n => { n with content := c } }

end Draft

/-- The text of a double: never without a point, so that it is read back as one. -/
def floatText (x : Float) : String :=
  if x.isNaN then ".nan"
  else if x.isInf then (if x > 0.0 then ".inf" else "-.inf")
  else
    let t := Number.showFloat x
    if t.contains '.' || !t.contains 'e' then t else Text.replaceAll "e" ".0e" t

/-- Fails: the value has no form in a document. -/
def unrepresentable {α : Type} (v : Value) : Run α :=
  Run.raiseWith "yaml.representer.RepresenterError" [.str "cannot represent an object", v]

/-- Adds the nodes of a member by a function; the members come last first. -/
def draftItem (draft : Value → Draft → Run (NodeId × Draft)) (done : List NodeId × Draft) (x : Value) :
    Run (List NodeId × Draft) := do
  let (id, d) ← draft x done.2
  return (id :: done.1, d)

def draftPair (draft : Value → Draft → Run (NodeId × Draft)) (done : List (NodeId × NodeId) × Draft)
    (pair : Value × Value) : Run (List (NodeId × NodeId) × Draft) := do
  let (k, d) ← draft pair.1 done.2
  let (v, d) ← draft pair.2 d
  return ((k, v) :: done.1, d)

/-- Adds the nodes of a value. -/
def draft : Nat → Value → Draft → Run (NodeId × Draft)
  | 0, _, _ => Run.raise "RecursionError" "maximum recursion depth exceeded"
  | fuel + 1, v, d => do
    let scalar (kind text : String) : Run (NodeId × Draft) := return d.add kind (.scalar text none)
    match v with
    | .null => scalar "null" "null"
    | .bool b => scalar "bool" (if b then "true" else "false")
    | .int n => do scalar "int" (← showInt n)
    | .float x => scalar "float" (floatText x)
    | .str s => scalar "str" s
    | .bytes b =>
      return d.add "binary" (.scalar (String.ofList (Text.encodeBase64Lines b)) (some .literal))
    | .ref a =>
      match d.known.lookup a with
      | some id => return (id, d)
      | none =>
        let shared (kind text : String) : Run (NodeId × Draft) := return d.addObject a kind (.scalar text none)
        let sequence (items : List Value) : Run (NodeId × Draft) := do
          let (id, d) := d.addObject a "seq" (.sequence [])
          let (ids, d) ← items.foldlM (draftItem (draft fuel)) ([], d)
          return (id, d.setContent id (.sequence ids.reverse))
        let mapping (kind : String) (pairs : List (Value × Value)) : Run (NodeId × Draft) := do
          let (id, d) := d.addObject a kind (.mapping [])
          let (ids, d) ← pairs.foldlM (draftPair (draft fuel)) ([], d)
          return (id, d.setContent id (.mapping ids.reverse))
        match ← Run.load a with
        | .list xs => sequence xs.toList
        | .tuple none [] => return d.add "seq" (.sequence [])
        | .tuple none xs => sequence xs
        | .dict .plain dd => mapping "map" dd.pairs
        | .set false dd => mapping "set" (dd.members.map fun x => (x, .null))
        | .date x => shared "timestamp" x.show
        | .datetime x => shared "timestamp" (x.show " ")
        | _ => unrepresentable v
    | _ => unrepresentable v

/-- The text of a value. -/
def write (v : Value) : Run String := do
  let (root, d) ← draft displayDepth v ⟨#[], []⟩
  return layout d.graph root

end Stepwise.Document
