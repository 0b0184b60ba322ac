import Stepwise.Document.Tag
/-!
# Nodes of documents

The tokens of a text are read as one tree of nodes. Nodes stand in an array and refer to each
other by position, so that an alias is the node that it names, even inside itself.
-/

namespace Stepwise.Document

/-- The place of a node in a graph. -/
abbrev NodeId := Nat

inductive Content where
  | scalar (text : String) (style : Option Style)
  | sequence (items : List NodeId)
  | mapping (pairs : List (NodeId × NodeId))
  deriving Inhabited

structure Node where
  tag : String
  content : Content
  deriving Inhabited

abbrev Graph := Array Node

/-- What is left of the tokens, and what has been read. -/
structure Reading where
  tokens : List Token
  graph : Graph
  anchors : List (String × NodeId)
  handles : List (String × String)

abbrev Reader := StateT Reading Scan

namespace Reader

def fail {α : Type} : Reader α := fun _ => .error .malformed

def peek : Reader Token := do return (← get).tokens.headD .streamEnd

def skip : Reader Unit := modify fun r => { r with tokens := r.tokens.drop 1 }

def addNode (n : Node) : Reader NodeId := do
  let r ← get
  set { r with graph := r.graph.push n }
  return r.graph.size

/-- Reserves a place for a node and gives it its name before its members are read. -/
def reserve (anchor : Option String) (n : Node) : Reader NodeId := do
  let id ← addNode n
  match anchor with
  | some a => modify fun r => { r with anchors := (a, id) :: r.anchors }
  | none => pure ()
  return id

def setContent (id : NodeId) (c : Content) : Reader Unit :=
  modify fun r => { r with graph := r.graph.modify id fun n => { n with content := c } }

/-- The node that stands where nothing is written. -/
def emptyNode : Reader NodeId := addNode ⟨plainTag "", .scalar "" (some .plain)⟩

/-- The full form of a tag. -/
def fullTag (handle : Option String) (suffix : String) : Reader String := do
  match handle with
  | none => return suffix
  | some h =>
    match (← get).handles.lookup h with
    | some start => return start ++ suffix
    | none => fail

/-- The anchor and the tag before a node, in either order. -/
def properties : Reader (Option String × Option String) := do
  match ← peek with
  | .anchor a =>
    skip
    match ← peek with
    | .tag h s =>
      skip
      return (some a, some (← fullTag h s))
    | _ => return (some a, none)
  | .tag h s =>
    skip
    match ← peek with
    | .anchor a =>
      skip
      return (some a, some (← fullTag h s))
    | _ => return (none, some (← fullTag h s))
  | _ => return (none, none)

/-- The position at which a node is expected. -/
inductive Position where
  | flow
  | block
  /-- A block in which the entries of a sequence need no indentation of their own. -/
  | member
  deriving DecidableEq

/-- The tag of a collection. -/
def collectionTag (tag : Option String) (kind : String) : String :=
  match tag with
  | none | some "!" => tagOf kind
  | some t => t

/-- Reads a node unless one of the given tokens comes first. -/
def nodeUnless (node : Reader NodeId) (stop : Token → Bool) : Reader NodeId := do
  if stop (← peek) then emptyNode else node

/-- Entries that each start with the given token. -/
def entries (node : Reader NodeId) (closed : Bool) : Nat → List NodeId → Reader (List NodeId)
  | 0, _ => fail
  | fuel + 1, acc => do
    match ← peek with
    | .blockEntry =>
      skip
      let stop : Token → Bool
        | .blockEntry | .blockEnd => true
        | .key | .value => !closed
        | _ => false
      let id ← nodeUnless node stop
      entries node closed fuel (id :: acc)
    | .blockEnd =>
      if closed then skip
      return acc.reverse
    | _ => if closed then fail else return acc.reverse

/-- The pairs of a block mapping. -/
def blockPairs (node : Reader NodeId) :
    Nat → List (NodeId × NodeId) → Reader (List (NodeId × NodeId))
  | 0, _ => fail
  | fuel + 1, acc => do
    let stop : Token → Bool
      | .key | .value | .blockEnd => true
      | _ => false
    let value : Reader NodeId := do
      match ← peek with
      | .value =>
        skip
        nodeUnless node stop
      | _ => emptyNode
    match ← peek with
    | .key =>
      skip
      let k ← nodeUnless node stop
      let v ← value
      blockPairs node fuel ((k, v) :: acc)
    | .value =>
      let k ← emptyNode
      let v ← value
      blockPairs node fuel ((k, v) :: acc)
    | .blockEnd =>
      skip
      return acc.reverse
    | _ => fail

/-- The members of a sequence in brackets; `key: value` there is a mapping of one pair. -/
def flowItems (node : Reader NodeId) : Nat → Bool → List NodeId → Reader (List NodeId)
  | 0, _, _ => fail
  | fuel + 1, first, acc => do
    let item : Reader (List NodeId) := do
      match ← peek with
      | .key =>
        skip
        let id ← reserve none ⟨tagOf "map", .mapping []⟩
        let k ← nodeUnless node fun
          | .value | .flowEntry | .flowSequenceEnd => true
          | _ => false
        let v ← do
          match ← peek with
          | .value =>
            skip
            nodeUnless node fun
              | .flowEntry | .flowSequenceEnd => true
              | _ => false
          | _ => emptyNode
        setContent id (.mapping [(k, v)])
        flowItems node fuel false (id :: acc)
      | .flowSequenceEnd =>
        skip
        return acc.reverse
      | _ =>
        let id ← node
        flowItems node fuel false (id :: acc)
    match ← peek with
    | .flowSequenceEnd =>
      skip
      return acc.reverse
    | .flowEntry =>
      if first then item
      else
        skip
        item
    | _ => if first then item else fail

/-- The pairs of a mapping in braces. -/
def flowPairs (node : Reader NodeId) :
    Nat → Bool → List (NodeId × NodeId) → Reader (List (NodeId × NodeId))
  | 0, _, _ => fail
  | fuel + 1, first, acc => do
    let pair : Reader (List (NodeId × NodeId)) := do
      match ← peek with
      | .key =>
        skip
        let k ← nodeUnless node fun
          | .value | .flowEntry | .flowMappingEnd => true
          | _ => false
        let v ← do
          match ← peek with
          | .value =>
            skip
            nodeUnless node fun
              | .flowEntry | .flowMappingEnd => true
              | _ => false
          | _ => emptyNode
        flowPairs node fuel false ((k, v) :: acc)
      | .flowMappingEnd =>
        skip
        return acc.reverse
      | _ =>
        let k ← node
        let v ← emptyNode
        flowPairs node fuel false ((k, v) :: acc)
    match ← peek with
    | .flowMappingEnd =>
      skip
      return acc.reverse
    | .flowEntry =>
      if first then pair
      else
        skip
        pair
    | _ => if first then pair else fail

/-- One node. Every token is read once, so the number of tokens bounds the nesting. -/
def node : Nat → Position → Reader NodeId
  | 0, _ => fail
  | fuel + 1, position => do
    match ← peek with
    | .reference a =>
      skip
      match (← get).anchors.lookup a with
      | some id => return id
      | none => fail
    | _ =>
      let (anchor, tag) ← properties
      match anchor with
      | some a => if ((← get).anchors.lookup a).isSome then fail
      | none => pure ()
      let implicit := tag.isNone || tag == some "!"
      let turns := (← get).tokens.length + 2
      match ← peek with
      | .blockEntry =>
        if position = .member then
          let id ← reserve anchor ⟨collectionTag tag "seq", .sequence []⟩
          setContent id (.sequence (← entries (node fuel .block) false turns []))
          return id
        else emptyOr anchor tag implicit
      | .scalar text style =>
        skip
        let byForm := (style = .plain && tag.isNone) || tag == some "!"
        let full := match tag with
          | some t => if t = "!" then plainTag text else t
          | none => if byForm then plainTag text else tagOf "str"
        reserve anchor ⟨full, .scalar text (some style)⟩
      | .flowSequenceStart =>
        skip
        let id ← reserve anchor ⟨collectionTag tag "seq", .sequence []⟩
        setContent id (.sequence (← flowItems (node fuel .flow) turns true []))
        return id
      | .flowMappingStart =>
        skip
        let id ← reserve anchor ⟨collectionTag tag "map", .mapping []⟩
        setContent id (.mapping (← flowPairs (node fuel .flow) turns true []))
        return id
      | .blockSequenceStart =>
        if position = .flow then emptyOr anchor tag implicit
        else
          skip
          let id ← reserve anchor ⟨collectionTag tag "seq", .sequence []⟩
          setContent id (.sequence (← entries (node fuel .block) true turns []))
          return id
      | .blockMappingStart =>
        if position = .flow then emptyOr anchor tag implicit
        else
          skip
          let id ← reserve anchor ⟨collectionTag tag "map", .mapping []⟩
          setContent id (.mapping (← blockPairs (node fuel .member) turns []))
          return id
      | _ => emptyOr anchor tag implicit
where
  /-- A node of properties alone is an empty scalar. -/
  emptyOr (anchor tag : Option String) (implicit : Bool) : Reader NodeId := do
    if anchor.isNone && tag.isNone then fail
    else
      let full := if implicit then plainTag "" else tag.getD ""
      reserve anchor ⟨full, .scalar "" (some .plain)⟩

def skipDocumentEnds : Nat → Reader Unit
  | 0 => pure ()
  | fuel + 1 => do
    match ← peek with
    | .documentEnd =>
      skip
      skipDocumentEnds fuel
    | _ => pure ()

/-- The directives before a document: the handles for tags that they introduce. -/
def directives : Nat → Bool → List (String × String) → Reader (List (String × String))
  | 0, _, _ => fail
  | fuel + 1, versioned, handles => do
    match ← peek with
    | .version major =>
      skip
      if versioned || major ≠ 1 then fail else directives fuel true handles
    | .tagHandle h start =>
      skip
      if (handles.lookup h).isSome then fail else directives fuel versioned ((h, start) :: handles)
    | .otherDirective =>
      skip
      directives fuel versioned handles
    | _ => return handles

/-- The handles that every document has. -/
def defaultHandles : List (String × String) := [("!", "!"), ("!!", tagStart)]

/-- The only document of a text; none if the text is empty. -/
def document : Reader (Option NodeId) := do
  let turns := (← get).tokens.length + 2
  match ← peek with
  | .streamEnd => return none
  | .version _ | .tagHandle .. | .otherDirective | .documentStart =>
    let handles ← directives turns false []
    match ← peek with
    | .documentStart =>
      skip
      modify fun r => { r with handles := handles ++ defaultHandles }
      let id ← nodeUnless (node turns .block) fun
        | .version _ | .tagHandle .. | .otherDirective | .documentStart | .documentEnd
        | .streamEnd => true
        | _ => false
      finish turns
      return some id
    | _ => fail
  | _ =>
    let id ← node turns .block
    finish turns
    return some id
where
  /-- Nothing but marks of the end may follow. -/
  finish (turns : Nat) : Reader Unit := do
    skipDocumentEnds turns
    match ← peek with
    | .streamEnd => pure ()
    | _ => fail

end Reader

/-- The nodes of the only document of a text, and which of them is the root. -/
def graphOf (text : String) : Scan (Graph × Option NodeId) := do
  let tokens ← tokensOf text
  let (root, r) ← Reader.document.run ⟨tokens, #[], [], Reader.defaultHandles⟩
  return (r.graph, root)

end Stepwise.Document
