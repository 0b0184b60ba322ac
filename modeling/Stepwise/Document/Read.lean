import Stepwise.Document.Node
import Stepwise.Number.Read
import Stepwise.Text.Base64
import Stepwise.Value.Compare
import Stepwise.Text.Case
/-!
# Values of documents

The nodes of a document become values. Every node becomes one value, so aliases share it, and a
collection is filled after the collections around it exist. A scalar whose tag asks for something
that its text is not fails in the way of the conversion that it asks for.
-/

namespace Stepwise.Document

/-- A collection that exists but has yet to be filled. -/
inductive Pending where
  | items (target : Addr) (node : NodeId)
  | pairs (target : Addr) (node : NodeId)
  | members (target : Addr) (node : NodeId)
  /-- A list of pairs; each entry is a mapping of one pair. -/
  | entries (target : Addr) (node : NodeId)

structure Build where
  graph : Graph
  made : Array (Option Value)
  pending : Array Pending

abbrev Builder := StateT Build (ExceptT Fault Run)

namespace Builder

def malformed {α : Type} : Builder α := fun _ => (throw .malformed : ExceptT Fault Run (α × Build))

def lift {α : Type} (act : Run α) : Builder α := fun s => do
  let a ← (liftM act : ExceptT Fault Run α)
  return (a, s)

def nodeOf (id : NodeId) : Builder Node := do
  return (← get).graph.getD id ⟨tagOf "null", .scalar "" none⟩

/-- What stands under the key `=`, read by a function. -/
def underValueKey (read : NodeId → Builder String) : List (NodeId × NodeId) → Builder String
  | [] => malformed
  | (k, v) :: rest => do
    if (← nodeOf k).tag == tagOf "value" then read v else underValueKey read rest

/-- The text of a scalar. A mapping with the key `=` stands for the scalar under it. -/
def textOf : Nat → NodeId → Builder String
  | 0, _ => malformed
  | fuel + 1, id => do
    match (← nodeOf id).content with
    | .scalar t _ => return t
    | .mapping pairs => underValueKey (textOf fuel) pairs
    | .sequence _ => malformed

def invalidInt (base : Nat) (s : List Char) : Builder Int :=
  lift (Run.valueError ("invalid literal for int() with base " ++ toString base ++ ": " ++
    Text.quoted (String.ofList s)))

def intIn (base : Nat) (s : List Char) : Builder Int := do
  match Number.readInt? base s with
  | some (neg, b, ds) =>
    if ds.length > maxDigits && b ≠ 2 && b ≠ 8 && b ≠ 16 then
      lift (Run.valueError ("Exceeds the limit (" ++ toString maxDigits ++
        " digits) for integer string conversion: value has " ++ toString ds.length ++
        " digits; use sys.set_int_max_str_digits() to increase the limit"))
    else
      let n := Int.ofNat (Number.valueOfDigits b ds)
      return if neg then -n else n
  | none => invalidInt base s

def noCharacters {α : Type} : Builder α := lift (Run.indexError "string index out of range")

/-- The parts of a number in base sixty, the last first. -/
def sixties (s : List Char) : List (List Char) := (Text.splitChars ':' s).reverse

def intOf (text : String) : Builder Value := do
  let s := text.toList.filter (· ≠ '_')
  let (sign, s) : Int × List Char := match s with
    | '-' :: r => (-1, r)
    | '+' :: r => (1, r)
    | r => (1, r)
  match s with
  | [] => noCharacters
  | ['0'] => return .int 0
  | '0' :: 'b' :: r => return .int (sign * (← intIn 2 r))
  | '0' :: 'x' :: r => return .int (sign * (← intIn 16 r))
  | '0' :: _ => return .int (sign * (← intIn 8 s))
  | _ =>
    if s.contains ':' then
      let parts ← (Text.splitChars ':' s).mapM (intIn 10)
      let total := parts.foldl (fun n d => n * 60 + d) 0
      return .int (sign * total)
    else return .int (sign * (← intIn 10 s))

def floatIn (s : List Char) : Builder Float := do
  match Number.readFloat? s with
  | some x => return x
  | none => lift (Run.valueError ("could not convert string to float: " ++ Text.quoted (String.ofList s)))

def floatOf (text : String) : Builder Value := do
  let s := Text.lowerChars (text.toList.filter (· ≠ '_'))
  let (negative, s) : Bool × List Char := match s with
    | '-' :: r => (true, r)
    | '+' :: r => (false, r)
    | r => (false, r)
  let signed (x : Float) : Value := .float (if negative then -1.0 * x else 1.0 * x)
  if text.toList.all (· = '_') then noCharacters
  else if s = ".inf".toList then return signed (1.0 / 0.0)
  else if s = ".nan".toList then return .float (0.0 / 0.0)
  else if s.contains ':' then
    let parts ← (sixties s).mapM floatIn
    let (total, _) := parts.foldl (fun (acc, base) d => (acc + d * base, base * 60.0)) (0.0, 1.0)
    return signed total
  else return signed (← floatIn s)

def boolOf (text : String) : Builder Value := do
  let w := Text.lower text
  if ["yes", "true", "on"].contains w then return .bool true
  else if ["no", "false", "off"].contains w then return .bool false
  else lift (Run.raiseWith "KeyError" [.str w])

def faultOf {α : Type} (f : Calendar.Fault) : Builder α := lift (Run.valueError f.message)

def momentOf (text : String) : Builder Value := do
  match momentOf? text.toList with
  | none => lift (Run.attributeError "'NoneType' object has no attribute 'groupdict'")
  | some t =>
    match t.time with
    | none =>
      match Calendar.Date.make t.year t.month t.day with
      | .ok d => lift (Run.new (.date d))
      | .error f => faultOf f
    | some (h, m, s) =>
      let offset : Option Int := t.zone.map fun z => match z with
        | none => 0
        | some (neg, zh, zm) =>
          let o : Int := Int.ofNat (zh * 3600 + zm * 60)
          if neg then -o else o
      match offset with
      | some o =>
        if o.natAbs ≥ 86400 then
          lift (Run.valueError ("offset must be a timedelta strictly between -timedelta(hours=24) and " ++
            "timedelta(hours=24), not " ++ (Value.displayAt.showSpan ⟨o * 1000000⟩) ++ "."))
      | none => pure ()
      let digits := (t.fraction.take 6).map (fun c => c.toNat - 48)
      let micro := Number.valueOfDigits 10 (digits ++ List.replicate (6 - digits.length) 0)
      let micro := if t.fraction.isEmpty then 0 else micro
      match Calendar.Date.make t.year t.month t.day, Calendar.Time.make h m s micro with
      | .ok d, .ok c => lift (Run.new (.datetime ⟨d, c, offset⟩))
      | .error f, _ => faultOf f
      | _, .error f => faultOf f

/-- The value of a node; a collection is still empty. -/
def make (id : NodeId) : Builder Value := do
  match (← get).made.getD id none with
  | some v => return v
  | none =>
    let n ← nodeOf id
    let deferred (o : Obj) (p : Addr → Pending) : Builder Value := do
      let a ← lift (Run.alloc o)
      modify fun s => { s with pending := s.pending.push (p a) }
      return .ref a
    let text : Builder String := textOf ((← get).graph.size + 1) id
    let kind := if tagStart.isPrefixOf n.tag then (n.tag.drop tagStart.length).toString else ""
    let v ← match kind with
      | "null" => do
        let _ ← text
        pure Value.null
      | "bool" => boolOf (← text)
      | "int" => intOf (← text)
      | "float" => floatOf (← text)
      | "binary" => do
        let t ← text
        if t.toList.all (fun c => c.toNat < 128) then
          match Text.decodeBase64? t.toList with
          | some b => pure (Value.bytes b)
          | none => malformed
        else malformed
      | "timestamp" => do
        let _ ← text
        match n.content with
        | .scalar t _ => momentOf t
        | _ => malformed
      | "omap" | "pairs" => deferred (.list #[]) (fun a => .entries a id)
      | "set" => deferred (.set false OrderedMap.empty) (fun a => .members a id)
      | "str" => do pure (Value.str (← text))
      | "seq" => deferred (.list #[]) (fun a => .items a id)
      | "map" => deferred (.dict .plain OrderedMap.empty) (fun a => .pairs a id)
      | _ => malformed
    modify fun s => { s with made := s.made.setIfInBounds id (some v) }
    return v

/-- The pairs of a mapping that is merged into another one, when its own are merged into it. -/
def mergedPairs (flatten : NodeId → Builder Unit) (id : NodeId) : Builder (List (NodeId × NodeId)) := do
  match (← nodeOf id).content with
  | .mapping _ =>
    flatten id
    match (← nodeOf id).content with
    | .mapping ps => return ps
    | _ => malformed
  | _ => malformed

/-- The pairs of a mapping that stay, and those that are merged into it. The merge keys leave the mapping
one by one, so that a mapping that merges itself ends. -/
def mergePairs (flatten : NodeId → Builder Unit) (id : NodeId) :
    List (NodeId × NodeId) → List (NodeId × NodeId) → List (NodeId × NodeId) →
      Builder (List (NodeId × NodeId) × List (NodeId × NodeId))
  | [], kept, merged => return (kept.reverse, merged)
  | (k, v) :: rest, kept, merged => do
    let kn ← nodeOf k
    if kn.tag == tagOf "merge" then
      modify fun s => { s with graph := s.graph.modify id fun n =>
        { n with content := .mapping (kept.reverse ++ rest) } }
      match (← nodeOf v).content with
      | .mapping _ => mergePairs flatten id rest kept (merged ++ (← mergedPairs flatten v))
      | .sequence items =>
        let parts ← items.mapM (mergedPairs flatten)
        mergePairs flatten id rest kept (merged ++ parts.reverse.flatten)
      | .scalar .. => malformed
    else
      if kn.tag == tagOf "value" then
        modify fun s => { s with graph := s.graph.modify k fun n => { n with tag := tagOf "str" } }
      mergePairs flatten id rest ((k, v) :: kept) merged

/-- Puts the pairs of merged mappings in front of a mapping's own. -/
def flatten : Nat → NodeId → Builder Unit
  | 0, _ => malformed
  | fuel + 1, id => do
    match (← nodeOf id).content with
    | .mapping pairs =>
      let (kept, merged) ← mergePairs (flatten fuel) id pairs [] []
      modify fun s => { s with graph := s.graph.modify id fun n =>
        { n with content := .mapping (merged ++ kept) } }
    | _ => pure ()

/-- A pair of a mapping as values. A key must be able to be one. -/
def pairOf (pair : NodeId × NodeId) : Builder (Value × Value) := do
  let key ← make pair.1
  match ← lift (Run.object? key) with
  | some (.list _) | some (.dict ..) | some (.set ..) => malformed
  | _ => pure ()
  return (key, ← make pair.2)

/-- The pairs of a mapping as values, those of merged mappings first. -/
def pairsOf (id : NodeId) : Builder (List (Value × Value)) := do
  flatten ((← get).graph.size + 2) id
  match (← nodeOf id).content with
  | .mapping pairs => pairs.mapM pairOf
  | _ => malformed

def putAll (d : Dict) (ps : List (Value × Value)) : Run Dict :=
  ps.foldlM (fun d (k, v) => do return d.put (← k.key) k v) d

/-- Fills one collection. -/
def fill (p : Pending) : Builder Unit := do
  match p with
  | .items a id =>
    match (← nodeOf id).content with
    | .sequence items =>
      let vs ← items.mapM make
      lift (Run.save a (.list vs.toArray))
    | _ => malformed
  | .pairs a id =>
    let ps ← pairsOf id
    lift (do Run.save a (.dict .plain (← putAll OrderedMap.empty ps)))
  | .members a id =>
    let ps ← pairsOf id
    lift (do Run.save a (.set false (← putAll OrderedMap.empty (ps.map fun (k, _) => (k, .bool true)))))
  | .entries a id =>
    match (← nodeOf id).content with
    | .sequence items =>
      items.forM fun item => do
        match (← nodeOf item).content with
        | .mapping [(k, v)] =>
          let key ← make k
          let val ← make v
          lift (do
            let t ← Run.tuple [key, val]
            Run.pushItem a t)
        | _ => malformed
    | _ => malformed

/-- Fills all collections, those found on the way last. -/
def fillAll : Nat → Builder Unit
  | 0 => pure ()
  | fuel + 1 => do
    let s ← get
    if s.pending.isEmpty then pure ()
    else
      set { s with pending := #[] }
      s.pending.forM fill
      fillAll fuel

end Builder

/-- The value of the only document of a text. -/
def read (text : String) : Run (Except Fault Value) := do
  match graphOf text with
  | .error e => return .error e
  | .ok (graph, none) => do
    let _ := graph
    return .ok .null
  | .ok (graph, some root) =>
    let act : Builder Value := do
      let v ← Builder.make root
      Builder.fillAll (graph.size + 2)
      return v
    let r ← (StateT.run act ⟨graph, Array.replicate graph.size none, #[]⟩).run
    return r.map (·.1)

end Stepwise.Document
