import Stepwise.Value.Compare
/-!
# Values spread over lines

The displayed text of a value, and where that is too wide for a line of 80 characters, its members one to a
line. Dictionaries and sets are spread in order.
-/

namespace Stepwise.Spread

private def width : Int := 80

/-- Sorts by an order that two values may not have; then the names of their classes count. -/
private def sortByKey {α : Type} (m : Machine) (keyOf : α → Value) (items : List α) : Run (List α) := do
  let before (x y : α) : Run Bool := do
    match ← Run.outcome (m.test .lt (keyOf x) (keyOf y)) with
    | .ok b => return b
    | .error _ => return (← (keyOf x).kindName) < (← (keyOf y).kindName)
  items.foldlM (fun sorted x => do
    let rec place : List α → Run (List α)
      | [] => return [x]
      | y :: r => do
        if ← before x y then return x :: y :: r else return y :: (← place r)
    place sorted) []

/-- Is a value spread over lines, and over how many brackets? -/
private inductive Shape where
  | list (items : List Value)
  | tuple (items : List Value)
  | dict (pairs : List (Value × Value))
  | set (items : List Value) (frozen : Bool)
  | text (s : String)
  | other

private def shapeOf (v : Value) : Run Shape := do
  match v with
  | .str s => return .text s
  | .ref a =>
    match ← Run.load a with
    | .list xs => return .list xs.toList
    | .tuple none xs => return .tuple xs
    | .dict .plain d => return .dict d.pairs
    | .set frozen d => return .set d.members frozen
    | _ => return .other
  | _ => return .other

/-- The displayed text, with dictionaries and sets in order. -/
private def flat (m : Machine) : Nat → List Addr → Value → Run String
  | 0, _, v => v.display
  | fuel + 1, inside, v => do
    let again := match v with
      | .ref a => inside.contains a
      | _ => false
    if again then
      return "<Recursion on " ++ (← v.kindName) ++ ">"
    let inside := match v with
      | .ref a => a :: inside
      | _ => inside
    match ← shapeOf v with
    | .list xs => return "[" ++ comma (← xs.mapM (flat m fuel inside)) ++ "]"
    | .tuple [x] => return "(" ++ (← flat m fuel inside x) ++ ",)"
    | .tuple xs => return "(" ++ comma (← xs.mapM (flat m fuel inside)) ++ ")"
    | .dict ps =>
      let ps ← sortByKey m (·.1) ps
      let ts ← ps.mapM fun (k, x) => do return (← flat m fuel inside k) ++ ": " ++ (← flat m fuel inside x)
      return "\x7b" ++ comma ts ++ "\x7d"
    | _ => v.display

private def blanks (n : Int) : String := String.ofList (List.replicate n.toNat ' ')

/-- A line cut behind its blanks. -/
private def wordsOf (s : List Char) : List (List Char) := go (s.length + 1) s
where
  go : Nat → List Char → List (List Char)
    | 0, _ | _, [] => []
    | fuel + 1, s =>
      let word := s.takeWhile fun c => !Text.isBlank c
      let gap := (s.drop word.length).takeWhile Text.isBlank
      (word ++ gap) :: go fuel (s.drop (word.length + gap.length))

/-- The pieces of a line that is too wide, quoted each. -/
private def linePieces (room allowance : Int) (isLast : Bool) (line : List Char) : List String :=
  let words := wordsOf line
  let quoted (s : List Char) : String := Text.quoted (String.ofList s)
  let (out, current) := words.zipIdx.foldl (fun ((out, current) : List String × List Char) (w, i) =>
    let room := if i + 1 = words.length && isLast then room - allowance else room
    let candidate := current ++ w
    if Int.ofNat (quoted candidate).length > room then
      (if current.isEmpty then out else quoted current :: out, w)
    else (out, candidate)) ([], [])
  (if current.isEmpty then out else quoted current :: out).reverse

private def spreadText (s : String) (indent allowance : Int) (outermost : Bool) : String :=
  if s.isEmpty then Text.quoted s
  else
    let indent := if outermost then indent + 1 else indent
    let allowance := if outermost then allowance + 1 else allowance
    let lines := Text.splitLines true s.toList
    let pieces := lines.zipIdx.flatMap fun (line, i) =>
      let isLast := i + 1 = lines.length
      let t := Text.quoted (String.ofList line)
      let room := width - indent
      if Int.ofNat t.length ≤ (if isLast then room - allowance else room) then [t]
      else linePieces room allowance isLast line
    match pieces with
    | [t] => t
    | _ =>
      let body := Text.joinWith ("\n" ++ blanks indent) pieces
      if outermost then "(" ++ body ++ ")" else body

/-- The text of a value whose first line begins at a column and whose last has so much to leave room for. -/
private def spread (m : Machine) : Nat → List Addr → Int → Int → Bool → Value → Run String
  | 0, _, _, _, _, v => v.display
  | fuel + 1, inside, indent, allowance, outermost, v => do
    let whole ← flat m fuel inside v
    if Int.ofNat whole.length ≤ width - indent - allowance then return whole
    let inner := match v with
      | .ref a => a :: inside
      | _ => inside
    let members (xs : List Value) (indent allowance : Int) : Run String := do
      let ts ← xs.zipIdx.mapM fun (x, i) =>
        spread m fuel inner (indent + 1) (if i + 1 = xs.length then allowance else 1) false x
      return Text.joinWith (",\n" ++ blanks (indent + 1)) ts
    match ← shapeOf v with
    | .list xs => return "[" ++ (← members xs indent (allowance + 1)) ++ "]"
    | .tuple xs =>
      let close := if xs.length = 1 then ",)" else ")"
      return "(" ++ (← members xs indent (allowance + close.length)) ++ close
    | .set xs frozen =>
      let xs ← sortByKey m id xs
      if frozen then
        return "frozenset(\x7b" ++ (← members xs (indent + 10) (allowance + 2)) ++ "\x7d)"
      else return "\x7b" ++ (← members xs indent (allowance + 1)) ++ "\x7d"
    | .dict ps =>
      let ps ← sortByKey m (·.1) ps
      let ts ← ps.zipIdx.mapM fun ((k, x), i) => do
        let key ← flat m fuel inner k
        let room := if i + 1 = ps.length then allowance + 1 else 1
        return key ++ ": " ++ (← spread m fuel inner (indent + 1 + key.length + 2) room false x)
      return "\x7b" ++ Text.joinWith (",\n" ++ blanks (indent + 1)) ts ++ "\x7d"
    | .text s => return spreadText s indent allowance outermost
    | .other => return whole

/-- The text of a value, spread over lines where it is wide. -/
def text (m : Machine) (v : Value) : Run String := spread m displayDepth [] 0 0 true v

end Stepwise.Spread
