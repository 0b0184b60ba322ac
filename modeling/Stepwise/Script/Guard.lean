import Stepwise.Library.Builtins
import Stepwise.Run.Unpack
import Stepwise.Script.Policy
/-!
# Guarded access

Scripts read attributes, and write to parts of values, only through these guards. A missing
attribute reads as nothing; only lists, dictionaries and contexts can be written to.
-/

namespace Stepwise.Script

/-- Is the value a text, or a class of texts? -/
private def isTextual (v : Value) : Run Bool := do
  match v with
  | .str _ | .markup _ => return true
  | .cls n => return Classes.isBelow n "str"
  | .ref a =>
    match ← Run.load a with
    | .cls _ => Value.isSubclass v (.cls "str")
    | _ => v.isOf "str"
  | _ => return false

private def isModule (v : Value) (name : String) : Run Bool := do
  match ← Run.object? v with
  | some (.module n) => return n == name
  | _ => return false

/-- The attribute of a value, as far as scripts may read it. -/
def readAttribute (m : Machine) (v : Value) (id : String) : Run Value := do
  if (id == "format" || id == "format_map") && (← isTextual v) then
    Run.raise "NotImplementedError" "Using the format*() methods of `str` is not safe"
  if id == "Formatter" && (← isModule v "string") then
    Run.raise "NotImplementedError" "string.Formatter is not safe"
  match ← Run.outcome (attribute? m v id) with
  | .ok x => return x.getD .null
  | .error e =>
    if ← Value.isSubclass (← Run.errorClass e) (.cls "AttributeError") then return .null
    else Run.raiseObject e

/-- Does the value let its parts be written? -/
def isWritable (v : Value) : Run Bool := do
  match ← Run.object? v with
  | some (.list _) | some (.dict .plain _) | some (.dict (.context _) _) => return true
  | _ => return false

private def refuseItem {α : Type} : Run α := Run.typeError "object does not support item or slice assignment"

/-- Writes the item of a value at an index. -/
def writeItem (m : Machine) (v i x : Value) : Run Unit := do
  if ← isWritable v then setItem m v i x else refuseItem

/-- Deletes the item of a value at an index. -/
def eraseItem (v i : Value) : Run Unit := do
  if ← isWritable v then deleteItem v i else refuseItem

/-- Writes an attribute of a value. -/
def writeAttribute (v : Value) (id : String) (x : Value) : Run Unit := do
  if ← isWritable v then Builtins.setAttribute v id x else Builtins.noAttributes

/-- Deletes an attribute of a value. -/
def eraseAttribute (v : Value) (id : String) : Run Unit := do
  if ← isWritable v then Builtins.deleteAttribute v id else Builtins.noAttributes

/-! ## Taking apart -/

/-- The places of the targets inside a target of several parts that are taken apart with it:
behind a star they are counted from the end. -/
private def innerTargets (es : List Expr) : List (Int × List Expr) :=
  go 0 0 es
where
  fixed : Nat := (es.filter fun e => match e with
    | .starred .. => false
    | _ => true).length
  go (i offset : Int) : List Expr → List (Int × List Expr)
    | [] => []
    | .starred .. :: rest => go (i + 1) (fixed + 1) rest
    | .display .tuple inner :: rest => (i - offset, inner) :: go (i + 1) offset rest
    | _ :: rest => go (i + 1) offset rest

/-- Takes a value apart for a target in parentheses: it becomes a list, and so do those of its
members that meet targets in parentheses. -/
def takeApart (m : Machine) : Nat → List Expr → Value → Run Value
  | 0, _, _ => Run.exhausted
  | depth + 1, es, v => do
    let xs ← m.drain (← v.reader)
    let least := (es.filter fun e => match e with
      | .starred .. => false
      | _ => true).length
    if xs.length < least then Run.list xs
    else
      let xs ← (innerTargets es).foldlM (fun (xs : List Value) (i, inner) => do
        let k := (if i < 0 then i + Int.ofNat xs.length else i).toNat
        match xs[k]? with
        | some x => return xs.set k (← takeApart m depth inner x)
        | none => return xs) xs
      Run.list xs

/-- How deeply targets can be nested. -/
def targetDepth : Nat := 1000

/-- The value that a target meets. -/
def metBy (m : Machine) (target : Expr) (v : Value) : Run Value :=
  match target with
  | .display .tuple es => takeApart m targetDepth es v
  | _ => return v

private def plainTarget : Expr → Expr
  | .starred _ e => e
  | e => e

/-- The members of a value for the targets of a display. -/
def membersFor (m : Machine) (targets : List Expr) (v : Value) : Run (List (Expr × Value)) := do
  let n := targets.length
  match targets.findIdx? Expr.isStarred with
  | none => return targets.zip (← m.unpack n v)
  | some k =>
    let xs ← m.drain (← v.partsReader)
    if xs.length < n - 1 then
      Run.valueError ("not enough values to unpack (expected at least " ++ toString (n - 1) ++ ", got " ++
        toString xs.length ++ ")")
    let after := n - 1 - k
    let middle ← Run.list ((xs.drop k).take (xs.length - after - k))
    return (targets.map plainTarget).zip (xs.take k ++ [middle] ++ xs.drop (xs.length - after))

end Stepwise.Script
