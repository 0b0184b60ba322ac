/-!
# Picking members by their places

Ways to pick members of pools, told apart by which lists of places they allow. Each way has a
first list and says which list follows another, in lexicographic order.
-/

namespace Stepwise

/-- What may be picked. -/
inductive PickKind where
  /-- One member of each pool. -/
  | product
  /-- Distinct places in increasing order. -/
  | combination
  /-- Places in increasing order, each as often as wanted. -/
  | repeated
  /-- Distinct places in any order. -/
  | permutation
  deriving DecidableEq, Inhabited

namespace PickKind

/-- The next list of places, each below its size, the last place counting fastest. -/
private def nextDigits : List Nat → List Nat → Option (List Nat)
  | n :: sizes, i :: places =>
    match nextDigits sizes places with
    | some rest => some (i :: rest)
    | none => if i + 1 < n then some ((i + 1) :: List.replicate places.length 0) else none
  | _, _ => none

/-- The next increasing list of places below `n`. -/
private def nextCombination (n : Nat) : List Nat → Option (List Nat)
  | [] => none
  | i :: rest =>
    match nextCombination n rest with
    | some rest' => some (i :: rest')
    | none =>
      if i + 1 + rest.length < n then some (List.range' (i + 1) (rest.length + 1)) else none

private def nextRepeated (n : Nat) : List Nat → Option (List Nat)
  | [] => none
  | i :: rest =>
    match nextRepeated n rest with
    | some rest' => some (i :: rest')
    | none => if i + 1 < n then some (List.replicate (rest.length + 1) (i + 1)) else none

/-- The next list of distinct places; `free` holds those that stand nowhere before. -/
private def nextPermutation (free : List Nat) : List Nat → Option (List Nat)
  | [] => none
  | i :: rest =>
    let left := free.filter (· != i)
    match nextPermutation left rest with
    | some rest' => some (i :: rest')
    | none =>
      match free.filter (i < ·) with
      | [] => none
      | j :: _ => some (j :: (free.filter (· != j)).take rest.length)

/-- The first list of places in pools of these sizes; `r` is how many are picked. -/
def first? (kind : PickKind) (sizes : List Nat) (r : Nat) : Option (List Nat) :=
  let n := sizes.headD 0
  match kind with
  | product => if sizes.any (· == 0) then none else some (sizes.map fun _ => 0)
  | combination | permutation => if r > n then none else some (List.range r)
  | repeated => if r > 0 && n = 0 then none else some (List.replicate r 0)

/-- The list of places that follows another. -/
def next? (kind : PickKind) (sizes places : List Nat) : Option (List Nat) :=
  let n := sizes.headD 0
  match kind with
  | product => nextDigits sizes places
  | combination => nextCombination n places
  | repeated => nextRepeated n places
  | permutation => nextPermutation (List.range n) places

end PickKind

end Stepwise
