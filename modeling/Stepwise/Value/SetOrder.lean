import Stepwise.Number.Binary
import Stepwise.Value.Key
/-!
# The order of a set

A set of numbers is read in the order of a table of slots: a number goes to the slot of its hash
or one of the next free ones, and the table grows as it fills. Other members are read in the
order in which they were added.
-/

namespace Stepwise

namespace SetOrder

/-- The modulus of the hash of numbers. -/
def modulus : Nat := Nat.pow 2 61 - 1

/-- The hash of a whole number. -/
def hashInt (n : Int) : Int :=
  let h := Int.ofNat (n.natAbs % modulus)
  let h := if n < 0 then -h else h
  if h = -1 then -2 else h

/-- The hash of a double: its value in the field of the modulus, in which 61 doublings do nothing. -/
def hashFloat (x : Float) : Int :=
  match Number.partsOf x with
  | .finite negative m e =>
    let n := Int.ofNat (m * Nat.pow 2 (e % 61).toNat)
    hashInt (if negative then -n else n)
  | .infinite negative => if negative then -314159 else 314159
  | .nan => 0

private def prime1 : UInt64 := 11400714785074694791
private def prime2 : UInt64 := 14029467366897019727
private def prime5 : UInt64 := 2870177450012600261

/-- Mixes one more hash into that of a tuple. -/
private def mix (acc lane : UInt64) : UInt64 :=
  let x := acc + lane * prime2
  ((x <<< 31) ||| (x >>> 33)) * prime1

private def word (n : Int) : UInt64 := UInt64.ofNat (n % Int.ofNat (Nat.pow 2 64)).toNat

/-- The hash of the part of a key that comes first, and the rest of the key. -/
private def hashPart? : Nat → Key → Option (UInt64 × Key)
  | 0, _ => none
  | _, [] => none
  | fuel + 1, p :: rest =>
    match p with
    | .whole n => some (word (hashInt n), rest)
    | .real bits => some (word (hashFloat (Float.ofBits bits)), rest)
    | .tuple n => do
      let (acc, rest) ← (List.range n).foldlM (fun (acc, k) _ => do
        let (h, k) ← hashPart? fuel k
        return (mix acc h, k)) (prime5, rest)
      let acc := acc + (UInt64.ofNat n ^^^ (prime5 ^^^ 3527539))
      return (if acc = 0xFFFFFFFFFFFFFFFF then 1546275796 else acc, rest)
    | _ => none

/-- The hash of a member, as a word of 64 bits, if it does not depend on addresses. -/
def hashOf? (k : Key) : Option Nat :=
  match hashPart? 100 k with
  | some (h, []) => some h.toNat
  | _ => none

/-- The hash of a member as a number with a sign. -/
def signedHash? (k : Key) : Option Int :=
  (hashOf? k).map fun h => if h < Nat.pow 2 63 then Int.ofNat h else Int.ofNat h - Int.ofNat (Nat.pow 2 64)

private structure Table where
  slots : Array (Option Nat)
  used : Nat

private def emptyTable (size : Nat) : Table := ⟨Array.replicate size none, 0⟩

/-- The first free slot of a short run of neighbours, if there is one. -/
private def freeAmong (slots : Array (Option Nat)) : Nat → Nat → Option Nat
  | 0, _ => none
  | n + 1, i => if (slots.getD i none).isNone then some i else freeAmong slots n (i + 1)

private def findSlot (slots : Array (Option Nat)) : Nat → Nat → Nat → Option Nat
  | 0, _, _ => none
  | fuel + 1, i, perturb =>
    let mask := slots.size - 1
    let run := if i + 9 ≤ mask then 10 else 1
    match freeAmong slots run i with
    | some k => some k
    | none =>
      let perturb := perturb / 32
      findSlot slots fuel ((i * 5 + 1 + perturb) % slots.size) perturb

private def place (hashes : Array Nat) (t : Table) (member : Nat) : Table :=
  let h := hashes.getD member 0
  match findSlot t.slots (t.slots.size * 20 + 64) (h % t.slots.size) h with
  | some k => ⟨t.slots.setIfInBounds k (some member), t.used + 1⟩
  | none => t

private def members (t : Table) : List Nat := t.slots.toList.filterMap id

private def sizeAbove (n : Nat) : Nat → Nat → Nat
  | 0, s => s
  | fuel + 1, s => if s ≤ n then sizeAbove n fuel (s * 2) else s

private def grow (hashes : Array Nat) (t : Table) : Table :=
  if t.used * 5 ≥ (t.slots.size - 1) * 3 then
    let wanted := if t.used > 50000 then t.used * 2 else t.used * 4
    (members t).foldl (place hashes) (emptyTable (sizeAbove wanted 60 8))
  else t

/-- The positions of the members in reading order. -/
def positions (keys : List Key) : List Nat :=
  match keys.mapM hashOf? with
  | none => List.range keys.length
  | some hs =>
    let hashes := hs.toArray
    members ((List.range keys.length).foldl (fun t k => grow hashes (place hashes t k))
      (emptyTable 8))

end SetOrder

/-- The members of a set in reading order. -/
def Dict.members (d : Dict) : List Value :=
  let entries := d.entries.toArray
  (SetOrder.positions d.keys).filterMap fun i => (entries[i]?).map fun e => e.2.1

end Stepwise
