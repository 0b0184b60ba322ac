import Stepwise.Value.Basic
import Stepwise.Data.OrderedMap
/-!
# Keys of dictionaries

Values that are equal must meet in a dictionary: `1`, `1.0` and `True` are one key, tuples are
compared by their members, and objects by identity. A key is the list of parts that decides
equality, written flat so that comparing two of them is comparing two lists.
-/

namespace Stepwise

/-- One part of a key. -/
inductive KeyPart where
  | null
  | whole (n : Int)
  | real (bits : UInt64)
  | text (s : String)
  | bytes (b : List UInt8)
  /-- A tuple of so many members follows. -/
  | tuple (size : Nat)
  /-- A set of so many members follows, in a fixed order. -/
  | set (size : Nat)
  | word (s : String)
  | object (a : Addr)
  | moment (kind : Nat) (n : Int)
  deriving DecidableEq, Inhabited

abbrev Key := List KeyPart

/-- The contents of a dictionary: for every key the value it was first written with, and the
value it stands for. -/
abbrev Dict := OrderedMap Key (Value × Value)

namespace Dict

def empty : Dict := OrderedMap.empty

/-- Writes a value, keeping the first spelling of a key that is present. -/
def put (d : Dict) (k : Key) (spelling v : Value) : Dict :=
  match d.find? k with
  | some (first, _) => d.insert k (first, v)
  | none => d.insert k (spelling, v)

def textKey (s : String) : Key := [.text s]

def get? (d : Dict) (k : Key) : Option Value := (d.find? k).map (·.2)

def getText? (d : Dict) (s : String) : Option Value := d.get? (textKey s)

def putText (d : Dict) (s : String) (v : Value) : Dict := d.put (textKey s) (.str s) v

/-- A dictionary with text keys. -/
def ofTexts (l : List (String × Value)) : Dict :=
  l.foldl (fun d (k, v) => putText d k v) empty

/-- The pairs in order. -/
def pairs (d : Dict) : List (Value × Value) := d.entries.map (·.2)

end Dict

end Stepwise
