import Stepwise.Run.Machine
import Stepwise.Value.Show
/-!
# Truth, keys, equality and order

What counts as true, which part of a dictionary a value addresses, when two values are equal and
which of two comes first.
-/

namespace Stepwise

/-! ## Truth -/

/-- Does the value count as true? -/
def Value.truthy (v : Value) : Run Bool := do
  match v with
  | .null => return false
  | .bool b => return b
  | .int n => return n ≠ 0
  | .float x => return x != 0.0
  | .str s | .markup s => return !s.isEmpty
  | .bytes b => return !b.isEmpty
  | .ref a =>
    match ← Run.load a with
    | .list xs => return !xs.isEmpty
    | .tuple _ xs => return !xs.isEmpty
    | .dict _ d => return !d.isEmpty
    | .set _ d => return !d.isEmpty
    | .deque xs _ => return !xs.isEmpty
    | .range a b s => return if s > 0 then a < b else b < a
    | .complex re im => return re != 0.0 || im != 0.0
    | .span s => return s.micros ≠ 0
    | .instance _ p =>
      match p with
      | .null => return true
      | .int n => return n ≠ 0
      | .str s => return !s.isEmpty
      | .float x => return x != 0.0
      | _ => return true
    | .view _ d =>
      match ← Run.load d with
      | .dict _ dd => return !dd.isEmpty
      | _ => return true
    | .undefined u => if u.strict then failUndefined u else return false
    | _ => return true
  | _ => return true

/-! ## Members of classes of scripts -/

/-- Looks a name up in a class of a script and the classes above it. -/
def classMember? (cls : Value) (name : String) : Run (Option Value) := do
  let line ← Value.lineage cls
  let rec go : List Value → Run (Option Value)
    | [] => return none
    | c :: rest => do
      match c with
      | .ref a =>
        match ← Run.load a with
        | .cls info =>
          match info.members.lookup name with
          | some v => return some v
          | none => go rest
        | _ => go rest
      | _ => go rest
  go line

/-- The function that a value's class defines under a name, if a script defined it. -/
def ownMethod? (v : Value) (name : String) : Run (Option Value) := do
  match v with
  | .ref a =>
    match classOfRef (← Run.load a) with
    | some c => classMember? c name
    | none => return none
  | _ => return none
where
  classOfRef : Obj → Option Value
    | .instance c _ => some (.ref c)
    | .dict (.derived c) _ => some (.ref c)
    | .error (.ref c) _ _ => some (.ref c)
    | .tuple (some c) _ => some (.ref c)
    | _ => none

/-! ## Keys -/

def numberKey (x : Float) : KeyPart :=
  match Number.wholeValue? x with
  | some n => .whole n
  | none => .real x.toBits

private def partRank : KeyPart → Nat
  | .null => 0 | .whole _ => 1 | .real _ => 2 | .text _ => 3 | .bytes _ => 4 | .tuple _ => 5
  | .set _ => 6 | .word _ => 7 | .object _ => 8 | .moment .. => 9

private def partBefore (a b : KeyPart) : Bool :=
  match a, b with
  | .whole x, .whole y => x < y
  | .real x, .real y => x < y
  | .text x, .text y => x < y
  | .bytes x, .bytes y => x.length < y.length || (x.length == y.length && (x.map UInt8.toNat) < (y.map UInt8.toNat))
  | .tuple x, .tuple y => x < y
  | .set x, .set y => x < y
  | .word x, .word y => x < y
  | .object x, .object y => x < y
  | .moment i x, .moment j y => i < j || (i == j && x < y)
  | _, _ => partRank a < partRank b

private def keyBefore : Key → Key → Bool
  | [], _ => true
  | _ :: _, [] => false
  | a :: r, b :: s => if a = b then keyBefore r s else partBefore a b

/-- The key under which a value stands in a dictionary; mutable values have none. -/
def Value.keyAt : Nat → Value → Run Key
  | 0, _ => Run.raise "RecursionError" "maximum recursion depth exceeded"
  | fuel + 1, v => do
    match v with
    | .null => return [.null]
    | .bool b => return [.whole (if b then 1 else 0)]
    | .int n => return [.whole n]
    | .float x => return [numberKey x]
    | .str s | .markup s => return [.text s]
    | .bytes b => return [.bytes b]
    | .ellipsis => return [.word "..."]
    | .notImplemented => return [.word "NotImplemented"]
    | .cls n => return [.word ("class " ++ n)]
    | .fn n => return [.word ("fn " ++ n)]
    | .host n => return [.word ("host " ++ n)]
    | .ref a =>
      let unhashable : Run Key := do Run.typeError ("unhashable type: '" ++ (← v.kindName) ++ "'")
      match ← Run.load a with
      | .list _ | .dict .. | .set false _ | .deque .. | .slice .. => unhashable
      | .tuple _ xs =>
        let ks ← xs.mapM (Value.keyAt fuel)
        return .tuple xs.length :: ks.flatten
      | .set true d =>
        let ks := d.keys.mergeSort keyBefore
        return .set d.size :: ks.flatten
      | .date d => return [.moment 0 d.number]
      | .datetime t => return [.moment (if t.offset.isSome then 2 else 1) t.moment]
      | .time t o => return [.moment (if o.isSome then 4 else 3) (Int.ofNat t.micros - o.getD 0 * 1000000)]
      | .span s => return [.moment 5 s.micros]
      | .zone o _ => return [.moment 6 o]
      | .complex re im =>
        if im == 0.0 then return [numberKey re] else return [.tuple 0, .real re.toBits, .real im.toBits]
      | .range x y s =>
        let n := if s > 0 then (if x < y then (y - x - 1) / s + 1 else 0)
          else (if y < x then (x - y - 1) / (-s) + 1 else 0)
        return [.word "range", .whole n] ++ (if n = 0 then [] else [.whole x]) ++ (if n ≤ 1 then [] else [.whole s])
      | .instance c p =>
        match ← classMember? (.ref c) "__eq__" with
        | some _ => unhashable
        | none =>
          match p with
          | .null => return [.object a]
          | p => Value.keyAt fuel p
      | .view .keys _ | .view .items _ => unhashable
      | .undefined u => if u.strict then failUndefined u else return [.word "undefined"]
      | .namespaceObj _ => return [.object a]
      | .builtinMethod self id =>
        match self with
        | .ref b => return [.word ("method " ++ id), .object b]
        | s => return .word ("method " ++ id) :: (← Value.keyAt fuel s)
      | .method self f => return (← Value.keyAt fuel f) ++ (match self with | .ref b => [.object b] | _ => [])
      | _ => return [.object a]

def Value.key (v : Value) : Run Key := Value.keyAt displayDepth v

/-! ## Equality and order -/

/-- A number as something exact, if it is one. -/
inductive Numeric where
  | whole (n : Int)
  | real (x : Float)

def Value.numeric? : Value → Option Numeric
  | .int n => some (.whole n)
  | .bool b => some (.whole (if b then 1 else 0))
  | .float x => some (.real x)
  | _ => none

/-- The order of two numbers; none if one of them is not a number. -/
def Numeric.order : Numeric → Numeric → Option Ordering
  | .whole a, .whole b => some (Ord.compare a b)
  | .whole a, .real x => Number.compareIntFloat a x
  | .real x, .whole a => (Number.compareIntFloat a x).map Ordering.swap
  | .real x, .real y => if x < y then some .lt else if x > y then some .gt
    else if x == y then some .eq else none

private def compareChars : List Char → List Char → Ordering
  | [], [] => .eq
  | [], _ :: _ => .lt
  | _ :: _, [] => .gt
  | a :: r, b :: s => if a = b then compareChars r s else Ord.compare a.toNat b.toNat

private def compareNats : List Nat → List Nat → Ordering
  | [], [] => .eq
  | [], _ :: _ => .lt
  | _ :: _, [] => .gt
  | a :: r, b :: s => if a = b then compareNats r s else Ord.compare a b

/-- The order of texts is that of their code points. -/
def compareTexts (a b : String) : Ordering := compareChars a.toList b.toList

/-- The members of a dictionary's keys, as a set. -/
private def setMembers? (v : Value) : Run (Option (List Key)) := do
  match v with
  | .ref a =>
    match ← Run.load a with
    | .set _ d => return some d.keys
    | .view .keys b =>
      match ← Run.load b with
      | .dict _ d => return some d.keys
      | _ => return none
    | .view .items b =>
      match ← Run.load b with
      | .dict _ d =>
        let ks ← d.entries.mapM fun (k, _, x) => do return KeyPart.tuple 2 :: k ++ (← x.key)
        return some ks
      | _ => return none
    | _ => return none
  | _ => return none

private def compareSets (op : Comparison) (a b : List Key) : Bool :=
  let sub (x y : List Key) : Bool := x.all y.contains
  match op with
  | .eq => a.length == b.length && sub a b
  | .ne => !(a.length == b.length && sub a b)
  | .le => sub a b
  | .lt => a.length < b.length && sub a b
  | .ge => sub b a
  | .gt => b.length < a.length && sub b a

/-- The underlying value of an instance of a class that extends an ordinary one. -/
def Value.payload (v : Value) : Run Value := do
  match v with
  | .ref a =>
    match ← Run.load a with
    | .instance _ p => if p.isNull then return v else return p
    | _ => return v
  | _ => return v

/-- Are the values the same or equal? This is how containers look for members. -/
def Machine.matches (m : Machine) (a b : Value) : Run Bool := do
  if a.same b then return true
  else (← m.compare .eq a b).truthy

private def equalLists (m : Machine) : List Value → List Value → Run Bool
  | [], [] => return true
  | a :: r, b :: s => do if ← m.matches a b then equalLists m r s else return false
  | _, _ => return false

/-- Compares two sequences by the first place where they differ. -/
private def compareLists (m : Machine) (op : Comparison) : List Value → List Value → Run Value
  | a :: r, b :: s => do
    if ← m.matches a b then compareLists m op r s
    else match op with
      | .eq => return .bool false
      | .ne => return .bool true
      | _ => m.compare op a b
  | r, s => return .bool (op.holds (Ord.compare r.length s.length))

/-- The comparison as the values' own kinds define it; `notImplemented` if they do not. -/
def compareOwn (m : Machine) (op : Comparison) (a b : Value) : Run Value := do
  let ofOrder (o : Option Ordering) : Run Value :=
    match o with
    | some o => return .bool (op.holds o)
    | none => return .bool (op == .ne)
  let equality (e : Bool) : Run Value :=
    match op with
    | .eq => return .bool e
    | .ne => return .bool !e
    | _ => return .notImplemented
  -- undefined values have no order, and strict ones are not even equal to anything
  let withUndefined (u : Undefined) (otherwise : Run Value) : Run Value :=
    match op with
    | .eq | .ne => if u.strict then failUndefined u else otherwise
    | _ => failUndefined u
  match a.numeric?, b.numeric? with
  | some x, some y => ofOrder (x.order y)
  | _, _ =>
    match a.text?, b.text? with
    | some s, some t => ofOrder (some (compareTexts s t))
    | _, _ =>
      match a, b with
      | .bytes x, .bytes y => ofOrder (some (compareNats (x.map UInt8.toNat) (y.map UInt8.toNat)))
      | .ref i, .ref j =>
        match ← Run.load i, ← Run.load j with
        | .list xs, .list ys =>
          match op with
          | .eq | .ne =>
            if xs.size ≠ ys.size then equality false
            else equality (← equalLists m xs.toList ys.toList)
          | _ => compareLists m op xs.toList ys.toList
        | .tuple _ xs, .tuple _ ys => compareLists m op xs ys
        | .deque xs _, .deque ys _ => compareLists m op xs ys
        | .dict f d, .dict g e =>
          match op with
          | .eq | .ne =>
            if d.size ≠ e.size then equality false
            else
              let agrees ← d.entries.allM fun (k, _, x) =>
                match e.get? k with
                | some y => m.matches x y
                | none => return false
              let ordered := match f, g with
                | .ordered, .ordered => d.keys == e.keys
                | _, _ => true
              equality (agrees && ordered)
          | _ => return .notImplemented
        | .range .., .range .. => equality ((← a.key) == (← b.key))
        | .date x, .date y => ofOrder (some (Ord.compare x.number y.number))
        | .datetime x, .datetime y =>
          match x.offset, y.offset with
          | none, none => ofOrder (some (Ord.compare x.micros y.micros))
          | some _, some _ => ofOrder (some (Ord.compare x.moment y.moment))
          | _, _ =>
            match op with
            | .eq | .ne => equality false
            | _ => Run.typeError "can't compare offset-naive and offset-aware datetimes"
        | .datetime _, .date _ | .date _, .datetime _ =>
          match op with
          | .eq | .ne => equality false
          | _ => Run.typeError "can't compare datetime.datetime to datetime.date"
        | .time x _, .time y _ => ofOrder (some (Ord.compare x.micros y.micros))
        | .span x, .span y => ofOrder (some (Ord.compare x.micros y.micros))
        | .zone x _, .zone y _ => equality (x == y)
        | .complex r s, .complex t u => equality (r == t && s == u)
        | .comparable f x, .comparable _ y =>
          let r ← m.apply f [x, y]
          m.compare op r (.int 0)
        | .builtinMethod .., .builtinMethod .. => equality ((← a.key) == (← b.key))
        | .method .., .method .. => equality ((← a.key) == (← b.key))
        | .slice x y z, .slice x' y' z' => compareLists m op [x, y, z] [x', y', z']
        | .undefined u, .undefined w =>
          withUndefined u do
            if w.strict then failUndefined w
            equality (u.lenience == w.lenience)
        | .undefined u, _ => withUndefined u (equality false)
        | _, .undefined u => withUndefined u (return .notImplemented)
        | .namespaceObj _, .namespaceObj _ => equality (i == j)
        | .instance .., _ | _, .instance .. =>
          let x ← a.payload
          let y ← b.payload
          if x.same a && y.same b then
            match op with
            | .eq | .ne => if i == j then equality true else return .notImplemented
            | _ => return .notImplemented
          else m.compare op x y
        | _, _ =>
          match ← setMembers? a, ← setMembers? b with
          | some x, some y => return .bool (compareSets op x y)
          | _, _ => if i == j then equality true else return .notImplemented
      | .ref i, _ =>
        match ← Run.load i with
        | .undefined u => withUndefined u (return .notImplemented)
        | .complex re im =>
          match b.numeric? with
          | some (.whole n) => equality (im == 0.0 && Number.compareIntFloat n re == some .eq)
          | some (.real x) => equality (im == 0.0 && re == x)
          | none => return .notImplemented
        | .instance .. =>
          let x ← a.payload
          if x.same a then return .notImplemented else m.compare op x b
        | _ => return .notImplemented
      | _, .ref j =>
        match ← Run.load j with
        | .undefined u => withUndefined u (return .notImplemented)
        | .complex re im =>
          match a.numeric? with
          | some (.whole n) => equality (im == 0.0 && Number.compareIntFloat n re == some .eq)
          | some (.real x) => equality (im == 0.0 && re == x)
          | none => return .notImplemented
        | .instance .. =>
          let y ← b.payload
          if y.same b then return .notImplemented else m.compare op a y
        | _ => return .notImplemented
      | _, _ => if a.same b then equality true else return .notImplemented

/-- The comparison as a script's class defines it for its instances. -/
private def compareDefined (m : Machine) (op : Comparison) (a b : Value) : Run Value := do
  match ← ownMethod? a op.method with
  | some f => m.apply f [a, b]
  | none =>
    match op with
    | .ne =>
      -- unequal is the opposite of equal where only the latter is defined
      match ← ownMethod? a Comparison.eq.method with
      | some f =>
        let r ← m.apply f [a, b]
        match r with
        | .notImplemented => return r
        | _ => return .bool (!(← r.truthy))
      | none => return .notImplemented
    | _ => return .notImplemented

/-- The comparison of two values: by the first operand's class, by the second's with the operands
exchanged, and by their kinds. -/
def compareValues (m : Machine) (op : Comparison) (a b : Value) : Run Value := do
  let defined (x : Value) : Run Bool := do
    return (← ownMethod? x op.method).isSome || (← ownMethod? x op.swap.method).isSome ||
      (op == .ne && (← ownMethod? x Comparison.eq.method).isSome)
  let fallback : Run Value := do
    match op with
    | .eq => return .bool (a.same b)
    | .ne => return .bool !(a.same b)
    | _ => Run.typeError ("'" ++ op.sign ++ "' not supported between instances of '" ++
        (← a.kindName) ++ "' and '" ++ (← b.kindName) ++ "'")
  if (← defined a) || (← defined b) then
    let secondFirst ← do
      let ca ← Value.classOf a
      let cb ← Value.classOf b
      if ca.same cb then pure false else Value.isSubclass cb ca
    let attempt (first : Bool) : Run Value :=
      if first then compareDefined m op a b else compareDefined m op.swap b a
    match ← attempt !secondFirst with
    | .notImplemented =>
      match ← attempt secondFirst with
      | .notImplemented =>
        match ← compareOwn m op a b with
        | .notImplemented => fallback
        | r => return r
      | r => return r
    | r => return r
  else
    match ← compareOwn m op a b with
    | .notImplemented =>
      match ← compareOwn m op.swap b a with
      | .notImplemented => fallback
      | r => return r
    | r => return r

/-- Does the comparison hold? -/
def Machine.test (m : Machine) (op : Comparison) (a b : Value) : Run Bool := do
  (← m.compare op a b).truthy

end Stepwise
