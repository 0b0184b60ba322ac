import Stepwise.Library.Arguments
import Stepwise.Pattern.Replacement
import Stepwise.Pattern.Search
import Stepwise.Run.Index
/-!
# Searching texts with patterns

The functions that take a pattern and a text, and the methods of patterns and of matches.
-/

namespace Stepwise.Patterns

open Pattern

def flagValues : List (String × Value) :=
  [("A", .int 256), ("ASCII", .int 256), ("I", .int 2), ("IGNORECASE", .int 2), ("M", .int 8),
   ("MULTILINE", .int 8), ("S", .int 16), ("DOTALL", .int 16), ("X", .int 64), ("VERBOSE", .int 64),
   ("U", .int 32), ("UNICODE", .int 32), ("NOFLAG", .int 0)]

def functions : List String :=
  ["compile", "escape", "findall", "finditer", "fullmatch", "match", "purge", "search", "split", "sub", "subn"]

def patternMethods : List String :=
  ["findall", "finditer", "fullmatch", "match", "search", "split", "sub", "subn"]

def matchMethods : List String := ["end", "expand", "group", "groupdict", "groups", "span", "start"]

/-! ## Compiling -/

private def raiseFault {α : Type} (f : Fault) (s : List Char) : Run α := do
  let where' (n : Nat) : List (String × Value) :=
    let before := s.take n
    [("pos", .int n), ("lineno", .int (before.filter (· == '\n')).length.succ),
     ("colno", .int ((before.reverse.takeWhile (· != '\n')).length + 1))]
  Run.raiseWith "re.error" [.str (f.text s)]
    ([("msg", .str f.message), ("pattern", .str (String.ofList s))] ++
      (f.position.map where').getD [("pos", .null), ("lineno", .null), ("colno", .null)])

private def compileText (s : String) (flags : Nat) : Run Compiled :=
  match Pattern.read (Flags.ofNat flags) s.toList with
  | .ok p => return p
  | .error (.fault f) => raiseFault f s.toList
  | .error .tooMany => Run.overflowError "the repetition number is too large"

/-- The pattern object that a value stands for, and the pattern. -/
def compile (v : Value) (flags : Nat) : Run (Addr × Compiled) := do
  match v with
  | .str s | .markup s =>
    let p ← compileText s flags
    return (← Run.alloc (.pattern s p.flags.toNat), p)
  | .ref a =>
    match ← Run.load a with
    | .pattern s f =>
      if flags ≠ 0 then Run.valueError "cannot process flags argument with a compiled pattern"
      return (a, ← compileText s f)
    | _ => Run.typeError "first argument must be string or compiled pattern"
  | _ => Run.typeError "first argument must be string or compiled pattern"

private def subjectOf (v : Value) : Run String := do
  match ← v.payload with
  | .str s | .markup s => return s
  | .bytes _ => Run.typeError "cannot use a string pattern on a bytes-like object"
  | v => Run.typeError ("expected string or bytes-like object, got '" ++ (← v.kindName) ++ "'")

/-! ## Matches -/

private def makeMatch (a : Addr) (p : Compiled) (s : String) (start stop : Nat) (m : Marks) : Run Value :=
  Run.new (.match_ a s m.groups.toList p.names m.last start stop)

private def cut (s : Array Char) (x y : Nat) : String := String.ofList ((s.toList.drop x).take (y - x))

private def spanOf (m : Marks) : Nat × Nat := (m.groups.getD 0 none).getD (0, 0)

/-- The text of a group; empty if it did not match. -/
private def groupOr (s : Array Char) (m : Marks) (g : Nat) (missing : Value) : Value :=
  match m.groups.getD g none with
  | some (x, y) => .str (cut s x y)
  | none => missing

/-- What `findall` lists of a match: the whole, the only group, or all groups. -/
private def listed (p : Compiled) (s : Array Char) (m : Marks) : Run Value := do
  match p.groups with
  | 0 => return groupOr s m 0 (.str "")
  | 1 => return groupOr s m 1 (.str "")
  | n => Run.tuple ((List.range' 1 n).map fun g => groupOr s m g (.str ""))

private def filled (s : Array Char) (m : Marks) (pieces : List Piece) : String :=
  String.join (pieces.map fun
    | .text cs => String.ofList cs
    | .group g =>
      match m.groups.getD g none with
      | some (x, y) => cut s x y
      | none => "")

private def piecesOf (p : Compiled) (s : String) : Run (List Piece) :=
  match readReplacement p s.toList with
  | .ok ps => return ps
  | .error (.fault f) => raiseFault f s.toList
  | .error (.unknownName n) => Run.indexError ("unknown group name " ++ Text.quoted n)

/-- Replaces matches, at most `limit` of them unless that is zero: the text, and their number. -/
private def substitute (mach : Machine) (a : Addr) (p : Compiled) (repl : Value) (s : String) (limit : Nat) :
    Run (String × Nat) := do
  let chars := s.toList.toArray
  let found := p.findAll ⟨chars, chars.size⟩ 0
  let found := if limit = 0 then found else found.take limit
  let make : Marks → Run String ← do
    match ← repl.payload with
    | .str r | .markup r =>
      if r.toList.contains '\\' then
        let ps ← piecesOf p r
        pure fun m => return filled chars m ps
      else pure fun _ => return r
    | f =>
      if ← f.isCallable then
        pure fun m => do
          let v ← mach.apply f [← makeMatch a p s 0 chars.size m]
          match v.text? with
          | some t => return t
          | none =>
            if v.isNull then return ""
            else Run.typeError ("sequence item 0: expected str instance, " ++ (← v.kindName) ++ " found")
      else
        Run.typeError ("decoding to str: need a bytes-like object, " ++ (← f.kindName) ++ " found")
  let (parts, last) ← found.foldlM (fun ((parts, last) : List String × Nat) m => do
    let (x, y) := spanOf m
    return (parts ++ [cut chars last x, ← make m], y)) ([], 0)
  return (String.join (parts ++ [cut chars last chars.size]), found.length)

private def splitText (p : Compiled) (s : String) (limit : Nat) : Run Value := do
  let chars := s.toList.toArray
  let found := p.findAll ⟨chars, chars.size⟩ 0
  let found := if limit = 0 then found else found.take limit
  let (parts, last) := found.foldl (fun ((parts, last) : List Value × Nat) m =>
    let (x, y) := spanOf m
    let groups := (List.range' 1 p.groups).map fun g => groupOr chars m g .null
    (parts ++ (.str (cut chars last x) :: groups), y)) ([], 0)
  Run.list (parts ++ [.str (cut chars last chars.size)])

/-- The part of a text that a search may look at. -/
private def bounds (size : Nat) (lo hi : Option Value) : Run (Nat × Nat) := do
  let clamp (v : Option Value) (default : Nat) : Run Nat := do
    match v with
    | none => return default
    | some v =>
      let n ← v.index
      return min size n.toNat
  return (← clamp lo 0, ← clamp hi size)

private def value (args : List (Option Value)) (i : Nat) : Value := (args.getD i none).getD .null

private def countOf (v : Option Value) : Run Nat := do
  match v with
  | none => return 0
  | some v => return (← v.size).toNat

private def lookFor (a : Addr) (p : Compiled) (anchor : Anchor) (s : String) (lo hi : Option Value) :
    Run Value := do
  let chars := s.toList.toArray
  let (x, y) ← bounds chars.size lo hi
  match p.find? ⟨chars, y⟩ x anchor false with
  | some m => makeMatch a p s x y m
  | none => return .null

private def findAll (p : Compiled) (s : String) (lo hi : Option Value) : Run Value := do
  let chars := s.toList.toArray
  let (x, y) ← bounds chars.size lo hi
  Run.list (← (p.findAll ⟨chars, y⟩ x).mapM (listed p chars))

private def findIter (a : Addr) (p : Compiled) (s : String) (lo hi : Option Value) : Run Value := do
  let chars := s.toList.toArray
  let (x, y) ← bounds chars.size lo hi
  let ms ← (p.findAll ⟨chars, y⟩ x).mapM (makeMatch a p s x y)
  Run.new (.cursor "callable_iterator" (.values ms))

/-! ## The functions -/

private def flagsOf (v : Value) : Run Nat := do
  match v.int? with
  | some n =>
    if n < 0 then Run.valueError "cannot use LOCALE flag with a str pattern"
    return n.toNat
  | none =>
    Run.typeError ("unsupported operand type(s) for &: '" ++ (← v.kindName) ++ "' and 'RegexFlag'")

private def special : List Char := "()[]\x7b\x7d?*+-|^$\\.&~# \t\n\r\x0b\x0c".toList

/-- Puts a backslash before every character that means something in a pattern. -/
def escapeChars (s : List Char) : List Char :=
  s.flatMap fun c => if special.contains c then ['\\', c] else [c]

/-- Calls a function that takes a pattern. -/
def call (mach : Machine) (name : String) (args : Args) : Run Value := do
  let zero : List (String × Value) := [("flags", .int 0)]
  match name with
  | "purge" => return .null
  | "escape" =>
    let given ← args.assigned name ["pattern"] []
    match (given.lookup "pattern").getD .null with
    | .str s | .markup s => return .str (String.ofList (escapeChars s.toList))
    | .bytes b =>
      let cs := escapeChars (b.map fun x => Char.ofNat x.toNat)
      return .bytes (cs.map fun c => c.toNat.toUInt8)
    | v => Run.typeError ("decoding to str: need a bytes-like object, " ++ (← v.kindName) ++ " found")
  | "compile" =>
    let given ← args.assigned name ["pattern"] zero
    let (a, _) ← compile ((given.lookup "pattern").getD .null) (← flagsOf ((given.lookup "flags").getD .null))
    return .ref a
  | _ =>
    let (required, optional) : List String × List (String × Value) := match name with
      | "sub" | "subn" => (["pattern", "repl", "string"], ("count", .int 0) :: zero)
      | "split" => (["pattern", "string"], ("maxsplit", .int 0) :: zero)
      | _ => (["pattern", "string"], zero)
    let given ← args.assigned name required optional
    let get (n : String) : Value := (given.lookup n).getD .null
    let (a, p) ← compile (get "pattern") (← flagsOf (get "flags"))
    match name with
    | "sub" | "subn" =>
      let n ← countOf (some (get "count"))
      let (t, k) ← substitute mach a p (get "repl") (← subjectOf (get "string")) n
      if name == "sub" then return .str t else Run.tuple [.str t, .int k]
    | "split" => splitText p (← subjectOf (get "string")) (← countOf (some (get "maxsplit")))
    | "findall" => findAll p (← subjectOf (get "string")) none none
    | "finditer" => findIter a p (← subjectOf (get "string")) none none
    | "fullmatch" => lookFor a p .whole (← subjectOf (get "string")) none none
    | "match" => lookFor a p .atStart (← subjectOf (get "string")) none none
    | _ => lookFor a p .anywhere (← subjectOf (get "string")) none none

/-- Calls a method of a pattern. -/
def callPattern (mach : Machine) (a : Addr) (text : String) (flags : Nat) (name : String) (args : Args) :
    Run Value := do
  let p ← compileText text flags
  match name with
  | "sub" | "subn" =>
    let given ← args.bound name ["repl", "string", "count"] 2
    let n ← countOf (given.getD 2 none)
    let (t, k) ← substitute mach a p (value given 0) (← subjectOf (value given 1)) n
    if name == "sub" then return .str t else Run.tuple [.str t, .int k]
  | "split" =>
    let given ← args.bound name ["string", "maxsplit"] 1
    splitText p (← subjectOf (value given 0)) (← countOf (given.getD 1 none))
  | _ =>
    let given ← args.bound name ["string", "pos", "endpos"] 1
    let s ← subjectOf (value given 0)
    let lo := given.getD 1 none
    let hi := given.getD 2 none
    match name with
    | "findall" => findAll p s lo hi
    | "finditer" => findIter a p s lo hi
    | "fullmatch" => lookFor a p .whole s lo hi
    | "match" => lookFor a p .atStart s lo hi
    | _ => lookFor a p .anywhere s lo hi

/-- The parts of a pattern that are read like fields. -/
def patternField? (text : String) (flags : Nat) (name : String) : Run (Option Value) := do
  match name with
  | "pattern" => return some (.str text)
  | "flags" => return some (.int flags)
  | "groups" => return some (.int (← compileText text flags).groups)
  | "groupindex" =>
    let p ← compileText text flags
    return some (← Run.dict (Dict.ofTexts (p.names.map fun (n, g) => (n, .int g))))
  | _ => return none

/-- The parts of a match that are read like fields. -/
def matchField? (pattern : Addr) (subject : String) (groups : List (Option (Nat × Nat)))
    (names : List (String × Nat)) (last : Option Nat) (start stop : Nat) (name : String) :
    Run (Option Value) := do
  match name with
  | "string" => return some (.str subject)
  | "re" => return some (.ref pattern)
  | "pos" => return some (.int start)
  | "endpos" => return some (.int stop)
  | "lastindex" => return some ((last.map fun n => Value.int n).getD .null)
  | "lastgroup" =>
    return some (((last.bind fun g => names.find? (·.2 == g)).map fun (n, _) => Value.str n).getD .null)
  | "regs" =>
    let spans ← groups.mapM fun
      | some (x, y) => Run.tuple [.int x, .int y]
      | none => Run.tuple [.int (-1), .int (-1)]
    return some (← Run.tuple spans)
  | _ => return none

/-- Calls a method of a match. -/
def callMatch (pattern : Addr) (subject : String) (groups : List (Option (Nat × Nat)))
    (names : List (String × Nat)) (name : String) (args : Args) : Run Value := do
  let number (v : Option Value) : Run Nat := do
    match v with
    | none => return 0
    | some v => groupOf groups names v
  let span (g : Nat) : Int × Int :=
    match groups.getD g none with
    | some (x, y) => (x, y)
    | none => (-1, -1)
  let label := "Match." ++ name
  match name with
  | "group" =>
    args.noNames label
    match args.pos with
    | [] => return groupText subject groups 0
    | [v] => return groupText subject groups (← groupOf groups names v)
    | vs => Run.tuple (← vs.mapM fun v => do return groupText subject groups (← groupOf groups names v))
  | "start" => return .int (span (← number ((← args.between name 0 1 "Match.").headD none))).1
  | "end" => return .int (span (← number ((← args.between name 0 1 "Match.").headD none))).2
  | "span" =>
    let (x, y) := span (← number ((← args.between name 0 1 "Match.").headD none))
    Run.tuple [.int x, .int y]
  | "groups" =>
    let default := value (← args.bound name ["default"]) 0
    Run.tuple ((List.range' 1 (groups.length - 1)).map fun g =>
      match groups.getD g none with
      | some _ => groupText subject groups g
      | none => default)
  | "groupdict" =>
    let default := value (← args.bound name ["default"]) 0
    Run.dict (Dict.ofTexts (names.map fun (n, g) =>
      (n, match groups.getD g none with
        | some _ => groupText subject groups g
        | none => default)))
  | _ =>
    let v ← args.one label
    match v.text? with
    | none => Run.typeError ("decoding to str: need a bytes-like object, " ++ (← v.kindName) ++ " found")
    | some s =>
      let (_, p) ← compile (.ref pattern) 0
      let chars := subject.toList.toArray
      return .str (filled chars ⟨groups.toArray, none⟩ (← piecesOf p s))

end Stepwise.Patterns
