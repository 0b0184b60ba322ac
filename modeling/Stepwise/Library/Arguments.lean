import Stepwise.Run.Convert
import Stepwise.Script.Tree
/-!
# Arguments of calls

Functions say how many arguments they take and under which names. Those of the library and those
of scripts count them in different words.
-/

namespace Stepwise

namespace Args

def plural (n : Nat) (word : String) : String := toString n ++ " " ++ word ++ (if n = 1 then "" else "s")

/-- Refuses arguments by name. -/
def noNames (a : Args) (label : String) : Run Unit := do
  if !a.named.isEmpty then Run.typeError (label ++ "() takes no keyword arguments")

/-- No argument at all. -/
def none (a : Args) (label : String) : Run Unit := do
  a.noNames label
  if !a.pos.isEmpty then
    Run.typeError (label ++ "() takes no arguments (" ++ toString a.pos.length ++ " given)")

/-- A single argument by position. -/
def one (a : Args) (label : String) : Run Value := do
  a.noNames label
  match a.pos with
  | [x] => return x
  | xs => Run.typeError (label ++ "() takes exactly one argument (" ++ toString xs.length ++ " given)")

/-- From `lo` to `hi` arguments by position; missing ones are left out. -/
def between (a : Args) (label : String) (lo hi : Nat) (owner : String := "") : Run (List (Option Value)) := do
  a.noNames (owner ++ label)
  let n := a.pos.length
  if n < lo || hi < n then
    let bound := if lo = hi then "" else if n < lo then "at least " else "at most "
    Run.typeError (label ++ " expected " ++ bound ++ plural (if n < lo then lo else hi) "argument" ++
      ", got " ++ toString n)
  return a.pos.map some ++ List.replicate (hi - n) Option.none

/-- Arguments that may also be given by name. The first `required` must be there; beyond `byPosition`
they have names only. -/
def bound (a : Args) (label : String) (names : List String) (required : Nat := 0)
    (byPosition : Option Nat := Option.none) : Run (List (Option Value)) := do
  let most := byPosition.getD names.length
  let given := a.pos.length
  if given > most then
    if most = 0 then Run.typeError (label ++ "() takes no positional arguments")
    let few := if required = most && byPosition.isNone then "exactly " else "at most "
    let total := given + a.named.length
    Run.typeError (label ++ "() takes " ++ few ++ plural most (if byPosition.isSome then "positional argument" else "argument")
      ++ " (" ++ toString (if byPosition.isSome then given else total) ++ " given)")
  match a.named.find? (fun (k, _) => !names.contains k) with
  | some (k, _) => Run.typeError ("'" ++ k ++ "' is an invalid keyword argument for " ++ label ++ "()")
  | Option.none => pure ()
  match (names.take given).zipIdx.find? (fun (n, _) => (a.named.lookup n).isSome) with
  | some (n, i) =>
    Run.typeError ("argument for " ++ label ++ "() given by name ('" ++ n ++ "') and position (" ++
      toString (i + 1) ++ ")")
  | Option.none => pure ()
  let values := names.zipIdx.map fun (n, i) => (a.pos[i]?).orElse fun _ => a.named.lookup n
  match ((values.zip names).take required).zipIdx.find? (fun ((v, _), _) => v.isNone) with
  | some ((_, n), i) =>
    Run.typeError (label ++ "() missing required argument '" ++ n ++ "' (pos " ++ toString (i + 1) ++ ")")
  | Option.none => return values

end Args

/-! ## Functions with signatures -/

namespace Script.Signature

/-- `'a', 'b', and 'c'`. -/
private def listing (names : List String) : String :=
  let quoted := names.map fun n => "'" ++ n ++ "'"
  match quoted with
  | [] => ""
  | [a] => a
  | [a, b] => a ++ " and " ++ b
  | qs => Text.joinWith ", " qs.dropLast ++ ", and " ++ qs.getLast?.getD ""

private def tooMany {α : Type} (s : Signature) (label : String) (defaults given namedOnly : Nat) : Run α := do
  let size := s.positionalOnly.length + s.positional.length
  let least := size - defaults
  let takes := if defaults > 0 then "from " ++ toString least ++ " to " ++ toString size else toString size
  let one := if defaults > 0 then false else size = 1
  let word := if one then "positional argument" else "positional arguments"
  let got :=
    if namedOnly > 0 then
      Args.plural given "positional argument" ++ " (and " ++ Args.plural namedOnly "keyword-only argument" ++ ") were"
    else toString given ++ (if given = 1 then " was" else " were")
  Run.typeError (label ++ "() takes " ++ takes ++ " " ++ word ++ " but " ++ got ++ " given")

private def lacking {α : Type} (label kind : String) (names : List String) : Run α :=
  Run.typeError (label ++ "() missing " ++ toString names.length ++ " required " ++ kind ++ " argument" ++
    (if names.length = 1 then "" else "s") ++ ": " ++ listing names)

/-- Gives every parameter its value, in the order of the parameters. -/
def assign (s : Signature) (label : String) (defaults : List Value)
    (keywordDefaults : List (String × Value)) (a : Args) : Run (List (String × Value)) := do
  let places := s.positionalOnly ++ s.positional
  let byPosition := places.zip a.pos
  let extra := a.pos.drop places.length
  let named := s.positional ++ s.keywordOnly
  -- arguments by name
  let (taken, others) ← a.named.foldlM (fun (taken, others) (k, v) => do
    if named.contains k then
      if (byPosition.lookup k).isSome || (taken.lookup k).isSome then
        Run.typeError (label ++ "() got multiple values for argument '" ++ k ++ "'")
      return ((k, v) :: taken, others)
    else if s.keywordRest.isSome then return (taken, (k, v) :: others)
    else
      let hidden := s.positionalOnly.filter fun n => (a.named.lookup n).isSome
      if hidden.isEmpty then
        Run.typeError (label ++ "() got an unexpected keyword argument '" ++ k ++ "'")
      else
        Run.typeError (label ++ "() got some positional-only arguments passed as keyword arguments: '" ++
          Text.joinWith ", " hidden ++ "'")) (([], []) : List (String × Value) × List (String × Value))
  if !extra.isEmpty && s.rest.isNone then
    let namedOnly := (s.keywordOnly.filter fun n => (taken.lookup n).isSome).length
    s.tooMany label defaults.length a.pos.length namedOnly
  let withDefaults := (places.drop (places.length - defaults.length)).zip defaults
  let value (n : String) : Option Value :=
    ((byPosition.lookup n).orElse fun _ => taken.lookup n).orElse fun _ => withDefaults.lookup n
  let missing := places.filter fun n => (value n).isNone
  if !missing.isEmpty then lacking label "positional" missing
  let valueOnly (n : String) : Option Value := (taken.lookup n).orElse fun _ => keywordDefaults.lookup n
  let missing := s.keywordOnly.filter fun n => (valueOnly n).isNone
  if !missing.isEmpty then lacking label "keyword-only" missing
  let rest ← s.rest.mapM fun n => do return (n, ← Run.tuple extra)
  let keywordRest ← s.keywordRest.mapM fun n => do return (n, ← Run.dict (Dict.ofTexts others.reverse))
  return places.map (fun n => (n, (value n).getD .null)) ++
    s.keywordOnly.map (fun n => (n, (valueOnly n).getD .null)) ++ rest.toList ++ keywordRest.toList

end Script.Signature

/-- The values of a library function that is called as those of scripts are. -/
def Args.assigned (a : Args) (label : String) (required : List String)
    (optional : List (String × Value)) (namedOnly : List (String × Value) := []) :
    Run (List (String × Value)) :=
  Script.Signature.assign { positional := required ++ optional.map (·.1), keywordOnly := namedOnly.map (·.1) }
    label (optional.map (·.2)) namedOnly a

/-- The values of a method that is called as functions of scripts are: the owner counts as an argument. -/
def Args.assignedOf (a : Args) (label : String) (required : List String) (optional : List (String × Value)) :
    Run (List (String × Value)) := do
  let given ← ({ a with pos := .null :: a.pos } : Args).assigned label ("self" :: required) optional
  return given.drop 1

end Stepwise
