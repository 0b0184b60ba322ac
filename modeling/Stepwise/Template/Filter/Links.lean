import Stepwise.Pattern.Read
import Stepwise.Pattern.Search
import Stepwise.Template.Operand
/-!
# Links in texts

Words of a text that are addresses become links. Brackets and points around an address stay outside
of the link, as long as its own brackets are balanced.
-/

namespace Stepwise.Template.Filter

/-- A pattern that is known to read well. -/
private def known (ignoreCase : Bool) (s : String) : Pattern.Compiled :=
  match Pattern.read { ignoreCase } s.toList with
  | .ok p => p
  | .error _ => default

private def fits (p : Pattern.Compiled) (s : List Char) : Bool :=
  (p.find? ⟨s.toArray, s.length⟩ 0 .atStart false).isSome

/-- What an address of a page looks like: with a scheme, with `www`, or under a common domain. -/
private def pagePattern : Pattern.Compiled :=
  known true <|
    "^((https?://|www\\.)(([\\w%-]+\\.)+)?([a-z]\x7b2,63\x7d|xn--[\\w%]\x7b2,59\x7d)" ++
    "|([\\w%-]\x7b2,63\x7d\\.)+(com|net|int|edu|gov|org|info|mil)" ++
    "|(https?://)((([\\d]\x7b1,3\x7d)(\\.[\\d]\x7b1,3\x7d)\x7b3\x7d)" ++
    "|(\\[([\\da-f]\x7b0,4\x7d:)\x7b2\x7d([\\da-f]\x7b0,4\x7d:?)\x7b1,6\x7d])))" ++
    "(?::[\\d]\x7b1,5\x7d)?(?:[/?#]\\S*)?$"

private def mailPattern : Pattern.Compiled := known false "^\\S+@\\w[\\w.-]*\\.\\w+$"

private def schemePattern : Pattern.Compiled := known false "^([\\w.+-]\x7b2,\x7d:(/)\x7b0,2\x7d)$"

/-! ## Words -/

/-- A word between what stands around it. -/
private structure Word where
  head : List Char
  middle : List Char
  tail : List Char

private def openings : List (List Char) := [['('], ['<'], "&lt;".toList]
private def closings : List (List Char) := [[')'], ['>'], ['.'], [','], ['\n'], "&gt;".toList]

/-- What stands in front, piece by piece. -/
private def cutFront (pieces : List (List Char)) : Nat → List Char → List Char × List Char
  | 0, s => ([], s)
  | fuel + 1, s =>
    match pieces.findSome? fun p => (Text.afterStart? p s).map fun r => (p, r) with
    | some (p, r) =>
      let (front, rest) := cutFront pieces fuel r
      (p ++ front, rest)
    | none => ([], s)

private def wordOf (s : List Char) : Word :=
  let (head, middle) := cutFront openings s.length s
  let (behind, front) := cutFront (closings.map List.reverse) middle.length middle.reverse
  ⟨head, front.reverse, behind.reverse⟩

/-- Moves closing brackets back into the word, as many as it has opening ones. -/
private def balance (opening closing : List Char) : Nat → List Char × List Char → List Char × List Char
  | 0, p => p
  | n + 1, (middle, tail) =>
    match Text.cutFirst closing tail with
    | some (before, after) => balance opening closing n (middle ++ before ++ closing, after)
    | none => (middle, tail)

private def balanced (w : Word) : Word :=
  let pairs : List (List Char × List Char) := [(['('], [')']), (['<'], ['>']), ("&lt;".toList, "&gt;".toList)]
  let (middle, tail) := pairs.foldl (fun (middle, tail) (o, c) =>
    let opened := Text.countOf o middle
    if opened ≤ Text.countOf c middle then (middle, tail)
    else balance o c (min opened (Text.countOf c tail)) (middle, tail)) (w.middle, w.tail)
  { w with middle, tail }

/-! ## Links -/

/-- How links are written. -/
private structure LinkStyle where
  /-- The attributes of a link besides its address. -/
  attributes : String
  limit : Option Int
  schemes : List String

private def anchor (address attributes text : String) : String :=
  "<a href=\"" ++ address ++ "\"" ++ attributes ++ ">" ++ text ++ "</a>"

private def shortened (limit : Option Int) (s : List Char) : String :=
  match limit with
  | none => String.ofList s
  | some n =>
    if Int.ofNat s.length > n then
      let kept := if n ≥ 0 then s.take n.toNat else s.take (s.length - n.natAbs)
      String.ofList kept ++ "..."
    else String.ofList s

private def linked (style : LinkStyle) (s : List Char) : String :=
  let text := String.ofList s
  let starts (p : String) : Bool := p.isPrefixOf text
  if fits pagePattern s then
    let address := if starts "https://" || starts "http://" then text else "https://" ++ text
    anchor address style.attributes (shortened style.limit s)
  else
    let address := s.drop "mailto:".length
    if starts "mailto:" && fits mailPattern address then anchor text "" (String.ofList address)
    else if s.contains '@' && !starts "www." && !starts "@" && !s.contains ':' && fits mailPattern s then
      anchor ("mailto:" ++ text) "" text
    else style.schemes.foldl (fun t scheme =>
      if t != scheme && scheme.isPrefixOf t then anchor t style.attributes t else t) text

private def wordLinked (style : LinkStyle) (s : List Char) : String :=
  let w := balanced (wordOf s)
  String.ofList w.head ++ linked style w.middle ++ String.ofList w.tail

/-! ## The filter -/

/-- The relations of links: those that are asked for and that of the environment, sorted. -/
private def relations (asked : String) (noFollow : Bool) : String :=
  let words := (Text.splitBlank none asked.toList).map String.ofList
  let all := (words ++ (if noFollow then ["nofollow"] else []) ++ ["noopener"]).eraseDups
  Text.joinWith " " (all.mergeSort fun a b => compareTexts a b != .gt)

private def textOr (v : Option Value) (default : String) : Run String :=
  match v with
  | some v => v.plain
  | none => return default

/-- Makes links of the addresses in a text. -/
def urlize (a : Application) : Run Value := do
  let noFollow ← (a.argument "nofollow" (.bool false)).truthy
  let rel := relations (← textOr (a.present? "rel") "") noFollow
  let schemes ← match a.present? "extra_schemes" with
    | none => pure []
    | some v => do (← a.machine.collect v).mapM Value.plain
  match schemes.find? fun s => !fits schemePattern s.toList with
  | some s => Run.raise Classes.filterArgumentError (Text.quoted s ++ " is not a valid URI scheme prefix.")
  | none => pure ()
  let limit ← match a.present? "trim_url_limit" with
    | none => pure none
    | some v => do pure (some (← v.index))
  let target ← match a.present? "target" with
    | none => pure ""
    | some v => do if ← v.truthy then pure (" target=\"" ++ (← escapedText v) ++ "\"") else pure ""
  let style : LinkStyle := { attributes := " rel=\"" ++ Text.escapeHtml rel ++ "\"" ++ target, limit, schemes }
  let s := (← escapedText a.value).toList
  let pieces := s.splitBy fun c d => Text.isBlank c == Text.isBlank d
  let done := pieces.map fun p => match p with
    | c :: _ => if Text.isBlank c then String.ofList p else wordLinked style p
    | [] => ""
  return textValue (← a.escapes) (String.join done)

end Stepwise.Template.Filter
