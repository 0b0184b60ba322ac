import Stepwise.Text.Quoted
import Stepwise.Text.Utf8
/-!
# Texts as bytes and back

Three ways to write a text in bytes, and what to do where a text or a byte has no counterpart.
-/

namespace Stepwise.Text

inductive Codec where
  | utf8 | ascii | latin1
  deriving DecidableEq, Inhabited

namespace Codec

/-- Codecs have several names; case and the kind of dash do not matter. -/
def ofName? (name : String) : Option Codec :=
  let plain := name.toList.map fun c => if c == '_' || c == ' ' then '-' else c.toLower
  match String.ofList plain with
  | "utf-8" | "utf8" | "u8" | "utf" | "cp65001" | "utf-8-sig" => some utf8
  | "ascii" | "us-ascii" | "646" => some ascii
  | "latin-1" | "latin1" | "iso-8859-1" | "iso8859-1" | "8859" | "cp819" | "latin" | "l1" | "iso88591" =>
    some latin1
  | _ => none

/-- The name of a codec in messages. -/
def label : Codec → String
  | utf8 => "utf-8"
  | ascii => "ascii"
  | latin1 => "latin-1"

/-- The number of code points that have a byte of their own. -/
def range : Codec → Nat
  | utf8 => 0x110000
  | ascii => 128
  | latin1 => 256

end Codec

/-- What stands for something that has no counterpart. -/
inductive OnFault where
  | strict | ignore | replace | references | escapes | names
  deriving DecidableEq, Inhabited

def OnFault.ofName? : String → Option OnFault
  | "strict" => some .strict
  | "ignore" => some .ignore
  | "replace" => some .replace
  | "xmlcharrefreplace" => some .references
  | "backslashreplace" => some .escapes
  | "namereplace" => some .names
  | _ => none

/-- Why a text cannot be written, or bytes cannot be read: from where to where, and the reason. -/
structure CodecFault where
  start : Nat
  stop : Nat
  reason : String
  deriving DecidableEq, Inhabited

private def substitute (h : OnFault) (c : Char) : List Char :=
  match h with
  | .strict | .ignore => []
  | .replace => ['?']
  | .references => ("&#" ++ toString c.toNat ++ ";").toList
  | .escapes | .names => escapeNonAscii [c]

private def bytesOf (s : List Char) : List UInt8 := s.map fun c => c.toNat.toUInt8

/-- The run of characters without a byte at the start of a text. -/
private def misfits (k : Codec) (s : List Char) : Nat :=
  (s.takeWhile fun c => k.range ≤ c.toNat).length

private def encodeFrom (k : Codec) (h : OnFault) (i : Nat) : List Char → List UInt8 →
    Except CodecFault (List UInt8)
  | [], acc => .ok acc.reverse
  | c :: rest, acc =>
    if c.toNat < k.range then encodeFrom k h (i + 1) rest (c.toNat.toUInt8 :: acc)
    else if h == .strict then
      .error ⟨i, i + misfits k (c :: rest), "ordinal not in range(" ++ toString k.range ++ ")"⟩
    else
      let sub := substitute h c
      encodeFrom k h (i + 1) rest ((bytesOf sub).reverse ++ acc)

/-- Writes a text in bytes. -/
def Codec.encode (k : Codec) (h : OnFault) (s : String) : Except CodecFault (List UInt8) :=
  if k == .utf8 then .ok (encodeUtf8 s) else encodeFrom k h 0 s.toList []

private def replacement (h : OnFault) (b : List UInt8) : List Char :=
  match h with
  | .replace => ['\uFFFD']
  | .escapes => b.flatMap fun x => '\\' :: 'x' :: hexPadded 2 x.toNat
  | _ => []

private def decodeAsciiFrom (h : OnFault) (i : Nat) : List UInt8 → List Char → Except CodecFault (List Char)
  | [], acc => .ok acc.reverse
  | b :: rest, acc =>
    if b.toNat < 128 then decodeAsciiFrom h (i + 1) rest (Char.ofNat b.toNat :: acc)
    else if h == .strict then .error ⟨i, i + 1, "ordinal not in range(128)"⟩
    else decodeAsciiFrom h (i + 1) rest ((replacement h [b]).reverse ++ acc)

private def decodeUtf8From (h : OnFault) : Nat → List UInt8 → List Char → Except CodecFault (List Char)
  | 0, _, acc => .ok acc
  | fuel + 1, b, acc =>
    match decodeUtf8 b with
    | .ok s => .ok (acc ++ s)
    | .error f =>
      if h == .strict then .error ⟨f.position, f.stop, f.reason⟩
      else
        let good := match decodeUtf8 (b.take f.position) with
          | .ok s => s
          | .error _ => []
        let bad := (b.drop f.position).take (f.stop - f.position)
        decodeUtf8From h fuel (b.drop f.stop) (acc ++ good ++ replacement h bad)

/-- Reads a text from bytes. -/
def Codec.decode (k : Codec) (h : OnFault) (b : List UInt8) : Except CodecFault (List Char) :=
  match k with
  | .utf8 => decodeUtf8From h (b.length + 1) b []
  | .ascii => decodeAsciiFrom h 0 b []
  | .latin1 => .ok (b.map fun x => Char.ofNat x.toNat)

end Stepwise.Text
