import Counterpart.Json.Reader

/-!
# Encodings of JSON

JSON in bytes may be UTF-8, UTF-16 or UTF-32, of either byte order.  A byte order mark tells which; without
one the zero bytes among the first four do, since a JSON text begins with an ASCII character.
-/

namespace Counterpart.Json

/-- An encoding of JSON in bytes; the big-endian forms have the high byte first. -/
inductive Encoding
  | utf8
  | utf16 (bigEndian : Bool)
  | utf32 (bigEndian : Bool)
deriving Repr, DecidableEq

/-- The encoding of some bytes, and the length of their byte order mark. -/
def Encoding.detect (bytes : Bytes) : Encoding × Nat :=
  match bytes with
  | 0x00 :: 0x00 :: 0xFE :: 0xFF :: _ => (.utf32 true, 4)
  | 0xFF :: 0xFE :: 0x00 :: 0x00 :: _ => (.utf32 false, 4)
  | 0xFE :: 0xFF :: _ => (.utf16 true, 2)
  | 0xFF :: 0xFE :: _ => (.utf16 false, 2)
  | 0xEF :: 0xBB :: 0xBF :: _ => (.utf8, 3)
  | a :: b :: c :: d :: _ =>
    if a = 0 then if b = 0 then (.utf32 true, 0) else (.utf16 true, 0)
    else if b = 0 then if c = 0 ∧ d = 0 then (.utf32 false, 0) else (.utf16 false, 0)
    else (.utf8, 0)
  | [a, b] => if a = 0 then (.utf16 true, 0) else if b = 0 then (.utf16 false, 0) else (.utf8, 0)
  | _ => (.utf8, 0)

/-- The units of two bytes; none if a byte is left over. -/
def units16? (bigEndian : Bool) (done : List Nat) : Bytes → Option (List Nat)
  | [] => some done.reverse
  | [_] => none
  | a :: b :: rest =>
    let n := if bigEndian then a.toNat * 256 + b.toNat else b.toNat * 256 + a.toNat
    units16? bigEndian (n :: done) rest

/-- The text of units of two bytes: surrogate pairs are joined. -/
def text16 (done : Text) : List Nat → Text
  | [] => done.reverse
  | [n] => (Text.Utf8.scalar n :: done).reverse
  | h :: l :: rest =>
    if isHighSurrogate h && isLowSurrogate l then
      text16 (Text.Utf8.scalar (joinSurrogates h l) :: done) rest
    else text16 (Text.Utf8.scalar h :: done) (l :: rest)

/-- The text of units of four bytes; none if bytes are left over or a unit is no code point. -/
def text32? (bigEndian : Bool) (done : Text) : Bytes → Option Text
  | [] => some done.reverse
  | a :: b :: c :: d :: rest =>
    let n := if bigEndian then ((a.toNat * 256 + b.toNat) * 256 + c.toNat) * 256 + d.toNat
      else ((d.toNat * 256 + c.toNat) * 256 + b.toNat) * 256 + a.toNat
    if n < 0x110000 then text32? bigEndian (Text.Utf8.scalar n :: done) rest else none
  | _ => none

/-- The text of some bytes in an encoding. -/
def Encoding.decode? : Encoding → Bytes → Option Text
  | .utf8, bytes => Text.Utf8.decodeSurrogates? bytes
  | .utf16 bigEndian, bytes => (units16? bigEndian [] bytes).map (text16 [])
  | .utf32 bigEndian, bytes => text32? bigEndian [] bytes

/-- The value that some bytes write, in whatever encoding they are. -/
def ofBytes (nesting : Nat) (bytes : Bytes) : Except ReadError Json :=
  let (encoding, mark) := Encoding.detect bytes
  match encoding.decode? (bytes.drop mark) with
  | some t => read nesting t
  | none => .error .malformed

end Counterpart.Json
