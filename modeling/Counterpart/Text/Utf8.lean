import Counterpart.Bytes
import Counterpart.Text.Basic

/-!
# UTF-8

Decoding reads byte by byte.  Where the bytes stop being the beginning of a character, what was read of it
counts as one fault and reading goes on with the byte at hand.  A fault either refuses the whole or becomes
one replacement character.
-/

namespace Counterpart.Text.Utf8

/-- What stands for something that is no character. -/
def replacement : Char := '\uFFFD'

/-- The character with code point `n`; the replacement character for a surrogate. -/
def scalar (n : Nat) : Char := if n.isValidChar then Char.ofNat n else replacement

/-- A character begun: the bits read so far, how many bytes are missing, and the range of the next. -/
structure Begun where
  bits : Nat
  missing : Nat
  low : UInt8
  high : UInt8
deriving Repr, DecidableEq

/-- What a first byte promises, if it can be the first byte of a longer character.  Overlong forms and values
beyond U+10FFFF are kept out by the range of the second byte; so are surrogates, unless they are let in. -/
def begin? (surrogates : Bool) (b : UInt8) : Option Begun :=
  if b < 0xC2 then none
  else if b < 0xE0 then some ⟨b.toNat - 0xC0, 1, 0x80, 0xBF⟩
  else if b = 0xE0 then some ⟨0, 2, 0xA0, 0xBF⟩
  else if b = 0xED && !surrogates then some ⟨0xD, 2, 0x80, 0x9F⟩
  else if b < 0xF0 then some ⟨b.toNat - 0xE0, 2, 0x80, 0xBF⟩
  else if b = 0xF0 then some ⟨0, 3, 0x90, 0xBF⟩
  else if b < 0xF4 then some ⟨b.toNat - 0xF0, 3, 0x80, 0xBF⟩
  else if b = 0xF4 then some ⟨4, 3, 0x80, 0x8F⟩
  else none

/-- A byte where no character is begun: a character of its own, the beginning of one, or a fault. -/
def fresh (surrogates : Bool) (out : List (Option Char)) (b : UInt8) :
    Option Begun × List (Option Char) :=
  if b < 0x80 then (none, some (Char.ofNat b.toNat) :: out)
  else match begin? surrogates b with
    | some begun => (some begun, out)
    | none => (none, none :: out)

/-- One byte further; `out` holds the characters and faults so far, last first. -/
def step (surrogates : Bool) (begun : Option Begun) (out : List (Option Char)) (b : UInt8) :
    Option Begun × List (Option Char) :=
  match begun with
  | none => fresh surrogates out b
  | some g =>
    if g.low ≤ b ∧ b ≤ g.high then
      let bits := g.bits * 64 + (b.toNat - 0x80)
      if g.missing ≤ 1 then (none, some (scalar bits) :: out)
      else (some ⟨bits, g.missing - 1, 0x80, 0xBF⟩, out)
    else fresh surrogates (none :: out) b

/-- The characters and faults of `bytes` in a given state. -/
def unitsFrom (surrogates : Bool) : Option Begun → List (Option Char) → Bytes → List (Option Char)
  | begun, out, [] => (if begun.isSome then none :: out else out).reverse
  | begun, out, b :: rest =>
    let (begun, out) := step surrogates begun out b
    unitsFrom surrogates begun out rest

/-- The characters of `bytes` in order, with `none` for each fault. -/
def units (bytes : Bytes) : List (Option Char) := unitsFrom false none [] bytes

/-- The text of `bytes`, if they hold no fault. -/
def decode? (bytes : Bytes) : Option Text := (units bytes).mapM id

/-- The text of `bytes`, with a replacement character for each fault. -/
def decodeLossy (bytes : Bytes) : Text := (units bytes).map (·.getD replacement)

/-- The text of `bytes`, where a surrogate is no fault but becomes a replacement character. -/
def decodeSurrogates? (bytes : Bytes) : Option Text := (unitsFrom true none [] bytes).mapM id

/-- The bytes of a text. -/
def encode (t : Text) : Bytes := t.flatMap String.utf8EncodeChar

end Counterpart.Text.Utf8
