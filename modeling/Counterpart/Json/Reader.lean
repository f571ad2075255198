import Counterpart.Json.Value
import Counterpart.Number.Numeral
import Counterpart.Text.Utf8

/-!
# Reading JSON

The grammar is that of JSON with three more words, `NaN`, `Infinity` and `-Infinity`.  Blanks are the space,
the tab and the two line ends.  Control characters in strings are refused, and so is everything behind the
value.  A surrogate that is not half of a pair becomes a replacement character.  Arrays and objects can be
nested only so deep: to open one too many is a fault of its own, and not the same as being malformed.
-/

namespace Counterpart.Json

/-- Whether a character may stand between the parts of a JSON text. -/
def isJsonBlank (c : Char) : Bool := c = ' ' || c = '\t' || c = '\n' || c = '\r'

/-- A text without its leading blanks. -/
def skipBlanks (t : Text) : Text := t.dropWhile isJsonBlank

/-! ## Strings -/

/-- The number that four hexadecimal digits write. -/
def fourHex? (a b c d : Char) : Option Nat := do
  let a ← Text.hexDigit? a
  let b ← Text.hexDigit? b
  let c ← Text.hexDigit? c
  let d ← Text.hexDigit? d
  return ((a * 16 + b) * 16 + c) * 16 + d

/-- The character of a one-letter escape. -/
def escape? : Char → Option Char
  | '"' => some '"'
  | '\\' => some '\\'
  | '/' => some '/'
  | 'b' => some '\x08'
  | 'f' => some '\x0c'
  | 'n' => some '\n'
  | 'r' => some '\r'
  | 't' => some '\t'
  | _ => none

/-- Whether a number is the first half of a surrogate pair. -/
def isHighSurrogate (n : Nat) : Bool := 0xD800 ≤ n && n < 0xDC00

/-- Whether a number is the second half of a surrogate pair. -/
def isLowSurrogate (n : Nat) : Bool := 0xDC00 ≤ n && n < 0xE000

/-- The code point of a surrogate pair. -/
def joinSurrogates (high low : Nat) : Nat := 0x10000 + (high - 0xD800) * 0x400 + (low - 0xDC00)

/-- The rest of a string and what follows its closing quote; `done` holds the characters read, last first.
A first half of a pair is kept in `high` until it is known what follows it. -/
def stringAfter (high : Option Nat) (done : Text) : Text → Option (Text × Text)
  | [] => none
  | '\\' :: 'u' :: a :: b :: c :: d :: rest =>
    match fourHex? a b c d with
    | none => none
    | some n =>
      match high with
      | some h =>
        if isLowSurrogate n then
          stringAfter none (Text.Utf8.scalar (joinSurrogates h n) :: done) rest
        else if isHighSurrogate n then stringAfter (some n) (Text.Utf8.replacement :: done) rest
        else stringAfter none (Text.Utf8.scalar n :: Text.Utf8.replacement :: done) rest
      | none =>
        if isHighSurrogate n then stringAfter (some n) done rest
        else stringAfter none (Text.Utf8.scalar n :: done) rest
  | '\\' :: e :: rest =>
    let done := if high.isSome then Text.Utf8.replacement :: done else done
    match escape? e with
    | none => none
    | some c => stringAfter none (c :: done) rest
  | c :: rest =>
    let done := if high.isSome then Text.Utf8.replacement :: done else done
    if c = '"' then some (done.reverse, rest)
    else if c.toNat < 0x20 ∨ c = '\\' then none
    else stringAfter none (c :: done) rest

/-! ## Numbers -/

/-- The greatest number of digits that an integer may have. -/
def greatestIntegerDigits : Nat := 4300

/-- A fraction, if one comes first: its digits, and what follows. -/
def fraction (t : Text) : List Nat × Text :=
  match t with
  | '.' :: after =>
    let (digits, rest) := Number.leadingDigits after
    if digits.isEmpty then ([], t) else (digits, rest)
  | _ => ([], t)

/-- An exponent, if one comes first, and what follows. -/
def exponent (t : Text) : Option Int × Text :=
  match t with
  | c :: after =>
    if c = 'e' ∨ c = 'E' then
      let (negative, after) := Number.leadingSign after
      let (digits, rest) := Number.leadingDigits after
      if digits.isEmpty then (none, t)
      else
        let n : Nat := digits.foldl (fun n d => 10 * n + d) 0
        (some (if negative then -(n : Int) else n), rest)
    else (none, t)
  | [] => (none, t)

/-- The number whose digits come first, after its sign.  A zero is followed by no further digit. -/
def number? (negative : Bool) (t : Text) : Option (Json × Text) :=
  let (whole, rest) := match t with
    | '0' :: after => ([0], after)
    | _ => Number.leadingDigits t
  if whole.isEmpty then none
  else
    let (places, rest) := fraction rest
    let (power, rest) := exponent rest
    if places.isEmpty ∧ power.isNone then
      if greatestIntegerDigits < whole.length then none
      else
        let n : Nat := whole.foldl (fun n d => 10 * n + d) 0
        some (.int (if negative then -(n : Int) else n), rest)
    else some (.float (.ofDecimal negative (whole ++ places) (power.getD 0 - places.length)), rest)

/-! ## Values -/

/-- The words that are values. -/
def words : List (Text × Json) :=
  [("null".toList, .null), ("true".toList, .bool true), ("false".toList, .bool false),
    ("NaN".toList, .float .nan), ("Infinity".toList, .float (.infinite false)),
    ("-Infinity".toList, .float (.infinite true))]

/-- The word that comes first, as a value, and what follows it. -/
def word? (t : Text) : Option (Json × Text) :=
  (words.find? fun (w, _) => w.isPrefixOf t).map fun (w, v) => (v, t.drop w.length)

/-- What can be opened inside a JSON text. -/
inductive Container
  | array
  | object
deriving Repr, DecidableEq

/-- What messages call a container. -/
def Container.name : Container → String
  | .array => "array"
  | .object => "object"

/-- Why a text is not read. -/
inductive ReadError
  /-- It is no JSON. -/
  | malformed
  /-- A container is opened where no further level can be entered.  Nothing behind it is looked at. -/
  | tooDeep (container : Container)
deriving Repr, DecidableEq

/-- The message about a text that is nested too deep. -/
def Container.tooDeepMessage (container : Container) : String :=
  "maximum recursion depth exceeded while decoding a JSON " ++ container.name ++ " from a unicode string"

/-- What has been read, if anything could be. -/
def orMalformed {α : Type} : Option α → Except ReadError α
  | some a => .ok a
  | none => .error .malformed

mutual

/-- The value that comes first, and what follows it.  The second number says how many levels of containers may
still be entered. -/
def readValue : Nat → Nat → Text → Except ReadError (Json × Text)
  | 0, _, _ => .error .malformed
  | _ + 1, _, [] => .error .malformed
  | fuel + 1, room, c :: rest =>
    if c = '"' then orMalformed ((stringAfter none [] rest).map fun (t, rest) => (.string t, rest))
    else if c = '[' then
      match room with
      | 0 => .error (.tooDeep .array)
      | room + 1 =>
        match skipBlanks rest with
        | ']' :: rest => .ok (.array [], rest)
        | rest => readItems fuel room [] rest
    else if c = '\x7b' then
      match room with
      | 0 => .error (.tooDeep .object)
      | room + 1 =>
        match skipBlanks rest with
        | '\x7d' :: rest => .ok (.object [], rest)
        | rest => readMembers fuel room [] rest
    else match word? (c :: rest) with
      | some found => .ok found
      | none => orMalformed (if c = '-' then number? true rest else number? false (c :: rest))

/-- The items of an array up to its end; `done` holds those before, last first. -/
def readItems : Nat → Nat → List Json → Text → Except ReadError (Json × Text)
  | 0, _, _, _ => .error .malformed
  | fuel + 1, room, done, t =>
    match readValue fuel room t with
    | .error e => .error e
    | .ok (v, rest) =>
      match skipBlanks rest with
      | ',' :: rest => readItems fuel room (v :: done) (skipBlanks rest)
      | ']' :: rest => .ok (.array (v :: done).reverse, rest)
      | _ => .error .malformed

/-- The members of an object up to its end; `done` holds those before. -/
def readMembers : Nat → Nat → List (Text × Json) → Text → Except ReadError (Json × Text)
  | 0, _, _, _ => .error .malformed
  | fuel + 1, room, done, t =>
    match t with
    | '"' :: rest =>
      match stringAfter none [] rest with
      | none => .error .malformed
      | some (name, rest) =>
        match skipBlanks rest with
        | ':' :: rest =>
          match readValue fuel room (skipBlanks rest) with
          | .error e => .error e
          | .ok (v, rest) =>
            match skipBlanks rest with
            | ',' :: rest => readMembers fuel room (setMember name v done) (skipBlanks rest)
            | '\x7d' :: rest => .ok (.object (setMember name v done), rest)
            | _ => .error .malformed
        | _ => .error .malformed
    | _ => .error .malformed

end

/-- The value that a text writes, if it writes one and nothing else, where `nesting` levels of containers can be
entered.  Every character read pays for at most two calls, so the fuel is enough for every text. -/
def read (nesting : Nat) (t : Text) : Except ReadError Json :=
  match readValue (2 * t.length + 2) nesting (skipBlanks t) with
  | .error e => .error e
  | .ok (v, rest) => if (skipBlanks rest).isEmpty then .ok v else .error .malformed

/-- The value that a text writes, however deep it is nested: no text has more levels than characters. -/
def read? (t : Text) : Option Json := (read t.length t).toOption

end Counterpart.Json
