import Counterpart.Number.Shortest

/-!
# JSON values

A JSON value, its fields, and the two forms in which it is written: the compact JSON text, and the form in
which a value is shown inside a message.
-/

namespace Counterpart

/-- A JSON value.  An integer is exact; a number with a fraction or an exponent is binary64.  The members of
an object have distinct names, in the order in which the names first appear. -/
inductive Json
  | null
  | bool (b : Bool)
  | int (n : Int)
  | float (x : Number.Binary64)
  | string (t : Text)
  | array (items : List Json)
  | object (members : List (Text × Json))
deriving Repr

namespace Json

/-- The members of an object with one more; a name that is there already keeps its place and takes the new
value. -/
def setMember (name : Text) (value : Json) : List (Text × Json) → List (Text × Json)
  | [] => [(name, value)]
  | (n, v) :: rest => if n = name then (n, value) :: rest else (n, v) :: setMember name value rest

/-- The value of a member, if the value is an object that has it. -/
def field? (name : Text) : Json → Option Json
  | .object members => members.lookup name
  | _ => none

/-- Whether a value counts as something: not null, not false, not zero, not empty. -/
def isSomething : Json → Bool
  | .null => false
  | .bool b => b
  | .int n => n ≠ 0
  | .float x => match x with
    | .finite _ significand _ => significand ≠ 0
    | _ => true
  | .string t => !t.isEmpty
  | .array items => !items.isEmpty
  | .object members => !members.isEmpty

/-- The name of the kind of a value, as messages give it. -/
def kindName : Json → String
  | .null => "NoneType"
  | .bool _ => "bool"
  | .int _ => "int"
  | .float _ => "float"
  | .string _ => "str"
  | .array _ => "list"
  | .object _ => "dict"

/-- An integer in decimal. -/
def intText (n : Int) : Text := (if n < 0 then ['-'] else []) ++ Nat.toDigits 10 n.natAbs

/-! ## Shown in a message -/

mutual

/-- A value as it is shown inside a message. -/
def shown : Json → Text
  | .null => "None".toList
  | .bool b => (if b then "True" else "False").toList
  | .int n => intText n
  | .float x => x.shortest
  | .string t => Text.quoted t
  | .array items => '[' :: shownItems items ++ [']']
  | .object members => '\x7b' :: shownMembers members ++ ['\x7d']

/-- The items of an array, separated. -/
def shownItems : List Json → Text
  | [] => []
  | [v] => shown v
  | v :: rest => shown v ++ ',' :: ' ' :: shownItems rest

/-- The members of an object, separated. -/
def shownMembers : List (Text × Json) → Text
  | [] => []
  | [(n, v)] => Text.quoted n ++ ':' :: ' ' :: shown v
  | (n, v) :: rest => Text.quoted n ++ ':' :: ' ' :: shown v ++ ',' :: ' ' :: shownMembers rest

end

/-! ## Written as JSON -/

/-- A character inside a JSON string. -/
def writtenChar (c : Char) : Text :=
  if c = '"' ∨ c = '\\' then ['\\', c]
  else if c.toNat < 0x20 then '\\' :: 'u' :: Text.hexDigits 4 c.toNat
  else [c]

/-- A JSON string. -/
def writtenString (t : Text) : Text := '"' :: t.flatMap writtenChar ++ ['"']

/-- A number with a fraction, as JSON has it. -/
def writtenFloat : Number.Binary64 → Text
  | .nan => "NaN".toList
  | .infinite negative => (if negative then "-Infinity" else "Infinity").toList
  | x => x.shortest

mutual

/-- A value as JSON text, without blanks. -/
def written : Json → Text
  | .null => "null".toList
  | .bool b => (if b then "true" else "false").toList
  | .int n => intText n
  | .float x => writtenFloat x
  | .string t => writtenString t
  | .array items => '[' :: writtenItems items ++ [']']
  | .object members => '\x7b' :: writtenMembers members ++ ['\x7d']

/-- The items of an array, separated. -/
def writtenItems : List Json → Text
  | [] => []
  | [v] => written v
  | v :: rest => written v ++ ',' :: writtenItems rest

/-- The members of an object, separated. -/
def writtenMembers : List (Text × Json) → Text
  | [] => []
  | [(n, v)] => writtenString n ++ ':' :: written v
  | (n, v) :: rest => writtenString n ++ ':' :: written v ++ ',' :: writtenMembers rest

end

end Json

end Counterpart
