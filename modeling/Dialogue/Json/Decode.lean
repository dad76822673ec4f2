import Dialogue.Json.Value
import Dialogue.Json.Text
import Dialogue.Text.Case

/-! # Decoding values

Stored sessions, settings and fixtures are values of fixed shapes.  A shape with named fields is
written as an object, or as the list of its fields in their order; unknown members are ignored, and
a field may have a default, which stands in for a missing member but not for a null.

Settings come from three kinds of source, which differ in how strictly a scalar has to have the kind
that is wanted.  A `Reader` is such a strictness.

* `fields?` — the members of a value that should have certain fields.
* `required?`, `optional?` — one of them.
* `Reader.strict` — every scalar has the kind that is wanted.
* `Reader.plain` — any scalar may stand where a text is wanted, as its written form.
* `Reader.lenient` — scalars are converted into one another.
-/

namespace Dialogue.Json

/-! ## Fields -/

/-- Pairs names with items as far as the items go; too many items are an error. -/
def pairFields? : List String → List Json → Option (List (String × Json))
  | _, [] => some []
  | [], _ :: _ => none
  | n :: ns, x :: xs => (pairFields? ns xs).map ((n, x) :: ·)

/-- Whether one of the names occurs more than once among the members. -/
def repeats (names : List String) (members : List (String × Json)) : Bool :=
  names.any fun n => (members.filter fun m => m.1 == n).length > 1

/-- The members of an object, or of a list that gives the fields in order.  A field given twice is
an error. -/
def fields? (names : List String) : Json → Option (Dict Json)
  | .obj ms => if repeats names ms then none else some (.ofList ms)
  | .arr xs => (pairFields? names xs).map .ofList
  | _ => none

/-- The decoded value of a field that has to be there. -/
def required? {α : Type} (members : Dict Json) (name : String) (decode? : Json → Option α) :
    Option α :=
  (members.find? name).bind decode?

/-- The decoded value of a field, or a default if it is missing. -/
def optional? {α : Type} (members : Dict Json) (name : String) (default : α)
    (decode? : Json → Option α) : Option α :=
  match members.find? name with
  | some v => decode? v
  | none => some default

/-! ## Shapes -/

/-- A list of decoded items. -/
def list? {α : Type} (decode? : Json → Option α) : Json → Option (List α)
  | .arr xs => xs.mapM decode?
  | _ => none

/-- A dictionary of decoded values. -/
def dict? {α : Type} (decode? : Json → Option α) (v : Json) : Option (Dict α) := do
  let members ← v.asDict?
  let entries ← members.entries.mapM fun (n, x) => (decode? x).map (n, ·)
  return .ofList entries

/-- Null, or a decoded value. -/
def nullable? {α : Type} (decode? : Json → Option α) : Json → Option (Option α)
  | .null => some none
  | v => (decode? v).map some

/-- A natural number up to a bound. -/
def natUpTo? (bound : Nat) : Json → Option Nat
  | .int n => if 0 ≤ n && n ≤ bound then some n.toNat else none
  | _ => none

/-- A truth value. -/
def asBool? : Json → Option Bool
  | .bool b => some b
  | _ => none

/-- A record, in canonical form. -/
def record? : Json → Option Record
  | .obj ms => some (.ofList (canonicalMembers ms))
  | _ => none

/-! ## Scalars -/

/-- How scalars are read: as a text, a truth value, a natural number up to a bound, a character, or
one of several names. -/
structure Reader where
  text? : Json → Option String
  bool? : Json → Option Bool
  nat? : Nat → Json → Option Nat
  char? : Json → Option Char
  name? : List String → Json → Option String

/-- The character of a text that has only one. -/
def onlyChar? (text : String) : Option Char :=
  match text.toList with
  | [c] => some c
  | _ => none

/-- A text that is one of several names. -/
def oneOf? (names : List String) (text : String) : Option String :=
  if names.contains text then some text else none

/-- Every scalar has to have the kind that is wanted.  A name may also be the only member of an
object, with nothing as its value. -/
def Reader.strict : Reader where
  text? := asText?
  bool? := asBool?
  nat? := natUpTo?
  char? v := v.asText?.bind onlyChar?
  name? names
    | .str s => oneOf? names s
    | .obj [(s, .null)] => oneOf? names s
    | _ => none

/-! ### Scalars without quotation marks -/

/-- The text of a scalar as it stands in a configuration file. -/
def writtenText? : Json → Option String
  | .str s => some s
  | .null => some "null"
  | .bool b => some (if b then "true" else "false")
  | .int n => some (integerText n)
  | .float x => some x.text
  | _ => none

/-- A scalar without quotation marks is also a text. -/
def Reader.plain : Reader where
  text? := writtenText?
  bool? := asBool?
  nat? := natUpTo?
  char? v := (writtenText? v).bind onlyChar?
  name? names v := (writtenText? v).bind (oneOf? names)

/-! ### Scalars that are converted -/

/-- The text of a scalar, numbers without exponent. -/
def convertedText? : Json → Option String
  | .str s => some s
  | .bool b => some (if b then "true" else "false")
  | .int n => some (integerText n)
  | .float x => some x.writtenOut
  | _ => none

/-- Words for truth values. -/
def truthWord? (text : String) : Option Bool :=
  let word := Text.lower text
  if ["true", "on", "yes"].contains word then some true
  else if ["false", "off", "no"].contains word then some false
  else none

/-- A truth value, a number that is zero or not, or a word or digit for a truth value. -/
def convertedBool? : Json → Option Bool
  | .bool b => some b
  | .int n => some (n != 0)
  | .float x => some (x.mantissa != 0)
  | .str s => if s == "1" then some true else if s == "0" then some false else truthWord? s
  | _ => none

/-- Digits, possibly after a plus. -/
def readNatural? (cs : List Char) : Option Nat :=
  match cs with
  | '+' :: cs => readDigits? cs
  | cs => readDigits? cs

/-- A natural number up to a bound, from a number, which is rounded and cut off at zero and at the
greatest 64-bit one, from a truth value or from a text. -/
def convertedNat? (bound : Nat) (v : Json) : Option Nat :=
  let n : Option Nat :=
    match v with
    | .int n => if 0 ≤ n then some n.toNat else none
    | .float x => some (if x.negative then 0 else min x.rounded uint64Max)
    | .bool b => some b.toNat
    | .str s => (truthWord? s).map Bool.toNat <|> readNatural? s.toList
    | _ => none
  n.filter (· ≤ bound)

/-- Scalars are converted into one another; only a character has to be a text.  A name may be in any
case, and may also be the only member of an object. -/
def Reader.lenient : Reader where
  text? := convertedText?
  bool? := convertedBool?
  nat? := convertedNat?
  char? v := v.asText?.bind onlyChar?
  name? names v :=
    let text : Option String :=
      match v with
      | .str s => some s
      | .obj [(s, _)] => some s
      | _ => none
    text.bind fun s => names.find? fun n => Text.lower n == Text.lower s

end Dialogue.Json
