import Dialogue.Json.Decode
import Dialogue.Text.Spacing
import Dialogue.Text.Case

/-! # Input types

A slot of a template captures a stretch of the utterance, and its input type says which stretches it
accepts and as what value.  A number type accepts numerals with or without thousands separators and
the number words up to twenty; a literal type accepts any text, or only its samples if it is closed.

* `InputType.coerce` — the value of a captured text, or the `CoercionError`.
* `InputTypes` — the types of a model by slot name.
* `InputType.Spec` — a declaration as it is written: a bare kind, or a kind with samples.
-/

namespace Dialogue

/-! ## Kinds -/

/-- What a slot takes. -/
inductive InputKind where
  | number
  | literal
deriving DecidableEq, Repr

/-- The name of a kind. -/
def InputKind.name : InputKind → String
  | .number => "NUMBER"
  | .literal => "LITERAL"

/-- The part of a text after the last full stop. -/
def lastSegment (cs : List Char) : List Char := (cs.reverse.takeWhile (· != '.')).reverse

/-- A kind by its name, in any case and with any dotted qualifier before it. -/
def InputKind.ofName? (text : String) : Option InputKind :=
  let bare := String.ofList (lastSegment ((Text.trimBlanks text).toList.map Char.toUpper))
  if bare == "NUMBER" then some .number
  else if bare == "LITERAL" then some .literal
  else none

/-- What is said of a kind that does not exist. -/
def InputKind.unsupportedMessage (text : String) : String := s!"unsupported input type `{text}`"

/-! ## Types -/

/-- Which texts a type accepts. -/
inductive InputDomain where
  | number
  | literal (samples : List String) (closed : Bool)
deriving DecidableEq, Repr

/-- An input type, which is registered under the name of the slot it serves. -/
structure InputType where
  name : String
  domain : InputDomain
deriving DecidableEq, Repr

namespace InputType

/-- The type of numbers. -/
def number (name : String) : InputType := ⟨name, .number⟩

/-- The type of all texts, with samples as hints for authors. -/
def literal (name : String) (samples : List String) : InputType := ⟨name, .literal samples false⟩

/-- Restricts a literal type to its samples. -/
def closed (t : InputType) : InputType :=
  match t.domain with
  | .number => t
  | .literal samples _ => { t with domain := .literal samples true }

/-- The kind of a type. -/
def kind (t : InputType) : InputKind :=
  match t.domain with
  | .number => .number
  | .literal .. => .literal

/-- The samples of a type; a number type has none. -/
def samples (t : InputType) : List String :=
  match t.domain with
  | .number => []
  | .literal samples _ => samples

/-- Whether only the samples are accepted. -/
def isClosed (t : InputType) : Bool :=
  match t.domain with
  | .number => false
  | .literal _ closed => closed

end InputType

/-! ## Coercion -/

/-- Why a captured text is not accepted. -/
inductive CoercionError where
  | unknownType (slot : String)
  | notANumber (slot raw : String)
  | notInClosedSet (slot raw : String)
deriving DecidableEq, Repr

/-- The wording of a coercion error. -/
def CoercionError.message : CoercionError → String
  | .unknownType slot => s!"slot `{slot}` has no registered input type"
  | .notANumber slot raw => s!"slot `{slot}` expects a number, got `{raw}`"
  | .notInClosedSet slot raw => s!"slot `{slot}` does not accept `{raw}`"

/-- The number words, the first for zero. -/
def numberWords : List String := [
  "zero", "one", "two", "three", "four", "five", "six", "seven", "eight", "nine", "ten", "eleven",
  "twelve", "thirteen", "fourteen", "fifteen", "sixteen", "seventeen", "eighteen", "nineteen",
  "twenty"]

/-- The number of a number word. -/
def numberWord? (word : String) : Option Nat := numberWords.findIdx? (· == word)

/-- Whether the text names an infinity or no number at all, in the notation of numbers. -/
def isUnboundedName (cs : List Char) : Bool :=
  let name := String.ofList ((splitSign cs).2.map Char.toLower)
  name == "inf" || name == "infinity" || name == "nan"

/-- The value of a spoken number.  Commas are thousands separators wherever they stand.  What is
written like a number but has no finite value is none; only what is not written like a number may be
a number word. -/
def spokenNumber? (raw : String) : Option Json :=
  let clean := raw.toList.filter (· != ',')
  match readInteger? clean with
  | some n => some (.int n)
  | none =>
    if isUnboundedName clean then none
    else
      match Decimal.read? clean with
      | some d => (Binary64.ofDecimal? d.negative d.digits d.power).map .float
      | none => (numberWord? (Text.lower raw)).map fun n => .int n

/-- The value of a captured text, blanks at its ends aside. -/
def InputType.coerce (t : InputType) (raw : String) : Except CoercionError Json :=
  let raw := Text.trimBlanks raw
  match t.domain with
  | .number =>
    match spokenNumber? raw with
    | some v => .ok v
    | none => .error (.notANumber t.name raw)
  | .literal samples closed =>
    if closed && !samples.any (Text.sameIgnoringCase · raw) then
      .error (.notInClosedSet t.name raw)
    else .ok (.str raw)

/-- The input types of a model by slot name. -/
abbrev InputTypes := Dict InputType

namespace InputTypes

/-- Registers a type under its name; a later type of that name replaces it. -/
def add (types : InputTypes) (t : InputType) : InputTypes := types.insert t.name t

/-- The value that the type of a slot gives a captured text. -/
def coerce (types : InputTypes) (slot raw : String) : Except CoercionError Json :=
  match types.find? slot with
  | some t => t.coerce raw
  | none => .error (.unknownType slot)

end InputTypes

/-! ## Declarations -/

/-- A declaration of an input type. -/
inductive InputType.Spec where
  | bare (kind : InputKind)
  | detailed (kind : InputKind) (samples : List String) (closed : Bool)
deriving DecidableEq, Repr

namespace InputType

/-- The type that a declaration gives a slot.  Samples say nothing about a number. -/
def ofSpec (name : String) : Spec → InputType
  | .bare .number | .detailed .number _ _ => number name
  | .bare .literal => literal name []
  | .detailed .literal samples closed => ⟨name, .literal samples closed⟩

namespace Spec

open Json in
/-- A declaration is the name of a kind, or an object that has a kind under `type` and may have
`sampleValues` and `closed`. -/
def decode? : Json → Option Spec
  | .str s => (InputKind.ofName? s).map .bare
  | .obj ms => do
    let members : Dict Json := .ofList ms
    let kind ← required? members "type" fun v => v.asText?.bind InputKind.ofName?
    let samples ← optional? members "sampleValues" [] (list? asText?)
    let closed ← optional? members "closed" false asBool?
    return .detailed kind samples closed
  | _ => none

/-- A declaration as a value. -/
def encode : Spec → Json
  | .bare kind => .str kind.name
  | .detailed kind samples closed =>
    .ofDict (.ofList [("type", .str kind.name), ("sampleValues", .arr (samples.map .str)),
      ("closed", .bool closed)])

end Spec

end InputType

end Dialogue
