import Dialogue.Json.Text

/-! # Values as they are spoken

A handler speaks values that came from an utterance, from the session or from a record.  Strings are
spoken as they are and whole numbers without a fraction; what has no spoken form of its own, such as
a list, is spoken as its compact text.

* `Json.spoken` — the spoken form of a value.
* `Record.spokenField` — of a field of a record; a missing field is silent.
-/

namespace Dialogue

/-- The spoken form of a number.  A whole number is spoken as its digits as long as it lies within
the 64-bit bounds. -/
def Binary64.spoken (x : Binary64) : String :=
  match x.whole? with
  | some n => if -int64Max ≤ n && n ≤ int64Max then integerText n else x.text
  | none => x.text

/-- The spoken form of a value. -/
def Json.spoken : Json → String
  | .str s => s
  | .int n => integerText n
  | .float x => x.spoken
  | .bool b => if b then "true" else "false"
  | .null => ""
  | v => v.text

/-- The spoken form of a field, nothing if the record lacks it. -/
def Record.spokenField (record : Record) (field : String) : String :=
  match record.find? field with
  | some v => v.spoken
  | none => ""

end Dialogue
