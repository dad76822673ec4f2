import Dialogue.Settings.Format
import Dialogue.Json.Parser
import Dialogue.RecordSource

/-! # Configuration files

Settings and fixtures may come from a single file.  Its text is read as an object; scalars without
quotation marks may stand where a text is wanted.

* `ofConfigurationFile` — what a file holds, or that it does not exist or cannot be read.
* `Settings.ofFile`, `Fixtures.ofFile` — the two kinds of file.
-/

namespace Dialogue

/-- A character that may stand in a configuration text. -/
def isPrintable (c : Char) : Bool :=
  let n := c.toNat
  n == 0x9 || n == 0xA || n == 0xD || (0x20 ≤ n && n ≤ 0x7E) || n == 0x85
    || (0xA0 ≤ n && n ≤ 0xFFFD && n != 0xFEFF) || 0x10000 ≤ n

/-- The value of a configuration text.  A blank one has no members. -/
def configurationValue? (text : String) : Option Json :=
  if text.toList.all Json.isGap then some (.obj [])
  else if text.toList.all isPrintable then Json.parse? text
  else none

/-- What a configuration file holds, given its text if it exists. -/
def ofConfigurationFile {α : Type} (decode? : Json → Option α) (path : String)
    (text : Option String) : Except ConfigError α :=
  match text with
  | none => .error (.fileNotFound path)
  | some text =>
    match (configurationValue? text).bind decode? with
    | some a => .ok a
    | none => .error .unreadable

/-- The settings of a single file, validated. -/
def Settings.ofFile (path : String) (text : Option String) : Except ConfigError Settings :=
  ofConfigurationFile (Settings.decode? .plain) path text >>= Settings.validate

/-- The fixtures of a file. -/
def Fixtures.ofFile (path : String) (text : Option String) : Except ConfigError Fixtures :=
  ofConfigurationFile (Fixtures.decode? .plain) path text

end Dialogue
