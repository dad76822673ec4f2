import Dialogue.Settings.Format
import Dialogue.InputType
import Dialogue.Json.Parser

/-! # Layered settings

An installation keeps its settings in layers: a file for every installation, a file for one, and
variables of the process.  A later layer decides only what it mentions: objects are merged member by
member, and everything else, lists included, is replaced.  Names count in lower case.

* `overlay` — one value laid over another.
* `Place.ofText` — where an entry of a layer belongs: `server.port`, `server.cors_origins[0]`.
* `variableEntries` — the entries that variables make, such as `VOICE_INTENT__SERVER__PORT`.
* `Settings.load` — the settings that all layers make, validated.
-/

namespace Dialogue

/-! ## Merging -/

/-- The value with a member set.  What is not an object becomes one. -/
def Json.setMember (v : Json) (name : String) (x : Json) : Json :=
  .ofDict ((v.asDict?.getD .empty).insert name x)

mutual

/-- A value laid over another.  Integers above the signed 64-bit bound have lost digits by then. -/
def overlay : Json → Json → Json
  | base, .obj ms => overlayMembers base ms
  | _, .int n =>
    if n ≤ int64Max then .int n else ((Binary64.nearest? false n.toNat 1).map Json.float).getD .null
  | _, v => v

/-- Members laid over a value. -/
def overlayMembers : Json → List (String × Json) → Json
  | base, [] => base
  | base, (name, v) :: ms =>
    let name := Text.lower name
    let below := (base.member? name).getD (.obj [])
    overlayMembers (base.setMember name (overlay below v)) ms

end

/-! ## Places -/

/-- A step into a value: to a member, or to an item. -/
inductive Step where
  | member (name : String)
  | item (index : Nat)
deriving DecidableEq, Repr

/-- A character of a name in a place. -/
def isPlaceChar (c : Char) : Bool := c.isAlphanum || c == ' ' || c == '_' || c == '-'

/-- An index, with spaces around it, after an opening bracket. -/
def bracketed? : List Char → Option Step
  | '[' :: cs => (readDigits? (Text.trimBoth (· == ' ') cs)).map .item
  | _ => none

/-- A name and the indexes behind it. -/
def stepsOfSegment? (cs : List Char) : Option (List Step) :=
  let name := cs.takeWhile isPlaceChar
  match (splitAt ']' (cs.dropWhile isPlaceChar)).reverse with
  | [] :: brackets =>
    if name.isEmpty then none
    else (brackets.reverse.mapM bracketed?).map (.member (String.ofList name) :: ·)
  | _ => none

/-- The place that a text describes.  A text that describes none is the name of a member. -/
def Place.ofText (text : String) : List Step :=
  match (splitAt '.' text.toList).mapM stepsOfSegment? with
  | some segments => segments.flatten
  | none => [.member text]

/-- The list with an item replaced.  Items that are missing before it are null. -/
def setItem (items : List Json) (index : Nat) (v : Json) : List Json :=
  (items ++ List.replicate (index + 1 - items.length) Json.null).set index v

/-- Changes what is at a place.  What is on the way there and is missing, or is of the wrong kind,
is made. -/
def changeAt (change : Option Json → Json) : List Step → Option Json → Json
  | [], v => change v
  | .member name :: rest, v =>
    let v := v.getD .null
    v.setMember name (changeAt change rest (v.member? name))
  | .item index :: rest, v =>
    let items := (v.bind Json.asItems?).getD []
    .arr (setItem items index (changeAt change rest items[index]?))

/-- Lays an entry of a layer over the values of the layers below. -/
def layEntry (base : Json) (entry : String × Json) : Json :=
  changeAt (fun below => overlay (below.getD (.obj [])) entry.2) (Place.ofText (Text.lower entry.1))
    (some base)

/-! ## Variables -/

/-- What the names of the variables of a layer begin with, in lower case. -/
def variablePrefix : String := "voice_intent__"

/-- The text of a number that has no finite value. -/
def unboundedText? (cs : List Char) : Option String :=
  let signed (negative : Bool) : String := if negative then "-inf" else "inf"
  if isUnboundedName cs then
    let (negative, name) := splitSign cs
    some (if name.map Char.toLower == ['n', 'a', 'n'] then "NaN" else signed negative)
  else
    match Decimal.read? cs with
    | some d =>
      match Binary64.ofDecimal? d.negative d.digits d.power with
      | some _ => none
      | none => some (signed d.negative)
    | none => none

/-- The value of a variable: a truth value in any case, a number, or else a text. -/
def variableValue (text : String) : Json :=
  if Text.lower text == "true" then .bool true
  else if Text.lower text == "false" then .bool false
  else
    match readNumber? text.toList with
    | some n => .ofNumeral n
    | none => .str ((unboundedText? text.toList).getD text)

/-- The entry that a variable makes, if it belongs to the layer.  Two underscores separate the parts
of a place. -/
def variableEntry? (name value : String) : Option (String × Json) :=
  let name := (Text.lower name).toList
  if variablePrefix.toList.isPrefixOf name then
    let place := replaceFrom ['_', '_'] ['.'] 0 (name.drop variablePrefix.length)
    some (String.ofList place, variableValue value)
  else none

/-- The entries that variables make. -/
def variableEntries (vars : Dict String) : List (String × Json) :=
  vars.entries.filterMap fun v => variableEntry? v.1 v.2

/-! ## Files -/

/-- The text of the file with a name, which may be given with its extension or without. -/
def configurationFile? (files : Dict String) (name : String) : Option String :=
  let bare := name.toList.take (name.length - ".json".length)
  let exact :=
    if bare ++ ".json".toList == name.toList then files.find? (String.ofList bare) else none
  exact <|> files.find? name

/-- The entries of a file; none if there is no file.  A file has to hold an object. -/
def fileEntries (files : Dict String) (name : String) : Except ConfigError (List (String × Json)) :=
  match configurationFile? files name with
  | none => .ok []
  | some text =>
    match Json.parse? text with
    | some (.obj ms) => .ok (Json.canonicalMembers ms)
    | _ => .error .unreadable

/-! ## All layers -/

/-- The settings of an installation, from the files by name, the installation's name, and the
variables of the process. -/
def Settings.load (files : Dict String) (installation : Option String) (vars : Dict String) :
    Except ConfigError Settings := do
  let general ← fileEntries files "default"
  let special ←
    match installation with
    | some name => fileEntries files name
    | none => .ok []
  let entries := general ++ special ++ variableEntries vars
  match Settings.decode? Json.Reader.lenient (entries.foldl layEntry (.obj [])) with
  | some s => s.validate
  | none => .error .unreadable

end Dialogue
