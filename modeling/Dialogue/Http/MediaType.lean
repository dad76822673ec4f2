import Dialogue.Number.Digits

/-! # Media types

A media type is a type and a subtype with a slash between, and possibly parameters, each after a
semicolon.  The body of a request is taken for a value only if its media type says so: its type has
to be `application`, and its subtype `json` or one that ends in `+json`.

* `MediaType.read?` — takes a text apart; `none` if it is no media type.
* `MediaType.isJson` — whether it announces a value.
-/

namespace Dialogue.Http

/-- A media type, in lower case: the type, the subtype up to its last plus, and what follows
that. -/
structure MediaType where
  type : List Char
  subtype : List Char
  suffix : Option (List Char)
deriving DecidableEq, Repr

namespace MediaType

/-- A character of a token. -/
def isTokenChar (c : Char) : Bool :=
  c.isAlphanum || "!#$%&'*+-.^_`|~".toList.contains c

/-- A character between quotation marks. -/
def isQuotedChar (c : Char) : Bool := 32 ≤ c.toNat && c.toNat < 127

/-- What follows a quoted value: spaces, and then the end or a semicolon. -/
def afterQuoted? (cs : List Char) : Option (List Char) :=
  match cs.dropWhile (· == ' ') with
  | [] => some []
  | ';' :: rest => some rest
  | _ => none

/-- Passes over the value of a parameter, and over its semicolon.  A quoted value has at least one
character, whichever it is. -/
def skipValue? : List Char → Option (List Char)
  | '"' :: c :: cs =>
    if isQuotedChar c then
      match cs.dropWhile fun c => c != '"' && isQuotedChar c with
      | '"' :: rest => afterQuoted? rest
      | _ => none
    else none
  | cs =>
    match cs.dropWhile isTokenChar with
    | [] => some []
    | ';' :: rest => if rest.length + 1 < cs.length then some rest else none
    | _ => none

/-- Whether a text is a list of parameters.  The count bounds their number. -/
def areParameters : Nat → List Char → Bool
  | 0, cs => cs.isEmpty
  | count + 1, cs =>
    match cs.dropWhile (· == ' ') with
    | [] => true
    | cs =>
      match cs.dropWhile isTokenChar with
      | '=' :: rest =>
        if rest.length + 1 < cs.length then
          match skipValue? rest with
          | some rest => areParameters count rest
          | none => false
        else false
      | _ => false

/-- Splits a subtype at its last plus, unless that is its first character. -/
def splitSuffix (subtype : List Char) : List Char × Option (List Char) :=
  let suffix := (subtype.reverse.takeWhile (· != '+')).reverse
  let before := subtype.take (subtype.length - suffix.length - 1)
  if suffix.length < subtype.length && !before.isEmpty then (before, some suffix)
  else (subtype, none)

/-- The media type of a text. -/
def read? (text : String) : Option MediaType :=
  let cs := text.toList
  let type := cs.takeWhile isTokenChar
  match cs.dropWhile isTokenChar with
  | '/' :: rest =>
    let subtype := rest.takeWhile isTokenChar
    let wellFormed :=
      match rest.dropWhile isTokenChar with
      | [] => true
      | ';' :: parameters => !subtype.isEmpty && areParameters parameters.length parameters
      | _ => false
    if type.isEmpty || !wellFormed then none
    else
      let (subtype, suffix) := splitSuffix (subtype.map Char.toLower)
      some ⟨type.map Char.toLower, subtype, suffix⟩
  | _ => none

/-- Whether the media type announces a value. -/
def isJson (m : MediaType) : Bool :=
  let json := "json".toList
  m.type == "application".toList && (m.subtype == json || m.suffix == some json)

end MediaType

end Dialogue.Http
