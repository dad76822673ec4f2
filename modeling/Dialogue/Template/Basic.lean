import Dialogue.Text.Blank
import Dialogue.Text.Alphabetic
import Dialogue.Number.Digits

/-! # Templates

A template describes a family of utterances.  It is a sequence of literal words, of slots such as
`[[name]]`, which stand for one or more spoken words, and of groups such as `{to|about|}`, of which
exactly one alternative is spoken; an alternative may be empty, and groups nest.

* `Node` — an element of a template; a template is a list of them.
* `isWordChar`, `isSlotChar`, `isSpacing` — which characters make up words and slot names, and which
  may stand between elements.  A blank that is not a spacing character belongs to nothing.
* `TemplateError` — what can be wrong with a template.
-/

namespace Dialogue

/-- An element of a template. -/
inductive Node where
  | word (raw : List Char)
  | slot (name : String)
  | choice (alternatives : List (List Node))
deriving Repr

namespace Template

/-! ## Characters -/

/-- A delimiter of slots and groups. -/
def isDelimiter (c : Char) : Bool := c == '{' || c == '}' || c == '|' || c == '[' || c == ']'

/-- A character of a literal word. -/
def isWordChar (c : Char) : Bool := !Text.isBlank c && !isDelimiter c

/-- A character of a slot name. -/
def isSlotChar (c : Char) : Bool := Text.isAlphanumeric c || c == '_' || c == '.' || c == '-'

/-- A character that may stand between elements. -/
def isSpacing (c : Char) : Bool := c == ' ' || c == '\t' || c == '\r' || c == '\n'

/-- The length of a text in bytes, the unit of positions in errors. -/
def byteLength (cs : List Char) : Nat := cs.foldr (fun c n => c.utf8Size + n) 0

end Template

/-! ## Errors -/

/-- What is wrong with a template. -/
inductive TemplateFault where
  | empty
  | unknownSlot (slot : String)
  | unterminatedGroup
  | unterminatedSlot
  | malformed (offset : Nat)
  | tooManyExpansions (limit : Nat)
  | unbuildable (reason : String)
deriving DecidableEq, Repr

/-- A template and what is wrong with it. -/
structure TemplateError where
  template : String
  fault : TemplateFault
deriving DecidableEq, Repr

/-- The wording of a template error. -/
def TemplateError.message (e : TemplateError) : String :=
  s!"template `{e.template}` " ++
    match e.fault with
    | .empty => "matches no words"
    | .unknownSlot slot => s!"references unknown slot type `{slot}`"
    | .unterminatedGroup => "has an unterminated `\x7b` group"
    | .unterminatedSlot => "has an unterminated `[[` slot"
    | .malformed offset => "is malformed at byte " ++ naturalText offset
    | .tooManyExpansions limit => "expands to more than " ++ naturalText limit ++ " phrasings"
    | .unbuildable reason => s!"could not be compiled: {reason}"

end Dialogue
