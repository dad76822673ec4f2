import Dialogue.Template.Phrasing
import Dialogue.Text.WordCharacter
import Dialogue.Text.Case
import Dialogue.Text.Spacing
import Dialogue.Dict

/-! # Matching a phrasing

An utterance is matched from its first character to its last.  Tokens are separated by one space; a
word may have punctuation attached on both sides and ignores case; a slot takes at least one
character.  Where several stretches are possible there is an order of preference: attached
punctuation takes as much as it can, a slot as little as it can, and earlier parts choose first.

A phrasing becomes a list of *atoms*.  Each atom offers, at a given place, the numbers of characters
it could take, best first; `Pattern.match?` is the first combination of offers that uses up the
text.

* `Atom`, `Pattern.ofPhrasing` — what a phrasing asks of the characters.
* `Pattern.match?` — the numbers of characters taken, one per atom.
* `Pattern.spans?` — the stretches taken by the slots.
* `PatternBuilder` — what patterns are built with, and may be refused by.
-/

namespace Dialogue

/-- A part of a pattern: one letter up to case, a run of attached punctuation, or the stretch of a
slot. -/
inductive Atom where
  | letter (folded : Char)
  | punctuation
  | span
deriving DecidableEq, Repr

/-- The atoms of a phrasing. -/
abbrev Pattern := List Atom

namespace Atom

/-- A character that may be attached to a word: neither part of a word nor a blank. -/
def isAttached (c : Char) : Bool := !Text.isWordCharacter c && !Text.isBlank c

/-- The numbers from `n` down to zero. -/
def downFrom : Nat → List Nat
  | 0 => [0]
  | n + 1 => (n + 1) :: downFrom n

/-- The numbers of characters that an atom could take from the front of a text, best first.  The
stretch of a slot does not go beyond a line. -/
def offers : Atom → List Char → List Nat
  | letter _, [] => []
  | letter folded, c :: _ => if Text.fold c == folded then [1] else []
  | punctuation, cs => downFrom (cs.takeWhile isAttached).length
  | span, cs => List.range' 1 (cs.takeWhile (· != '\n')).length

end Atom

namespace Pattern

/-- The atoms of a token. -/
def ofToken : Token → Pattern
  | .word letters => .punctuation :: letters.map (fun c => .letter (Text.fold c)) ++ [.punctuation]
  | .slot _ => [.span]

/-- The atoms of a phrasing, with one space between tokens. -/
def ofPhrasing : Phrasing → Pattern
  | [] => []
  | [t] => ofToken t
  | t :: ts => ofToken t ++ .letter ' ' :: ofPhrasing ts

/-- How many characters the atoms take when together they take the whole text: the first possibility
in the order of preference. -/
def match? : Pattern → List Char → Option (List Nat)
  | [], cs => if cs.isEmpty then some [] else none
  | a :: as, cs => (a.offers cs).findSome? fun n => (match? as (cs.drop n)).map (n :: ·)

/-- The stretches that the slots take, given how many characters each atom takes. -/
def spans : Pattern → List Nat → List Char → List (List Char)
  | .span :: as, n :: ns, cs => cs.take n :: spans as ns (cs.drop n)
  | _ :: as, n :: ns, cs => spans as ns (cs.drop n)
  | _, _, _ => []

/-- The stretches that the slots take when the pattern matches. -/
def spans? (p : Pattern) (cs : List Char) : Option (List (List Char)) :=
  (match? p cs).map (spans p · cs)

end Pattern

/-! ## Building -/

/-- What patterns are built with when a template is compiled: a library of regular expressions.  It
refuses what is too large for it, for reasons of its own; which phrasings these are is left open. -/
structure PatternBuilder where
  /-- Why the pattern of a phrasing is refused, if it is. -/
  refusal? : Phrasing → Option String

namespace PatternBuilder

/-- The pattern of a phrasing is built. -/
def Builds (b : PatternBuilder) (p : Phrasing) : Prop := b.refusal? p = none

/-- A builder that refuses nothing, as none does as long as phrasings are short. -/
def unlimited : PatternBuilder := ⟨fun _ => none⟩

end PatternBuilder

/-! ## Captures -/

/-- Sentence punctuation, which does not belong to a captured value that it stands around. -/
def isSentencePunctuation (c : Char) : Bool :=
  ['.', ',', '?', '!', ';', ':', '"', '(', ')'].contains c

/-- A captured stretch without blanks and sentence punctuation at its ends. -/
def trimCapture (cs : List Char) : List Char :=
  Text.trimBoth (fun c => Text.isBlank c || isSentencePunctuation c) cs

/-- The captured texts by slot name; if a slot occurs twice, the last occurrence counts.  A slot
from which trimming leaves nothing was not filled, and then the phrasing captures nothing. -/
def captureSlots : List String → List (List Char) → Dict String → Option (Dict String)
  | name :: names, span :: spans, slots =>
    let value := trimCapture span
    if value.isEmpty then none
    else captureSlots names spans (slots.insert name (String.ofList value))
  | _, _, slots => some slots

namespace Phrasing

/-- Whether the phrasing matches a normalized text. -/
def isMatch (p : Phrasing) (normalized : String) : Bool :=
  (Pattern.match? (Pattern.ofPhrasing p) normalized.toList).isSome

/-- The texts that the slots capture from a normalized text. -/
def captures? (p : Phrasing) (normalized : String) : Option (Dict String) := do
  let spans ← Pattern.spans? (Pattern.ofPhrasing p) normalized.toList
  captureSlots p.slotNames spans .empty

end Phrasing

end Dialogue
