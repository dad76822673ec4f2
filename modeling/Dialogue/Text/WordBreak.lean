import Dialogue.Text.Alphabetic
import Dialogue.Text.WordBreakTables

/-! # Words

Where a word ends is decided between neighbours: letters stay together, so do digits, an apostrophe
or a full stop stays inside a word when letters stand on both sides, marks stay with what they
extend, and otherwise there is a break.  This file follows the standard rules of text segmentation,
which sort characters into the classes of `WordBreak.Class` and need, at each gap, the two classes
before it and the two after it, marks and invisible controls not counted.

* `WordBreak.Class.of` — the class of a character.
* `WordBreak.Context.joins` — whether the gap before the rest of the text is *not* a break.
* `segments` — the stretches between breaks; put together they are the text.
* `words` — the segments that hold a letter or a numeral.
* `hasWord` — whether there is one.
-/

namespace Dialogue.Text

namespace WordBreak

/-! ## Classes -/

/-- What a character contributes to the decision where words end. -/
inductive Class where
  | carriageReturn
  | lineFeed
  | newline
  | extend
  | joiner
  | format
  | regional
  | katakana
  | hebrew
  | letter
  | singleQuote
  | doubleQuote
  | midEither
  | midLetter
  | midNumber
  | digit
  | connector
  | space
  | other
deriving DecidableEq, Repr

/-- The classes of single characters, and the tables in which the others are looked up. -/
def Class.of (c : Char) : Class :=
  let n := c.toNat
  if within letterEnds n then .letter
  else if within digitEnds n then .digit
  else if within spaceEnds n then .space
  else if n == 0x0D then .carriageReturn
  else if n == 0x0A then .lineFeed
  else if n == 0x0B || n == 0x0C || n == 0x85 || n == 0x2028 || n == 0x2029 then .newline
  else if n == 0x27 then .singleQuote
  else if n == 0x22 then .doubleQuote
  else if within midEitherEnds n then .midEither
  else if within midLetterEnds n then .midLetter
  else if within midNumberEnds n then .midNumber
  else if within connectorEnds n then .connector
  else if n == 0x200D then .joiner
  else if within extendEnds n then .extend
  else if within formatEnds n then .format
  else if within hebrewEnds n then .hebrew
  else if within katakanaEnds n then .katakana
  else if 0x1F1E6 ≤ n && n ≤ 0x1F1FF then .regional
  else .other

/-- A pictograph, which a joiner before it glues to what precedes. -/
def isPictograph (c : Char) : Bool := within pictographEnds c.toNat

namespace Class

/-- A line end of any kind. -/
def endsLine (k : Class) : Bool := k == .carriageReturn || k == .lineFeed || k == .newline

/-- Marks and controls, which never start a segment of their own inside a line and are passed over
when the neighbours of a gap are determined. -/
def transparent (k : Class) : Bool := k == .extend || k == .format || k == .joiner

/-- A letter of any alphabet. -/
def isLetter (k : Class) : Bool := k == .letter || k == .hebrew

/-- A character that keeps letters on both sides together. -/
def bridgesLetters (k : Class) : Bool := k == .midLetter || k == .midEither || k == .singleQuote

/-- A character that keeps digits on both sides together. -/
def bridgesDigits (k : Class) : Bool := k == .midNumber || k == .midEither || k == .singleQuote

/-- What a connector sticks to. -/
def isWordly (k : Class) : Bool := k.isLetter || k == .digit || k == .katakana

end Class

/-! ## Gaps -/

/-- What stands before a gap: the class of the last character; the class it counts as, which is that
of the character the transparent ones extend; the class counted before that one; and whether an odd
number of regional indicators ends here. -/
structure Context where
  last : Class
  counted : Class
  before : Class
  oddRegional : Bool

/-- The context at the start of a text, which counts as a line of its own. -/
def Context.start : Context := ⟨.newline, .newline, .newline, false⟩

/-- The context after one more character. -/
def Context.after (x : Context) (c : Char) : Context :=
  let k := Class.of c
  if k.transparent && !x.last.endsLine then { x with last := k }
  else ⟨k, k, x.counted, k == .regional && !(x.counted == .regional && x.oddRegional)⟩

/-- The class counted next in the rest of a text. -/
def nextClass (cs : List Char) : Class :=
  match cs.dropWhile fun c => (Class.of c).transparent with
  | [] => .newline
  | c :: _ => Class.of c

/-- Whether the gap before `c`, which `rest` follows, holds its two sides together. -/
def Context.joins (x : Context) (c : Char) (rest : List Char) : Bool :=
  let r := Class.of c
  let l := x.counted
  if x.last == .carriageReturn && r == .lineFeed then true
  else if x.last.endsLine || r.endsLine then false
  else if x.last == .joiner && isPictograph c then true
  else if x.last == .space && r == .space then true
  else if r.transparent then true
  else
    l.isLetter && r.isLetter
      || l.isLetter && r.bridgesLetters && (nextClass rest).isLetter
      || x.before.isLetter && l.bridgesLetters && r.isLetter
      || l == .hebrew && r == .singleQuote
      || l == .hebrew && r == .doubleQuote && nextClass rest == .hebrew
      || x.before == .hebrew && l == .doubleQuote && r == .hebrew
      || (l == .digit || l.isLetter) && r == .digit
      || l == .digit && r.isLetter
      || x.before == .digit && l.bridgesDigits && r == .digit
      || l == .digit && r.bridgesDigits && nextClass rest == .digit
      || l == .katakana && r == .katakana
      || (l.isWordly || l == .connector) && r == .connector
      || l == .connector && r.isWordly
      || l == .regional && r == .regional && x.oddRegional

/-- The segments of a text that stands in a context. -/
def segmentsAfter : Context → List Char → List (List Char)
  | _, [] => []
  | x, c :: cs =>
    let x' := x.after c
    match cs, segmentsAfter x' cs with
    | d :: ds, w :: ws => if x'.joins d ds then (c :: w) :: ws else [c] :: w :: ws
    | _, ws => [c] :: ws

end WordBreak

/-! ## Words -/

/-- The stretches between word breaks. -/
def segments (cs : List Char) : List (List Char) := WordBreak.segmentsAfter .start cs

/-- The segments that hold a letter or a numeral. -/
def words (cs : List Char) : List (List Char) := (segments cs).filter fun w => w.any isAlphanumeric

/-- Whether a text holds a word.  Since every character lies in one segment, that is whether it
holds a letter or a numeral. -/
def hasWord (text : String) : Bool := text.toList.any isAlphanumeric

end Dialogue.Text
