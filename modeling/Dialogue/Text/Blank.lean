import Dialogue.Text.CodePoints

/-! # Blank characters

Blanks separate the fields of an utterance and are dropped at its edges.  The set is the standard's
white space, which is larger than the ASCII one: it also has the line separators, the no-break
spaces and the typographic spaces, but not the zero-width ones.
-/

namespace Dialogue.Text

/-- Ranges of the white-space code points. -/
def blankEnds : List Nat := [
  0x9, 0xE, 0x20, 0x21, 0x85, 0x86, 0xA0, 0xA1, 0x1680, 0x1681, 0x2000, 0x200B, 0x2028, 0x202A,
  0x202F, 0x2030, 0x205F, 0x2060, 0x3000, 0x3001]

/-- White space. -/
def isBlank (c : Char) : Bool := within blankEnds c.toNat

@[simp] theorem isBlank_space : isBlank ' ' = true := rfl

end Dialogue.Text
