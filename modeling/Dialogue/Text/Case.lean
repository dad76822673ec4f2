import Dialogue.Text.CaseTables

/-! # Case

Three uses of case, three mappings.

* `fold` — literal words of a template match up to *simple* folding, one character at a time.
* `lower` — searches compare full lowercase forms, where a capital sigma at the end of a word
  becomes the final sigma and `İ` becomes two characters.
* `capitalize` — a list item is announced with its first letter in full upper case, which may be
  several characters (`ß` gives `SS`).
* `sameIgnoringCase` — the comparison that only knows the letters `A` to `Z`.
-/

namespace Dialogue.Text

/-- The form in which characters that differ only by case agree. -/
def fold (c : Char) : Char :=
  match CaseRun.image? foldRuns c.toNat with
  | some n => Char.ofNat n
  | none => c

/-! ## Lower case -/

/-- The lowercase form of a character taken by itself. -/
def lowerChar (c : Char) : List Char :=
  if c == 'İ' then ['i', '\u0307']
  else
    match CaseRun.image? lowerRuns c.toNat with
    | some n => [Char.ofNat n]
    | none => [c]

/-- Whether the nearest character that is not passed over has case. -/
def casedNext (cs : List Char) : Bool :=
  match cs.dropWhile fun c => within caseIgnorableEnds c.toNat with
  | [] => false
  | c :: _ => within casedEnds c.toNat

/-- Lowercase forms of a text that follows `before`, which is given last character first. -/
def lowerAfter : List Char → List Char → List Char
  | _, [] => []
  | before, c :: cs =>
    let here :=
      if c == 'Σ' then if casedNext before && !casedNext cs then ['ς'] else ['σ']
      else lowerChar c
    here ++ lowerAfter (c :: before) cs

/-- The text in lower case. -/
def lower (text : String) : String := String.ofList (lowerAfter [] text.toList)

/-! ## Upper case -/

/-- The uppercase form of a character. -/
def upperChar (c : Char) : List Char :=
  match upperExpansions.lookup c.toNat with
  | some ns => ns.map Char.ofNat
  | none =>
    match CaseRun.image? upperRuns c.toNat with
    | some n => [Char.ofNat n]
    | none => [c]

/-- The text with its first character in upper case. -/
def capitalize (text : String) : String :=
  match text.toList with
  | [] => ""
  | c :: cs => String.ofList (upperChar c ++ cs)

/-! ## ASCII letters only -/

/-- Equal up to the case of the letters `A` to `Z`. -/
def sameIgnoringCase (a b : String) : Bool := a.toList.map Char.toLower == b.toList.map Char.toLower

end Dialogue.Text
