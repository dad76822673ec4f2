import Dialogue.Text.Blank

/-! # Fields, normal spacing and trimming

An utterance is a sequence of *fields*: its maximal stretches without blanks.  Two utterances with
the same fields are the same utterance, so everything that compares utterances does so after
`normalize`, which writes the fields with single spaces between them.

* `fields` — the stretches, in order; none is empty and none holds a blank.
* `unfields` — the fields with one space between neighbours.
* `normalize` — `unfields ∘ fields`, on strings.
* `trimBoth`, `trimBlanks` — drops what satisfies a predicate, or blanks, from both ends.
-/

namespace Dialogue.Text

/-! ## Fields -/

/-- The maximal stretches without blanks.  A solid character opens a new field unless the next
character is solid too; then it joins the field that the rest begins with. -/
def fields : List Char → List (List Char)
  | [] => []
  | c :: cs =>
    if isBlank c then fields cs
    else
      match cs, fields cs with
      | d :: _, w :: ws => if isBlank d then [c] :: w :: ws else (c :: w) :: ws
      | _, ws => [c] :: ws

/-- The fields written out with one space between neighbours. -/
def unfields : List (List Char) → List Char
  | [] => []
  | [w] => w
  | w :: ws => w ++ ' ' :: unfields ws

/-- The text with its fields separated by single spaces and no blank at either end.  Case and
punctuation stay as they are. -/
def normalize (text : String) : String := String.ofList (unfields (fields text.toList))

/-! ## Trimming -/

/-- Drops the characters that satisfy `p` from the end. -/
def trimEndWhile (p : Char → Bool) : List Char → List Char
  | [] => []
  | c :: cs =>
    match trimEndWhile p cs with
    | [] => if p c then [] else [c]
    | rest => c :: rest

/-- Drops the characters that satisfy `p` from both ends. -/
def trimBoth (p : Char → Bool) (cs : List Char) : List Char := trimEndWhile p (cs.dropWhile p)

/-- The text without blanks at either end. -/
def trimBlanks (text : String) : String := String.ofList (trimBoth isBlank text.toList)

end Dialogue.Text
