import Dialogue.Text.WordCharacter
import Dialogue.Text.Blank

/-! # Placeholders in spoken text

A handler speaks text with placeholders.  `[[name]]` stands for the value that this turn's utterance
gave a slot, or else for the session's; `{{name}}` prefers the session's.  Placeholders are found in
one pass from left to right, so text that comes from a value is not looked at again.

* `Placeholder` — a kind and a name; `placeholder?` reads one at the front of a text.
* `interpolate` — the text with every placeholder replaced.
-/

namespace Dialogue

/-- A placeholder: whether the session's value is preferred, and the name of the slot. -/
structure Placeholder where
  sessionFirst : Bool
  name : String
deriving DecidableEq, Repr

/-- A character of a slot name in a placeholder. -/
def isPlaceholderChar (c : Char) : Bool := Text.isWordCharacter c || c == '.'

/-- A name with blanks around it, and the text after two closing delimiters. -/
def delimitedName? (close : Char) (cs : List Char) :
    Option (String × { rest : List Char // rest.length ≤ cs.length }) :=
  let body := cs.dropWhile Text.isBlank
  let name := body.takeWhile isPlaceholderChar
  match h : (body.dropWhile isPlaceholderChar).dropWhile Text.isBlank with
  | c :: d :: rest =>
    if c == close && d == close && !name.isEmpty then
      some (String.ofList name, ⟨rest, by
        have h₁ := (List.dropWhile_sublist (l := cs) Text.isBlank).length_le
        have h₂ := (List.dropWhile_sublist (l := body) isPlaceholderChar).length_le
        have h₃ := (List.dropWhile_sublist (l := body.dropWhile isPlaceholderChar)
          Text.isBlank).length_le
        simp only [h, List.length_cons, body] at h₁ h₂ h₃ ⊢
        omega⟩)
    else none
  | _ => none

/-- A placeholder at the front of a text, and what follows it. -/
def placeholder? (cs : List Char) :
    Option (Placeholder × { rest : List Char // rest.length < cs.length }) :=
  match cs with
  | '[' :: '[' :: cs =>
    (delimitedName? ']' cs).map fun (name, ⟨rest, h⟩) =>
      (⟨false, name⟩, ⟨rest, by simp only [List.length_cons]; omega⟩)
  | '{' :: '{' :: cs =>
    (delimitedName? '}' cs).map fun (name, ⟨rest, h⟩) =>
      (⟨true, name⟩, ⟨rest, by simp only [List.length_cons]; omega⟩)
  | _ => none

/-- The text with each placeholder replaced by what `value` gives for it. -/
def interpolate (value : Placeholder → String) (cs : List Char) : List Char :=
  match placeholder? cs with
  | some (p, ⟨rest, _⟩) => (value p).toList ++ interpolate value rest
  | none =>
    match cs with
    | [] => []
    | c :: cs => c :: interpolate value cs
termination_by cs.length

end Dialogue
