import Dialogue.Text.Spacing

/-! # Fallback speech

What is said when nothing was understood or something failed.  These texts are settings; some hold
fields such as `{item}`, which are filled in.

* `Fallback` — the texts.
* `fill` — fills in fields one after the other, so that a later field is also found in the value of
  an earlier one.
-/

namespace Dialogue

/-- The texts for what goes wrong. -/
structure Fallback where
  notUnderstood : String
  repromptPrefix : String
  sourceFailure : String
  itemNotFound : String
  nothingListed : String
  technicalIssue : String
deriving DecidableEq, Repr

/-- The texts that are used if no others are set. -/
def Fallback.default : Fallback where
  notUnderstood := "Sorry, I did not understand that."
  repromptPrefix := "Sorry, I did not get that."
  sourceFailure := "Sorry, I was unable to \x7boperation\x7d \x7bentity\x7d right now."
  itemNotFound := "Sorry, I could not find \x7bitem\x7d \x7bindex\x7d."
  nothingListed := "Sorry, I do not have any \x7bitems\x7d for you yet."
  technicalIssue := "Sorry, something went wrong. Please try again."

/-- Replaces every occurrence of a text that does not overlap an earlier one.  The count says how
many characters still belong to the occurrence just found. -/
def replaceFrom (old new : List Char) : Nat → List Char → List Char
  | _, [] => []
  | skip + 1, _ :: cs => replaceFrom old new skip cs
  | 0, c :: cs =>
    if old.isPrefixOf (c :: cs) then new ++ replaceFrom old new (old.length - 1) cs
    else c :: replaceFrom old new 0 cs

/-- The text with the field of one name filled in. -/
def fillField (cs : List Char) (field : String × String) : List Char :=
  replaceFrom ('{' :: field.1.toList ++ ['}']) field.2.toList 0 cs

/-- The text with fields filled in, one after the other. -/
def fill (template : String) (fields : List (String × String)) : String :=
  String.ofList (fields.foldl fillField template.toList)

end Dialogue
