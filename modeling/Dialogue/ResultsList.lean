import Dialogue.Handler

/-! # Numbered lists

A list of records that was found is kept in a slot of the session and read out with numbers, so that
a later utterance can refer to "article 2".  While the user is busy with the list, its own goal is
active.

* `ResultsList` — the slot, how one item and several are called, and which field is the title.
* `ResultsList.respondWithItems` — keeps records and reads them out.
* `ResultsList.items`, `ResultsList.item`, `ResultsList.itemAtSlot` — the records that are kept, the
  one with a number, and the one whose number a slot holds; `Act.listed` asks for them in a handler.
-/

namespace Dialogue

/-- A numbered list of records. -/
structure ResultsList where
  slot : String
  itemName : String
  itemsName : String
  titleField : String
deriving DecidableEq, Repr

namespace ResultsList

/-- The goal that is active while the user is busy with the list. -/
def interactionGoal (l : ResultsList) : String := "interactionWith" ++ l.slot

/-- One item of the list read out. -/
def announceItem (l : ResultsList) (number : Nat) (item : Record) : String :=
  " " ++ Text.capitalize l.itemName ++ " " ++ naturalText number ++ ", "
    ++ item.spokenField l.titleField ++ "."

/-- The list read out. -/
def announcement (l : ResultsList) (items : List Record) : String :=
  let noun := if items.length == 1 then l.itemName else l.itemsName
  "I found " ++ naturalText items.length ++ " " ++ noun ++ "."
    ++ String.join (items.zipIdx.map fun (item, i) => l.announceItem (i + 1) item)

/-- Keeps the records, reads them out, and starts the list's goal. -/
def respondWithItems (l : ResultsList) (items : List Record) : Act Unit := do
  Act.set l.slot (.arr (items.map Json.ofDict))
  Act.say (l.announcement items)
  Act.addGoal l.interactionGoal

/-- The records that are kept. -/
def items (l : ResultsList) (t : Turn) : Except IndexError (List Record) :=
  match (t.get? l.slot).bind Json.asItems? with
  | some stored => .ok (stored.filterMap Json.asDict?)
  | none => .error (.notListed l.itemsName)

/-- The record with a number, counted from one. -/
def item (l : ResultsList) (t : Turn) (index : Int) : Except IndexError Record := do
  let items ← l.items t
  let missing : Except IndexError Record := .error (.outOfRange l.itemName index items.length)
  if index < 1 then missing
  else
    match items[(index - 1).toNat]? with
    | some record => .ok record
    | none => missing

/-- The record whose number a slot holds. -/
def itemAtSlot (l : ResultsList) (t : Turn) (slot : String) : Except IndexError Record :=
  match t.getInteger? slot with
  | some index => l.item t index
  | none => .error (.notANumber l.itemName ((t.getText? slot).getD ""))

end ResultsList

/-- Reads something of a list from the turn as it stands. -/
def Act.listed {α : Type} (read : Turn → Except IndexError α) : Act α := do
  match read (← Act.observe) with
  | .ok a => return a
  | .error e => Act.fail (.index e)

end Dialogue
