import Dialogue.Goal
import Dialogue.Timestamp

/-! # Sessions

Everything that a conversation remembers between turns is in its session: the values that handlers
set, the stack of goals, and the number of turns.  A session can be stored as a value and read back;
the field names are those of the store's format.

* `Session` — the state; `Session.new` is the state at first contact.
* `Session.encode`, `Session.decode?` — the two directions of the format.
-/

namespace Dialogue

/-- The state of one conversation. -/
structure Session where
  id : String
  slots : Dict Json
  goals : GoalStack
  /-- How many turns there were.  As with the prompts of a goal, overflow is left out. -/
  turns : Nat
  createdAt : Timestamp
  updatedAt : Timestamp
deriving DecidableEq

namespace Session

/-- A session at first contact. -/
def new (id : String) (now : Timestamp) : Session := ⟨id, .empty, .empty, 0, now, now⟩

/-- The id of the active goal. -/
def activeGoal? (s : Session) : Option String := s.goals.active?

/-- The session after one more turn. -/
def finishTurn (s : Session) (now : Timestamp) : Session :=
  { s with turns := s.turns + 1, updatedAt := now }

open Json

/-- The names of the fields, in their order. -/
def fieldNames : List String :=
  ["id", "slot_values", "goal_stack", "turn_count", "created_at", "updated_at"]

/-- A session as a value. -/
def encode (s : Session) : Json :=
  .ofDict (.ofList [
    ("id", .str s.id),
    ("slot_values", .ofDict s.slots),
    ("goal_stack", s.goals.encode),
    ("turn_count", .int s.turns),
    ("created_at", .str s.createdAt.text),
    ("updated_at", .str s.updatedAt.text)])

/-- A point in time, as its text. -/
def timestamp? (v : Json) : Option Timestamp := v.asText?.bind Timestamp.read?

/-- A session has an id and two points in time; values, goals and turns are none if missing. -/
def decode? (v : Json) : Option Session := do
  let members ← fields? fieldNames v
  let id ← required? members "id" asText?
  let slots ← optional? members "slot_values" .empty asDict?
  let goals ← optional? members "goal_stack" .empty GoalStack.decode?
  let turns ← optional? members "turn_count" 0 (natUpTo? uint64Max)
  let createdAt ← required? members "created_at" timestamp?
  let updatedAt ← required? members "updated_at" timestamp?
  return ⟨id, slots, goals, turns, createdAt, updatedAt⟩

end Session

end Dialogue
