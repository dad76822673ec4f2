import Dialogue.Json.Decode

/-! # The goal stack

While a conversation pursues something, such as the name of a new lead, a *goal* is active, and
utterances are understood in its light first.  A goal that is added while another is active suspends
it; when it is done, the one beneath is active again.  So the goals of a session form a stack.

* `GoalInstance` — a goal on the stack, with the number of prompts it has given.
* `GoalStack` — the stack, bottom first; the last entry is active.
* `GoalStack.push` — only for goals that exist.  `pop`, `top?` and `issue` concern the last entry.
-/

namespace Dialogue

/-- Misuse of goals. -/
inductive GoalError where
  | unknown (goal : String)
  | duplicate (goal : String)
deriving DecidableEq, Repr

/-- The wording of a goal error. -/
def GoalError.message : GoalError → String
  | .unknown goal => s!"goal `{goal}` is not defined"
  | .duplicate goal => s!"goal `{goal}` is defined twice"

/-- A goal on the stack of a session. -/
structure GoalInstance where
  id : String
  /-- How many prompts were given.  That a counter of 64 bits overflows is left out; such a number
  can be stored up to `uint64Max`. -/
  promptsIssued : Nat
deriving DecidableEq, Repr

/-- The goals of a session, the active one last. -/
structure GoalStack where
  entries : List GoalInstance
deriving DecidableEq, Repr, Inhabited

namespace GoalStack

/-- No goals. -/
def empty : GoalStack := ⟨[]⟩

/-- Puts a goal on top, if `knows` says that it exists. -/
def push (s : GoalStack) (knows : String → Bool) (goal : String) : Except GoalError GoalStack :=
  if knows goal then .ok ⟨s.entries ++ [⟨goal, 0⟩]⟩ else .error (.unknown goal)

/-- The active goal. -/
def top? (s : GoalStack) : Option GoalInstance := s.entries.getLast?

/-- Takes the active goal away. -/
def pop (s : GoalStack) : GoalStack := ⟨s.entries.dropLast⟩

/-- Counts one more prompt for the active goal. -/
def issue (s : GoalStack) : GoalStack :=
  match s.entries.getLast? with
  | none => s
  | some g => ⟨s.entries.dropLast ++ [{ g with promptsIssued := g.promptsIssued + 1 }]⟩

/-- The ids of the goals, bottom first. -/
def ids (s : GoalStack) : List String := s.entries.map (·.id)

/-- The id of the active goal. -/
def active? (s : GoalStack) : Option String := s.top?.map (·.id)

/-- Whether there are no goals. -/
def isEmpty (s : GoalStack) : Bool := s.entries.isEmpty

end GoalStack

/-! ## As values -/

open Json

/-- A goal instance as a value. -/
def GoalInstance.encode (g : GoalInstance) : Json :=
  .ofDict (.ofList [("id", .str g.id), ("prompts_issued", .int g.promptsIssued)])

/-- A goal instance has an id and a number of prompts, zero if it is missing. -/
def GoalInstance.decode? (v : Json) : Option GoalInstance := do
  let members ← fields? ["id", "prompts_issued"] v
  let id ← required? members "id" asText?
  let promptsIssued ← optional? members "prompts_issued" 0 (natUpTo? uint64Max)
  return ⟨id, promptsIssued⟩

/-- A goal stack as a value. -/
def GoalStack.encode (s : GoalStack) : Json :=
  .ofDict (.ofList [("entries", .arr (s.entries.map GoalInstance.encode))])

/-- A goal stack has its entries, bottom first. -/
def GoalStack.decode? (v : Json) : Option GoalStack := do
  let members ← fields? ["entries"] v
  return ⟨← required? members "entries" (list? GoalInstance.decode?)⟩

end Dialogue
