import Dialogue.Session.Basic
import Dialogue.RecordSource
import Dialogue.Turn.Interpolation

/-! # The state of a turn

A handler works on a turn: on the values extracted from the utterance, on a copy of the session's
values and goals, and on the speech so far.  Nothing it does reaches the session before it has
succeeded.

* `Turn` — the state; `Turn.start` begins one for a session.
* `Turn.get?`, `Turn.requireText`, `Turn.getInteger?` — reading a slot: the extracted value first,
  then the session's.
* `Turn.say`, `Turn.set`, `Turn.addGoal`, `Turn.completeGoal` — changing it.
* `TurnError` — why a handler stopped early.
-/

namespace Dialogue

/-! ## Errors -/

/-- A call on the record source. -/
inductive SourceOperation where
  | search
  | load
  | store
deriving DecidableEq, Repr

/-- How an operation is spoken of. -/
def SourceOperation.verb : SourceOperation → String
  | .search => "search"
  | .load => "look up"
  | .store => "save"

/-- Why a numbered reference to a list item could not be resolved. -/
inductive IndexError where
  | outOfRange (item : String) (index : Int) (count : Nat)
  | notListed (items : String)
  | notANumber (item raw : String)
deriving DecidableEq, Repr

/-- The wording of an unresolved reference. -/
def IndexError.message : IndexError → String
  | .outOfRange item index count =>
    s!"{item} " ++ integerText index ++ " is out of range 1..=" ++ naturalText count
  | .notListed items => s!"no {items} have been listed in this session"
  | .notANumber item raw => s!"`{raw}` is not a valid {item} number"

/-- Why a handler stopped early. -/
inductive TurnError where
  | source (operation : SourceOperation) (entity : String) (error : SourceError)
  | index (error : IndexError)
  | goal (error : GoalError)
  | missingSlot (slot : String)
  | handler (reason : String)
deriving DecidableEq, Repr

/-- The wording of a turn error. -/
def TurnError.message : TurnError → String
  | .source operation entity error => s!"unable to {operation.verb} {entity}: {error.message}"
  | .index error => error.message
  | .goal error => error.message
  | .missingSlot slot => s!"slot `{slot}` has no value"
  | .handler reason => s!"handler failed: {reason}"

/-! ## The state -/

/-- What a handler works on. -/
structure Turn where
  sessionId : String
  /-- The values extracted from the utterance. -/
  extracted : Dict Json
  /-- The values of the session, with the changes so far. -/
  values : Dict Json
  goals : GoalStack
  /-- The fragments spoken so far; none is empty. -/
  speech : List String
  /-- The milliseconds spent waiting for the record source. -/
  waited : Nat
deriving DecidableEq

namespace Turn

/-- The turn of an utterance from which values were extracted. -/
def start (s : Session) (extracted : Dict Json) : Turn :=
  { sessionId := s.id, extracted, values := s.slots, goals := s.goals, speech := [], waited := 0 }

/-! ## Reading -/

/-- The value of a slot: the extracted one, or else the session's. -/
def get? (t : Turn) (slot : String) : Option Json := t.extracted.find? slot <|> t.values.find? slot

/-- The spoken form of a slot's value. -/
def getText? (t : Turn) (slot : String) : Option String := (t.get? slot).map Json.spoken

/-- The spoken form of a slot's value, which has to have one. -/
def requireText (t : Turn) (slot : String) : Except TurnError String :=
  match t.getText? slot with
  | some s => .ok s
  | none => .error (.missingSlot slot)

/-- The nearest integer within the 64-bit bounds. -/
def clampInt64 (n : Int) : Int := max int64Min (min int64Max n)

/-- The value of a slot as an integer: an integer within the 64-bit bounds, or the nearest such
integer to a whole number that is written with a fraction or lies above them. -/
def getInteger? (t : Turn) (slot : String) : Option Int :=
  match t.get? slot with
  | some (.int n) => some (clampInt64 n)
  | some (.float x) => x.whole?.map clampInt64
  | _ => none

/-- The active goal. -/
def activeGoal? (t : Turn) : Option String := t.goals.active?

/-- The speech so far. -/
def spoken (t : Turn) : String := " ".intercalate t.speech

/-- The text that a placeholder stands for; nothing if the slot has no value. -/
def placeholderText (t : Turn) (p : Placeholder) : String :=
  let value :=
    if p.sessionFirst then t.values.find? p.name <|> t.extracted.find? p.name else t.get? p.name
  (value.map Json.spoken).getD ""

/-! ## Changing -/

/-- Speaks a text: placeholders are filled in and spacing is normalized.  A text of which nothing is
left is not spoken. -/
def say (t : Turn) (text : String) : Turn :=
  let fragment := Text.unfields (Text.fields (interpolate t.placeholderText text.toList))
  if fragment.isEmpty then t else { t with speech := t.speech ++ [String.ofList fragment] }

/-- Gives a slot of the session a value. -/
def set (t : Turn) (slot : String) (value : Json) : Turn :=
  { t with values := t.values.insert slot value }

/-- Puts a goal on top of the stack, if `knows` says that it exists. -/
def addGoal (t : Turn) (knows : String → Bool) (goal : String) : Except GoalError Unit × Turn :=
  match t.goals.push knows goal with
  | .ok goals => (.ok (), { t with goals })
  | .error e => (.error e, t)

/-- Takes a goal off the stack if it is the active one. -/
def completeGoal (t : Turn) (goal : String) : Turn :=
  if t.activeGoal? == some goal then { t with goals := t.goals.pop } else t

/-- Counts the milliseconds that a call on the record source took. -/
def wait (t : Turn) (milliseconds : Nat) : Turn := { t with waited := t.waited + milliseconds }

end Turn

end Dialogue
