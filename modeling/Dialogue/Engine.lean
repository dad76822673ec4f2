import Dialogue.Resolution
import Dialogue.Fallback
import Dialogue.Session.Store

/-! # The engine

One utterance is one turn.  The engine fetches the session, understands the utterance, carries out
the handler, and puts the session back.  What the handler did counts only if it succeeded; then the
prompt of the goal that is active afterwards follows the handler's speech.  Otherwise the session
keeps its values and goals, and the user hears what was spoken so far or an apology.

* `Engine` — a model with its record source, its session store and its settings.
* `Engine.answer` — the turn of a session that was fetched: the session to put back and the outcome.
* `Engine.handleUtterance`, `Engine.endSession` — whole turns, the store included.
-/

namespace Dialogue

/-- A model with its collaborators and settings. -/
structure Engine (σ τ : Type) where
  model : Model
  source : RecordSource σ
  store : SessionStore τ
  projection : Projection
  fallback : Fallback
  /-- How many milliseconds a call on the record source may take. -/
  patience : Nat

/-- The result of a turn for the user. -/
structure Outcome where
  spoken : String
  /-- Whether a handler succeeded. -/
  updated : Bool
  /-- Where the binding was declared that understood the utterance. -/
  matched : Option Scope
deriving DecidableEq, Repr

/-- A turn that is over but not yet stored: the session as it is to be stored, the outcome, and the
turn as the handler left it, if one ran. -/
structure Answered where
  session : Session
  outcome : Outcome
  turn : Option Turn

/-- The states of a record source and of a session store. -/
structure World (σ τ : Type) where
  source : σ
  sessions : τ

namespace Engine

variable {σ τ : Type}

/-! ## Prompts and apologies -/

/-- The prompt of the active goal, empty if there is none. -/
def currentPrompt (e : Engine σ τ) (goals : GoalStack) : String :=
  match goals.top? with
  | none => ""
  | some g =>
    match e.model.goal? g.id with
    | some goal => goal.prompt g.promptsIssued
    | none => ""

/-- What is said when nothing was understood: the active goal's prompt once more, if it has one. -/
def repromptSpeech (e : Engine σ τ) (goals : GoalStack) : String :=
  let prompt := e.currentPrompt goals
  if prompt.isEmpty then e.fallback.notUnderstood else e.fallback.repromptPrefix ++ " " ++ prompt

/-- What is said when a handler failed without having spoken. -/
def apology (e : Engine σ τ) : TurnError → String
  | .source operation entity _ =>
    fill e.fallback.sourceFailure [("operation", operation.verb), ("entity", entity)]
  | .index (.notListed items) => fill e.fallback.nothingListed [("items", items)]
  | .index (.outOfRange item index _) =>
    fill e.fallback.itemNotFound [("item", item), ("index", integerText index)]
  | .index (.notANumber item raw) =>
    fill e.fallback.itemNotFound [("item", item), ("index", raw)]
  | .goal _ | .missingSlot _ | .handler _ => e.fallback.technicalIssue

/-! ## A turn -/

/-- What handlers run in. -/
def setting (e : Engine σ τ) : Setting σ := ⟨e.model.hasGoal, e.source, e.projection, e.patience⟩

/-- The turn of an utterance that was understood, before the handler: a goal whose binding was
triggered is done. -/
def startTurn (s : Session) (r : Resolution) : Turn :=
  let t := Turn.start s r.values
  match r.scope with
  | .goal id => t.completeGoal id
  | .global => t

/-- The turn of an utterance that was not understood. -/
def notUnderstood (e : Engine σ τ) (s : Session) : Answered :=
  { session := { s with goals := s.goals.issue }
    outcome := ⟨e.repromptSpeech s.goals, false, none⟩
    turn := none }

/-- The turn of a handler that failed: the session is as it was. -/
def failed (e : Engine σ τ) (s : Session) (scope : Scope) (t : Turn) (error : TurnError) :
    Answered :=
  { session := s
    outcome := ⟨if t.speech.isEmpty then e.apology error else t.spoken, false, some scope⟩
    turn := some t }

/-- The turn of a handler that succeeded: its changes count, and the active goal gives a prompt. -/
def succeeded (e : Engine σ τ) (s : Session) (scope : Scope) (t : Turn) : Answered :=
  let prompt := e.currentPrompt t.goals
  let speech := if prompt.isEmpty then t.speech else t.speech ++ [prompt]
  { session := { s with slots := t.values, goals := t.goals.issue }
    outcome := ⟨" ".intercalate speech, true, some scope⟩
    turn := some t }

/-- The turn of a session that was fetched. -/
def answer (e : Engine σ τ) (s : Session) (utterance : String) (source : σ) : Answered × σ :=
  match e.model.resolve s.activeGoal? utterance with
  | .error _ => (e.notUnderstood s, source)
  | .ok r =>
    let (result, t, source) := r.binding.handler.run e.setting (startTurn s r) source
    match result with
    | .ok () => (e.succeeded s r.scope t, source)
    | .error error => (e.failed s r.scope t error, source)

/-! ## Whole turns -/

/-- The result of a turn for who runs the engine: the outcome or the failure of the store, and the
turn as the handler left it, if one ran. -/
structure Report where
  outcome : Except StoreError Outcome
  turn : Option Turn

/-- The milliseconds that a turn took. -/
def Report.waited (r : Report) : Nat := (r.turn.map Turn.waited).getD 0

/-- Processes one utterance of a session, which begins with it if there is none. -/
def handleUtterance (e : Engine σ τ) (now : Timestamp) (id utterance : String) (w : World σ τ) :
    Report × World σ τ :=
  match e.store.get w.sessions id with
  | .error error => (⟨.error error, none⟩, w)
  | .ok found =>
    let (answered, source) := e.answer (found.getD (Session.new id now)) utterance w.source
    match e.store.put w.sessions (answered.session.finishTurn now) with
    | .error error => (⟨.error error, answered.turn⟩, { w with source })
    | .ok sessions => (⟨.ok answered.outcome, answered.turn⟩, ⟨source, sessions⟩)

/-- Drops a session. -/
def endSession (e : Engine σ τ) (id : String) (w : World σ τ) :
    Except StoreError Unit × World σ τ :=
  match e.store.delete w.sessions id with
  | .error error => (.error error, w)
  | .ok sessions => (.ok (), { w with sessions })

end Engine

end Dialogue
