import Dialogue.Turn.Basic
import Dialogue.Projection

/-! # Handlers

A handler is what a conversation does when it has understood an utterance: it reads slots, speaks,
sets values, adds goals and asks the record source, and what it does next may depend on everything
it was told before.  So a handler is a tree of requests: each node is a request, and there is a
branch for every possible answer.

* `Request`, `Request.Answer` — what can be asked, and what comes back.
* `Script` — a tree of requests with results at its leaves; `Act` is a script that may fail, written
  in `do` notation.
* `Script.run` — carries a script out against a turn and a record source.
* `Handler` — an act, together with whether it may wait for the record source.
-/

namespace Dialogue

/-! ## Requests -/

/-- A request of a handler.  Entities and fields may be named with markers. -/
inductive Request where
  | observe
  | say (text : String)
  | set (slot : String) (value : Json)
  | addGoal (goal : String)
  | search (entity term : String)
  | load (entity : String) (field value raw : Option String)
  | store (entity : String) (fields : Record)

/-- What answers a request. -/
def Request.Answer : Request → Type
  | .observe => Turn
  | .say _ | .set _ _ => Unit
  | .addGoal _ => Except GoalError Unit
  | .search _ _ | .load _ _ _ _ => Except TurnError (List Record)
  | .store _ _ => Except TurnError Record

/-- What a handler runs in: which goals exist, how records are projected, and how many milliseconds
a call on the record source may take. -/
structure Setting (σ : Type) where
  knows : String → Bool
  source : RecordSource σ
  projection : Projection
  patience : Nat

/-- A source's failure, told with the operation and the entity it concerns. -/
def explain {α : Type} (operation : SourceOperation) (entity : String) :
    Except SourceError α → Except TurnError α
  | .ok a => .ok a
  | .error e => .error (.source operation entity e)

/-- Carries out one request.  What reaches the record source has no markers, and the records that
come back are cut down to the fields of interest. -/
def Request.perform {σ : Type} (setting : Setting σ) :
    (r : Request) → Turn → σ → r.Answer × Turn × σ
  | .observe, t, s => (t, t, s)
  | .say text, t, s => ((), t.say text, s)
  | .set slot value, t, s => ((), t.set slot value, s)
  | .addGoal goal, t, s =>
    let (answer, t) := t.addGoal setting.knows goal
    (answer, t, s)
  | .search entity term, t, s =>
    let name := setting.projection.strip entity
    let (reply, s) := setting.source.search name term setting.patience s
    ((explain .search name reply.result).map (·.map (setting.projection.project entity)),
      t.wait reply.waited, s)
  | .load entity field value raw, t, s =>
    let name := setting.projection.strip entity
    let field := field.map setting.projection.strip
    let (reply, s) := setting.source.load name field value raw setting.patience s
    ((explain .load name reply.result).map (·.map (setting.projection.project entity)),
      t.wait reply.waited, s)
  | .store entity fields, t, s =>
    let name := setting.projection.strip entity
    let fields := setting.projection.stripFields fields
    let (reply, s) := setting.source.store name fields setting.patience s
    (explain .store name reply.result, t.wait reply.waited, s)

/-! ## Scripts -/

/-- A tree of requests: what is asked first, and how it goes on after each answer. -/
inductive Script (α : Type) where
  | done (result : α)
  | ask (request : Request) (next : request.Answer → Script α)

namespace Script

variable {α β : Type}

/-- Goes on with another script. -/
def bind (next : α → Script β) : Script α → Script β
  | .done a => next a
  | .ask r k => .ask r fun answer => (k answer).bind next

instance : Monad Script where
  pure := .done
  bind s f := s.bind f

/-- Carries a script out: its result, the turn as it leaves it, and the state of the source. -/
def run {σ : Type} (setting : Setting σ) : Script α → Turn → σ → α × Turn × σ
  | .done a, t, s => (a, t, s)
  | .ask r k, t, s =>
    let (answer, t, s) := r.perform setting t s
    (k answer).run setting t s

end Script

/-- A script that may stop early. -/
abbrev Act (α : Type) := ExceptT TurnError Script α

namespace Act

variable {α : Type}

/-- The act that asks one thing. -/
def ask (r : Request) : Act r.Answer := ExceptT.lift (.ask r .done)

/-- Stops with an error, or goes on with a value. -/
def ofExcept : Except TurnError α → Act α := ExceptT.mk ∘ Script.done

/-- Stops with an error. -/
def fail (e : TurnError) : Act α := ofExcept (.error e)

/-- The turn as it stands. -/
def observe : Act Turn := ask .observe

/-- Speaks a text with placeholders. -/
def say (text : String) : Act Unit := ask (.say text)

/-- Gives a slot of the session a value. -/
def set (slot : String) (value : Json) : Act Unit := ask (.set slot value)

/-- Puts a goal on top of the stack. -/
def addGoal (goal : String) : Act Unit := do
  match ← ask (.addGoal goal) with
  | .ok () => return
  | .error e => fail (.goal e)

/-- The records of an entity that contain a text. -/
def search (entity term : String) : Act (List Record) := do ofExcept (← ask (.search entity term))

/-- The records of an entity that a field or a raw filter selects. -/
def load (entity : String) (field value raw : Option String) : Act (List Record) := do
  ofExcept (← ask (.load entity field value raw))

/-- Adds a record, and gives it back as it is stored. -/
def store (entity : String) (fields : Record) : Act Record := do
  ofExcept (← ask (.store entity fields))

/-- The spoken form of a slot's value, which has to have one. -/
def requireText (slot : String) : Act String := do ofExcept ((← observe).requireText slot)

end Act

/-! ## Handlers -/

/-- What a binding does.  An immediate handler speaks and changes the session only; a suspending one
may wait for the record source in between. -/
inductive Handler where
  | immediate (body : Act Unit)
  | suspending (body : Act Unit)

namespace Handler

/-- What the handler does. -/
def body : Handler → Act Unit
  | .immediate body => body
  | .suspending body => body

/-- Whether the handler may wait. -/
def isSuspending : Handler → Bool
  | .immediate _ => false
  | .suspending _ => true

/-- Carries the handler out. -/
def run {σ : Type} (h : Handler) (setting : Setting σ) (t : Turn) (s : σ) :
    Except TurnError Unit × Turn × σ :=
  Script.run setting h.body.run t s

end Handler

end Dialogue
