import Dialogue.Engine

/-! # Calls that come at the same time

Several callers may talk to the engine at once.  Calls on different sessions do not wait for each
other; calls on one session are served one after the other, in the order in which they came, because
each has to hold the session's lock while it is served.  A lock exists as long as some call refers
to it.

A `Desk` is the state of this service: the locks by session, the calls that came and are not over,
and the stores.  Its steps are what happens to one call at a time, and any interleaving of the steps
of different calls is possible.

* `Desk.arrive` — a call comes; it refers to its session's lock, a new one if there is none.
* `Desk.acquire` — it gets the lock, which nobody holds.
* `Desk.fetch`, `Desk.work`, `Desk.commit` — the session is fetched, the handler runs, the session
  is put back or dropped.
* `Desk.leave` — it gives the lock back, which goes away with the last call that refers to it.
* `Desk.abandon` — a call that still waits is given up; the lock stays.
* `Desk.serveTogether` — calls that come at the same moment, served so that each begins as soon as
  it can.
-/

namespace Dialogue

/-- What a caller wants of a session. -/
inductive Call where
  | utterance (text : String)
  | ending
deriving DecidableEq, Repr

/-- What a call came to. -/
inductive CallResult where
  | turn (report : Engine.Report)
  | ended (result : Except StoreError Unit)

/-- How many milliseconds a call took. -/
def CallResult.waited : CallResult → Nat
  | .turn report => report.waited
  | .ended _ => 0

/-- How far a call has got. -/
inductive Phase where
  | waiting
  | holding
  | fetched (session : Option Session)
  | answered (answered : Answered)
  | over (result : CallResult)

/-- Whether a call in a phase holds its lock. -/
def Phase.holdsLock : Phase → Bool
  | .waiting => false
  | .holding | .fetched _ | .answered _ | .over _ => true

/-- A call that came: its session, what is wanted, the lock it refers to, and how far it has got. -/
structure Ticket where
  session : String
  call : Call
  lock : Nat
  phase : Phase

/-- The state of the service.  Locks and tickets are numbered in the order of their making. -/
structure Desk (σ τ : Type) where
  locks : Dict Nat
  locksMade : Nat
  tickets : List (Nat × Ticket)
  ticketsMade : Nat
  world : World σ τ

namespace Desk

variable {σ τ : Type}

/-- No calls. -/
def idle (w : World σ τ) : Desk σ τ := ⟨.empty, 0, [], 0, w⟩

/-! ## Steps -/

/-- The live call with a number. -/
def ticket? (d : Desk σ τ) (n : Nat) : Option Ticket := d.tickets.lookup n

/-- Moves a call into another phase. -/
def advance (d : Desk σ τ) (n : Nat) (phase : Phase) : Desk σ τ :=
  { d with tickets := d.tickets.map fun (m, t) => (m, if m == n then { t with phase } else t) }

/-- A call comes. -/
def arrive (d : Desk σ τ) (session : String) (call : Call) : Desk σ τ :=
  let (lock, d) :=
    match d.locks.find? session with
    | some lock => (lock, d)
    | none =>
      (d.locksMade,
        { d with locks := d.locks.insert session d.locksMade, locksMade := d.locksMade + 1 })
  { d with
    tickets := d.tickets ++ [(d.ticketsMade, ⟨session, call, lock, .waiting⟩)]
    ticketsMade := d.ticketsMade + 1 }

/-- Whether some call holds a lock. -/
def isHeld (d : Desk σ τ) (lock : Nat) : Bool :=
  d.tickets.any fun (_, t) => t.lock == lock && t.phase.holdsLock

/-- A waiting call gets its lock, if nobody holds it. -/
def acquire (d : Desk σ τ) (n : Nat) : Option (Desk σ τ) := do
  let t ← d.ticket? n
  match t.phase with
  | .waiting => if d.isHeld t.lock then none else some (d.advance n .holding)
  | _ => none

/-- The session of a call is fetched.  A session that is to be dropped need not be. -/
def fetch (e : Engine σ τ) (d : Desk σ τ) (n : Nat) : Option (Desk σ τ) := do
  let t ← d.ticket? n
  match t.phase, t.call with
  | .holding, .utterance _ =>
    match e.store.get d.world.sessions t.session with
    | .ok found => some (d.advance n (.fetched found))
    | .error error => some (d.advance n (.over (.turn ⟨.error error, none⟩)))
  | .holding, .ending => some (d.advance n (.fetched none))
  | _, _ => none

/-- The turn of a call runs on the session that was fetched. -/
def work (e : Engine σ τ) (now : Timestamp) (d : Desk σ τ) (n : Nat) : Option (Desk σ τ) := do
  let t ← d.ticket? n
  match t.phase, t.call with
  | .fetched found, .utterance text =>
    let (answered, source) := e.answer (found.getD (Session.new t.session now)) text d.world.source
    some { d.advance n (.answered answered) with world := { d.world with source } }
  | _, _ => none

/-- The session of a call is put back, or dropped if that is wanted. -/
def commit (e : Engine σ τ) (now : Timestamp) (d : Desk σ τ) (n : Nat) : Option (Desk σ τ) := do
  let t ← d.ticket? n
  match t.phase, t.call with
  | .answered answered, .utterance _ =>
    match e.store.put d.world.sessions (answered.session.finishTurn now) with
    | .ok sessions =>
      some { d.advance n (.over (.turn ⟨.ok answered.outcome, answered.turn⟩)) with
        world := { d.world with sessions } }
    | .error error => some (d.advance n (.over (.turn ⟨.error error, answered.turn⟩)))
  | .fetched _, .ending =>
    match e.store.delete d.world.sessions t.session with
    | .ok sessions =>
      some { d.advance n (.over (.ended (.ok ()))) with world := { d.world with sessions } }
    | .error error => some (d.advance n (.over (.ended (.error error))))
  | _, _ => none

/-- Takes a call away. -/
def remove (d : Desk σ τ) (n : Nat) : Desk σ τ :=
  { d with tickets := d.tickets.filter (·.1 != n) }

/-- A call that is over gives its lock back.  If no other call refers to the lock, it goes away. -/
def leave (d : Desk σ τ) (n : Nat) : Option (CallResult × Desk σ τ) := do
  let t ← d.ticket? n
  match t.phase with
  | .over result =>
    let d := d.remove n
    let referred := d.tickets.any fun (_, u) => u.lock == t.lock
    if !referred && d.locks.find? t.session == some t.lock then
      some (result, { d with locks := d.locks.erase t.session })
    else some (result, d)
  | _ => none

/-- A waiting call is given up. -/
def abandon (d : Desk σ τ) (n : Nat) : Option (Desk σ τ) := do
  let t ← d.ticket? n
  match t.phase with
  | .waiting => some (d.remove n)
  | _ => none

/-! ## Serving -/

/-- All steps of a call that can begin. -/
def serve (e : Engine σ τ) (now : Timestamp) (d : Desk σ τ) (n : Nat) :
    Option (CallResult × Desk σ τ) := do
  let d ← d.acquire n
  let d ← d.fetch e n
  let d := (d.work e now n).getD d
  let d := (d.commit e now n).getD d
  d.leave n

/-- The call that can begin first, given the moment from which on each session is free: of those
that came first for their sessions the one with the earliest moment, and of several the one that
came first. -/
def nextTicket? (d : Desk σ τ) (free : Dict Nat) : Option (Nat × Ticket) :=
  let moment (t : Ticket) : Nat := (free.find? t.session).getD 0
  let firstOfSession (e : Nat × Ticket) : Bool :=
    !d.tickets.any fun (m, t) => m < e.1 && t.session == e.2.session
  (d.tickets.filter firstOfSession).foldl (fun best e =>
    match best with
    | none => some e
    | some b => if moment e.2 < moment b.2 then some e else some b) none

/-- Serves calls one after the other, each at the moment at which it can begin, and gives the
results by number.  The count bounds the number of calls. -/
def serveAll (e : Engine σ τ) (now : Timestamp) :
    Nat → Dict Nat → Desk σ τ → List (Nat × CallResult) × Desk σ τ
  | 0, _, d => ([], d)
  | count + 1, free, d =>
    match d.nextTicket? free with
    | none => ([], d)
    | some (n, t) =>
      match d.serve e now n with
      | none => ([], d)
      | some (result, d) =>
        let moment := (free.find? t.session).getD 0 + result.waited
        let (results, d) := serveAll e now count (free.insert t.session moment) d
        ((n, result) :: results, d)

/-- Serves calls that come at the same moment, in the given order.  The results are in that
order. -/
def serveTogether (e : Engine σ τ) (now : Timestamp) (calls : List (String × Call))
    (w : World σ τ) : List CallResult × World σ τ :=
  let d := calls.foldl (fun d c => d.arrive c.1 c.2) (idle w)
  let (results, d) := serveAll e now calls.length .empty d
  ((List.range calls.length).filterMap fun n => results.lookup n, d.world)

end Desk

end Dialogue
