import Dialogue.Desk
import Mathlib.Data.List.Nodup
import Mathlib.Tactic.Common

/-!
# What can happen at a desk

Calls come to a desk, are served in steps and leave it, and the steps of different calls may follow
each other in any order.  This file says once what each step does to the list of live calls.  For
the locks it matters only that a call comes, gets on, or goes; who wants to know what becomes of the
sessions has to look at the steps one by one.

* `Desk.Step`, `Desk.step`, `Desk.run` — the steps and their runs.
* `mem_arrive`, `mem_advance`, `mem_remove` — the live calls after each kind of change.
* `acquire_eq_some`, `fetch_eq_some`, `work_eq_some`, `commit_eq_some`, `leave_eq_some`,
  `abandon_eq_some` — when a step is possible, and what it does.
* **`step_cases`** — a call comes, gets on or goes.
-/

namespace Dialogue.Desk

variable {σ τ : Type}

/-! ## Steps and runs -/

/-- What can happen: a call comes, or something happens to the call with a number. -/
inductive Step where
  | arrive (session : String) (call : Call)
  | acquire (n : ℕ)
  | fetch (n : ℕ)
  | work (now : Timestamp) (n : ℕ)
  | commit (now : Timestamp) (n : ℕ)
  | leave (n : ℕ)
  | abandon (n : ℕ)

/-- The desk after a step, if the step is possible. -/
def step (e : Engine σ τ) (d : Desk σ τ) : Step → Option (Desk σ τ)
  | .arrive session call => some (d.arrive session call)
  | .acquire n => d.acquire n
  | .fetch n => d.fetch e n
  | .work now n => d.work e now n
  | .commit now n => d.commit e now n
  | .leave n => (d.leave n).map (·.2)
  | .abandon n => d.abandon n

/-- The desk after steps, one after the other, if all of them are possible. -/
def run (e : Engine σ τ) (d : Desk σ τ) : List Step → Option (Desk σ τ)
  | [] => some d
  | s :: ss => (d.step e s).bind fun d => run e d ss

lemma run_cons {e : Engine σ τ} {d d' : Desk σ τ} {s : Step} {ss : List Step}
    (h : d.run e (s :: ss) = some d') : ∃ d₁, d.step e s = some d₁ ∧ d₁.run e ss = some d' :=
  Option.bind_eq_some_iff.mp h

/-! ## The live calls -/

/-- The lock of a call that comes: that of its session, or a new one. -/
def lockFor (d : Desk σ τ) (session : String) : ℕ := (d.locks.find? session).getD d.locksMade

variable {d d' : Desk σ τ} {e : Engine σ τ} {n m : ℕ} {t u : Ticket}

/-- A call that comes is live, waits, and refers to its lock, which is in the map. -/
lemma tickets_arrive (d : Desk σ τ) (session : String) (call : Call) :
    (d.arrive session call).tickets =
      d.tickets ++ [(d.ticketsMade, ⟨session, call, d.lockFor session, .waiting⟩)] := by
  rw [arrive, lockFor]
  cases d.locks.find? session <;> rfl

lemma sessions_arrive (d : Desk σ τ) (session : String) (call : Call) :
    (d.arrive session call).world.sessions = d.world.sessions := by
  rw [arrive]
  cases d.locks.find? session <;> rfl

lemma find?_arrive_self (d : Desk σ τ) (session : String) (call : Call) :
    (d.arrive session call).locks.find? session = some (d.lockFor session) := by
  rw [arrive, lockFor]
  cases hfind : d.locks.find? session with
  | some lock => exact hfind
  | none => exact Dict.find?_insert_self _ _ _

lemma find?_arrive_of_ne (d : Desk σ τ) {session other : String} (call : Call)
    (h : other ≠ session) : (d.arrive session call).locks.find? other = d.locks.find? other := by
  rw [arrive]
  cases d.locks.find? session with
  | some lock => rfl
  | none => exact Dict.find?_insert_of_ne _ _ h

lemma mem_arrive {session : String} {call : Call} {x : ℕ × Ticket} :
    x ∈ (d.arrive session call).tickets ↔
      x ∈ d.tickets ∨ x = (d.ticketsMade, ⟨session, call, d.lockFor session, .waiting⟩) := by
  rw [tickets_arrive, List.mem_append, List.mem_singleton]

/-- The call with a number has moved into the phase, and the others are as they were. -/
lemma mem_advance {phase : Phase} : (m, u) ∈ (d.advance n phase).tickets ↔
    ∃ t, (m, t) ∈ d.tickets ∧ u = if m = n then { t with phase } else t := by
  simp only [advance, List.mem_map, Prod.exists, Prod.mk.injEq, beq_iff_eq]
  constructor
  · rintro ⟨_, t, hmem, rfl, rfl⟩
    exact ⟨t, hmem, rfl⟩
  · rintro ⟨t, hmem, rfl⟩
    exact ⟨m, t, hmem, rfl, rfl⟩

/-- A call that is not the one that gets on stays as it is, and that one keeps its session and its
lock. -/
lemma exists_of_mem_advance {phase : Phase}
    (hu : (m, u) ∈ (d.advance n phase).tickets) :
    ∃ u', (m, u') ∈ d.tickets ∧ u.session = u'.session ∧ u.lock = u'.lock ∧
      (m ≠ n → u = u') := by
  obtain ⟨u', hu', rfl⟩ := mem_advance.mp hu
  refine ⟨u', hu', ?_⟩
  split
  · exact ⟨rfl, rfl, fun hne => absurd ‹_› hne⟩
  · exact ⟨rfl, rfl, fun _ => rfl⟩

lemma map_fst_advance (d : Desk σ τ) (n : ℕ) (phase : Phase) :
    (d.advance n phase).tickets.map (·.1) = d.tickets.map (·.1) := by
  rw [advance, List.map_map]
  rfl

lemma mem_remove {x : ℕ × Ticket} : x ∈ (d.remove n).tickets ↔ x ∈ d.tickets ∧ x.1 ≠ n := by
  rw [remove, List.mem_filter, bne_iff_ne]

lemma mem_of_ticket? (h : d.ticket? n = some t) : (n, t) ∈ d.tickets := by
  obtain ⟨before, later, hsplit, _⟩ := List.lookup_eq_some_iff.mp h
  rw [hsplit]
  simp

lemma isHeld_eq_false_iff {lock : ℕ} :
    d.isHeld lock = false ↔ ∀ x ∈ d.tickets, x.2.lock = lock → x.2.phase.holdsLock = false := by
  simp [isHeld]

/-! ## The steps of a call -/

/-- A call that waits gets its lock if nobody holds it. -/
lemma acquire_of_waiting (h : d.ticket? n = some t) (hphase : t.phase = .waiting) :
    d.acquire n = if d.isHeld t.lock then none else some (d.advance n .holding) := by
  rw [acquire, h, Option.bind_eq_bind, Option.bind_some, hphase]

lemma acquire_eq_some (h : d.acquire n = some d') : ∃ t, d.ticket? n = some t ∧
    t.phase = .waiting ∧ d.isHeld t.lock = false ∧ d' = d.advance n .holding := by
  have hacquire := h
  rw [acquire] at h
  obtain ⟨t, hticket, h⟩ := Option.bind_eq_some_iff.mp h
  have hphase : t.phase = .waiting := by
    obtain ⟨session, call, lock, phase⟩ := t
    cases phase <;> first | rfl | cases h
  rw [acquire_of_waiting hticket hphase] at hacquire
  cases hheld : d.isHeld t.lock with
  | true =>
      rw [hheld] at hacquire
      cases hacquire
  | false =>
      rw [hheld] at hacquire
      exact ⟨t, hticket, hphase, hheld, (Option.some.inj hacquire).symm⟩

/-- A call that holds its lock fetches its session, or the store fails and the call is over; a call
that only ends the session fetches nothing. -/
lemma fetch_eq_some (h : d.fetch e n = some d') : ∃ t, d.ticket? n = some t ∧
    t.phase = .holding ∧
    ((∃ text found, t.call = .utterance text ∧
        e.store.get d.world.sessions t.session = .ok found ∧ d' = d.advance n (.fetched found)) ∨
      (∃ text error, t.call = .utterance text ∧
        e.store.get d.world.sessions t.session = .error error ∧
        d' = d.advance n (.over (.turn ⟨.error error, none⟩))) ∨
      t.call = .ending ∧ d' = d.advance n (.fetched none)) := by
  rw [fetch] at h
  obtain ⟨t, hticket, h⟩ := Option.bind_eq_some_iff.mp h
  obtain ⟨session, call, lock, phase⟩ := t
  refine ⟨_, hticket, ?_⟩
  cases phase <;> try cases h
  refine ⟨rfl, ?_⟩
  cases call with
  | ending => exact .inr (.inr ⟨rfl, (Option.some.inj h).symm⟩)
  | utterance text =>
      dsimp only at h
      cases hget : e.store.get d.world.sessions session with
      | ok found =>
          rw [hget] at h
          exact .inl ⟨text, found, rfl, rfl, (Option.some.inj h).symm⟩
      | error error =>
          rw [hget] at h
          exact .inr (.inl ⟨text, error, rfl, rfl, (Option.some.inj h).symm⟩)

/-- The turn of an utterance runs on the session that was fetched. -/
lemma work_eq_some {now : Timestamp} (h : d.work e now n = some d') :
    ∃ t found text, d.ticket? n = some t ∧ t.phase = .fetched found ∧ t.call = .utterance text ∧
      ∃ world, world.sessions = d.world.sessions ∧ d' =
        { d.advance n (.answered (e.answer (found.getD (Session.new t.session now)) text
            d.world.source).1) with world } := by
  rw [work] at h
  obtain ⟨t, hticket, h⟩ := Option.bind_eq_some_iff.mp h
  obtain ⟨session, call, lock, phase⟩ := t
  cases phase <;> try cases h
  rename_i found
  cases call with
  | ending => cases h
  | utterance text =>
      refine ⟨_, found, text, hticket, rfl, rfl, ?_⟩
      dsimp only at h ⊢
      generalize e.answer (found.getD (Session.new session now)) text d.world.source = answer at h ⊢
      obtain ⟨answered, source⟩ := answer
      exact ⟨{ d.world with source }, rfl, (Option.some.inj h).symm⟩

/-- The session of a call is put back or dropped, or the store fails; the call is over. -/
lemma commit_eq_some {now : Timestamp} (h : d.commit e now n = some d') :
    ∃ t result, d.ticket? n = some t ∧
    ((∃ answered text sessions, t.phase = .answered answered ∧ t.call = .utterance text ∧
        e.store.put d.world.sessions (answered.session.finishTurn now) = .ok sessions ∧
        d' = { d.advance n (.over result) with world := { d.world with sessions } }) ∨
      (∃ answered text error, t.phase = .answered answered ∧ t.call = .utterance text ∧
        e.store.put d.world.sessions (answered.session.finishTurn now) = .error error ∧
        d' = d.advance n (.over result)) ∨
      (∃ found sessions, t.phase = .fetched found ∧ t.call = .ending ∧
        e.store.delete d.world.sessions t.session = .ok sessions ∧
        d' = { d.advance n (.over result) with world := { d.world with sessions } }) ∨
      ∃ found error, t.phase = .fetched found ∧ t.call = .ending ∧
        e.store.delete d.world.sessions t.session = .error error ∧
        d' = d.advance n (.over result)) := by
  rw [commit] at h
  obtain ⟨t, hticket, h⟩ := Option.bind_eq_some_iff.mp h
  obtain ⟨session, call, lock, phase⟩ := t
  cases phase <;> cases call <;> try cases h
  · rename_i found
    dsimp only at h
    cases hdelete : e.store.delete d.world.sessions session with
    | ok sessions =>
        rw [hdelete] at h
        exact ⟨_, _, hticket, .inr (.inr (.inl ⟨found, sessions, rfl, rfl, hdelete,
          (Option.some.inj h).symm⟩))⟩
    | error error =>
        rw [hdelete] at h
        exact ⟨_, _, hticket, .inr (.inr (.inr ⟨found, error, rfl, rfl, hdelete,
          (Option.some.inj h).symm⟩))⟩
  · rename_i answered text
    dsimp only at h
    cases hput : e.store.put d.world.sessions (answered.session.finishTurn now) with
    | ok sessions =>
        rw [hput] at h
        exact ⟨_, _, hticket, .inl ⟨answered, text, sessions, rfl, rfl, hput,
          (Option.some.inj h).symm⟩⟩
    | error error =>
        rw [hput] at h
        exact ⟨_, _, hticket, .inr (.inl ⟨answered, text, error, rfl, rfl, hput,
          (Option.some.inj h).symm⟩)⟩

/-- A call that is over goes.  Its lock goes with it if no other call refers to the lock. -/
lemma leave_eq_some {result : CallResult} (h : d.leave n = some (result, d')) :
    ∃ t, d.ticket? n = some t ∧
      ((∀ x ∈ (d.remove n).tickets, x.2.lock ≠ t.lock) ∧ d.locks.find? t.session = some t.lock ∧
          d' = { d.remove n with locks := d.locks.erase t.session } ∨
        ((∃ x ∈ (d.remove n).tickets, x.2.lock = t.lock) ∨
          d.locks.find? t.session ≠ some t.lock) ∧ d' = d.remove n) := by
  rw [leave] at h
  obtain ⟨t, hticket, h⟩ := Option.bind_eq_some_iff.mp h
  obtain ⟨session, call, lock, phase⟩ := t
  refine ⟨_, hticket, ?_⟩
  cases phase <;> try cases h
  dsimp only at h
  split at h
  · rename_i hlast
    obtain ⟨hfree, hfind⟩ : (∀ a b, (a, b) ∈ (d.remove n).tickets → b.lock ≠ lock) ∧
        (d.remove n).locks.find? session = some lock := by
      simpa using hlast
    exact .inl ⟨fun x hx => hfree x.1 x.2 hx, hfind, (Prod.mk.inj (Option.some.inj h)).2.symm⟩
  · rename_i hlast
    refine .inr ⟨?_, (Prod.mk.inj (Option.some.inj h)).2.symm⟩
    by_contra hnot
    obtain ⟨hfree, hfind⟩ := not_or.mp hnot
    refine hlast ?_
    have hfind' : (d.remove n).locks.find? session = some lock := not_not.mp hfind
    simp only [hfind', beq_self_eq_true, Bool.and_true, Bool.not_eq_true', List.any_eq_false,
      beq_iff_eq]
    exact fun x hx hlock => hfree ⟨x, hx, hlock⟩

lemma abandon_eq_some (h : d.abandon n = some d') :
    ∃ t, d.ticket? n = some t ∧ t.phase = .waiting ∧ d' = d.remove n := by
  rw [abandon] at h
  obtain ⟨t, hticket, h⟩ := Option.bind_eq_some_iff.mp h
  obtain ⟨session, call, lock, phase⟩ := t
  cases phase <;> try cases h
  exact ⟨_, hticket, rfl, rfl⟩

/-! ## All steps -/

/-- A call gets on: it holds its lock afterwards, and before that it did or nobody held it. -/
def GetsOn (d d' : Desk σ τ) (n : ℕ) : Prop :=
  ∃ t phase world, (n, t) ∈ d.tickets ∧ phase.holdsLock = true ∧
    (t.phase.holdsLock = true ∨ d.isHeld t.lock = false) ∧ d' = { d.advance n phase with world }

/-- A call goes for good, and its lock with it if no other call refers to the lock. -/
def Goes (d d' : Desk σ τ) (n : ℕ) : Prop :=
  ∃ t, (n, t) ∈ d.tickets ∧
    ((∀ x ∈ (d.remove n).tickets, x.2.lock ≠ t.lock) ∧ d.locks.find? t.session = some t.lock ∧
        d' = { d.remove n with locks := d.locks.erase t.session } ∨
      ((∃ x ∈ (d.remove n).tickets, x.2.lock = t.lock) ∨
        d.locks.find? t.session ≠ some t.lock) ∧ d' = d.remove n)

/-- **What a step does**: a call comes, gets on, goes, or is given up. -/
theorem step_cases {s : Step} (h : d.step e s = some d') :
    (∃ session call, d' = d.arrive session call) ∨ (∃ n, d.GetsOn d' n) ∨ (∃ n, d.Goes d' n) ∨
      ∃ n, s = .abandon n ∧ d' = d.remove n := by
  cases s with
  | arrive session call => exact .inl ⟨session, call, (Option.some.inj h).symm⟩
  | acquire n =>
      obtain ⟨t, hticket, -, hfree, rfl⟩ := acquire_eq_some h
      exact .inr (.inl ⟨n, t, _, _, mem_of_ticket? hticket, rfl, .inr hfree, rfl⟩)
  | fetch n =>
      obtain ⟨t, hticket, hphase, hcases⟩ := fetch_eq_some h
      have hheld : t.phase.holdsLock = true := by
        rw [hphase]
        rfl
      refine .inr (.inl ⟨n, t, ?_⟩)
      rcases hcases with ⟨text, found, -, -, rfl⟩ | ⟨text, error, -, -, rfl⟩ | ⟨-, rfl⟩ <;>
        exact ⟨_, _, mem_of_ticket? hticket, rfl, .inl hheld, rfl⟩
  | work now n =>
      rw [step] at h
      obtain ⟨t, found, text, hticket, hphase, -, world, -, rfl⟩ := work_eq_some h
      have hheld : t.phase.holdsLock = true := by
        rw [hphase]
        rfl
      exact .inr (.inl ⟨n, t, _, _, mem_of_ticket? hticket, rfl, .inl hheld, rfl⟩)
  | commit now n =>
      obtain ⟨t, result, hticket, hcases⟩ := commit_eq_some h
      have hheld : t.phase.holdsLock = true := by
        rcases hcases with ⟨_, _, _, hphase, _⟩ | ⟨_, _, _, hphase, _⟩ | ⟨_, _, hphase, _⟩ |
          ⟨_, _, hphase, _⟩ <;> rw [hphase] <;> rfl
      refine .inr (.inl ⟨n, t, .over result, ?_⟩)
      rcases hcases with ⟨_, _, _, -, -, -, rfl⟩ | ⟨_, _, _, -, -, -, rfl⟩ |
          ⟨_, _, -, -, -, rfl⟩ | ⟨_, _, -, -, -, rfl⟩ <;>
        exact ⟨_, mem_of_ticket? hticket, rfl, .inl hheld, rfl⟩
  | leave n =>
      obtain ⟨⟨result, d₁⟩, hleave, rfl⟩ := Option.map_eq_some_iff.mp h
      obtain ⟨t, hticket, hcases⟩ := leave_eq_some hleave
      exact .inr (.inr (.inl ⟨n, t, mem_of_ticket? hticket, hcases⟩))
  | abandon n =>
      obtain ⟨t, -, -, rfl⟩ := abandon_eq_some h
      exact .inr (.inr (.inr ⟨n, rfl, rfl⟩))

end Dialogue.Desk
