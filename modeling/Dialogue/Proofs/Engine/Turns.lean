import Dialogue.Engine
import Dialogue.Proofs.Handler.Trace
import Dialogue.Proofs.Resolution.Precedence
import Mathlib.Data.List.ModifyLast

/-!
# What a turn can do

A turn ends in one of three ways: the utterance is not understood, the handler fails, or the turn
commits.  This file says once what each of them makes of a session, and how a whole turn, with the
store around it, comes about from there.  Whatever is proved about turns starts from these cases.

* `Occasion`, `Engine.next` — a turn seen as a step from session to session.
* `Engine.Commits`, `Engine.Fails` — the turn is understood, and its handler succeeds or fails.
* `Engine.turn_cases` — the three ends of a turn.
* `Engine.Settles` — a whole turn that puts a certain session back; `handleUtterance_settles` says
  that every turn whose session could be fetched is one.
-/

namespace Dialogue

/-! ## The stack around a handler -/

/-- One more prompt was given. -/
def GoalInstance.prompted (g : GoalInstance) : GoalInstance :=
  { g with promptsIssued := g.promptsIssued + 1 }

/-- The goals that are left when a binding of a scope was triggered: the active one is done if the
binding was its own. -/
def Scope.remaining : Scope → List GoalInstance → List GoalInstance
  | .global, entries => entries
  | .goal _, entries => entries.dropLast

lemma GoalStack.entries_issue (goals : GoalStack) :
    goals.issue.entries = goals.entries.modifyLast GoalInstance.prompted := by
  obtain ⟨entries⟩ := goals
  rcases List.eq_nil_or_concat entries with rfl | ⟨below, g, rfl⟩
  · rfl
  · rw [List.concat_eq_append, List.modifyLast_concat]
    simp [issue, GoalInstance.prompted]

lemma Session.activeGoal?_eq_some {s : Session} {id : String} (h : s.activeGoal? = some id) :
    ∃ below g, s.goals.entries = below ++ [g] ∧ g.id = id := by
  rw [activeGoal?, GoalStack.active?, GoalStack.top?] at h
  obtain ⟨g, hg, rfl⟩ := Option.map_eq_some_iff.mp h
  obtain ⟨below, hbelow⟩ := List.getLast?_eq_some_iff.mp hg
  exact ⟨below, g, hbelow, rfl⟩

/-- When the handler starts, the active goal is off the stack exactly if its own binding was
triggered, and nothing has been said. -/
lemma goals_startTurn {m : Model} {s : Session} {utterance : String} {r : Resolution}
    (h : m.resolve s.activeGoal? utterance = .ok r) :
    (Engine.startTurn s r).goals.entries = r.scope.remaining s.goals.entries := by
  rcases scope_of_resolve h with ⟨hscope, _⟩ | ⟨id, _, hactive, _, hscope, _⟩
  · rw [Engine.startTurn, hscope]
    rfl
  · rw [Engine.startTurn, hscope]
    have hactive' : (Turn.start s r.values).activeGoal? = some id := hactive
    simp only [Turn.completeGoal, hactive', beq_self_eq_true, if_true]
    rfl

/-- Before the handler starts, nothing but the stack of goals has changed. -/
lemma startTurn_eq (s : Session) (r : Resolution) :
    ∃ goals, Engine.startTurn s r = { Turn.start s r.values with goals } := by
  rw [Engine.startTurn]
  split
  · rw [Turn.completeGoal]
    split <;> exact ⟨_, rfl⟩
  · exact ⟨_, rfl⟩

lemma speech_startTurn (s : Session) (r : Resolution) : (Engine.startTurn s r).speech = [] := by
  obtain ⟨goals, hstart⟩ := startTurn_eq s r
  rw [hstart]
  rfl

/-! ## Turns as steps -/

/-- What a turn meets besides the session: the time, the utterance, and the state of the record
source. -/
structure Occasion (σ : Type) where
  now : Timestamp
  utterance : String
  source : σ

namespace Engine

variable {σ τ : Type}

/-- The turn of a session on an occasion, before it is stored. -/
def answered (e : Engine σ τ) (s : Session) (o : Occasion σ) : Answered :=
  (e.answer s o.utterance o.source).1

/-- The session that a turn puts back. -/
def next (e : Engine σ τ) (s : Session) (o : Occasion σ) : Session :=
  (e.answered s o).session.finishTurn o.now

/-- The session after turns, one after the other. -/
def nexts (e : Engine σ τ) (s : Session) (os : List (Occasion σ)) : Session := os.foldl e.next s

/-- What the handler of a resolution ends with. -/
def result (e : Engine σ τ) (s : Session) (o : Occasion σ) (r : Resolution) :
    Except TurnError Unit :=
  (r.binding.handler.run e.setting (startTurn s r) o.source).1

/-- The turn as the handler of a resolution leaves it. -/
def finalTurn (e : Engine σ τ) (s : Session) (o : Occasion σ) (r : Resolution) : Turn :=
  (r.binding.handler.run e.setting (startTurn s r) o.source).2.1

/-- What the handler of a resolution does. -/
def trace (e : Engine σ τ) (s : Session) (o : Occasion σ) (r : Resolution) : List Event :=
  r.binding.handler.trace e.setting (startTurn s r) o.source

/-- The turn commits: the utterance is understood, and the handler succeeds. -/
def Commits (e : Engine σ τ) (s : Session) (o : Occasion σ) (r : Resolution) : Prop :=
  e.model.resolve s.activeGoal? o.utterance = .ok r ∧ e.result s o r = .ok ()

/-- The utterance is understood, but the handler fails. -/
def Fails (e : Engine σ τ) (s : Session) (o : Occasion σ) (r : Resolution) (error : TurnError) :
    Prop :=
  e.model.resolve s.activeGoal? o.utterance = .ok r ∧ e.result s o r = .error error

variable {e : Engine σ τ} {s : Session} {o : Occasion σ} {r : Resolution}

/-- An understood turn goes by what its handler ends with. -/
lemma answered_eq (h : e.model.resolve s.activeGoal? o.utterance = .ok r) :
    e.answered s o =
      match e.result s o r with
      | .ok () => e.succeeded s r.scope (e.finalTurn s o r)
      | .error error => e.failed s r.scope (e.finalTurn s o r) error := by
  rw [answered, answer, h, result, finalTurn]
  dsimp only
  obtain ⟨result, t, source⟩ := r.binding.handler.run e.setting (startTurn s r) o.source
  cases result with
  | ok => rfl
  | error error => rfl

/-- A turn whose handler succeeds leaves the record source as the handler does. -/
lemma answer_of_ok {utterance : String} {source source' : σ} {t : Turn}
    (hresolve : e.model.resolve s.activeGoal? utterance = .ok r)
    (hrun : r.binding.handler.run e.setting (startTurn s r) source = (.ok (), t, source')) :
    e.answer s utterance source = (e.succeeded s r.scope t, source') := by
  rw [answer, hresolve]
  dsimp only
  rw [hrun]

/-- So does a turn whose handler fails. -/
lemma answer_of_fail {utterance : String} {source source' : σ} {t : Turn} {error : TurnError}
    (hresolve : e.model.resolve s.activeGoal? utterance = .ok r)
    (hrun : r.binding.handler.run e.setting (startTurn s r) source = (.error error, t, source')) :
    e.answer s utterance source = (e.failed s r.scope t error, source') := by
  rw [answer, hresolve]
  dsimp only
  rw [hrun]

/-- An understood turn starts its handler and goes by what it ends with. -/
lemma answered_of_resolve (h : e.model.resolve s.activeGoal? o.utterance = .ok r) :
    ∃ t, t.goals.entries = r.scope.remaining s.goals.entries ++
        (addedGoals (e.trace s o r)).map GoalInstance.fresh ∧
      t.speech = spokenFragments (e.trace s o r) ∧
      e.answered s o =
        match e.result s o r with
        | .ok () => e.succeeded s r.scope t
        | .error error => e.failed s r.scope t error := by
  refine ⟨e.finalTurn s o r, ?_, ?_, answered_eq h⟩
  · rw [← goals_startTurn h]
    exact goals_run e.setting _ _ _
  · rw [← List.nil_append (spokenFragments _), ← speech_startTurn s r]
    exact speech_run e.setting _ _ _

lemma answered_of_error {error : NoMatch}
    (h : e.model.resolve s.activeGoal? o.utterance = .error error) :
    e.answered s o = e.notUnderstood s := by
  rw [answered, answer, h]

/-- **A turn that commits**: the goals that its handler added stand on what it found, and the last
goal has given one more prompt. -/
lemma Commits.answered (h : e.Commits s o r) :
    (e.answered s o).outcome.updated = true ∧
    (e.answered s o).outcome.matched = some r.scope ∧
    (e.next s o).goals.entries = (r.scope.remaining s.goals.entries ++
      (addedGoals (e.trace s o r)).map GoalInstance.fresh).modifyLast GoalInstance.prompted := by
  obtain ⟨t, hgoals, _, hanswer⟩ := answered_of_resolve h.1
  rw [h.2] at hanswer
  rw [next, hanswer, ← hgoals, ← GoalStack.entries_issue]
  exact ⟨rfl, rfl, rfl⟩

/-- **A turn whose handler fails** leaves the session alone; what was spoken is heard, or else an
apology. -/
lemma Fails.answered {error : TurnError} (h : e.Fails s o r error) :
    (e.answered s o).session = s ∧
    (e.answered s o).outcome =
      ⟨if spokenFragments (e.trace s o r) = [] then e.apology error
        else " ".intercalate (spokenFragments (e.trace s o r)), false, some r.scope⟩ := by
  obtain ⟨t, _, hspeech, hanswer⟩ := answered_of_resolve h.1
  rw [h.2] at hanswer
  rw [hanswer, ← hspeech]
  simp [failed, Turn.spoken]

/-- **The three ends of a turn.** -/
lemma turn_cases (e : Engine σ τ) (s : Session) (o : Occasion σ) :
    (∃ error, e.model.resolve s.activeGoal? o.utterance = .error error) ∨
    (∃ r, e.Commits s o r) ∨ ∃ r error, e.Fails s o r error := by
  cases hresolve : e.model.resolve s.activeGoal? o.utterance with
  | error error => exact .inl ⟨error, rfl⟩
  | ok r =>
      cases hresult : e.result s o r with
      | ok => exact .inr (.inl ⟨r, hresolve, hresult⟩)
      | error error => exact .inr (.inr ⟨r, error, hresolve, hresult⟩)

/-- Whatever a turn does to a session, it does to the values and the goals. -/
lemma session_answered (e : Engine σ τ) (s : Session) (o : Occasion σ) :
    ∃ slots goals, (e.answered s o).session = { s with slots, goals } := by
  rcases turn_cases e s o with ⟨error, herror⟩ | ⟨r, hcommits⟩ | ⟨r, error, hfails⟩
  · rw [answered_of_error herror]
    exact ⟨s.slots, s.goals.issue, rfl⟩
  · obtain ⟨t, _, _, hanswer⟩ := answered_of_resolve hcommits.1
    rw [hanswer, hcommits.2]
    exact ⟨t.values, t.goals.issue, rfl⟩
  · rw [hfails.answered.1]
    exact ⟨s.slots, s.goals, rfl⟩

/-- No turn changes whose session it is. -/
lemma id_next (e : Engine σ τ) (s : Session) (o : Occasion σ) : (e.next s o).id = s.id := by
  obtain ⟨slots, goals, hanswered⟩ := session_answered e s o
  rw [next, hanswered]
  rfl

/-- Every turn counts once, however it ends. -/
lemma turns_next (e : Engine σ τ) (s : Session) (o : Occasion σ) :
    (e.next s o).turns = s.turns + 1 := by
  obtain ⟨slots, goals, hanswered⟩ := session_answered e s o
  rw [next, hanswered]
  rfl

lemma commits_of_updated (h : (e.answered s o).outcome.updated = true) :
    ∃ r, e.Commits s o r := by
  rcases turn_cases e s o with ⟨error, herror⟩ | hcommits | ⟨r, error, hfails⟩
  · rw [answered_of_error herror] at h
    exact Bool.noConfusion h
  · exact hcommits
  · rw [hfails.answered.2] at h
    exact Bool.noConfusion h

/-! ## The store around a turn -/

/-- The session that an utterance meets: the stored one, or a new one. -/
def metBy (id : String) (now : Timestamp) (found : Option Session) : Session :=
  found.getD (Session.new id now)

/-- The whole turn asks the store to put `stored` back.  If the store does, the user gets
`outcome`; if not, the engine reports why and no session has changed. -/
def Settles (e : Engine σ τ) (w : World σ τ) (turn : Report × World σ τ) (stored : Session)
    (outcome : Outcome) : Prop :=
  match e.store.put w.sessions stored with
  | .ok sessions => turn.1.outcome = .ok outcome ∧ turn.2.sessions = sessions
  | .error error => turn.1.outcome = .error error ∧ turn.2.sessions = w.sessions

/-- **A session that was fetched is answered and put back.** -/
lemma handleUtterance_settles {now : Timestamp} {id utterance : String} {w : World σ τ}
    {found : Option Session} (h : e.store.get w.sessions id = .ok found) :
    e.Settles w (e.handleUtterance now id utterance w)
      (e.next (metBy id now found) ⟨now, utterance, w.source⟩)
      (e.answered (metBy id now found) ⟨now, utterance, w.source⟩).outcome := by
  rw [Settles, handleUtterance, h, next, answered]
  dsimp only [metBy]
  generalize e.answer (found.getD (Session.new id now)) utterance w.source = answered
  cases hput : e.store.put w.sessions (answered.1.session.finishTurn now) with
  | ok sessions => exact ⟨rfl, rfl⟩
  | error error => exact ⟨rfl, rfl⟩

lemma handleUtterance_of_get_error {now : Timestamp} {id utterance : String} {w : World σ τ}
    {error : StoreError} (h : e.store.get w.sessions id = .error error) :
    e.handleUtterance now id utterance w = (⟨.error error, none⟩, w) := by
  rw [handleUtterance, h]

section Settles

variable {w : World σ τ} {turn : Report × World σ τ} {stored : Session} {outcome : Outcome}

/-- **The two ends of a whole turn**: the session was put back, or nothing has changed. -/
lemma Settles.cases (h : e.Settles w turn stored outcome) :
    (e.store.put w.sessions stored = .ok turn.2.sessions ∧ turn.1.outcome = .ok outcome) ∨
    ∃ error, e.store.put w.sessions stored = .error error ∧ turn.1.outcome = .error error ∧
      turn.2.sessions = w.sessions := by
  rw [Settles] at h
  cases hput : e.store.put w.sessions stored with
  | ok sessions =>
      rw [hput] at h
      exact .inl ⟨by rw [h.2], h.1⟩
  | error error =>
      rw [hput] at h
      exact .inr ⟨error, rfl, h⟩

/-- A turn with an outcome was put back. -/
lemma Settles.of_ok {outcome' : Outcome} (h : e.Settles w turn stored outcome)
    (hturn : turn.1.outcome = .ok outcome') :
    outcome' = outcome ∧ e.store.put w.sessions stored = .ok turn.2.sessions := by
  rcases h.cases with ⟨hput, houtcome⟩ | ⟨error, _, houtcome, _⟩
  · exact ⟨Except.ok.inj (hturn.symm.trans houtcome), hput⟩
  · cases hturn.symm.trans houtcome

/-- A turn with an error was not put back, and has changed no session. -/
lemma Settles.of_error {error : StoreError} (h : e.Settles w turn stored outcome)
    (hturn : turn.1.outcome = .error error) :
    turn.2.sessions = w.sessions ∧ e.store.put w.sessions stored = .error error := by
  rcases h.cases with ⟨_, houtcome⟩ | ⟨error', hput, houtcome, hsame⟩
  · cases hturn.symm.trans houtcome
  · exact ⟨hsame, by rw [hput, Except.error.inj (hturn.symm.trans houtcome)]⟩

end Settles

/-- A turn that reports success committed, and what it made of the session was put back. -/
lemma exists_commits_of_updated {now : Timestamp} {id utterance : String} {w : World σ τ}
    {outcome : Outcome} (h : (e.handleUtterance now id utterance w).1.outcome = .ok outcome)
    (hupdated : outcome.updated = true) :
    ∃ found r, e.store.get w.sessions id = .ok found ∧
      e.Commits (metBy id now found) ⟨now, utterance, w.source⟩ r ∧
      outcome.matched = some r.scope ∧
      e.store.put w.sessions (e.next (metBy id now found) ⟨now, utterance, w.source⟩) =
        .ok (e.handleUtterance now id utterance w).2.sessions := by
  cases hget : e.store.get w.sessions id with
  | error error =>
      rw [handleUtterance_of_get_error hget] at h
      cases h
  | ok found =>
      obtain ⟨rfl, hput⟩ := (handleUtterance_settles hget).of_ok h
      obtain ⟨r, hr⟩ := commits_of_updated (o := ⟨now, utterance, w.source⟩) hupdated
      exact ⟨found, r, rfl, hr, hr.answered.2.1, hput⟩

/-! ## Engines without records -/

/-- The model with sessions in memory and no records: nothing is found, and what is stored is lost.
The examples run in such engines. -/
def recordless (m : Model) : Engine Unit (Dict Session) where
  model := m
  source := ⟨fun _ _ _ s => (⟨0, .ok []⟩, s), fun _ _ _ _ _ s => (⟨0, .ok []⟩, s),
    fun _ r _ s => (⟨0, .ok r⟩, s), "none"⟩
  store := .inMemory
  projection := ⟨'*', .empty⟩
  fallback := .default
  patience := 0

end Engine

end Dialogue
