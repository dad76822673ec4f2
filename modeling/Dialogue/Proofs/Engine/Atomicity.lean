import Dialogue.Proofs.Engine.GoalStack

/-!
# A turn that does not commit

A handler changes values, goals and speech as it goes, and may fail after any of it.  The session
must not show: a turn either commits as a whole or leaves the session's values and goals as they
were.  There are three ways not to commit, and each keeps a different part of the turn.

* A handler that fails keeps its speech, which the user hears.
* An utterance that is not understood keeps the prompt that is given once more.
* A store that fails keeps nothing, and the user gets the error.
-/

namespace Dialogue.Engine

variable {σ τ : Type} {e : Engine σ τ} {s : Session} {o : Occasion σ}

lemma next_of_fails {r : Resolution} {error : TurnError} (h : e.Fails s o r error) :
    e.next s o = { s with turns := s.turns + 1, updatedAt := o.now } := by
  rw [next, h.answered.1, Session.finishTurn]

lemma next_of_error {error : NoMatch}
    (h : e.model.resolve s.activeGoal? o.utterance = .error error) :
    e.next s o = { s with
      goals := ⟨s.goals.entries.modifyLast GoalInstance.prompted⟩
      turns := s.turns + 1
      updatedAt := o.now } := by
  rw [next, answered_of_error h, ← GoalStack.entries_issue]
  rfl

/-- A turn that reports an error has changed no session: the store could not fetch the session, or
it could not put it back. -/
lemma handleUtterance_eq_error {now : Timestamp} {id utterance : String} {w : World σ τ}
    {error : StoreError} (h : (e.handleUtterance now id utterance w).1.outcome = .error error) :
    (e.handleUtterance now id utterance w).2.sessions = w.sessions ∧
    (e.store.get w.sessions id = .error error ∨ ∃ found, e.store.get w.sessions id = .ok found ∧
      e.store.put w.sessions (e.next (metBy id now found) ⟨now, utterance, w.source⟩) =
        .error error) := by
  cases hget : e.store.get w.sessions id with
  | error error' =>
      rw [handleUtterance_of_get_error hget] at h ⊢
      obtain rfl : error' = error := Except.error.inj h
      exact ⟨rfl, .inl rfl⟩
  | ok found =>
      obtain ⟨hsame, hput⟩ := (handleUtterance_settles hget).of_error h
      exact ⟨hsame, .inr ⟨found, rfl, hput⟩⟩

/-- **A turn that does not commit keeps the session.**  If the handler fails, whatever it did
before, the session that is put back has one more turn and is otherwise as it was; the user hears
what was spoken, or an apology if nothing was.  If nothing was understood, it differs in one more
prompt of the active goal, too.  And if the store fails, no session has changed. -/
theorem uncommitted_turn_keeps_session (e : Engine σ τ) (now : Timestamp) (id utterance : String)
    (w : World σ τ) :
    (∀ found, e.store.get w.sessions id = .ok found →
      let s := metBy id now found
      let o : Occasion σ := ⟨now, utterance, w.source⟩
      let turn := e.handleUtterance now id utterance w
      (∀ r error, e.Fails s o r error →
        e.Settles w turn { s with turns := s.turns + 1, updatedAt := now }
          { spoken := if spokenFragments (e.trace s o r) = [] then e.apology error
              else " ".intercalate (spokenFragments (e.trace s o r))
            updated := false
            matched := some r.scope }) ∧
      (∀ error, e.model.resolve s.activeGoal? utterance = .error error → ∃ goals : GoalStack,
        goals.ids = s.goals.ids ∧
        goals.entries = s.goals.entries.modifyLast GoalInstance.prompted ∧
        e.Settles w turn { s with goals, turns := s.turns + 1, updatedAt := now }
          { spoken := e.repromptSpeech s.goals
            updated := false
            matched := none })) ∧
    ∀ error, (e.handleUtterance now id utterance w).1.outcome = .error error →
      (e.handleUtterance now id utterance w).2.sessions = w.sessions ∧
      (e.store.get w.sessions id = .error error ∨ ∃ found, e.store.get w.sessions id = .ok found ∧
        e.store.put w.sessions (e.next (metBy id now found) ⟨now, utterance, w.source⟩) =
          .error error) := by
  refine ⟨fun found hget => ?_, fun error => handleUtterance_eq_error⟩
  have hsettles : e.Settles w (e.handleUtterance now id utterance w)
      (e.next (metBy id now found) ⟨now, utterance, w.source⟩)
      (e.answered (metBy id now found) ⟨now, utterance, w.source⟩).outcome :=
    handleUtterance_settles hget
  generalize metBy id now found = s at hsettles ⊢
  intro s' o turn
  refine ⟨fun r error hfails => ?_, fun error herror => ?_⟩
  · rw [next_of_fails (o := o) hfails] at hsettles
    rw [← hfails.answered.2]
    exact hsettles
  · refine ⟨⟨s.goals.entries.modifyLast GoalInstance.prompted⟩, ids_prompted _, rfl, ?_⟩
    have hanswer := answered_of_error (o := o) herror
    rw [next_of_error (o := o) herror, hanswer] at hsettles
    exact hsettles

end Dialogue.Engine
