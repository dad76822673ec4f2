import Dialogue.Proofs.Engine.Turns
import Dialogue.Proofs.Service.Requests

/-!
# In memory nothing is late

A request takes as long as its handler waits for the record source.  If the source answers at once,
no handler ever waits, and so no request is given up, unless the service allows no time at all.

* `RecordSource.Instant` — a source that answers at once.
* `waited_run` — a handler does not wait for it.
* **`Service.serve_of_instant`** — no request is given up.
-/

namespace Dialogue

open Http (Route Response unescape? pathOf)

/-! ## Handlers -/

/-- A source that answers at once. -/
structure RecordSource.Instant {σ : Type} (source : RecordSource σ) : Prop where
  search : ∀ entity term patience s, (source.search entity term patience s).1.waited = 0
  load : ∀ entity field value raw patience s,
    (source.load entity field value raw patience s).1.waited = 0
  store : ∀ entity record patience s, (source.store entity record patience s).1.waited = 0

namespace Records

lemma waited_call {α : Type} {b : Behaviour} (h : b.latency = 0) (entity : String) (patience : ℕ)
    (action : Records → Except SourceError α × Records) (r : Records) :
    (call b entity patience action r).1.waited = 0 := by
  rw [call]
  split
  · rw [h, Nat.zero_min]
  · exact h

/-- **A source in memory without latency** answers at once. -/
lemma instant_source {b : Behaviour} (h : b.latency = 0) : (source b).Instant where
  search _ _ _ _ := waited_call h _ _ _ _
  load _ _ _ _ _ _ := waited_call h _ _ _ _
  store _ _ _ _ := waited_call h _ _ _ _

end Records

section Running

variable {α σ : Type} {setting : Setting σ}

/-- No request waits. -/
lemma waited_perform (h : setting.source.Instant) (r : Request) (t : Turn) (s : σ) :
    (r.perform setting t s).2.1.waited = t.waited := by
  cases r with
  | observe => rfl
  | set slot value => rfl
  | say text =>
      simp only [Request.perform, Turn.say]
      split <;> rfl
  | addGoal goal =>
      simp only [Request.perform, Turn.addGoal]
      split <;> rfl
  | search entity term => simp [Request.perform, Turn.wait, h.search]
  | load entity field value raw => simp [Request.perform, Turn.wait, h.load]
  | store entity fields => simp [Request.perform, Turn.wait, h.store]

/-- **No handler waits.** -/
lemma waited_run (h : setting.source.Instant) (script : Script α) (t : Turn) (s : σ) :
    (script.run setting t s).2.1.waited = t.waited :=
  run_keeps (fun r t' s' ht => (waited_perform h r t' s').trans ht) script rfl s

end Running

/-! ## Turns -/

namespace Engine

variable {σ τ : Type} {e : Engine σ τ}

lemma waited_startTurn (s : Session) (r : Resolution) : (startTurn s r).waited = 0 := by
  obtain ⟨goals, hstart⟩ := startTurn_eq s r
  rw [hstart]
  rfl

/-- No turn waits. -/
lemma waited_answer (h : e.source.Instant) (s : Session) (text : String) (source : σ) :
    ((e.answer s text source).1.turn.map Turn.waited).getD 0 = 0 := by
  rw [answer]
  cases e.model.resolve s.activeGoal? text with
  | error error => rfl
  | ok r =>
      have hwaited : (r.binding.handler.run e.setting (startTurn s r) source).2.1.waited = 0 :=
        (waited_run h _ _ _).trans (waited_startTurn s r)
      dsimp only
      generalize r.binding.handler.run e.setting (startTurn s r) source = ended at hwaited ⊢
      obtain ⟨result, t, source'⟩ := ended
      cases result with
      | ok => exact hwaited
      | error error => exact hwaited

lemma waited_handleUtterance (h : e.source.Instant) (now : Timestamp) (id text : String)
    (w : World σ τ) : (e.handleUtterance now id text w).1.waited = 0 := by
  rw [handleUtterance, Report.waited]
  cases e.store.get w.sessions id with
  | error error => rfl
  | ok found =>
      have hwaited := waited_answer h (found.getD (Session.new id now)) text w.source
      dsimp only
      generalize e.answer (found.getD (Session.new id now)) text w.source = answered at hwaited ⊢
      cases e.store.put w.sessions (answered.1.session.finishTurn now) with
      | ok sessions => exact hwaited
      | error error => exact hwaited

end Engine

/-! ## Requests -/

namespace Service

variable {σ τ : Type} {s : Service σ τ} {w : World σ τ} {now : Timestamp}

lemma status_ofStore (error : StoreError) : (ServiceError.ofStore error).response.status = 503 := rfl

/-- No answer about a session tells of lateness. -/
lemma status_showSession (s : Service σ τ) (id : String) (w : World σ τ) :
    (s.showSession id w).status ≠ 408 := by
  rw [showSession]
  cases s.engine.store.get w.sessions id with
  | error error => simp [status_ofStore]
  | ok found => cases found <;> simp

lemma status_drop (s : Service σ τ) (id : String) (w : World σ τ) :
    (s.drop id w).1.status ≠ 408 := by
  rw [drop]
  obtain ⟨result, w'⟩ := s.engine.endSession id w
  cases result with
  | error error => simp [status_ofStore]
  | ok => simp

/-- An utterance does not wait, and its status does not tell of lateness. -/
lemma say_of_instant (h : s.engine.source.Instant) (id : String) (r : Http.Request) :
    (s.say now id r w).2.1 = 0 ∧ (s.say now id r w).1.status ≠ 408 := by
  rw [say]
  cases r.utterance with
  | error fault => cases fault <;> simp [Http.BodyFault.status]
  | ok text =>
      dsimp only
      split
      · simp [ServiceError.response, ServiceError.status]
      · have hwaited := Engine.waited_handleUtterance h now id text w
        generalize s.engine.handleUtterance now id text w = turn at hwaited ⊢
        refine ⟨hwaited, ?_⟩
        cases turn.1.outcome with
        | ok outcome => simp
        | error error => simp [status_ofStore]

/-- Nor does anything else. -/
lemma perform_of_instant (h : s.engine.source.Instant) (now : Timestamp) (route : Route)
    (r : Http.Request) (w : World σ τ) :
    (s.perform now route r w).2.1 = 0 ∧ (s.perform now route r w).1.status ≠ 408 := by
  cases route with
  | health => exact ⟨rfl, by simp [perform, health]⟩
  | session rawId =>
      cases hid : unescape? rawId with
      | none => simp [perform, hid]
      | some id =>
          by_cases hdelete : r.method = "DELETE"
          · simp [perform, hid, hdelete, status_drop]
          · simp [perform, hid, hdelete, status_showSession]
  | utterances rawId =>
      cases hid : unescape? rawId with
      | none => simp [perform, hid]
      | some id =>
          simp only [perform, hid]
          exact say_of_instant h id r

lemma withinLimit_of_instant (hlimit : 0 < s.timeLimit) (before after : World σ τ)
    (response : Response) : s.withinLimit before response 0 after = (response, after) :=
  if_neg (by omega)

/-- Browsers are told nothing of lateness. -/
lemma status_forBrowser {response : Response} (h : response.status ≠ 408) (r : Http.Request) :
    (s.forBrowser r response).status ≠ 408 := by
  rw [forBrowser]
  split
  · have hquestion : ∀ origin, (s.cors.preflight origin).status = 200 := fun origin =>
      Http.CorsPolicy.status_letIn s.cors origin (.bare 200)
    simp [hquestion]
  · rwa [Http.CorsPolicy.status_letIn]

/-- **No request is given up** if the record source answers at once. -/
theorem serve_of_instant (hlimit : 0 < s.timeLimit) (h : s.engine.source.Instant)
    (r : Http.Request) : (s.serve now r w).1.status ≠ 408 := by
  rw [serve]
  cases Route.ofPath? (pathOf r.target) with
  | none =>
      dsimp only
      rw [withinLimit_of_instant hlimit]
      exact status_forBrowser (by simp) r
  | some route =>
      dsimp only
      split
      · obtain ⟨hwaited, hstatus⟩ := perform_of_instant h now route r w
        rw [hwaited, withinLimit_of_instant hlimit]
        dsimp only
        split
        · exact status_forBrowser hstatus r
        · exact status_forBrowser hstatus r
      · rw [withinLimit_of_instant hlimit]
        have hstatus : (Response.bare 405).status ≠ 408 := by simp
        exact status_forBrowser hstatus r

end Service

end Dialogue
