import Dialogue.Proofs.Handler.Trace

/-!
# Handlers that only read records

A handler learns about the record source from the answers it gets.  If it stores nothing, and if the
answers to what it looks up do not depend on the state that the source is in, then it does the same
in every state.  Two runs from different states go along in lockstep: they ask the same, hear the
same, and leave the same turn.

* `RecordSource.Steady` — the source answers look-ups alike in all of certain states.
* `Records.steady_source` — a source in memory is steady as long as nothing is stored.
* `run_of_steady` — the lockstep.
-/

namespace Dialogue

/-- Whether a request asks the record source to store something. -/
def Request.isStore : Request → Bool
  | .store _ _ => true
  | _ => false

/-- In all of certain states, look-ups are answered by the call alone, and they lead to no other
states. -/
structure RecordSource.Steady {σ : Type} (source : RecordSource σ) (states : σ → Prop) : Prop where
  search_eq : ∀ {s s'}, states s → states s' → ∀ entity term patience,
    (source.search entity term patience s).1 = (source.search entity term patience s').1
  search_stays : ∀ {s}, states s → ∀ entity term patience,
    states (source.search entity term patience s).2
  load_eq : ∀ {s s'}, states s → states s' → ∀ entity field value raw patience,
    (source.load entity field value raw patience s).1 =
      (source.load entity field value raw patience s').1
  load_stays : ∀ {s}, states s → ∀ entity field value raw patience,
    states (source.load entity field value raw patience s).2

/-- In states of a kind, the handler stores nothing, whatever the turn is. -/
def Handler.ReadsOnly {σ : Type} (h : Handler) (setting : Setting σ) (states : σ → Prop) : Prop :=
  ∀ t s, states s → ∀ x ∈ h.trace setting t s, x.request.isStore = false

/-! ## Sources in memory -/

namespace Records

/-- A call that changes no records leaves the source as it is. -/
lemma call_of_unchanged {α : Type} {b : Behaviour} {entity : String} {patience : ℕ}
    {action : Records → Except SourceError α × Records} {r : Records} (h : (action r).2 = r) :
    (call b entity patience action r).2 = r := by
  rw [call]
  split
  · rfl
  · exact h

/-- **A source in memory** answers look-ups from its records, and look-ups do not change them. -/
theorem steady_source (b : Behaviour) (records : Records) :
    (source b).Steady (· = records) where
  search_eq := by
    rintro s s' rfl rfl entity term patience
    rfl
  search_stays := by
    rintro s rfl entity term patience
    exact call_of_unchanged rfl
  load_eq := by
    rintro s s' rfl rfl entity field value raw patience
    rfl
  load_stays := by
    rintro s rfl entity field value raw patience
    refine call_of_unchanged ?_
    cases raw with
    | none => rfl
    | some filter => rfl

end Records

/-! ## Lockstep -/

section Lockstep

variable {α σ : Type} {setting : Setting σ} {states : σ → Prop} {s s' : σ}

/-- A request that stores nothing has the same answer and the same effect in two of the states. -/
lemma perform_of_steady (h : setting.source.Steady states) (hs : states s) (hs' : states s')
    (t : Turn) (r : Request) (hr : r.isStore = false) :
    (r.perform setting t s).1 = (r.perform setting t s').1 ∧
    (r.perform setting t s).2.1 = (r.perform setting t s').2.1 ∧
    states (r.perform setting t s).2.2 := by
  cases r with
  | observe => exact ⟨rfl, rfl, hs⟩
  | say text => exact ⟨rfl, rfl, hs⟩
  | set slot value => exact ⟨rfl, rfl, hs⟩
  | addGoal goal => exact ⟨rfl, rfl, hs⟩
  | search entity term =>
      have heq := h.search_eq hs hs' (setting.projection.strip entity) term setting.patience
      refine ⟨?_, ?_, h.search_stays hs _ _ _⟩
      · exact congrArg (fun reply => (explain .search _ reply.result).map _) heq
      · exact congrArg (fun reply => t.wait reply.waited) heq
  | load entity field value raw =>
      have heq := h.load_eq hs hs' (setting.projection.strip entity)
        (field.map setting.projection.strip) value raw setting.patience
      refine ⟨?_, ?_, h.load_stays hs _ _ _ _ _⟩
      · exact congrArg (fun reply => (explain .load _ reply.result).map _) heq
      · exact congrArg (fun reply => t.wait reply.waited) heq
  | store entity fields => cases hr

/-- **Lockstep**: a script that stores nothing ends with the same result and the same turn in two of
the states, and it leaves the source in one of them. -/
theorem run_of_steady (h : setting.source.Steady states) (hs : states s) (hs' : states s')
    (script : Script α) (t : Turn)
    (hstore : ∀ x ∈ script.trace setting t s, x.request.isStore = false) :
    (script.run setting t s).1 = (script.run setting t s').1 ∧
    (script.run setting t s).2.1 = (script.run setting t s').2.1 ∧
    states (script.run setting t s).2.2 := by
  induction script generalizing t s s' with
  | done a => exact ⟨rfl, rfl, hs⟩
  | ask r k ih =>
      rw [Script.trace_ask] at hstore
      obtain ⟨hr, hrest⟩ := List.forall_mem_cons.mp hstore
      obtain ⟨hanswer, hturn, hstays⟩ := perform_of_steady h hs hs' t r hr
      obtain ⟨-, -, hstays'⟩ := perform_of_steady h hs' hs t r hr
      rw [Script.run_ask, Script.run_ask, ← hanswer, ← hturn]
      exact ih _ hstays hstays' _ hrest

/-- No branch of the script stores anything. -/
def Script.Storeless : Script α → Prop
  | .done _ => True
  | .ask r k => r.isStore = false ∧ ∀ answer, (k answer).Storeless

/-- A handler without a branch that stores something only reads. -/
lemma Handler.readsOnly_of_storeless {h : Handler} (hstoreless : Script.Storeless h.body.run) :
    h.ReadsOnly setting states := by
  rintro t s -
  rw [Handler.trace]
  generalize h.body.run = script at hstoreless
  induction script generalizing t s with
  | done a => exact List.forall_mem_nil _
  | ask r k ih =>
      obtain ⟨hr, hk⟩ := hstoreless
      rw [Script.trace_ask]
      exact List.forall_mem_cons.mpr ⟨hr, ih _ _ _ (hk _)⟩

end Lockstep

end Dialogue
