import Dialogue.Proofs.Engine.Retention

/-!
# Conversations over a store that does not fail

What a conversation of several turns comes to is told turn by turn: each turn meets the session that
the one before has left, and the record source in the state in which it was left.  That takes a
store on which every operation succeeds, as one in memory does.

* `SessionStore.Reliable` — a faithful store that does not fail.
* `World.Holds` — a session stands under its id, and all others under theirs.
* **`turn_of_reliable`** — a turn is answered, and the session that it leaves is held;
  `turn_of_success` and `turn_of_failure` say which one that is.
* `next_of_wordless`, `holds_after_pauses` — utterances without a word give prompts and change
  nothing else.
-/

namespace Dialogue

variable {σ τ : Type}

/-! ## Stores -/

/-- A store that is faithful to what it holds and never fails. -/
structure SessionStore.Reliable (store : SessionStore τ)
    (held : τ → String → Option Session) : Prop extends store.Faithful held where
  exists_get : ∀ sessions id, ∃ found, store.get sessions id = .ok found
  exists_put : ∀ sessions s, ∃ sessions', store.put sessions s = .ok sessions'

/-- Sessions in memory are such a store. -/
lemma SessionStore.reliable_inMemory : inMemory.Reliable Dict.find? where
  toFaithful := faithful_inMemory
  exists_get sessions id := ⟨sessions.find? id, rfl⟩
  exists_put sessions s := ⟨sessions.insert s.id s, rfl⟩

/-- A session stands under an id, and every session under its own. -/
structure World.Holds (held : τ → String → Option Session) (w : World σ τ) (id : String)
    (s : Session) : Prop where
  held_eq : held w.sessions id = some s
  own : HeldByOwnId (held w.sessions)

lemma GoalStack.eq_empty_of_ids {goals : GoalStack} (h : goals.ids = []) : goals = .empty := by
  obtain ⟨entries⟩ := goals
  exact congrArg GoalStack.mk (List.map_eq_nil_iff.mp h)

namespace Engine

variable {e : Engine σ τ} {held : τ → String → Option Session} {w : World σ τ}

/-! ## One turn -/

lemma source_handleUtterance {now : Timestamp} {id text : String} {found : Option Session}
    (h : e.store.get w.sessions id = .ok found) :
    (e.handleUtterance now id text w).2.source =
      (e.answer (metBy id now found) text w.source).2 := by
  rw [handleUtterance, h, metBy]
  dsimp only
  generalize e.answer (found.getD (Session.new id now)) text w.source = answered
  split <;> rfl

/-- **A turn is answered**, and the session that it leaves is held. -/
theorem turn_of_reliable (hstore : e.store.Reliable held) (hown : HeldByOwnId (held w.sessions))
    {now : Timestamp} {id : String} {s : Session} (hmet : metBy id now (held w.sessions id) = s)
    (text : String) :
    let turn := e.handleUtterance now id text w
    turn.1.outcome = .ok (e.answer s text w.source).1.outcome ∧
    turn.2.source = (e.answer s text w.source).2 ∧
    turn.2.Holds held id (e.next s ⟨now, text, w.source⟩) := by
  intro turn
  subst hmet
  obtain ⟨found, hget⟩ := hstore.exists_get w.sessions id
  obtain rfl := hstore.get_eq hget
  have hsettles : e.Settles w turn _ _ := handleUtterance_settles hget
  have hsource : turn.2.source = _ := source_handleUtterance hget
  obtain ⟨sessions, hput⟩ := hstore.exists_put w.sessions
    (e.next (metBy id now (held w.sessions id)) ⟨now, text, w.source⟩)
  rw [Settles, hput, answered] at hsettles
  dsimp only at hsettles
  have hid : (e.next (metBy id now (held w.sessions id)) ⟨now, text, w.source⟩).id = id :=
    (id_next e _ _).trans (id_metBy hown id now)
  refine ⟨hsettles.1, hsource, ?_, ?_⟩
  · rw [hsettles.2, hstore.put_eq hput, hid, Function.update_self]
  · rw [hsettles.2, hstore.put_eq hput, hid]
    exact hown.update fun s' hs' => Option.some.inj hs' ▸ hid

/-- The session that is held is the one that an utterance meets. -/
lemma metBy_of_holds {id : String} {s : Session} (h : w.Holds held id s) (now : Timestamp) :
    metBy id now (held w.sessions id) = s := by
  rw [h.held_eq, metBy, Option.getD_some]

/-- The active goal is the last of the goals. -/
lemma activeGoal?_of_ids {s : Session} {below : List String} {id : String}
    (h : s.goals.ids = below ++ [id]) : s.activeGoal? = some id := by
  rw [Session.activeGoal?, GoalStack.active?, GoalStack.top?, ← List.getLast?_map, ← GoalStack.ids,
    h, List.getLast?_concat]

/-- A binding of the active goal starts its turn without it. -/
lemma ids_startTurn {s : Session} (r : Resolution) {below : List String} {id : String}
    (hscope : r.scope = .goal id) (h : s.goals.ids = below ++ [id]) :
    (startTurn s r).goals.ids = below := by
  have hactive : (Turn.start s r.values).activeGoal? = some id := activeGoal?_of_ids h
  rw [startTurn, hscope]
  simp only [Turn.completeGoal, hactive, beq_self_eq_true, if_true]
  show (s.goals.entries.dropLast).map _ = _
  rw [List.map_dropLast, ← GoalStack.ids, h, List.dropLast_concat]

/-- What the user hears of a handler that spoke one fragment: the fragment, and then the prompt. -/
lemma spoken_succeeded (e : Engine σ τ) (s : Session) (scope : Scope) {t : Turn} {fragment : String}
    (h : t.speech = [fragment]) : (e.succeeded s scope t).outcome.spoken =
      fragment ++
        if (e.currentPrompt t.goals).isEmpty then "" else " " ++ e.currentPrompt t.goals := by
  rw [succeeded, h]
  dsimp only
  split
  · exact String.append_empty.symm
  · exact String.append_assoc

/-- Without goals there is no prompt. -/
lemma spoken_succeeded_of_idle (e : Engine σ τ) (s : Session) (scope : Scope) {t : Turn}
    {fragment : String} (h : t.speech = [fragment]) (hidle : t.goals.ids = []) :
    (e.succeeded s scope t).outcome.spoken = fragment := by
  have hentries : t.goals.entries = [] := List.map_eq_nil_iff.mp hidle
  have hprompt : e.currentPrompt t.goals = "" := by
    rw [currentPrompt, GoalStack.top?, hentries]
    rfl
  rw [spoken_succeeded e s scope h, hprompt]
  exact String.append_empty

section Understood

variable {now : Timestamp} {id text : String} {s : Session} {r : Resolution} {t : Turn} {source : σ}

/-- **A turn whose handler succeeds** leaves the values and the goals that the handler does. -/
lemma turn_of_success (hstore : e.store.Reliable held) (hown : HeldByOwnId (held w.sessions))
    (hmet : metBy id now (held w.sessions id) = s)
    (hresolve : e.model.resolve s.activeGoal? text = .ok r)
    (hrun : r.binding.handler.run e.setting (startTurn s r) w.source = (.ok (), t, source)) :
    let turn := e.handleUtterance now id text w
    turn.1.outcome = .ok (e.succeeded s r.scope t).outcome ∧ turn.2.source = source ∧
    ∃ s', turn.2.Holds held id s' ∧ s'.slots = t.values ∧ s'.goals.ids = t.goals.ids := by
  intro turn
  have hanswer := answer_of_ok hresolve hrun
  obtain ⟨houtcome, hsource, hholds⟩ := turn_of_reliable hstore hown hmet text
  rw [next, answered] at hholds
  simp only [hanswer] at houtcome hsource hholds
  refine ⟨houtcome, hsource, _, hholds, rfl, ?_⟩
  show t.goals.issue.entries.map _ = _
  rw [GoalStack.entries_issue, ids_prompted, GoalStack.ids]

/-- **A turn whose handler fails** keeps the values and the goals of the session. -/
lemma turn_of_failure (hstore : e.store.Reliable held) (hown : HeldByOwnId (held w.sessions))
    (hmet : metBy id now (held w.sessions id) = s)
    (hresolve : e.model.resolve s.activeGoal? text = .ok r) {error : TurnError}
    (hrun : r.binding.handler.run e.setting (startTurn s r) w.source = (.error error, t, source)) :
    let turn := e.handleUtterance now id text w
    turn.1.outcome = .ok (e.failed s r.scope t error).outcome ∧ turn.2.source = source ∧
    ∃ s', turn.2.Holds held id s' ∧ s'.slots = s.slots ∧ s'.goals = s.goals := by
  intro turn
  have hanswer := answer_of_fail hresolve hrun
  obtain ⟨houtcome, hsource, hholds⟩ := turn_of_reliable hstore hown hmet text
  rw [next, answered] at hholds
  simp only [hanswer] at houtcome hsource hholds
  exact ⟨houtcome, hsource, _, hholds, rfl, rfl⟩

end Understood

/-! ## Utterances without a word -/

lemma resolve_of_wordless {m : Model} {activeGoal : Option String} {utterance : String}
    (h : Text.hasWord utterance = false) :
    m.resolve activeGoal utterance = .error ⟨utterance, activeGoal⟩ := by
  refine resolve_eq_error_of fun r hr => ?_
  rw [(resolve_eq_ok_iff.mp hr).1] at h
  cases h

/-- **An utterance without a word** gives a prompt and changes nothing else. -/
lemma next_of_wordless (s : Session) {o : Occasion σ} (h : Text.hasWord o.utterance = false) :
    e.next s o = { s with
      goals := ⟨s.goals.entries.modifyLast GoalInstance.prompted⟩
      turns := s.turns + 1
      updatedAt := o.now } ∧
    (e.answer s o.utterance o.source).2 = o.source := by
  have hresolve : e.model.resolve s.activeGoal? o.utterance = _ := resolve_of_wordless h
  refine ⟨next_of_error hresolve, ?_⟩
  rw [answer, hresolve]

/-- The call is an utterance of a session and holds no word. -/
def IsPause (id : String) (c : Contact) : Prop :=
  c.session = id ∧ ∃ text, c.call = .utterance text ∧ Text.hasWord text = false

/-- Pauses keep the values and the goals of the session and leave the record source alone. -/
lemma holds_after_pauses (hstore : e.store.Reliable held) {id : String} {pauses : List Contact}
    (hpauses : ∀ c ∈ pauses, IsPause id c) {s : Session} (h : w.Holds held id s) :
    ∃ s', (e.after w pauses).Holds held id s' ∧ s'.slots = s.slots ∧ s'.goals.ids = s.goals.ids ∧
      (e.after w pauses).source = w.source := by
  induction pauses generalizing w s with
  | nil => exact ⟨s, h, rfl, rfl, rfl⟩
  | cons c pauses ih =>
      obtain ⟨⟨hsession, text, hcall, hwordless⟩, hrest⟩ := List.forall_mem_cons.mp hpauses
      obtain ⟨now, id', call⟩ := c
      obtain rfl : id' = id := hsession
      obtain rfl : call = .utterance text := hcall
      have hcons : e.after w (⟨now, id', .utterance text⟩ :: pauses) =
          e.after (e.handleUtterance now id' text w).2 pauses := by
        rw [after, List.foldl_cons, meet_utterance, after]
      obtain ⟨hnext, hsource⟩ := next_of_wordless (e := e) s (o := ⟨now, text, w.source⟩) hwordless
      obtain ⟨-, hturn, hholds⟩ := turn_of_reliable hstore h.own (metBy_of_holds h now) text
      obtain ⟨s', hs', hslots, hids, hafter⟩ := ih hrest hholds
      have hkept : (e.next s ⟨now, text, w.source⟩).goals.ids = s.goals.ids := by
        rw [hnext]
        exact ids_prompted s.goals.entries
      rw [hcons]
      refine ⟨s', hs', ?_, hids.trans hkept, hafter.trans (hturn.trans hsource)⟩
      rw [hslots, hnext]

end Engine

end Dialogue
