import Dialogue.Proofs.Engine.Turns
import Dialogue.Proofs.Handler.Slots

/-!
# What a turn makes of the slots

A turn that commits puts the values of its working copy into the session, and a handler changes the
working copy by setting slots and in no other way.  What was extracted from the utterance is kept
apart from it.  So it answers for a slot as long as the turn lasts, and it is gone afterwards unless
the handler set it.

* `values_finalTurn` — the working copy as the handler leaves it.
* **`slot_frame_law`** — what the session has after a turn, and what a handler reads in between.
-/

namespace Dialogue

lemma values_startTurn (s : Session) (r : Resolution) :
    (Engine.startTurn s r).values = s.slots ∧ (Engine.startTurn s r).extracted = r.values := by
  obtain ⟨goals, hstart⟩ := startTurn_eq s r
  rw [hstart]
  exact ⟨rfl, rfl⟩

namespace Engine

variable {σ τ : Type} {e : Engine σ τ} {s : Session} {o : Occasion σ} {r : Resolution}

/-- The handler leaves the old values, overwritten with what it wrote. -/
lemma values_finalTurn :
    (e.finalTurn s o r).values = s.slots.overwrite (writes (e.trace s o r)) := by
  rw [← (values_startTurn s r).1]
  exact values_run e.setting _ _ _

/-- A turn that commits stores the values of its working copy. -/
lemma Commits.slots_next (h : e.Commits s o r) :
    (e.next s o).slots = s.slots.overwrite (writes (e.trace s o r)) := by
  rw [← values_finalTurn, next, answered_eq h.1, h.2]
  rfl

/-- A slot that has changed was written. -/
lemma mem_writes_of_ne (h : e.Commits s o r) {slot : String}
    (hslot : (e.next s o).slots.find? slot ≠ s.slots.find? slot) :
    ∃ value, (e.next s o).slots.find? slot = some value ∧
      (slot, value) ∈ writes (e.trace s o r) := by
  rw [h.slots_next, Dict.find?_overwrite] at hslot ⊢
  cases hlast : Dict.lastValue? slot (writes (e.trace s o r)) with
  | none => exact absurd (by rw [hlast, Option.none_or]) hslot
  | some value => exact ⟨value, Option.some_or, Dict.mem_of_lastValue? hlast⟩

/-- **What a turn makes of the slots.**  A turn with a store around it is a step of the session.
One that reports success puts a session back whose values are the old ones, overwritten in order
with what its handler wrote; a slot that the handler did not write has its old value or still none,
even if the utterance gave it one.  While a handler runs, and however it ends, a slot that it looks
at has the extracted value, or else the last one that the handler has written so far, or else the
value from before the turn.  Announcing a list counts as writing the records into the slot of the
list. -/
theorem slot_frame_law (e : Engine σ τ) :
    (∀ now id utterance (w : World σ τ) found, e.store.get w.sessions id = .ok found →
      e.Settles w (e.handleUtterance now id utterance w)
        (e.next (metBy id now found) ⟨now, utterance, w.source⟩)
        (e.answered (metBy id now found) ⟨now, utterance, w.source⟩).outcome) ∧
    (∀ now id utterance (w : World σ τ) outcome,
      (e.handleUtterance now id utterance w).1.outcome = .ok outcome → outcome.updated = true →
      ∃ found r, e.store.get w.sessions id = .ok found ∧
        let s := metBy id now found
        let o : Occasion σ := ⟨now, utterance, w.source⟩
        e.Commits s o r ∧
        e.store.put w.sessions (e.next s o) =
          .ok (e.handleUtterance now id utterance w).2.sessions ∧
        (e.next s o).slots = s.slots.overwrite (writes (e.trace s o r)) ∧
        (∀ slot, slot ∉ (writes (e.trace s o r)).map (·.1) →
          (e.next s o).slots.find? slot = s.slots.find? slot) ∧
        ∀ slot extracted, r.values.find? slot = some extracted →
          (e.next s o).slots.find? slot ≠ s.slots.find? slot →
            ∃ value, (e.next s o).slots.find? slot = some value ∧
              (slot, value) ∈ writes (e.trace s o r)) ∧
    (∀ s o r, e.model.resolve s.activeGoal? o.utterance = .ok r →
      ∀ before x after shown, e.trace s o r = before ++ x :: after → x.seen? = some shown →
        ∀ slot, shown.get? slot =
          (r.values.find? slot <|> Dict.lastValue? slot (writes before) <|>
            s.slots.find? slot)) ∧
    ∀ (l : ResultsList) records (t : Turn) source,
      writes (Script.trace e.setting (l.respondWithItems records).run t source) =
        [(l.slot, .arr (records.map Json.ofDict))] := by
  refine ⟨fun now id utterance w found => handleUtterance_settles,
    fun now id utterance w outcome houtcome hupdated => ?_,
    fun s o r _ before x after shown htrace hx slot => ?_,
    fun l records t source => writes_respondWithItems e.setting t source l records⟩
  · obtain ⟨found, r, hget, hr, _, hput⟩ := exists_commits_of_updated houtcome hupdated
    refine ⟨found, r, hget, hr, hput, hr.slots_next, fun slot hslot => ?_,
      fun slot _ _ => mem_writes_of_ne hr⟩
    by_contra hchanged
    obtain ⟨value, _, hmem⟩ := mem_writes_of_ne hr hchanged
    exact hslot (List.mem_map_of_mem hmem)
  · rw [get?_of_seen? e.setting _ _ _ htrace hx slot, (values_startTurn s r).1,
      (values_startTurn s r).2]

-- Ann's session hears from Bob: his name answers for the slot all through the turn, also after the
-- slot has been set, but the session gets what was set.
example :
    let copy (slot : String) : Act Unit := do
      Act.set slot (.str (((← Act.observe).getText? "name").getD ""))
    let introduction : Binding :=
      ⟨⟨"i am [[name]]", [[.word "i".toList, .word "am".toList, .slot "name"]]⟩,
        .immediate (do copy "before"; Act.set "name" (.str "Cy"); copy "after")⟩
    let e := recordless ⟨InputTypes.add .empty (.literal "name" []), [introduction], []⟩
    let ann : Session := { Session.new "s" .epoch with slots := .ofList [("name", .str "Ann")] }
    (e.next ann ⟨.epoch, "I am Bob.", ()⟩).slots.entries =
      [("after", .str "Bob"), ("before", .str "Bob"), ("name", .str "Cy")] := by
  decide

end Engine

end Dialogue
