import Dialogue.ResultsList
import Dialogue.Proofs.Dict
import Dialogue.Proofs.Handler.Trace

/-!
# What a handler writes and what it reads

A turn holds two dictionaries with the same kind of names.  The values that were extracted from the
utterance shadow those of the session when a slot is read; when a slot is set, only the values of
the session change.  Both facts are about single requests, and a run adds nothing to them.

* `Event.written?`, `writes` — the entries that a run wrote, in order.
* `Event.seen?` — the turn that a handler was shown when it looked at its slots.
* **`values_run`** — a run overwrites the values of the session with what it wrote.
* **`get?_of_seen?`** — what a handler reads at any point of its run.
* `writes_respondWithItems` — announcing a list writes one slot.
-/

namespace Dialogue

/-- The slot that an event wrote, and the value. -/
def Event.written? : Event → Option (String × Json)
  | ⟨_, .set slot value, _⟩ => some (slot, value)
  | _ => none

/-- What a trace wrote, in order. -/
def writes (trace : List Event) : List (String × Json) := trace.filterMap Event.written?

/-- The turn that an event showed to the handler. -/
def Event.seen? : Event → Option Turn
  | ⟨_, .observe, t⟩ => some t
  | _ => none

/-! ## One request -/

section Perform

variable {σ : Type} (setting : Setting σ) (t : Turn) (s : σ)

lemma slots_say (text : String) :
    (t.say text).values = t.values ∧ (t.say text).extracted = t.extracted := by
  rw [Turn.say]
  split <;> exact ⟨rfl, rfl⟩

lemma get?_say (text slot : String) : (t.say text).get? slot = t.get? slot := by
  obtain ⟨hvalues, hextracted⟩ := slots_say t text
  rw [Turn.get?, hvalues, hextracted, Turn.get?]

lemma slots_addGoal (knows : String → Bool) (goal : String) :
    (t.addGoal knows goal).2.values = t.values ∧
      (t.addGoal knows goal).2.extracted = t.extracted := by
  rw [Turn.addGoal]
  split <;> exact ⟨rfl, rfl⟩

/-- **One request and the values of the session**: only setting a slot changes them. -/
lemma values_perform (r : Request) :
    (r.perform setting t s).2.1.values =
      t.values.overwrite (Event.written? ⟨t, r, (r.perform setting t s).1⟩).toList := by
  cases r with
  | set slot value => rfl
  | say text => exact (slots_say t text).1
  | addGoal goal => exact (slots_addGoal t setting.knows goal).1
  | observe => rfl
  | search entity term => rfl
  | load entity field value raw => rfl
  | store entity fields => rfl

/-- **One request and the extracted values**: nothing changes them. -/
lemma extracted_perform (r : Request) :
    (r.perform setting t s).2.1.extracted = t.extracted := by
  cases r with
  | say text => exact (slots_say t text).2
  | addGoal goal => exact (slots_addGoal t setting.knows goal).2
  | set slot value => rfl
  | observe => rfl
  | search entity term => rfl
  | load entity field value raw => rfl
  | store entity fields => rfl

/-- The turn that is shown is the turn as it stands. -/
lemma seen?_perform (r : Request) {shown : Turn}
    (h : Event.seen? ⟨t, r, (r.perform setting t s).1⟩ = some shown) : shown = t := by
  cases r with
  | observe => exact (Option.some.inj h).symm
  | say text => cases h
  | set slot value => cases h
  | addGoal goal => cases h
  | search entity term => cases h
  | load entity field value raw => cases h
  | store entity fields => cases h

end Perform

/-! ## A whole run -/

lemma writes_cons (x : Event) (xs : List Event) :
    writes (x :: xs) = x.written?.toList ++ writes xs := by
  cases h : x.written? <;> simp [writes, h]

section Run

variable {α σ : Type} (setting : Setting σ) (script : Script α) (t : Turn) (s : σ)

/-- **The values of the session after a run** are those from before, overwritten with what the run
wrote, in order. -/
theorem values_run :
    (script.run setting t s).2.1.values =
      t.values.overwrite (writes (script.trace setting t s)) := by
  induction script generalizing t s with
  | done a => rfl
  | ask r k ih =>
      rw [Script.run, Script.trace, writes_cons, ih, values_perform, Dict.overwrite_append]

/-- A turn that is shown in the middle of a run has the extracted values from before it, and the
values that what was written until then makes of the old ones. -/
lemma slots_of_seen? {before after : List Event} {x : Event} {shown : Turn}
    (htrace : script.trace setting t s = before ++ x :: after) (hx : x.seen? = some shown) :
    shown.extracted = t.extracted ∧ shown.values = t.values.overwrite (writes before) := by
  induction script generalizing t s before with
  | done a =>
      rw [Script.trace] at htrace
      exact absurd htrace.symm (List.append_ne_nil_of_right_ne_nil _ (List.cons_ne_nil _ _))
  | ask r k ih =>
      rw [Script.trace] at htrace
      cases before with
      | nil =>
          obtain ⟨rfl, -⟩ := List.cons.inj htrace
          rw [seen?_perform setting t s r hx]
          exact ⟨rfl, rfl⟩
      | cons y before =>
          obtain ⟨rfl, hrest⟩ := List.cons.inj htrace
          obtain ⟨hextracted, hvalues⟩ :=
            ih _ (r.perform setting t s).2.1 (r.perform setting t s).2.2 hrest
          rw [hextracted, hvalues, extracted_perform, values_perform, writes_cons,
            Dict.overwrite_append]
          exact ⟨rfl, rfl⟩

/-- **What a handler reads**: the extracted value of the slot, or else the value it was given last
in the run, or else the value from before. -/
theorem get?_of_seen? {before after : List Event} {x : Event} {shown : Turn}
    (htrace : script.trace setting t s = before ++ x :: after) (hx : x.seen? = some shown)
    (slot : String) :
    shown.get? slot =
      (t.extracted.find? slot <|> Dict.lastValue? slot (writes before) <|>
        t.values.find? slot) := by
  obtain ⟨hextracted, hvalues⟩ := slots_of_seen? setting script t s htrace hx
  rw [Turn.get?, hextracted, hvalues, Dict.find?_overwrite]
  cases t.extracted.find? slot with
  | some value => rfl
  | none => cases Dict.lastValue? slot (writes before) <;> rfl

end Run

/-! ## Announcing a list -/

section Announcing

variable {σ : Type} (setting : Setting σ) (t : Turn) (s : σ)

/-- Adding a goal is one request, whatever its answer is. -/
lemma trace_addGoal (goal : String) :
    Script.trace setting (Act.addGoal goal).run t s =
      [⟨t, .addGoal goal, (t.addGoal setting.knows goal).1⟩] := by
  rw [Act.addGoal, Turn.addGoal]
  cases hpush : t.goals.push setting.knows goal with
  | ok goals =>
      simp only [Act.ask, ExceptT.run, bind, ExceptT.bind, ExceptT.mk, ExceptT.lift, Script.bind,
        Functor.map, Script.trace, Request.perform, Turn.addGoal, hpush]
      rfl
  | error e =>
      simp only [Act.ask, ExceptT.run, bind, ExceptT.bind, ExceptT.mk, ExceptT.lift, Script.bind,
        Functor.map, Script.trace, Request.perform, Turn.addGoal, hpush]
      rfl

/-- Announcing a list is three requests: its slot is set, it is read out, and its goal is added. -/
lemma trace_respondWithItems (l : ResultsList) (records : List Record) :
    Script.trace setting (l.respondWithItems records).run t s =
      let kept := t.set l.slot (.arr (records.map Json.ofDict))
      let told := kept.say (l.announcement records)
      [⟨t, .set l.slot (.arr (records.map Json.ofDict)), ()⟩,
        ⟨kept, .say (l.announcement records), ()⟩,
        ⟨told, .addGoal l.interactionGoal, (told.addGoal setting.knows l.interactionGoal).1⟩] := by
  dsimp only
  rw [← trace_addGoal setting _ s]
  rfl

/-- Announcing a list writes the slot of the list and no other, whether or not its goal exists. -/
lemma writes_respondWithItems (l : ResultsList) (records : List Record) :
    writes (Script.trace setting (l.respondWithItems records).run t s) =
      [(l.slot, .arr (records.map Json.ofDict))] := by
  rw [trace_respondWithItems]
  rfl

end Announcing

end Dialogue
