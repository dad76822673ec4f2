import Dialogue.Handler
import Mathlib.Tactic.Common

/-!
# What a handler did

A script is run for its final turn, which no longer tells by which requests it came about.  The
trace of a run keeps them: every request in order, with the turn it was made on and the answer it
got.  What a handler does to goals and speech is then a function of its trace, and the law is proved
from what a single request does.

* `Event`, `Script.trace` — the requests of a run.
* `Event.added?`, `Event.fragment?` — the goal and the speech that an event contributes.
* `run_keeps` — what every request keeps, a run keeps.
* **`goals_run`**, **`speech_run`** — the goals and the speech after a run are those from before,
  followed by what the events contributed.
-/

namespace Dialogue

/-! ## Traces -/

/-- A request that was made: the turn before it, the request, and the answer. -/
structure Event where
  before : Turn
  request : Request
  answer : request.Answer

/-- The requests that a script makes, in order. -/
def Script.trace {α σ : Type} (setting : Setting σ) : Script α → Turn → σ → List Event
  | .done _, _, _ => []
  | .ask r k, t, s =>
    let (answer, t', s') := r.perform setting t s
    ⟨t, r, answer⟩ :: (k answer).trace setting t' s'

/-- The requests that a handler makes, in order. -/
def Handler.trace {σ : Type} (h : Handler) (setting : Setting σ) (t : Turn) (s : σ) : List Event :=
  Script.trace setting h.body.run t s

/-- A goal that was just added: it has given no prompts. -/
def GoalInstance.fresh (id : String) : GoalInstance := ⟨id, 0⟩

/-- The goal that an event added to the stack: the one that was asked for, if the answer says that
it was added. -/
def Event.added? : Event → Option String
  | ⟨_, .addGoal goal, .ok ()⟩ => some goal
  | _ => none

/-- The goals that a trace added, in order. -/
def addedGoals (trace : List Event) : List String := trace.filterMap Event.added?

/-- The fragment that a text amounts to on a turn: its placeholders filled in and its spacing
normalized, if anything is left. -/
def Turn.fragment? (t : Turn) (text : String) : Option String :=
  let fragment := Text.normalize (String.ofList (interpolate t.placeholderText text.toList))
  if fragment = "" then none else some fragment

/-- The fragment that an event spoke. -/
def Event.fragment? : Event → Option String
  | ⟨t, .say text, _⟩ => t.fragment? text
  | _ => none

/-- The fragments that a trace spoke, in order. -/
def spokenFragments (trace : List Event) : List String := trace.filterMap Event.fragment?

/-! ## One request -/

section Perform

variable {σ : Type} (setting : Setting σ) (t : Turn) (s : σ)

lemma goals_say (text : String) : (t.say text).goals = t.goals := by
  rw [Turn.say]
  split <;> rfl

lemma speech_say (text : String) :
    (t.say text).speech = t.speech ++ (t.fragment? text).toList := by
  rw [Turn.say, Turn.fragment?, Text.normalize, String.toList_ofList]
  generalize Text.unfields (Text.fields (interpolate t.placeholderText text.toList)) = fragment
  cases fragment with
  | nil => simp
  | cons c cs => simp

lemma speech_addGoal (knows : String → Bool) (goal : String) :
    (t.addGoal knows goal).2.speech = t.speech := by
  rw [Turn.addGoal]
  split <;> rfl

/-- Adding a goal puts it on top with no prompts, unless the answer is an error. -/
lemma goals_addGoal (knows : String → Bool) (goal : String) :
    (t.addGoal knows goal).2.goals.entries = t.goals.entries ++
      (Event.added? ⟨t, .addGoal goal, (t.addGoal knows goal).1⟩).toList.map
        GoalInstance.fresh := by
  rw [Turn.addGoal, GoalStack.push]
  by_cases h : knows goal = true <;> simp [h, Event.added?, GoalInstance.fresh]

/-- **One request and the goals**: only a goal that was added changes the stack, and it goes on
top. -/
lemma goals_perform (r : Request) :
    (r.perform setting t s).2.1.goals.entries = t.goals.entries ++
      (Event.added? ⟨t, r, (r.perform setting t s).1⟩).toList.map GoalInstance.fresh := by
  cases r with
  | say text => simp [Request.perform, Event.added?, goals_say]
  | addGoal goal => exact goals_addGoal t setting.knows goal
  | observe => simp [Request.perform, Event.added?]
  | set slot value => simp [Request.perform, Event.added?, Turn.set]
  | search entity term => simp [Request.perform, Event.added?, Turn.wait]
  | load entity field value raw => simp [Request.perform, Event.added?, Turn.wait]
  | store entity fields => simp [Request.perform, Event.added?, Turn.wait]

/-- **One request and the speech**: only a text of which something is left is spoken, and it comes
last. -/
lemma speech_perform (r : Request) :
    (r.perform setting t s).2.1.speech = t.speech ++
      (Event.fragment? ⟨t, r, (r.perform setting t s).1⟩).toList := by
  cases r with
  | say text => exact speech_say t text
  | addGoal goal => simp [Request.perform, Event.fragment?, speech_addGoal]
  | observe => simp [Request.perform, Event.fragment?]
  | set slot value => simp [Request.perform, Event.fragment?, Turn.set]
  | search entity term => simp [Request.perform, Event.fragment?, Turn.wait]
  | load entity field value raw => simp [Request.perform, Event.fragment?, Turn.wait]
  | store entity fields => simp [Request.perform, Event.fragment?, Turn.wait]

lemma knows_of_added? (r : Request) {goal : String}
    (h : Event.added? ⟨t, r, (r.perform setting t s).1⟩ = some goal) :
    setting.knows goal = true := by
  cases r with
  | addGoal goal' =>
      simp only [Request.perform, Turn.addGoal, GoalStack.push] at h
      by_cases hknows : setting.knows goal' = true
      · simp only [hknows, if_true, Event.added?] at h
        exact Option.some.inj h ▸ hknows
      · simp [hknows, Event.added?] at h
  | observe => cases h
  | say text => cases h
  | set slot value => cases h
  | search entity term => cases h
  | load entity field value raw => cases h
  | store entity fields => cases h

end Perform

/-! ## A whole run -/

section Run

variable {α σ : Type} {setting : Setting σ}

lemma Script.run_ask (r : Request) (k : r.Answer → Script α) (t : Turn) (s : σ) :
    (Script.ask r k).run setting t s = (k (r.perform setting t s).1).run setting
      (r.perform setting t s).2.1 (r.perform setting t s).2.2 := rfl

lemma Script.trace_ask (r : Request) (k : r.Answer → Script α) (t : Turn) (s : σ) :
    (Script.ask r k).trace setting t s =
      ⟨t, r, (r.perform setting t s).1⟩ :: (k (r.perform setting t s).1).trace setting
        (r.perform setting t s).2.1 (r.perform setting t s).2.2 := rfl

/-- **What every request keeps, a run keeps.** -/
lemma run_keeps {P : Turn → Prop}
    (hrequest : ∀ (r : Request) t s, P t → P (r.perform setting t s).2.1)
    (script : Script α) {t : Turn} (h : P t) (s : σ) : P (script.run setting t s).2.1 := by
  induction script generalizing t s with
  | done a => exact h
  | ask r k ih =>
      rw [Script.run_ask]
      exact ih _ (hrequest r t s h) _

end Run

lemma addedGoals_cons (x : Event) (xs : List Event) :
    addedGoals (x :: xs) = x.added?.toList ++ addedGoals xs := by
  cases h : x.added? <;> simp [addedGoals, h]

lemma spokenFragments_cons (x : Event) (xs : List Event) :
    spokenFragments (x :: xs) = x.fragment?.toList ++ spokenFragments xs := by
  cases h : x.fragment? <;> simp [spokenFragments, h]

/-- **The goals after a run** are those from before and on top of them, in order and without
prompts, those whose addition succeeded. -/
theorem goals_run {α σ : Type} (setting : Setting σ) (script : Script α) (t : Turn) (s : σ) :
    (script.run setting t s).2.1.goals.entries =
      t.goals.entries ++ (addedGoals (script.trace setting t s)).map GoalInstance.fresh := by
  induction script generalizing t s with
  | done a => simp [Script.run, Script.trace, addedGoals]
  | ask r k ih =>
      rw [Script.run, Script.trace, addedGoals_cons, ih, goals_perform, List.map_append,
        List.append_assoc]

/-- **The speech after a run** is that from before, followed by the fragments spoken, in order. -/
theorem speech_run {α σ : Type} (setting : Setting σ) (script : Script α) (t : Turn) (s : σ) :
    (script.run setting t s).2.1.speech =
      t.speech ++ spokenFragments (script.trace setting t s) := by
  induction script generalizing t s with
  | done a => simp [Script.run, Script.trace, spokenFragments]
  | ask r k ih =>
      rw [Script.run, Script.trace, spokenFragments_cons, ih, speech_perform, List.append_assoc]

/-- **Only goals that exist are added**: the answer says so only then. -/
theorem knows_of_mem_addedGoals {α σ : Type} (setting : Setting σ) (script : Script α) (t : Turn)
    (s : σ) {goal : String} (h : goal ∈ addedGoals (script.trace setting t s)) :
    setting.knows goal = true := by
  induction script generalizing t s with
  | done a => cases h
  | ask r k ih =>
      rw [Script.trace, addedGoals_cons] at h
      rcases List.mem_append.mp h with hadded | hrest
      · exact knows_of_added? setting t s r (Option.mem_toList.mp hadded)
      · exact ih _ _ _ hrest

end Dialogue
