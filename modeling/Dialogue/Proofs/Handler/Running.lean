import Dialogue.ResultsList
import Mathlib.Tactic.Common

/-!
# Running a handler step by step

What a handler does on a turn is found out by carrying out one act after the other.  There is an
equation for every act that handlers are made of, and one for putting acts together: the first act
that fails ends the run, and what was done before stays done.  With these equations, a handler whose
text is known is run by rewriting.

* `run_act_bind` — two acts, one after the other.
* `run_say_bind`, `run_set_bind`, `run_requireText_bind` — an act that cannot fail comes first.
* `run_addGoal_of_knows` — a goal is put on the stack.
* `run_search`, `run_store`, `run_listed` — records are looked up, stored, and read off a list.
* `run_respondWithItems` — a list is announced.
-/

namespace Dialogue

section Running

variable {α β σ : Type} (setting : Setting σ) (t : Turn) (s : σ)

lemma Script.run_bind (script : Script α) (next : α → Script β) :
    (script.bind next).run setting t s =
      (next (script.run setting t s).1).run setting (script.run setting t s).2.1
        (script.run setting t s).2.2 := by
  induction script generalizing t s with
  | done a => rfl
  | ask r k ih => exact ih _ _ _

/-- **Two acts, one after the other**: if the first fails, that is the end. -/
lemma run_act_bind (act : Act α) (next : α → Act β) :
    Script.run setting (act >>= next).run t s =
      match Script.run setting act.run t s with
      | (.ok a, t', s') => Script.run setting (next a).run t' s'
      | (.error e, t', s') => (.error e, t', s') := by
  refine (Script.run_bind setting t s act.run (ExceptT.bindCont next)).trans ?_
  obtain ⟨result, t', s'⟩ := Script.run setting act.run t s
  cases result with
  | ok a => rfl
  | error e => rfl

/-! ## Speaking and reading -/

@[simp] lemma run_say (text : String) :
    Script.run setting (Act.say text).run t s = (.ok (), t.say text, s) := rfl

lemma run_say_bind (text : String) (next : Unit → Act β) :
    Script.run setting (Act.say text >>= next).run t s =
      Script.run setting (next ()).run (t.say text) s := by
  rw [run_act_bind, run_say]

lemma run_set_bind (slot : String) (value : Json) (next : Unit → Act β) :
    Script.run setting (Act.set slot value >>= next).run t s =
      Script.run setting (next ()).run (t.set slot value) s := by
  rw [run_act_bind]
  rfl

/-- The spoken form of a slot whose value is a text. -/
lemma requireText_of_get? {t : Turn} {slot text : String} (h : t.get? slot = some (.str text)) :
    t.requireText slot = .ok text := by
  rw [Turn.requireText, Turn.getText?, h]
  rfl

/-- A value that is there is read, and the handler goes on with it. -/
lemma run_requireText_bind {slot text : String} (h : t.requireText slot = .ok text)
    (next : String → Act β) :
    Script.run setting (Act.requireText slot >>= next).run t s =
      Script.run setting (next text).run t s := by
  have hread : Script.run setting (Act.requireText slot).run t s = (t.requireText slot, t, s) := rfl
  rw [run_act_bind, hread, h]

/-! ## Goals -/

/-- The turn with one more goal on the stack. -/
def Turn.pushed (t : Turn) (goal : String) : Turn :=
  { t with goals := ⟨t.goals.entries ++ [⟨goal, 0⟩]⟩ }

lemma Turn.ids_pushed (t : Turn) (goal : String) :
    (t.pushed goal).goals.ids = t.goals.ids ++ [goal] := by
  rw [pushed, GoalStack.ids, List.map_append, GoalStack.ids]
  rfl

/-- Adding a goal that exists puts it on top of the stack. -/
lemma run_addGoal_of_knows {goal : String} (h : setting.knows goal = true) :
    Script.run setting (Act.addGoal goal).run t s = (.ok (), t.pushed goal, s) := by
  have hadded : t.addGoal setting.knows goal = (.ok (), t.pushed goal) := by
    rw [Turn.addGoal, GoalStack.push, if_pos h]
    rfl
  have hasked : Script.run setting (Act.ask (.addGoal goal)).run t s =
      (.ok (t.addGoal setting.knows goal).1, (t.addGoal setting.knows goal).2, s) := rfl
  rw [Act.addGoal, run_act_bind, hasked, hadded]
  rfl

/-! ## Records -/

/-- Records are looked up under the name without markers, and cut down to what is of interest. -/
lemma run_search {entity term : String} {reply : Reply (List Record)} {s' : σ}
    (h : setting.source.search (setting.projection.strip entity) term setting.patience s =
      (reply, s')) :
    Script.run setting (Act.search entity term).run t s =
      ((explain .search (setting.projection.strip entity) reply.result).map
          (·.map (setting.projection.project entity)),
        t.wait reply.waited, s') := by
  have hperform : Script.run setting (Act.search entity term).run t s =
      (Request.search entity term).perform setting t s := rfl
  rw [hperform, Request.perform, h]
  rfl

/-- A record is stored without markers. -/
lemma run_store {entity : String} {fields : Record} {reply : Reply Record} {s' : σ}
    (h : setting.source.store (setting.projection.strip entity)
      (setting.projection.stripFields fields) setting.patience s = (reply, s')) :
    Script.run setting (Act.store entity fields).run t s =
      (explain .store (setting.projection.strip entity) reply.result, t.wait reply.waited,
        s') := by
  have hperform : Script.run setting (Act.store entity fields).run t s =
      (Request.store entity fields).perform setting t s := rfl
  rw [hperform, Request.perform, h]
  rfl

/-- Asking a list is reading it from the turn. -/
lemma run_listed (read : Turn → Except IndexError α) :
    Script.run setting (Act.listed read).run t s = ((read t).mapError TurnError.index, t, s) := by
  have hobserve : Script.run setting Act.observe.run t s = (.ok t, t, s) := rfl
  rw [Act.listed, run_act_bind, hobserve]
  dsimp only
  cases read t with
  | ok a => rfl
  | error e => rfl

/-- Announcing a list puts its records into the slot, and its goal on the stack. -/
lemma run_respondWithItems (l : ResultsList) (items : List Record)
    (hknows : setting.knows l.interactionGoal = true) :
    Script.run setting (l.respondWithItems items).run t s =
      (.ok (), ((t.set l.slot (.arr (items.map Json.ofDict))).say (l.announcement items)).pushed
        l.interactionGoal, s) := by
  rw [ResultsList.respondWithItems, run_set_bind, run_say_bind,
    run_addGoal_of_knows _ _ _ hknows]

end Running

end Dialogue
