import Dialogue.Proofs.Handler.Slots

/-!
# Lists of records, announced and asked for

Announcing a list is three requests, and the first of them puts the records into the slot of the
list.  From then on, whoever looks at the turn finds them there, as long as nothing else is put into
the slot and the utterance itself gave it nothing.  What a list answers depends on the slot alone.

* `ResultsList.Answers`, `ResultsList.Unlisted` — the two things a list may have to say: which
  records it holds, by number and all together, or that none have been announced.
* `answers_of_get?`, `unlisted_of_get?` — which of them it is.
* `result_respondWithItems` — announcing succeeds if the goal of the list exists.
* `Looks` — a handler looks at its slots, and has not set a certain one before.
* **`answers_of_announced`** — what a handler finds that announced a list itself.
-/

namespace Dialogue

namespace ResultsList

/-! ## What a list answers -/

/-- The list holds records: it gives all of them, and each under its number, counted from one; about
every other number it says that it is out of range, and what the range is. -/
structure Answers (l : ResultsList) (t : Turn) (records : List Record) : Prop where
  items : l.items t = .ok records
  item : ∀ (i : ℕ) (h : i < records.length), l.item t (i + 1) = .ok records[i]
  outOfRange : ∀ n : ℤ, n < 1 ∨ records.length < n →
    l.item t n = .error (.outOfRange l.itemName n records.length)

/-- Nothing has been announced: the list says so, whatever it is asked for. -/
structure Unlisted (l : ResultsList) (t : Turn) : Prop where
  items : l.items t = .error (.notListed l.itemsName)
  item : ∀ n : ℤ, l.item t n = .error (.notListed l.itemsName)

variable {l : ResultsList} {t : Turn} {records : List Record}

lemma item_of_items_eq_ok (h : l.items t = .ok records) (n : ℤ) :
    l.item t n =
      if n < 1 then .error (.outOfRange l.itemName n records.length)
      else
        match records[(n - 1).toNat]? with
        | some record => .ok record
        | none => .error (.outOfRange l.itemName n records.length) := by
  rw [item, h]
  rfl

/-- A list whose slot holds the objects of records answers with these records. -/
lemma answers_of_get? (h : t.get? l.slot = some (.arr (records.map Json.ofDict))) :
    l.Answers t records := by
  have hitems : l.items t = .ok records := by
    simp [items, h, Json.asItems?, List.filterMap_map]
  refine ⟨hitems, fun i hi => ?_, fun n hn => ?_⟩
  · have hindex : ((i : ℤ) + 1 - 1).toNat = i := by omega
    rw [item_of_items_eq_ok hitems, if_neg (by omega), hindex, List.getElem?_eq_getElem hi]
  · rw [item_of_items_eq_ok hitems]
    split
    · rfl
    · rw [List.getElem?_eq_none (by omega)]

/-- A list whose slot holds no list of values has not been announced. -/
lemma unlisted_of_get? (h : (t.get? l.slot).bind Json.asItems? = none) : l.Unlisted t := by
  have hitems : l.items t = .error (.notListed l.itemsName) := by rw [items, h]
  refine ⟨hitems, fun n => ?_⟩
  rw [item, hitems]
  rfl

end ResultsList

/-! ## Announcing -/

section Announcing

variable {σ : Type} (setting : Setting σ) (t : Turn) (s : σ)

/-- **Announcing a list succeeds** if its goal exists. -/
lemma result_respondWithItems (l : ResultsList) (records : List Record)
    (h : setting.knows l.interactionGoal = true) :
    (Script.run setting (l.respondWithItems records).run t s).1 = .ok () := by
  have hadded : ∀ t : Turn, (Script.run setting (Act.addGoal l.interactionGoal).run t s).1 =
      .ok () := by
    intro t
    simp only [Act.addGoal, Act.ask, ExceptT.run, bind, ExceptT.bind, ExceptT.mk, ExceptT.lift,
      Script.bind, Functor.map, Script.run, Request.perform, Turn.addGoal, GoalStack.push, h,
      if_true]
    rfl
  exact hadded _

end Announcing

/-! ## Looking at a list -/

/-- In the course of events, a handler is shown the turn, and it has not set the slot before. -/
def Looks (events : List Event) (slot : String) (shown : Turn) : Prop :=
  ∃ before x after, events = before ++ x :: after ∧ x.seen? = some shown ∧
    slot ∉ (writes before).map (·.1)

lemma writes_append (xs ys : List Event) : writes (xs ++ ys) = writes xs ++ writes ys :=
  List.filterMap_append

section Looking

variable {α σ : Type} {setting : Setting σ} {script : Script α} {t : Turn} {s : σ}

/-- A slot that the utterance gave nothing and that the handler has not set has its old value. -/
lemma get?_of_looks {slot : String} {shown : Turn}
    (h : Looks (script.trace setting t s) slot shown) :
    shown.get? slot = (shown.extracted.find? slot <|> t.values.find? slot) := by
  obtain ⟨before, x, after, htrace, hx, hslot⟩ := h
  obtain ⟨hextracted, -⟩ := slots_of_seen? setting script t s htrace hx
  rw [get?_of_seen? setting script t s htrace hx, Dict.lastValue?_eq_none_iff.mpr hslot, hextracted]
  rfl

/-- After a list was announced, the records are the last value of its slot, as long as nothing else
is put into it. -/
lemma lastValue?_announced {l : ResultsList} {records : List Record} {before later : List Event}
    (hslot : l.slot ∉ (writes later).map (·.1)) :
    Dict.lastValue? l.slot (writes
      (before ++ Script.trace setting (l.respondWithItems records).run t s ++ later)) =
      some (.arr (records.map Json.ofDict)) := by
  rw [writes_append, writes_append, writes_respondWithItems, Dict.lastValue?_append,
    Dict.lastValue?_eq_none_iff.mpr hslot, Dict.lastValue?_append, Dict.lastValue?,
    List.reverse_singleton, List.lookup_cons, beq_self_eq_true]
  rfl

/-- **What a handler finds that announced a list itself**: the records, as long as it does not set
the slot of the list again and the utterance gave the slot nothing. -/
theorem answers_of_announced {l : ResultsList} {records : List Record} {before later : List Event}
    {t' : Turn} {s' : σ}
    (htrace : script.trace setting t s =
      before ++ Script.trace setting (l.respondWithItems records).run t' s' ++ later)
    {shown : Turn} (hlooks : Looks later l.slot shown)
    (hextracted : shown.extracted.find? l.slot = none) : l.Answers shown records := by
  obtain ⟨between, x, rest, rfl, hx, hslot⟩ := hlooks
  rw [← List.append_assoc] at htrace
  obtain ⟨hsame, _⟩ := slots_of_seen? setting script t s htrace hx
  refine ResultsList.answers_of_get? ?_
  rw [get?_of_seen? setting script t s htrace hx, ← hsame, hextracted, lastValue?_announced hslot]
  rfl

end Looking

end Dialogue
