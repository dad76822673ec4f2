import Dialogue.Proofs.Resolution.Precedence

/-!
# What an utterance gives to slots

An utterance gives texts to slots, and the input types turn them into values: a number type into
numbers, a literal type into texts.  So an utterance can never give a slot the kind of value that
only handlers make, such as a list of records.

* `spokenNumber?_eq_some`, `InputTypes.coerce_eq_ok` — the kinds of values that texts turn into.
* `exists_coerce_of_resolve` — every extracted value comes from a text that the slot's type accepts.
* `asItems?_of_resolve` — no extracted value is a list.
-/

namespace Dialogue

/-- The value of a spoken number is a number. -/
lemma spokenNumber?_eq_some {raw : String} {v : Json} (h : spokenNumber? raw = some v) :
    (∃ n, v = .int n) ∨ ∃ x, v = .float x := by
  rw [spokenNumber?] at h
  split at h
  · exact .inl ⟨_, (Option.some.inj h).symm⟩
  · split at h
    · cases h
    · split at h
      · obtain ⟨x, _, rfl⟩ := Option.map_eq_some_iff.mp h
        exact .inr ⟨x, rfl⟩
      · obtain ⟨n, _, rfl⟩ := Option.map_eq_some_iff.mp h
        exact .inl ⟨n, rfl⟩

/-- What a slot's type accepts: a number type gives the number that is spoken, a literal type the
text without blanks around it. -/
lemma InputTypes.coerce_eq_ok {types : InputTypes} {slot raw : String} {v : Json}
    (h : types.coerce slot raw = .ok v) : ∃ t, types.find? slot = some t ∧
      match t.domain with
      | .number => spokenNumber? (Text.trimBlanks raw) = some v
      | .literal _ _ => v = .str (Text.trimBlanks raw) := by
  rw [coerce] at h
  cases ht : types.find? slot with
  | none =>
      rw [ht] at h
      cases h
  | some t =>
      rw [ht] at h
      dsimp only at h
      rw [InputType.coerce] at h
      refine ⟨t, rfl, ?_⟩
      cases hdomain : t.domain with
      | number =>
          rw [hdomain] at h
          dsimp only at h ⊢
          split at h
          · rename_i n hnumber
            rw [hnumber, Except.ok.inj h]
          · cases h
      | literal samples closed =>
          rw [hdomain] at h
          dsimp only at h ⊢
          split at h
          · cases h
          · exact (Except.ok.inj h).symm

/-- Every value that an utterance gives comes from a text that the type of its slot accepts. -/
lemma exists_coerce_of_resolve {m : Model} {activeGoal : Option String} {utterance : String}
    {r : Resolution} (h : m.resolve activeGoal utterance = .ok r) {slot : String} {v : Json}
    (hv : r.values.find? slot = some v) : ∃ raw, m.types.coerce slot raw = .ok v := by
  obtain ⟨_, _, a, _, _, ⟨_, _, captured, _, hvalues, hnone⟩, _⟩ := resolve_eq_ok_iff.mp h
  cases hraw : captured.find? slot with
  | none =>
      rw [hnone slot hraw] at hv
      cases hv
  | some raw =>
      obtain ⟨v', hcoerce, hv'⟩ := hvalues slot raw hraw
      rw [hv] at hv'
      exact ⟨raw, hcoerce.trans (congrArg Except.ok (Option.some.inj hv').symm)⟩

/-- **No extracted value is a list**, since an utterance gives numbers and texts only. -/
theorem asItems?_of_resolve {m : Model} {activeGoal : Option String} {utterance : String}
    {r : Resolution} (h : m.resolve activeGoal utterance = .ok r) {slot : String} {v : Json}
    (hv : r.values.find? slot = some v) : v.asItems? = none := by
  obtain ⟨raw, hcoerce⟩ := exists_coerce_of_resolve h hv
  obtain ⟨t, _, hvalue⟩ := InputTypes.coerce_eq_ok hcoerce
  cases hdomain : t.domain with
  | number =>
      rw [hdomain] at hvalue
      rcases spokenNumber?_eq_some hvalue with ⟨n, rfl⟩ | ⟨x, rfl⟩ <;> rfl
  | literal samples closed =>
      rw [hdomain] at hvalue
      rw [hvalue]
      rfl

end Dialogue
