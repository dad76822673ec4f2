import Dialogue.Proofs.Engine.RecordLog

/-!
# What handlers store and find

When a handler has stored a record, the record source has it under an id.  What a search finds are
records that mention a text.

* `RecordSource.Appends` — a source that stores by appending; `Records.appends_source` says that
  sources in memory do, and `Records.exists_store` when they store at all.
* `Record.StoredAs.eq_insert` — a record that was given no id is stored with one more field.
* `Records.mentions_iff`, `Records.search_of_works` — what sources in memory find.
-/

namespace Dialogue

/-! ## Sources that append -/

/-- A call to store gives the record back as it is stored and has appended it to its entity, or it
fails and has changed nothing.  The records of a state are given by entity. -/
structure RecordSource.Appends {σ : Type} (source : RecordSource σ)
    (records : σ → String → List Record) : Prop where
  of_ok : ∀ {entity given patience s stored},
    (source.store entity given patience s).1.result = .ok stored →
      given.StoredAs stored ∧ ∀ name, records (source.store entity given patience s).2 name =
        records s name ++ if entity = name then [stored] else []
  of_error : ∀ {entity given patience s error},
    (source.store entity given patience s).1.result = .error error →
      ∀ name, records (source.store entity given patience s).2 name = records s name

namespace Records

/-- **Sources in memory append.** -/
lemma appends_source (b : Behaviour) : (source b).Appends ofEntity where
  of_ok {entity given patience r stored} h := by
    rcases store_cases b entity given patience r with ⟨waited, error, hstore⟩ | ⟨waited, hstore⟩
    · rw [hstore] at h
      cases h
    · rw [hstore] at h ⊢
      obtain rfl := Except.ok.inj h
      exact ⟨storedAs_withId b.newId r given, fun name => ofEntity_add b.newId r entity name given⟩
  of_error {entity given patience r error} h name := by
    rcases store_cases b entity given patience r with ⟨waited, error, hstore⟩ | ⟨waited, hstore⟩
    · rw [hstore]
    · rw [hstore] at h
      cases h

section Working

variable {b : Behaviour} {r : Records} {entity : String} {patience : ℕ}
variable (hknows : r.entities.contains entity = true) (hworks : b.failure = none)
variable (hfast : b.latency ≤ patience)
include hknows hworks hfast

/-- Nothing stands in the way of a source in memory that knows the entity, does not fail and is fast
enough. -/
lemma obstacle?_of_works : b.obstacle? r entity patience = none := by
  rw [Behaviour.obstacle?, if_neg (by omega), hworks]
  exact if_pos hknows

/-- Such a source stores. -/
lemma exists_store (given : Record) :
    ∃ stored, ((source b).store entity given patience r).1.result = .ok stored := by
  simp only [source, call, obstacle?_of_works hknows hworks hfast]
  exact ⟨_, rfl⟩

/-- **A search** finds the records that mention the text, in their order. -/
lemma search_of_works (term : String) : (source b).search entity term patience r =
    (⟨b.latency, .ok ((r.ofEntity entity).filter (mentions · term))⟩, r) := by
  simp only [source, call, obstacle?_of_works hknows hworks hfast]

end Working

/-! ## Mentioning -/

lemma occursIn_iff {needle cs : List Char} : occursIn needle cs = true ↔ needle <:+: cs := by
  induction cs with
  | nil => rw [occursIn, List.isEmpty_iff, List.infix_nil]
  | cons c cs ih =>
      rw [occursIn, Bool.or_eq_true, ih, List.isPrefixOf_iff_prefix, List.infix_cons_iff]

/-- **A record mentions a text** if one of its fields is a text that contains it, in lower case. -/
lemma mentions_iff {record : Record} {term : String} : mentions record term = true ↔
    ∃ name text, record.find? name = some (.str text) ∧
      (Text.lower term).toList <:+: (Text.lower text).toList := by
  rw [mentions, List.any_eq_true]
  constructor
  · rintro ⟨v, hv, hoccurs⟩
    obtain ⟨⟨name, v'⟩, hentry, rfl⟩ := List.mem_map.mp hv
    cases v' with
    | str text => exact ⟨name, text, Dict.mem_entries.mp hentry, occursIn_iff.mp hoccurs⟩
    | _ => cases hoccurs
  · rintro ⟨name, text, hfind, hoccurs⟩
    exact ⟨.str text, List.mem_map.mpr ⟨(name, .str text), Dict.mem_entries.mpr hfind, rfl⟩,
      occursIn_iff.mpr hoccurs⟩

end Records

/-- A record that was given no id is stored with a new one, which is a text. -/
lemma Record.StoredAs.eq_insert {given stored : Record} (h : given.StoredAs stored)
    (hid : given.find? "Id" = none) : ∃ id, stored = given.insert "Id" (.str id) := by
  obtain ⟨id, hnew⟩ := h.new_id hid
  refine ⟨id, Dict.ext_find? fun name => ?_⟩
  by_cases hname : name = "Id"
  · rw [hname, hnew, Dict.find?_insert_self]
  · rw [h.fields name hname, Dict.find?_insert_of_ne _ _ hname]

end Dialogue
