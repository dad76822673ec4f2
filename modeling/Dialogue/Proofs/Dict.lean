import Dialogue.Dict
import Mathlib.Data.List.Sort

/-!
# A dictionary is what its look-ups say

The entries of a dictionary are in ascending order of names, so no name occurs twice and every
entry can be looked up.  Hence a dictionary is determined by its look-ups (`Dict.ext_find?`), and
what is proved about one never needs its list of entries.  Entries that are written over a
dictionary one after the other count by name, the last one first (`Dict.find?_overwrite`); a
dictionary that is made from a list of entries holds them all if their names differ
(`Dict.find?_ofList_eq_some_iff`).
-/

namespace Dialogue.Dict

variable {α : Type}

/-- In a list of entries with distinct names, every entry is found under its name. -/
lemma lookup_eq_some_iff_mem {name : String} {value : α} :
    ∀ {es : List (String × α)}, (es.map (·.1)).Nodup →
      (es.lookup name = some value ↔ (name, value) ∈ es)
  | [], _ => by simp
  | (n, v) :: es, h => by
      obtain ⟨hnew, hes⟩ := List.nodup_cons.mp h
      have ih : es.lookup name = some value ↔ (name, value) ∈ es := lookup_eq_some_iff_mem hes
      by_cases hn : name = n
      · subst n
        have hnot : (name, value) ∉ es := fun hmem =>
          hnew (List.mem_map.mpr ⟨(name, value), hmem, rfl⟩)
        simp [hnot, eq_comm]
      · rw [List.lookup_cons, beq_false_of_ne hn, List.mem_cons]
        simp [ih, hn]

/-- The order of entries with distinct names does not matter for look-ups. -/
lemma lookup_congr_of_perm {es es' : List (String × α)} (h : es.Perm es')
    (hnodup : (es.map (·.1)).Nodup) (name : String) : es.lookup name = es'.lookup name := by
  have hnodup' : (es'.map (·.1)).Nodup := (h.map (·.1)).nodup_iff.mp hnodup
  refine Option.ext fun value => ?_
  rw [lookup_eq_some_iff_mem hnodup, lookup_eq_some_iff_mem hnodup', h.mem_iff]

/-- The names are in order, and none is there twice. -/
lemma pairwise_names (d : Dict α) : d.names.Pairwise (· < ·) := List.pairwise_map.mpr d.ascending

lemma nodup_names (d : Dict α) : d.names.Nodup :=
  d.pairwise_names.imp String.ne_of_lt

/-- The entries are the look-ups that succeed. -/
lemma mem_entries {d : Dict α} {name : String} {value : α} :
    (name, value) ∈ d.entries ↔ d.find? name = some value :=
  (lookup_eq_some_iff_mem d.nodup_names).symm

lemma mem_names {d : Dict α} {name : String} : name ∈ d.names ↔ d.find? name ≠ none := by
  rw [names, List.mem_map, Option.ne_none_iff_exists']
  constructor
  · rintro ⟨⟨n, value⟩, hmem, rfl⟩
    exact ⟨value, mem_entries.mp hmem⟩
  · rintro ⟨value, hfind⟩
    exact ⟨(name, value), mem_entries.mpr hfind, rfl⟩

/-- **Two dictionaries with the same look-ups are equal.** -/
theorem ext_find? {d e : Dict α} (h : ∀ name, d.find? name = e.find? name) : d = e := by
  have hmem : ∀ x, x ∈ d.entries ↔ x ∈ e.entries := by
    rintro ⟨name, value⟩
    rw [mem_entries, mem_entries, h]
  have : Std.Irrefl fun a b : String × α => a.1 < b.1 := ⟨fun a => String.lt_irrefl a.1⟩
  have : Std.Asymm fun a b : String × α => a.1 < b.1 := ⟨fun a b => String.lt_asymm⟩
  have hentries := d.ascending.eq_of_mem_iff e.ascending hmem
  cases d
  cases e
  simpa using hentries

/-- What is kept can still be looked up, and nothing else. -/
lemma find?_filter_eq_some_iff {d : Dict α} {p : String → α → Bool} {name : String} {value : α} :
    (d.filter p).find? name = some value ↔ d.find? name = some value ∧ p name value = true := by
  rw [← mem_entries, ← mem_entries, filter, List.mem_filter]

/-! ## Entries that come and go -/

/-- Gives a name a value, or takes its value away. -/
def assign (d : Dict α) (name : String) : Option α → Dict α
  | some value => d.insert name value
  | none => d.erase name

lemma find?_assign_self (d : Dict α) (name : String) (value : Option α) :
    (d.assign name value).find? name = value := by
  cases value with
  | some value => exact find?_insert_self d name value
  | none =>
      refine Option.eq_none_iff_forall_ne_some.mpr fun value hfind => ?_
      simpa using (find?_filter_eq_some_iff.mp hfind).2

lemma find?_assign_of_ne (d : Dict α) {name other : String} (value : Option α)
    (h : other ≠ name) : (d.assign name value).find? other = d.find? other := by
  cases value with
  | some value => exact find?_insert_of_ne d value h
  | none =>
      refine Option.ext fun value => ?_
      rw [assign, erase, find?_filter_eq_some_iff]
      simp [h]

/-- Entries under different names may be assigned in either order. -/
lemma assign_comm (d : Dict α) {name other : String} (h : other ≠ name)
    (value value' : Option α) :
    (d.assign name value).assign other value' = (d.assign other value').assign name value := by
  refine ext_find? fun n => ?_
  by_cases hname : n = name
  · subst hname
    rw [find?_assign_self, find?_assign_of_ne _ _ h.symm, find?_assign_self]
  · rw [find?_assign_of_ne _ value hname]
    by_cases hother : n = other
    · subst hother
      rw [find?_assign_self, find?_assign_self]
    · rw [find?_assign_of_ne _ _ hother, find?_assign_of_ne _ _ hother,
        find?_assign_of_ne _ _ hname]

/-! ## Mapping values -/

lemma find?_map {β : Type} (f : α → β) (d : Dict α) (name : String) :
    (d.map f).find? name = (d.find? name).map f := by
  have hlookup : ∀ es : List (String × α),
      (es.map fun e => (e.1, f e.2)).lookup name = (es.lookup name).map f := by
    intro es
    induction es with
    | nil => rfl
    | cons e es ih =>
        rw [List.map_cons, List.lookup_cons, List.lookup_cons, ih]
        cases name == e.1 <;> rfl
  exact hlookup d.entries

lemma map_insert {β : Type} (f : α → β) (d : Dict α) (name : String) (value : α) :
    (d.insert name value).map f = (d.map f).insert name (f value) := by
  refine ext_find? fun n => ?_
  by_cases h : n = name
  · rw [h, find?_map, find?_insert_self, find?_insert_self, Option.map_some]
  · rw [find?_map, find?_insert_of_ne d value h, find?_insert_of_ne _ _ h, find?_map]

/-! ## Writing entries over a dictionary -/

/-- The dictionary with entries written over it, one after the other. -/
def overwrite (d : Dict α) (es : List (String × α)) : Dict α :=
  es.foldl (fun d e => d.insert e.1 e.2) d

/-- The value that a name was given last among entries. -/
def lastValue? (name : String) (es : List (String × α)) : Option α := es.reverse.lookup name

@[simp] lemma overwrite_cons (d : Dict α) (e : String × α) (es : List (String × α)) :
    d.overwrite (e :: es) = (d.insert e.1 e.2).overwrite es := rfl

lemma overwrite_append (d : Dict α) (es es' : List (String × α)) :
    d.overwrite (es ++ es') = (d.overwrite es).overwrite es' := List.foldl_append

@[simp] lemma lastValue?_nil (name : String) : lastValue? name ([] : List (String × α)) = none := rfl

/-- An entry counts for its name unless the name is given a value again. -/
lemma lastValue?_cons (name : String) (e : String × α) (es : List (String × α)) :
    lastValue? name (e :: es) =
      (lastValue? name es).or (if name = e.1 then some e.2 else none) := by
  obtain ⟨n, v⟩ := e
  rw [lastValue?, List.reverse_cons, List.lookup_append, lastValue?]
  congr 1
  by_cases h : name = n
  · simp [h]
  · simp [List.lookup_cons, beq_false_of_ne h, h]

/-- **What is looked up after writing**: the last value written, or else the old one. -/
theorem find?_overwrite (d : Dict α) (es : List (String × α)) (name : String) :
    (d.overwrite es).find? name = (lastValue? name es).or (d.find? name) := by
  induction es generalizing d with
  | nil => rfl
  | cons e es ih =>
      rw [overwrite_cons, ih, lastValue?_cons, Option.or_assoc]
      by_cases h : name = e.1
      · rw [if_pos h, h, find?_insert_self, Option.some_or]
      · rw [if_neg h, find?_insert_of_ne d e.2 h, Option.none_or]

/-- Of two stretches of entries the later one counts first. -/
lemma lastValue?_append (name : String) (es es' : List (String × α)) :
    lastValue? name (es ++ es') = (lastValue? name es').or (lastValue? name es) := by
  rw [lastValue?, List.reverse_append, List.lookup_append]
  rfl

lemma lastValue?_eq_none_iff {name : String} {es : List (String × α)} :
    lastValue? name es = none ↔ name ∉ es.map (·.1) := by
  induction es with
  | nil => simp [lastValue?]
  | cons e es ih =>
      rw [lastValue?_cons, Option.or_eq_none_iff, ih]
      by_cases h : name = e.1 <;> simp [h]

lemma mem_of_lastValue? {name : String} {value : α} {es : List (String × α)}
    (h : lastValue? name es = some value) : (name, value) ∈ es := by
  induction es with
  | nil => cases h
  | cons e es ih =>
      rw [lastValue?_cons] at h
      rcases Option.or_eq_some_iff.mp h with hlater | ⟨_, hhere⟩
      · exact List.mem_cons_of_mem _ (ih hlater)
      · split at hhere
        · rename_i hname
          obtain rfl := Option.some.inj hhere
          rw [hname]
          exact List.mem_cons_self
        · cases hhere

/-- The last entry of a name is the one after which the name does not occur. -/
lemma lastValue?_eq_some_iff_append {name : String} {value : α} {es : List (String × α)} :
    lastValue? name es = some value ↔
      ∃ before after, es = before ++ (name, value) :: after ∧ name ∉ after.map (·.1) := by
  have hnames : ∀ after : List (String × α),
      (∀ e ∈ after.reverse, (name != e.1) = true) ↔ name ∉ after.map (·.1) := by
    intro after
    simp only [List.mem_reverse, bne_iff_ne, ne_eq, List.mem_map, not_exists, not_and]
    exact forall₂_congr fun e _ => not_congr eq_comm
  rw [lastValue?, List.lookup_eq_some_iff]
  constructor
  · rintro ⟨after, before, hsplit, hafter⟩
    refine ⟨before.reverse, after.reverse, ?_, ?_⟩
    · simpa using congrArg List.reverse hsplit
    · exact (hnames after.reverse).mp (by rwa [List.reverse_reverse])
  · rintro ⟨before, after, rfl, hafter⟩
    exact ⟨after.reverse, before.reverse, by simp, (hnames after).mpr hafter⟩

/-- If the names differ, every entry is the last one of its name. -/
lemma lastValue?_eq_some_iff {name : String} {value : α} {es : List (String × α)}
    (h : (es.map (·.1)).Nodup) : lastValue? name es = some value ↔ (name, value) ∈ es := by
  refine ⟨mem_of_lastValue?, ?_⟩
  induction es with
  | nil => exact fun hmem => absurd hmem List.not_mem_nil
  | cons e es ih =>
      obtain ⟨hnew, hnodup⟩ := List.nodup_cons.mp h
      intro hmem
      rw [lastValue?_cons]
      rcases List.mem_cons.mp hmem with rfl | hmem
      · rw [lastValue?_eq_none_iff.mpr hnew, Option.none_or, if_pos rfl]
      · rw [ih hnodup hmem, Option.some_or]

/-! ## Dictionaries made from entries -/

lemma find?_ofList (es : List (String × α)) (name : String) :
    (ofList es).find? name = lastValue? name es := by
  have h := find?_overwrite empty es name
  rwa [find?_empty, Option.or_none] at h

/-- Mapping the values and then making a dictionary is the same the other way round. -/
lemma map_ofList {β : Type} (f : α → β) (es : List (String × α)) :
    (ofList es).map f = ofList (es.map fun e => (e.1, f e.2)) := by
  have hoverwrite : ∀ d : Dict α, (d.overwrite es).map f =
      (d.map f).overwrite (es.map fun e => (e.1, f e.2)) := by
    induction es with
    | nil => exact fun _ => rfl
    | cons e es ih =>
        intro d
        rw [List.map_cons, overwrite_cons, overwrite_cons, ih, map_insert]
  exact hoverwrite empty

lemma mem_of_find?_ofList {es : List (String × α)} {name : String} {value : α}
    (h : (ofList es).find? name = some value) : (name, value) ∈ es :=
  mem_of_lastValue? (find?_ofList es name ▸ h)

/-- **A dictionary made from entries with distinct names** holds just these entries. -/
theorem find?_ofList_eq_some_iff {es : List (String × α)} (h : (es.map (·.1)).Nodup)
    {name : String} {value : α} : (ofList es).find? name = some value ↔ (name, value) ∈ es := by
  rw [find?_ofList, lastValue?_eq_some_iff h]

/-- Inserting entries with distinct names one after the other keeps all of them. -/
lemma perm_entries_ofList {es : List (String × α)} (h : (es.map (·.1)).Nodup) :
    (ofList es).entries.Perm es := by
  have hentries : ((ofList es).entries.map (·.1)).Nodup := (ofList es).nodup_names
  refine (List.perm_ext_iff_of_nodup hentries.of_map h.of_map).mpr ?_
  rintro ⟨name, value⟩
  rw [mem_entries, find?_ofList_eq_some_iff h]

end Dialogue.Dict
