/-! # Dictionaries

Slot values, records and registries are finite maps from names to values.  A `Dict` keeps its
entries in ascending order of names, and the order is part of the type: two dictionaries with the
same entries are equal, and reading one out is always in the order of the names.

* `Dict.find?` — the value of a name.  The other operations are described by what they do to it
  (`find?_insert_self`, `find?_insert_of_ne`).
* `Dict.insert` — the entry of that name becomes the given one.
* `Dict.ofList` — entries inserted one after the other, so that the last one of a name wins;
  `ofList_entries` says that reading out and back in changes nothing.
-/

namespace Dialogue

/-- A finite map from names to values, its entries in ascending order of names. -/
structure Dict (α : Type) where
  entries : List (String × α)
  ascending : entries.Pairwise fun a b => a.1 < b.1

namespace Dict

variable {α β : Type}

/-! ## Entries in order -/

/-- Puts an entry into its place among ascending ones, in the place of one with the same name. -/
def insertEntry (name : String) (value : α) : List (String × α) → List (String × α)
  | [] => [(name, value)]
  | e :: rest =>
    if name < e.1 then (name, value) :: e :: rest
    else if e.1 < name then e :: insertEntry name value rest
    else (name, value) :: rest

theorem name_of_mem_insertEntry {name : String} {value : α} {e : String × α} :
    ∀ {es : List (String × α)}, e ∈ insertEntry name value es → e.1 = name ∨ e ∈ es
  | [], h => by simp only [insertEntry, List.mem_singleton] at h; simp [h]
  | f :: rest, h => by
    rw [insertEntry] at h
    split at h
    · rcases List.mem_cons.1 h with rfl | h
      · exact .inl rfl
      · exact .inr h
    · split at h
      · rcases List.mem_cons.1 h with rfl | h
        · exact .inr List.mem_cons_self
        · exact (name_of_mem_insertEntry h).imp id (List.mem_cons_of_mem _)
      · rcases List.mem_cons.1 h with rfl | h
        · exact .inl rfl
        · exact .inr (List.mem_cons_of_mem _ h)

theorem pairwise_insertEntry (name : String) (value : α) :
    ∀ {es : List (String × α)}, es.Pairwise (fun a b => a.1 < b.1) →
      (insertEntry name value es).Pairwise fun a b => a.1 < b.1
  | [], _ => by simp [insertEntry]
  | f :: rest, h => by
    obtain ⟨hf, hr⟩ := List.pairwise_cons.1 h
    rw [insertEntry]
    split
    · rename_i hlt
      refine List.pairwise_cons.2 ⟨fun e he => ?_, h⟩
      rcases List.mem_cons.1 he with rfl | he
      · exact hlt
      · exact String.lt_trans hlt (hf e he)
    · split
      · rename_i hgt
        refine List.pairwise_cons.2 ⟨fun e he => ?_, pairwise_insertEntry name value hr⟩
        rcases name_of_mem_insertEntry he with h' | h'
        · exact h' ▸ hgt
        · exact hf e h'
      · rename_i h₁ h₂
        have : name = f.1 := String.le_antisymm h₂ h₁
        exact List.pairwise_cons.2 ⟨fun e he => this ▸ hf e he, hr⟩

/-! ## Operations -/

/-- The dictionary without entries. -/
def empty : Dict α := ⟨[], .nil⟩

instance : EmptyCollection (Dict α) := ⟨empty⟩
instance : Inhabited (Dict α) := ⟨empty⟩

/-- The value of a name. -/
def find? (d : Dict α) (name : String) : Option α := d.entries.lookup name

/-- Whether a name has a value. -/
def contains (d : Dict α) (name : String) : Bool := (d.find? name).isSome

/-- Gives a name a value, whether or not it had one. -/
def insert (d : Dict α) (name : String) (value : α) : Dict α :=
  ⟨insertEntry name value d.entries, pairwise_insertEntry name value d.ascending⟩

/-- Keeps the entries that satisfy a predicate. -/
def filter (d : Dict α) (p : String → α → Bool) : Dict α :=
  ⟨d.entries.filter fun e => p e.1 e.2, d.ascending.filter _⟩

/-- Takes the value of a name away. -/
def erase (d : Dict α) (name : String) : Dict α := d.filter fun n _ => n != name

/-- Maps every value. -/
def map (f : α → β) (d : Dict α) : Dict β :=
  ⟨d.entries.map fun e => (e.1, f e.2), d.ascending.map _ fun _ _ h => h⟩

/-- The entries inserted one after the other; the last one of a name wins. -/
def ofList (es : List (String × α)) : Dict α := es.foldl (fun d e => d.insert e.1 e.2) empty

/-- The names, ascending. -/
def names (d : Dict α) : List String := d.entries.map (·.1)

/-- The values, in the order of their names. -/
def values (d : Dict α) : List α := d.entries.map (·.2)

/-- The number of entries. -/
def size (d : Dict α) : Nat := d.entries.length

/-- Whether there are no entries. -/
def isEmpty (d : Dict α) : Bool := d.entries.isEmpty

instance [DecidableEq α] : DecidableEq (Dict α) := fun a b =>
  decidable_of_iff (a.entries = b.entries)
    ⟨fun h => by cases a; cases b; cases h; rfl, fun h => h ▸ rfl⟩

instance [Repr α] : Repr (Dict α) := ⟨fun d n => reprPrec d.entries n⟩

/-! ## What the operations do to a look-up -/

@[simp] theorem find?_empty (name : String) : (empty : Dict α).find? name = none := rfl

theorem lookup_insertEntry_self (name : String) (value : α) :
    ∀ es : List (String × α), (insertEntry name value es).lookup name = some value
  | [] => by simp [insertEntry]
  | e :: rest => by
    rw [insertEntry]
    split
    · simp
    · split
      · rename_i h
        have hne : (name == e.1) = false :=
          beq_false_of_ne fun he => String.lt_irrefl _ (he ▸ h)
        rw [List.lookup_cons, hne]
        exact lookup_insertEntry_self name value rest
      · simp

theorem lookup_insertEntry_of_ne {name other : String} (value : α) (h : other ≠ name) :
    ∀ es : List (String × α), (insertEntry name value es).lookup other = es.lookup other
  | [] => by simp [insertEntry, List.lookup_cons, beq_false_of_ne h]
  | e :: rest => by
    have hb : (other == name) = false := beq_false_of_ne h
    rw [insertEntry]
    split
    · rw [List.lookup_cons, hb]
    · split
      · rw [List.lookup_cons, List.lookup_cons, lookup_insertEntry_of_ne value h rest]
      · rename_i h₁ h₂
        have he : name = e.1 := String.le_antisymm h₂ h₁
        rw [List.lookup_cons, List.lookup_cons, hb, ← he, hb]

@[simp] theorem find?_insert_self (d : Dict α) (name : String) (value : α) :
    (d.insert name value).find? name = some value :=
  lookup_insertEntry_self name value d.entries

theorem find?_insert_of_ne (d : Dict α) {name other : String} (value : α) (h : other ≠ name) :
    (d.insert name value).find? other = d.find? other :=
  lookup_insertEntry_of_ne value h d.entries

/-! ## Reading out and back in -/

theorem insertEntry_concat {name : String} {value : α} :
    ∀ {es : List (String × α)}, (∀ e ∈ es, e.1 < name) →
      insertEntry name value es = es ++ [(name, value)]
  | [], _ => rfl
  | e :: rest, h => by
    have he := h e List.mem_cons_self
    rw [insertEntry, if_neg (String.lt_asymm he), if_pos he,
      insertEntry_concat fun f hf => h f (List.mem_cons_of_mem _ hf)]
    rfl

theorem entries_foldl_insert (es : List (String × α)) :
    ∀ d : Dict α, (d.entries ++ es).Pairwise (fun a b => a.1 < b.1) →
      (es.foldl (fun d e => d.insert e.1 e.2) d).entries = d.entries ++ es := by
  induction es with
  | nil => intro d _; simp
  | cons e rest ih =>
    intro d h
    have hlt : ∀ f ∈ d.entries, f.1 < e.1 := fun f hf =>
      (List.pairwise_append.1 h).2.2 f hf e List.mem_cons_self
    have hins : (d.insert e.1 e.2).entries = d.entries ++ [e] := insertEntry_concat hlt
    rw [List.foldl_cons, ih (d.insert e.1 e.2) (by rw [hins]; simpa using h), hins]
    simp

/-- Inserting the entries of a dictionary one after the other gives the dictionary. -/
@[simp] theorem ofList_entries (d : Dict α) : ofList d.entries = d := by
  have h := entries_foldl_insert d.entries empty (by simpa [empty] using d.ascending)
  have he : (ofList d.entries).entries = d.entries := by simpa [ofList, empty] using h
  cases d
  cases hd : ofList _
  simp_all

end Dict

end Dialogue
