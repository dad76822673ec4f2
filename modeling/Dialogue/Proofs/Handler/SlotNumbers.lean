import Dialogue.Proofs.Handler.Lists
import Dialogue.Proofs.Resolution.SpokenNumbers

/-!
# Numbers in slots

A handler asks a slot for an integer: for the number of an item of a list, or to count with it.
Values hold their numbers in two ways, as integers and as binary64 numbers, and either may be a
whole number or lie beyond the 64-bit bounds.  Between the bounds a handler is told the number that
the slot holds, however it is held.  A number beyond the bounds is not refused, though.  It is moved
to the bound that is nearest, so that the handler is told a number that the slot does not hold.

* `Turn.number?` — the rational number that a slot holds.
* `InInt64` — the numbers between the 64-bit bounds.
* `getInteger?_eq_some_iff` — what a handler is told.
* **`slot_number_is_told_iff`** — for which numbers that is what the slot holds.
-/

namespace Dialogue

/-! ## Bounds -/

/-- The integer lies between the 64-bit bounds. -/
def InInt64 (n : ℤ) : Prop := int64Min ≤ n ∧ n ≤ int64Max

instance (n : ℤ) : Decidable (InInt64 n) :=
  inferInstanceAs (Decidable (int64Min ≤ n ∧ n ≤ int64Max))

lemma int64Min_le_int64Max : int64Min ≤ int64Max := by decide

lemma clampInt64_of_inInt64 {n : ℤ} (h : InInt64 n) : Turn.clampInt64 n = n := by
  rw [Turn.clampInt64, min_eq_right h.2, max_eq_right h.1]

lemma clampInt64_of_lt {n : ℤ} (h : n < int64Min) : Turn.clampInt64 n = int64Min := by
  rw [Turn.clampInt64, min_eq_right (h.le.trans int64Min_le_int64Max), max_eq_left h.le]

lemma clampInt64_of_gt {n : ℤ} (h : int64Max < n) : Turn.clampInt64 n = int64Max := by
  rw [Turn.clampInt64, min_eq_left h.le, max_eq_right int64Min_le_int64Max]

/-! ## What a handler is told -/

namespace Turn

variable {t : Turn} {slot : String} {n : ℤ}

/-- The rational number that a slot holds: the value that the utterance gave it, or else that of the
session, if this is a number. -/
def number? (t : Turn) (slot : String) : Option ℚ :=
  ((t.extracted.find? slot).or (t.values.find? slot)).bind Json.rational?

lemma number?_eq (t : Turn) (slot : String) :
    t.number? slot = (t.get? slot).bind Json.rational? := by
  rw [number?, get?, Option.orElse_eq_orElse, Option.orElse_eq_or]

/-- **What a handler is told** of a slot that holds a whole number: the nearest integer between the
bounds.  Of any other slot it is told nothing. -/
lemma getInteger?_eq_some_iff :
    t.getInteger? slot = some n ↔ ∃ z : ℤ, t.number? slot = some (z : ℚ) ∧ clampInt64 z = n := by
  rw [number?_eq, getInteger?]
  cases t.get? slot with
  | none => simp
  | some v =>
      rw [Option.bind_some]
      cases v with
      | int z => simp [Json.rational?]
      | float x => simp [Json.rational?, Binary64.whole?_eq_some_iff]
      | _ => simp [Json.rational?]

lemma getInteger?_of_number? (h : t.number? slot = some (n : ℚ)) :
    t.getInteger? slot = some (clampInt64 n) :=
  getInteger?_eq_some_iff.mpr ⟨n, h, rfl⟩

/-- A slot that holds no whole number has no integer. -/
lemma getInteger?_eq_none (h : ∀ n : ℤ, t.number? slot ≠ some (n : ℚ)) :
    t.getInteger? slot = none := by
  refine Option.eq_none_iff_forall_ne_some.mpr fun n hn => ?_
  obtain ⟨z, hz, -⟩ := getInteger?_eq_some_iff.mp hn
  exact h z hz

/-- What a handler is told is what the slot holds, for all whole numbers between the bounds, and for
these alone. -/
lemma getInteger?_exact_iff :
    (∀ n, t.getInteger? slot = some n ↔ t.number? slot = some (n : ℚ) ∧ InInt64 n) ↔
      ∀ n : ℤ, t.number? slot = some (n : ℚ) → InInt64 n := by
  constructor
  · intro h n hn
    obtain ⟨hbound, hin⟩ := (h (clampInt64 n)).mp (getInteger?_of_number? hn)
    have hsame : (n : ℚ) = clampInt64 n := Option.some.inj (hn.symm.trans hbound)
    rwa [Int.cast_injective hsame]
  · intro h n
    constructor
    · intro hn
      obtain ⟨z, hz, rfl⟩ := getInteger?_eq_some_iff.mp hn
      rw [clampInt64_of_inInt64 (h z hz)]
      exact ⟨hz, h z hz⟩
    · rintro ⟨hn, hin⟩
      rw [getInteger?_of_number? hn, clampInt64_of_inInt64 hin]

end Turn

namespace ResultsList

variable {l : ResultsList} {t : Turn} {slot : String} {n : ℤ}

/-- The item at a slot is the one whose number a handler is told. -/
lemma itemAtSlot_of_getInteger? (h : t.getInteger? slot = some n) :
    l.itemAtSlot t slot = l.item t n := by
  rw [itemAtSlot, h]

/-- An integer between the bounds that a slot holds is asked for as it is. -/
lemma itemAtSlot_of_int (hn : InInt64 n) (h : t.get? slot = some (.int n)) :
    l.itemAtSlot t slot = l.item t n := by
  have hnumber : t.number? slot = some (n : ℚ) := by
    rw [Turn.number?_eq, h]
    rfl
  rw [itemAtSlot_of_getInteger? (Turn.getInteger?_of_number? hnumber), clampInt64_of_inInt64 hn]

end ResultsList

/-- **A handler is told what a slot holds, between the 64-bit bounds.**  Let a handler ask for the
integer in a slot, or for the item of a list whose number the slot holds.  It is told the whole
numbers between the bounds and no others, exactly if the slot does not hold a whole number beyond
them.  A whole number between the bounds is told, and the item is that with this number.  Of a
number with a fraction, a value that is no number, or a slot without a value, no integer is told,
and the list says that this is not a number.  In place of a whole number beyond the bounds, the
bound itself is told, and the item is looked for under its number. -/
theorem slot_number_is_told_iff (t : Turn) (slot : String) (l : ResultsList) :
    ((∀ n, t.getInteger? slot = some n ↔ t.number? slot = some (n : ℚ) ∧ InInt64 n) ↔
      ∀ n : ℤ, t.number? slot = some (n : ℚ) → InInt64 n) ∧
    (∀ n : ℤ, t.number? slot = some (n : ℚ) → InInt64 n →
      t.getInteger? slot = some n ∧ l.itemAtSlot t slot = l.item t n) ∧
    ((∀ n : ℤ, t.number? slot ≠ some (n : ℚ)) →
      t.getInteger? slot = none ∧
      l.itemAtSlot t slot = .error (.notANumber l.itemName ((t.getText? slot).getD ""))) ∧
    (∀ n : ℤ, t.number? slot = some (n : ℚ) → n < int64Min →
      t.getInteger? slot = some int64Min ∧ l.itemAtSlot t slot = l.item t int64Min) ∧
    ∀ n : ℤ, t.number? slot = some (n : ℚ) → int64Max < n →
      t.getInteger? slot = some int64Max ∧ l.itemAtSlot t slot = l.item t int64Max := by
  have htold : ∀ n z : ℤ, t.number? slot = some (n : ℚ) → Turn.clampInt64 n = z →
      t.getInteger? slot = some z ∧ l.itemAtSlot t slot = l.item t z := by
    rintro n z hn rfl
    have hinteger := Turn.getInteger?_of_number? hn
    exact ⟨hinteger, ResultsList.itemAtSlot_of_getInteger? hinteger⟩
  refine ⟨Turn.getInteger?_exact_iff, fun n hn hin => ?_, fun hnone => ?_, fun n hn hlow => ?_,
    fun n hn hhigh => ?_⟩
  · exact htold n n hn (clampInt64_of_inInt64 hin)
  · have hinteger := Turn.getInteger?_eq_none hnone
    exact ⟨hinteger, by rw [ResultsList.itemAtSlot, hinteger]⟩
  · exact htold n _ hn (clampInt64_of_lt hlow)
  · exact htold n _ hn (clampInt64_of_gt hhigh)

/-- A list of rooms. -/
def roomsList : ResultsList := ⟨"rooms", "room", "rooms", "Name"⟩

/-- A turn in which two rooms were listed before, and the utterance gives the number of one. -/
def roomTurn (number : Json) : Turn where
  sessionId := "s1"
  extracted := .ofList [("n", number)]
  values := .ofList [("rooms", .arr [.obj [("Name", .str "Attic")], .obj [("Name", .str "Hall")]])]
  goals := .empty
  speech := []
  waited := 0

/-- “2.0” is the second room. -/
theorem hall_is_the_second_room :
    (roomTurn (.float ⟨false, 4503599627370496, -51⟩)).number? "n" = some ((2 : ℤ) : ℚ) ∧
      InInt64 2 ∧
      (roomTurn (.float ⟨false, 4503599627370496, -51⟩)).getInteger? "n" = some 2 ∧
      roomsList.itemAtSlot (roomTurn (.float ⟨false, 4503599627370496, -51⟩)) "n" =
        .ok (.ofList [("Name", .str "Hall")]) := by
  have hnumber : (roomTurn (.float ⟨false, 4503599627370496, -51⟩)).number? "n" =
      some ((2 : ℤ) : ℚ) := by
    show some (Binary64.toRat _) = _
    norm_num [Binary64.toRat]
  obtain ⟨-, htold, -⟩ := slot_number_is_told_iff
    (roomTurn (.float ⟨false, 4503599627370496, -51⟩)) "n" roomsList
  obtain ⟨hinteger, hitem⟩ := htold 2 hnumber (by decide)
  exact ⟨hnumber, by decide, hinteger, hitem⟩

/-- “9223372036854775808” is no 64-bit integer, and a handler is told another number.  The list
says that this other number is out of range, and not that it is no number. -/
theorem number_beyond_the_bounds_is_changed :
    (roomTurn (.int 9223372036854775808)).number? "n" = some 9223372036854775808 ∧
      (roomTurn (.int 9223372036854775808)).getInteger? "n" = some 9223372036854775807 ∧
      (roomTurn (.int 9223372036854775808)).number? "n" ≠ some 9223372036854775807 ∧
      roomsList.itemAtSlot (roomTurn (.int 9223372036854775808)) "n" =
        .error (.outOfRange "room" 9223372036854775807 2) := by
  have hnumber : (roomTurn (.int 9223372036854775808)).number? "n" =
      some 9223372036854775808 := by
    show some (((9223372036854775808 : ℤ) : ℚ)) = _
    norm_num
  refine ⟨hnumber, by decide, ?_, by decide⟩
  rw [hnumber]
  norm_num

end Dialogue
