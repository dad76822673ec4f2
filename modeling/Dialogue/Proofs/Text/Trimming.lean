import Dialogue.Proofs.Text.Fields
import Mathlib.Data.List.DropRight

/-!
# Trimming

Trimming takes a stretch out of the middle of a text.  When the characters that are dropped include
the space, what is left of a text of fields is again a text of fields: whole fields are dropped with
the space next to them, and at most one field at each end loses some of its characters.

* `trimEndWhile_eq` — dropping from the end is dropping from the front of the reversed text.
* `infix_trimBoth`, `trimBoth_trimBoth` — what is left is a piece of the text, and is left alone by
  trimming again.
* `trimBoth_append_of_pos`, `trimBoth_of_pos_append` — what is added to an end and dropped again.
* `mem_trimBoth`, `trimBoth_eq_nil_iff`, `trimBoth_eq_self_iff` — what is not dropped, and when
  everything is, or nothing.
* **`exists_fields_of_trimBoth`** — what is left of fields with single spaces is of that form.
-/

namespace Dialogue.Text

variable {p : Char → Bool}

/-! ## Trimming and dropping -/

/-- A character is dropped from the end if everything after it is and it satisfies the predicate. -/
lemma trimEndWhile_cons (c : Char) (cs : List Char) :
    trimEndWhile p (c :: cs) =
      if trimEndWhile p cs = [] then (if p c then [] else [c]) else c :: trimEndWhile p cs := by
  rw [trimEndWhile]
  split
  · rename_i hnil
    rw [if_pos hnil]
  · rename_i hne
    rw [if_neg hne]

/-- Dropping from the end goes from the end. -/
lemma trimEndWhile_eq (cs : List Char) : trimEndWhile p cs = cs.rdropWhile p := by
  induction cs with
  | nil => rfl
  | cons c cs ih =>
      rw [trimEndWhile_cons, ih, List.rdropWhile, List.rdropWhile, List.reverse_cons,
        List.dropWhile_append]
      by_cases hnil : cs.reverse.dropWhile p = []
      · by_cases hc : p c = true <;> simp [hnil, hc]
      · simp [hnil]

lemma trimBoth_eq (cs : List Char) : trimBoth p cs = (cs.dropWhile p).rdropWhile p := by
  rw [trimBoth, trimEndWhile_eq]

lemma infix_trimBoth (cs : List Char) : trimBoth p cs <:+: cs := by
  rw [trimBoth_eq]
  exact (List.rdropWhile_prefix p _).isInfix.trans (List.dropWhile_suffix p).isInfix

lemma dropWhile_trimBoth (cs : List Char) : (trimBoth p cs).dropWhile p = trimBoth p cs := by
  rw [trimBoth_eq]
  obtain ⟨rest, hrest⟩ := List.rdropWhile_prefix p (cs.dropWhile p)
  cases htrim : (cs.dropWhile p).rdropWhile p with
  | nil => rfl
  | cons c ds =>
      rw [htrim] at hrest
      -- the first character left is the first that dropping from the front has kept
      have hc : p c = false := by
        have hhead := List.head?_dropWhile_not p cs
        rw [← hrest] at hhead
        simpa using hhead
      rw [List.dropWhile_cons, hc]
      rfl

/-- **Trimming twice is trimming once.** -/
theorem trimBoth_trimBoth (cs : List Char) : trimBoth p (trimBoth p cs) = trimBoth p cs := by
  rw [trimBoth_eq (trimBoth p cs), dropWhile_trimBoth, trimBoth_eq, List.rdropWhile_idempotent]

lemma rdropWhile_append (as bs : List Char) : (as ++ bs).rdropWhile p =
    if bs.rdropWhile p = [] then as.rdropWhile p else as ++ bs.rdropWhile p := by
  rw [List.rdropWhile, List.rdropWhile, List.rdropWhile, List.reverse_append,
    List.dropWhile_append]
  by_cases hnil : bs.reverse.dropWhile p = [] <;> simp [hnil]

/-- **Trimming ignores what is added to the end**, if all of it would be dropped. -/
lemma trimBoth_append_of_pos {cs ds : List Char} (h : ∀ d ∈ ds, p d = true) :
    trimBoth p (cs ++ ds) = trimBoth p cs := by
  have hfront : ds.dropWhile p = [] := List.dropWhile_eq_nil_iff.mpr h
  have hback : ds.rdropWhile p = [] := List.rdropWhile_eq_nil_iff.mpr h
  rw [trimBoth_eq, trimBoth_eq, List.dropWhile_append]
  by_cases hnil : cs.dropWhile p = []
  · rw [hnil, if_pos List.isEmpty_nil, hfront]
  · rw [if_neg (by simpa using hnil), rdropWhile_append, if_pos hback]

/-- It also ignores what is added to the front. -/
lemma trimBoth_of_pos_append {cs ds : List Char} (h : ∀ d ∈ ds, p d = true) :
    trimBoth p (ds ++ cs) = trimBoth p cs := by
  rw [trimBoth, List.dropWhile_append_of_pos h, trimBoth]

/-- What does not satisfy the predicate is not dropped. -/
lemma mem_dropWhile {c : Char} (hc : p c = false) {cs : List Char}
    (h : c ∈ cs) : c ∈ cs.dropWhile p := by
  rw [← List.takeWhile_append_dropWhile (p := p) (l := cs)] at h
  rcases List.mem_append.mp h with h | h
  · exact Bool.noConfusion ((List.mem_takeWhile_imp h).symm.trans hc)
  · exact h

/-- What does not satisfy the predicate is not trimmed off. -/
lemma mem_trimBoth {c : Char} (hc : p c = false) {cs : List Char} (h : c ∈ cs) :
    c ∈ trimBoth p cs := by
  rw [trimBoth_eq, List.rdropWhile, List.mem_reverse]
  exact mem_dropWhile hc (List.mem_reverse.mpr (mem_dropWhile hc h))

lemma trimBoth_eq_nil_iff {cs : List Char} : trimBoth p cs = [] ↔ ∀ c ∈ cs, p c = true := by
  constructor
  · intro h c hc
    by_contra hkept
    have hmem := mem_trimBoth (by simpa using hkept) hc
    rw [h] at hmem
    cases hmem
  · exact fun h => @trimBoth_append_of_pos p [] cs h

/-- **When there is nothing to trim**: if neither end satisfies the predicate. -/
lemma trimBoth_eq_self_iff {cs : List Char} : trimBoth p cs = cs ↔
    (∀ c ∈ cs.head?, p c = false) ∧ ∀ c ∈ cs.getLast?, p c = false := by
  constructor
  · intro h
    have hfront : cs.dropWhile p = cs := by rw [← h, dropWhile_trimBoth]
    have hback : cs.rdropWhile p = cs := by rw [trimBoth_eq, hfront] at h; exact h
    constructor
    · intro c hc
      have hhead := List.head?_dropWhile_not p cs
      rw [hfront, hc] at hhead
      simpa using hhead
    · intro c hc
      have hne : cs ≠ [] := List.ne_nil_of_mem (List.mem_of_getLast? hc)
      have hlast := List.rdropWhile_eq_self_iff.mp hback hne
      rw [Option.mem_def, List.getLast?_eq_some_getLast hne, Option.some.injEq] at hc
      rw [hc] at hlast
      simpa using hlast
  · rintro ⟨hfront, hback⟩
    have hdrop : cs.dropWhile p = cs := by
      cases cs with
      | nil => rfl
      | cons c cs => exact List.dropWhile_cons_of_neg (by simpa using hfront c rfl)
    rw [trimBoth_eq, hdrop]
    refine List.rdropWhile_eq_self_iff.mpr fun hne => ?_
    simpa using hback _ (List.getLast?_eq_some_getLast hne)

/-- There is nothing to trim, either, if no character satisfies the predicate. -/
lemma trimBoth_of_forall_neg {cs : List Char} (h : ∀ c ∈ cs, p c = false) : trimBoth p cs = cs :=
  trimBoth_eq_self_iff.mpr
    ⟨fun c hc => h c (List.mem_of_head? hc), fun c hc => h c (List.mem_of_getLast? hc)⟩

/-- Blanks around a text without blanks are dropped, and nothing else is. -/
lemma trimBlanks_around {front cs back : List Char} (hfront : ∀ c ∈ front, isBlank c = true)
    (hcs : ∀ c ∈ cs, isBlank c = false) (hback : ∀ c ∈ back, isBlank c = true) :
    trimBlanks (String.ofList (front ++ cs ++ back)) = String.ofList cs := by
  rw [trimBlanks, String.toList_ofList, trimBoth_append_of_pos hback,
    trimBoth_of_pos_append hfront, trimBoth_of_forall_neg hcs]

/-! ## Trimming fields -/

lemma IsField.dropWhile {w : List Char} (hw : IsField w) (hne : w.dropWhile p ≠ []) :
    IsField (w.dropWhile p) :=
  ⟨hne, fun c hc => hw.2 c ((List.dropWhile_suffix p).subset hc)⟩

lemma IsField.rdropWhile {w : List Char} (hw : IsField w) (hne : w.rdropWhile p ≠ []) :
    IsField (w.rdropWhile p) :=
  ⟨hne, fun c hc => hw.2 c ((List.rdropWhile_prefix p w).subset hc)⟩

/-- Dropping from the front drops whole fields, and then part of one. -/
lemma exists_fields_of_dropWhile (hspace : p ' ' = true) : ∀ {ws : List (List Char)},
    (∀ w ∈ ws, IsField w) → ∃ vs, (∀ v ∈ vs, IsField v) ∧
      (unfields ws).dropWhile p = unfields vs
  | [], _ => ⟨[], by simp, rfl⟩
  | w :: ws, h => by
      obtain ⟨hw, hws⟩ := List.forall_mem_cons.mp h
      rw [unfields_cons, List.dropWhile_append]
      by_cases hnil : w.dropWhile p = []
      · rw [hnil, if_pos List.isEmpty_nil]
        by_cases hend : ws = []
        · exact ⟨[], by simp, by simp [hend]⟩
        · rw [spaced_eq hend, List.dropWhile_cons, if_pos hspace]
          exact exists_fields_of_dropWhile hspace hws
      · refine ⟨w.dropWhile p :: ws, List.forall_mem_cons.mpr ⟨hw.dropWhile hnil, hws⟩, ?_⟩
        rw [unfields_cons, if_neg (by simpa using hnil)]

lemma exists_fields_of_rdropWhile (hspace : p ' ' = true) {ws : List (List Char)}
    (h : ∀ w ∈ ws, IsField w) : ∃ vs, (∀ v ∈ vs, IsField v) ∧
      (unfields ws).rdropWhile p = unfields vs := by
  induction ws using List.reverseRecOn with
  | nil => exact ⟨[], by simp, rfl⟩
  | append_singleton ws w ih =>
      obtain ⟨hws, hw⟩ := List.forall_mem_append.mp h
      have hw : IsField w := hw w List.mem_cons_self
      rw [unfields_concat, rdropWhile_append]
      by_cases hnil : w.rdropWhile p = []
      · rw [if_pos hnil]
        by_cases hend : ws = []
        · exact ⟨[], by simp, by simp [hend]⟩
        · rw [if_neg hend, List.rdropWhile_concat_pos _ _ _ hspace]
          exact ih hws
      · refine ⟨ws ++ [w.rdropWhile p], List.forall_mem_append.mpr ⟨hws, ?_⟩, ?_⟩
        · exact List.forall_mem_singleton.mpr (hw.rdropWhile hnil)
        · rw [if_neg hnil, unfields_concat]

/-- **What trimming leaves of fields with single spaces** is of that form again. -/
theorem exists_fields_of_trimBoth (hspace : p ' ' = true) {ws : List (List Char)}
    (h : ∀ w ∈ ws, IsField w) : ∃ vs, (∀ v ∈ vs, IsField v) ∧
      trimBoth p (unfields ws) = unfields vs := by
  obtain ⟨us, hus, hfront⟩ := exists_fields_of_dropWhile hspace h
  rw [trimBoth_eq, hfront]
  exact exists_fields_of_rdropWhile hspace hus

end Dialogue.Text
