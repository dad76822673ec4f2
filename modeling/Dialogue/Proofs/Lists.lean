import Mathlib.Data.List.Nodup

/-!
# Lists without repetitions, and lists mapped one by one

Repetitions are left out in two ways: a value is dropped if it is further in front already, or it is
taken up only if it has not been taken up before.  Nothing else is lost.  A list that is mapped by a
function that may fault is mapped if each of its elements is.

* `eraseDups_sublist`, `nodup_eraseDups` — what is left when repetitions are dropped.
* `mem_foldl_new` — what is taken up.
* `mapM_eq_ok_iff`, `exists_mem_of_forall₂` — what a list is mapped to, and where that comes from.
-/

namespace Dialogue

/-! ## Repetitions -/

section Repetitions

variable {α : Type} [BEq α]

lemma eraseDups_sublist : ∀ l : List α, l.eraseDups.Sublist l
  | [] => List.Sublist.refl []
  | a :: l => by
      rw [List.eraseDups_cons]
      exact ((eraseDups_sublist (l.filter fun b => !b == a)).trans List.filter_sublist).cons_cons a
termination_by l => l.length
decreasing_by exact Nat.lt_succ_of_le (List.length_filter_le _ _)

lemma nodup_eraseDups [LawfulBEq α] : ∀ l : List α, l.eraseDups.Nodup
  | [] => List.nodup_nil
  | a :: l => by
      rw [List.eraseDups_cons, List.nodup_cons]
      refine ⟨fun ha => ?_, nodup_eraseDups (l.filter fun b => !b == a)⟩
      have hne := (List.mem_filter.mp (List.mem_eraseDups.mp ha)).2
      simp at hne
termination_by l => l.length
decreasing_by exact Nat.lt_succ_of_le (List.length_filter_le _ _)

/-- Taking up what is new, one after the other, takes up everything. -/
lemma mem_foldl_new [LawfulBEq α] {a : α} : ∀ {xs seen : List α},
    a ∈ xs.foldl (fun seen x => if seen.contains x then seen else seen ++ [x]) seen ↔
      a ∈ seen ∨ a ∈ xs
  | [], seen => by simp
  | x :: xs, seen => by
      rw [List.foldl_cons, mem_foldl_new, List.mem_cons, ← or_assoc]
      refine or_congr_left ?_
      split
      · rename_i hseen
        have hx : x ∈ seen := List.contains_iff_mem.mp hseen
        constructor
        · exact .inl
        · rintro (ha | rfl)
          · exact ha
          · exact hx
      · rw [List.mem_append, List.mem_singleton]

end Repetitions

/-! ## Mapping with faults -/

section Results

variable {α β ε : Type} {f : α → Except ε β}

lemma mapM_cons_eq_ok_iff {x : α} {xs : List α} {ys : List β} :
    (x :: xs).mapM f = .ok ys ↔ ∃ y ys', f x = .ok y ∧ xs.mapM f = .ok ys' ∧ ys = y :: ys' := by
  rw [List.mapM_cons]
  constructor
  · intro h
    cases hx : f x with
    | error e =>
        rw [hx] at h
        cases h
    | ok y =>
        cases hxs : xs.mapM f with
        | error e =>
            rw [hx, hxs] at h
            cases h
        | ok ys' =>
            rw [hx, hxs] at h
            exact ⟨y, ys', rfl, rfl, (Except.ok.inj h).symm⟩
  · rintro ⟨y, ys', hx, hxs, rfl⟩
    rw [hx, hxs]
    rfl

/-- A list is mapped if each of its elements is. -/
lemma mapM_eq_ok_iff {xs : List α} {ys : List β} :
    xs.mapM f = .ok ys ↔ List.Forall₂ (fun x y => f x = .ok y) xs ys := by
  induction xs generalizing ys with
  | nil =>
      rw [List.mapM_nil, List.forall₂_nil_left_iff]
      exact ⟨fun h => (Except.ok.inj h).symm, fun h => h ▸ rfl⟩
  | cons x xs ih =>
      rw [mapM_cons_eq_ok_iff, List.forall₂_cons_left_iff]
      simp only [ih]

/-- What a list is mapped to comes from the list. -/
lemma exists_mem_of_forall₂ {R : α → β → Prop} {xs : List α} {ys : List β}
    (h : List.Forall₂ R xs ys) : ∀ y ∈ ys, ∃ x ∈ xs, R x y := by
  induction h with
  | nil => exact List.forall_mem_nil _
  | cons hxy _ ih =>
      refine List.forall_mem_cons.mpr ⟨⟨_, List.mem_cons_self, hxy⟩, fun y hy => ?_⟩
      obtain ⟨x, hx, hxy⟩ := ih y hy
      exact ⟨x, List.mem_cons_of_mem _ hx, hxy⟩

end Results

end Dialogue
