import Dialogue.Http.Body
import Mathlib.Tactic.Common

/-!
# What can be read can be passed over

The members of a body that are not asked for are passed over: where they end is found without
telling what they stand for.  This is more lenient than reading them, since a number may be too
large, a character may be written as half a pair, and there is no limit to nesting.  But whatever
can be read can be passed over, and ends at the same place.

* `skipString?_of_string?`, `numeral?_of_number?` — strings and numbers.
* `Skips` — values, items and members that are read in so many steps can be passed over in as many.
* **`skip?_of_value?`** — what can be read can be passed over.
* **`memberValue_of_value?`** — so any value may stand for a member that is not asked for.
-/

namespace Dialogue

namespace Json

/-! ## Strings and numbers -/

/-- A string is gone through in the same steps, except that the halves of a pair are two. -/
lemma skipString?_of_stringBody? {done cs done' rest : List Char}
    (h : stringBody? done cs = some (done', rest)) : skipString? cs = some rest := by
  fun_induction stringBody? done cs with
  | case1 done cs => grind [skipString?]
  | case4 done a b c d high hhigh _ a' b' c' d' cs low hlow _ code ih =>
      rw [skipString?, skipString?, hhigh, hlow]
      exact ih h
  | case8 | case10 | case12 => grind [skipString?]
  | _ => cases h

lemma skipString?_of_string? {cs rest : List Char} {s : String} (h : string? cs = some (s, rest)) :
    skipString? cs = some rest := by
  obtain ⟨⟨done, rest'⟩, hbody, heq⟩ := Option.map_eq_some_iff.mp h
  obtain ⟨-, rfl⟩ := Prod.mk.inj heq
  exact skipString?_of_stringBody? hbody

lemma numeral?_of_number? {cs rest : List Char} {v : Json} (h : number? cs = some (v, rest)) :
    (numeral? cs).map Prod.snd = some rest := by
  obtain ⟨⟨n, rest'⟩, hn, hv⟩ := Option.bind_eq_some_iff.mp h
  obtain ⟨v', -, heq⟩ := Option.bind_eq_some_iff.mp hv
  obtain ⟨-, rfl⟩ := Prod.mk.inj (Option.some.inj heq)
  rw [hn]
  rfl

/-! ## Values -/

/-- What is read in so many steps can be passed over in as many. -/
structure Skips (fuel : ℕ) : Prop where
  value : ∀ {depth cs v rest}, value? fuel depth cs = some (v, rest) → skip? fuel cs = some rest
  items : ∀ {depth cs xs rest}, items? fuel depth cs = some (xs, rest) →
    skipItems? fuel cs = some rest
  members : ∀ {depth cs ms rest}, members? fuel depth cs = some (ms, rest) →
    skipMembers? fuel cs = some rest

/-- What is put together from parts ends where they end. -/
lemma exists_of_map_eq_some {α β γ : Type} {x : Option (α × γ)} {f : α → β} {b : β} {rest : γ}
    (h : (x.map fun (a, c) => (f a, c)) = some (b, rest)) : ∃ a, x = some (a, rest) := by
  obtain ⟨⟨a, rest'⟩, hx, heq⟩ := Option.map_eq_some_iff.mp h
  obtain ⟨-, rfl⟩ := Prod.mk.inj heq
  exact ⟨a, hx⟩

section Step

variable {fuel depth : ℕ} {cs rest : List Char} (hskips : Skips fuel)
include hskips

lemma skip?_succ {v : Json} (h : value? (fuel + 1) depth cs = some (v, rest)) :
    skip? (fuel + 1) cs = some rest := by
  rw [value?] at h
  rw [skip?]
  generalize skipGaps cs = text at h ⊢
  split at h
  case h_1 | h_2 | h_3 =>
      cases h
      rfl
  case h_4 =>
      obtain ⟨s, hs⟩ := exists_of_map_eq_some h
      exact skipString?_of_string? hs
  case h_5 after =>
      generalize skipGaps after = inner at h ⊢
      split at h
      · cases h
      · split at h
        · cases h
          rfl
        · obtain ⟨xs, hxs⟩ := exists_of_map_eq_some h
          exact hskips.items hxs
  case h_6 after =>
      generalize skipGaps after = inner at h ⊢
      split at h
      · cases h
      · split at h
        · cases h
          rfl
        · obtain ⟨ms, hms⟩ := exists_of_map_eq_some h
          exact hskips.members hms
  case h_7 => exact numeral?_of_number? h

lemma skipItems?_succ {xs : List Json} (h : items? (fuel + 1) depth cs = some (xs, rest)) :
    skipItems? (fuel + 1) cs = some rest := by
  rw [items?] at h
  rw [skipItems?]
  cases hx : value? fuel depth cs with
  | none =>
      rw [hx] at h
      cases h
  | some x =>
      rw [hx] at h
      rw [hskips.value hx]
      dsimp only at h ⊢
      generalize skipGaps x.2 = text at h ⊢
      split at h
      · cases h
        rfl
      · obtain ⟨xs, hxs⟩ := exists_of_map_eq_some h
        exact hskips.items hxs
      · cases h

lemma skipMembers?_succ {ms : List (String × Json)}
    (h : members? (fuel + 1) depth cs = some (ms, rest)) :
    skipMembers? (fuel + 1) cs = some rest := by
  rw [members?] at h
  rw [skipMembers?]
  generalize skipGaps cs = text at h ⊢
  split at h
  · rename_i quoted
    cases hname : string? quoted with
    | none =>
        rw [hname] at h
        cases h
    | some name =>
        rw [hname] at h
        rw [skipString?_of_string? hname]
        dsimp only at h ⊢
        generalize skipGaps name.2 = afterName at h ⊢
        split at h
        · rename_i valued
          cases hx : value? fuel depth valued with
          | none =>
              rw [hx] at h
              cases h
          | some x =>
              rw [hx] at h
              rw [hskips.value hx]
              dsimp only at h ⊢
              generalize skipGaps x.2 = afterValue at h ⊢
              split at h
              · cases h
                rfl
              · obtain ⟨ms, hms⟩ := exists_of_map_eq_some h
                exact hskips.members hms
              · cases h
        · cases h
  · cases h

end Step

lemma skips : ∀ fuel, Skips fuel
  | 0 => ⟨nofun, nofun, nofun⟩
  | fuel + 1 =>
      ⟨skip?_succ (skips fuel), skipItems?_succ (skips fuel), skipMembers?_succ (skips fuel)⟩

/-- **What can be read can be passed over**, and it ends at the same place. -/
theorem skip?_of_value? {fuel depth : ℕ} {cs rest : List Char} {v : Json}
    (h : value? fuel depth cs = some (v, rest)) : skip? fuel cs = some rest :=
  (skips fuel).value h

-- The converse fails: a number may be too large to be read.
example : skip? 1 "1e999,".toList = some [','] ∧ value? 1 1 "1e999,".toList = none := by
  decide +kernel

end Json

namespace Http

/-- **Any value may stand for a member that is not asked for**: if it can be read, the member is
passed over and what was found before is kept. -/
theorem memberValue_of_value? {name : String} (hname : name ≠ "text") (found : Option String)
    {depth : ℕ} {cs rest : List Char} {v : Json}
    (h : Json.value? (2 * cs.length + 2) depth cs = some (v, rest)) :
    memberValue name found cs = .ok (found, rest) := by
  rw [memberValue, if_neg (by simpa using hname), Json.skip?_of_value? h]

end Http

end Dialogue
