import Dialogue.Proofs.Template.Choices

/-!
# How many phrasings a template has

Writing out a template stops at a group after which there would be more phrasings than the limit.
The product that is compared with the limit there is not the number of phrasings of the template: it
is that of the elements so far, or of a part of some alternative.  Nevertheless the templates that
are refused are those with too many phrasings, because the number never goes down again: every group
offers an alternative, so what follows multiplies it by one at least.

A choice is written as a list of numbers, the place of the alternative for every group that is
reached, the leftmost first; the groups inside an alternative follow its own number.

* `Node.count`, `Template.count`, `Template.countBranches` — the number of choices: sums over
  alternatives, products over sequences.
* `Node.Picks`, `Template.Picks` — what is said when a choice is made.
* `Node.sayings`, `Template.sayings` — all choices in order, each with what is said.
* `mem_sayings_iff`, `earlier_sayings` — the choices are complete, and they are in order.
* `lt_of_expandAfter?_eq_none`, `length_le_of_expandAfter?` — what a refusal says, and what it says
  that there was none.
* **`expand?_eq_none_iff`** — which templates are refused.
-/

namespace Dialogue

/-! ## Choices -/

mutual

/-- The number of choices within an element. -/
def Node.count : Node → ℕ
  | .word _ => 1
  | .slot _ => 1
  | .choice branches => Template.countBranches branches

/-- The number of choices within a sequence of elements. -/
def Template.count : List Node → ℕ
  | [] => 1
  | node :: nodes => node.count * Template.count nodes

/-- The number of choices of an alternative and within it. -/
def Template.countBranches : List (List Node) → ℕ
  | [] => 0
  | branch :: branches => Template.count branch + Template.countBranches branches

end

mutual

/-- What is said of an element when a choice is made in it. -/
inductive Node.Picks : Node → List ℕ → Phrasing → Prop
  | word (raw : List Char) : Node.Picks (.word raw) [] ((Text.words raw).map .word)
  | slot (name : String) : Node.Picks (.slot name) [] [.slot name]
  | choice {branches : List (List Node)} {branch : List Node} {i : ℕ} {picks : List ℕ}
      {p : Phrasing} (hbranch : branches[i]? = some branch) (h : Template.Picks branch picks p) :
      Node.Picks (.choice branches) (i :: picks) p

/-- What is said of a sequence of elements when a choice is made in it. -/
inductive Template.Picks : List Node → List ℕ → Phrasing → Prop
  | nil : Template.Picks [] [] []
  | cons {node : Node} {nodes : List Node} {picks picks' : List ℕ} {p p' : Phrasing}
      (hnode : node.Picks picks p) (h : Template.Picks nodes picks' p') :
      Template.Picks (node :: nodes) (picks ++ picks') (p ++ p')

end

/-- A choice and what is said when it is made. -/
abbrev Saying := List ℕ × Phrasing

mutual

/-- All choices within an element, in order, each with what is said. -/
def Node.sayings : Node → List Saying
  | .word raw => [([], Template.wordTokens raw)]
  | .slot name => [([], [.slot name])]
  | .choice branches => Template.sayingsOfBranches 0 branches

/-- All choices within a sequence of elements, in order, each with what is said. -/
def Template.sayings : List Node → List Saying
  | [] => [([], [])]
  | node :: nodes =>
    node.sayings.flatMap fun s => (Template.sayings nodes).map fun s' => (s.1 ++ s'.1, s.2 ++ s'.2)

/-- All choices of an alternative, numbered from `i`, and within it, each with what is said. -/
def Template.sayingsOfBranches (i : ℕ) : List (List Node) → List Saying
  | [] => []
  | branch :: branches =>
    ((Template.sayings branch).map fun s => (i :: s.1, s.2)) ++
      Template.sayingsOfBranches (i + 1) branches

end

namespace Template

/-! ## What is said -/

mutual

lemma map_sayings_node : ∀ node : Node, node.sayings.map Prod.snd = node.ways
  | .word raw => by rw [Node.sayings, Node.ways, List.map_singleton]
  | .slot name => by rw [Node.sayings, Node.ways, List.map_singleton]
  | .choice branches => by rw [Node.sayings, Node.ways, map_sayingsOfBranches]

/-- **What is said, choice by choice, are all phrasings.** -/
lemma map_sayings : ∀ nodes : List Node, (sayings nodes).map Prod.snd = ways nodes
  | [] => by rw [sayings, ways, List.map_singleton]
  | node :: nodes => by
      rw [sayings, ways, combine, ← map_sayings_node node, ← map_sayings nodes, List.map_flatMap,
        List.flatMap_map]
      simp only [List.map_map, Function.comp_def]

lemma map_sayingsOfBranches : ∀ (i : ℕ) (branches : List (List Node)),
    (sayingsOfBranches i branches).map Prod.snd = waysOfBranches branches
  | _, [] => by rw [sayingsOfBranches, waysOfBranches, List.map_nil]
  | i, branch :: branches => by
      rw [sayingsOfBranches, waysOfBranches, ← map_sayings branch,
        ← map_sayingsOfBranches (i + 1) branches, List.map_append, List.map_map]
      rfl

end

lemma length_combine (heads tails : List Phrasing) :
    (combine heads tails).length = heads.length * tails.length := by
  induction heads with
  | nil => simp [combine]
  | cons head heads ih =>
      rw [combine, List.flatMap_cons, List.length_append, List.length_map, ← combine, ih,
        List.length_cons, Nat.succ_mul, Nat.add_comm]

mutual

lemma length_ways_node : ∀ node : Node, node.ways.length = node.count
  | .word raw => by rw [Node.ways, Node.count, List.length_singleton]
  | .slot name => by rw [Node.ways, Node.count, List.length_singleton]
  | .choice branches => by rw [Node.ways, Node.count, length_waysOfBranches]

/-- **There are as many phrasings as choices.** -/
lemma length_ways : ∀ nodes : List Node, (ways nodes).length = count nodes
  | [] => by rw [ways, count, List.length_singleton]
  | node :: nodes => by
      rw [ways, count, length_combine, length_ways_node node, length_ways nodes]

lemma length_waysOfBranches : ∀ branches : List (List Node),
    (waysOfBranches branches).length = countBranches branches
  | [] => by rw [waysOfBranches, countBranches, List.length_nil]
  | branch :: branches => by
      rw [waysOfBranches, countBranches, List.length_append, length_ways branch,
        length_waysOfBranches branches]

end

mutual

lemma mem_sayings_node_iff : ∀ {node : Node} {picks : List ℕ} {p : Phrasing},
    (picks, p) ∈ node.sayings ↔ node.Picks picks p
  | .word raw, picks, p => by
      rw [Node.sayings, List.mem_singleton, Prod.mk.injEq]
      constructor
      · rintro ⟨rfl, rfl⟩
        exact .word raw
      · rintro ⟨⟩
        exact ⟨rfl, rfl⟩
  | .slot name, picks, p => by
      rw [Node.sayings, List.mem_singleton, Prod.mk.injEq]
      constructor
      · rintro ⟨rfl, rfl⟩
        exact .slot name
      · rintro ⟨⟩
        exact ⟨rfl, rfl⟩
  | .choice branches, picks, p => by
      rw [Node.sayings, mem_sayingsOfBranches_iff]
      constructor
      · rintro ⟨j, branch, rest, hbranch, rfl, h⟩
        rw [Nat.zero_add]
        exact .choice hbranch h
      · intro h
        cases h with
        | @choice _ branch i rest _ hbranch h =>
            exact ⟨i, branch, rest, hbranch, by rw [Nat.zero_add], h⟩

/-- **The choices are complete**: those that can be made are listed, with what is then said. -/
lemma mem_sayings_iff : ∀ {nodes : List Node} {picks : List ℕ} {p : Phrasing},
    (picks, p) ∈ sayings nodes ↔ Picks nodes picks p
  | [], picks, p => by
      rw [sayings, List.mem_singleton, Prod.mk.injEq]
      constructor
      · rintro ⟨rfl, rfl⟩
        exact .nil
      · rintro ⟨⟩
        exact ⟨rfl, rfl⟩
  | node :: nodes, picks, p => by
      simp only [sayings, List.mem_flatMap, List.mem_map, Prod.mk.injEq]
      constructor
      · rintro ⟨⟨first, q⟩, hfirst, ⟨rest, q'⟩, hrest, rfl, rfl⟩
        exact .cons (mem_sayings_node_iff.mp hfirst) (mem_sayings_iff.mp hrest)
      · intro h
        cases h with
        | @cons _ _ first rest q q' hnode h =>
            exact ⟨(first, q), mem_sayings_node_iff.mpr hnode, (rest, q'), mem_sayings_iff.mpr h,
              rfl, rfl⟩

lemma mem_sayingsOfBranches_iff : ∀ {i : ℕ} {branches : List (List Node)} {picks : List ℕ}
    {p : Phrasing}, (picks, p) ∈ sayingsOfBranches i branches ↔
      ∃ j branch rest, branches[j]? = some branch ∧ picks = (i + j) :: rest ∧ Picks branch rest p
  | i, [], picks, p => by simp [sayingsOfBranches]
  | i, branch :: branches, picks, p => by
      rw [sayingsOfBranches, List.mem_append, mem_sayingsOfBranches_iff]
      simp only [List.mem_map, Prod.mk.injEq]
      constructor
      · rintro (⟨⟨rest, q⟩, hrest, rfl, rfl⟩ | ⟨j, branch', rest, hbranch, rfl, h⟩)
        · exact ⟨0, branch, rest, rfl, rfl, mem_sayings_iff.mp hrest⟩
        · exact ⟨j + 1, branch', rest, hbranch, by rw [Nat.add_assoc, Nat.add_comm 1], h⟩
      · rintro ⟨j, branch', rest, hbranch, rfl, h⟩
        cases j with
        | zero =>
            obtain rfl := Option.some.inj hbranch
            exact .inl ⟨(rest, p), mem_sayings_iff.mpr h, rfl, rfl⟩
        | succ j =>
            exact .inr ⟨j, branch', rest, hbranch, by rw [Nat.add_assoc, Nat.add_comm 1], h⟩

end

/-! ## The order of the choices -/

/-- At the first place where two choices differ, the first one takes an earlier alternative. -/
inductive Earlier : List ℕ → List ℕ → Prop
  | here {i j : ℕ} {rest rest' : List ℕ} (h : i < j) : Earlier (i :: rest) (j :: rest')
  | later {i : ℕ} {rest rest' : List ℕ} (h : Earlier rest rest') :
      Earlier (i :: rest) (i :: rest')

lemma Earlier.lt {picks picks' : List ℕ} (h : Earlier picks picks') : picks < picks' := by
  induction h with
  | here h => exact List.cons_lt_cons_iff.mpr (.inl h)
  | later _ ih => exact List.cons_lt_cons_iff.mpr (.inr ⟨rfl, ih⟩)

lemma Earlier.append_left (picks : List ℕ) {rest rest' : List ℕ} (h : Earlier rest rest') :
    Earlier (picks ++ rest) (picks ++ rest') := by
  induction picks with
  | nil => exact h
  | cons i picks ih => exact .later ih

/-- The order is strict from the first difference on, so it does not matter what follows.  (Of the
order of lists this holds only where neither list begins with the other.) -/
lemma Earlier.append_right {picks picks' : List ℕ} (h : Earlier picks picks')
    (rest rest' : List ℕ) : Earlier (picks ++ rest) (picks' ++ rest') := by
  induction h with
  | here h => exact .here h
  | later _ ih => exact .later ih

mutual

lemma earlier_sayings_node : ∀ node : Node,
    node.sayings.Pairwise fun s s' => Earlier s.1 s'.1
  | .word raw => by
      rw [Node.sayings]
      exact List.pairwise_singleton _ _
  | .slot name => by
      rw [Node.sayings]
      exact List.pairwise_singleton _ _
  | .choice branches => by
      rw [Node.sayings]
      exact earlier_sayingsOfBranches 0 branches

/-- **The choices are in order.** -/
lemma earlier_sayings : ∀ nodes : List Node,
    (sayings nodes).Pairwise fun s s' => Earlier s.1 s'.1
  | [] => by
      rw [sayings]
      exact List.pairwise_singleton _ _
  | node :: nodes => by
      rw [sayings, List.pairwise_flatMap]
      constructor
      · intro s _
        exact List.pairwise_map.mpr ((earlier_sayings nodes).imp fun h => h.append_left s.1)
      · refine (earlier_sayings_node node).imp fun h => ?_
        intro s hs s' hs'
        obtain ⟨t, _, rfl⟩ := List.mem_map.mp hs
        obtain ⟨t', _, rfl⟩ := List.mem_map.mp hs'
        exact h.append_right t.1 t'.1

lemma earlier_sayingsOfBranches : ∀ (i : ℕ) (branches : List (List Node)),
    (sayingsOfBranches i branches).Pairwise fun s s' => Earlier s.1 s'.1
  | _, [] => by
      rw [sayingsOfBranches]
      exact .nil
  | i, branch :: branches => by
      rw [sayingsOfBranches, List.pairwise_append]
      refine ⟨List.pairwise_map.mpr ((earlier_sayings branch).imp fun h => .later h),
        earlier_sayingsOfBranches (i + 1) branches, ?_⟩
      rintro s hs ⟨picks, p⟩ hp
      obtain ⟨t, _, rfl⟩ := List.mem_map.mp hs
      obtain ⟨j, _, rest, _, rfl, _⟩ := mem_sayingsOfBranches_iff.mp hp
      exact .here (by omega)

end

/-! ## The limit -/

lemma count_pos {nodes : List Node} (h : ∀ node ∈ nodes, node.Sayable) : 0 < count nodes := by
  obtain ⟨p, hp⟩ := exists_mem_ways fun node hnode => exists_mem_ways_node (h node hnode)
  rw [← length_ways]
  exact List.length_pos_of_mem hp

lemma count_pos_node {node : Node} (h : node.Sayable) : 0 < node.count := by
  obtain ⟨p, hp⟩ := exists_mem_ways_node h
  rw [← length_ways_node]
  exact List.length_pos_of_mem hp

variable {limit : ℕ}

/-- As long as nothing is refused, the number of phrasings keeps to the limit. -/
lemma length_le_of_expandNode? {node : Node} {heads ps : List Phrasing}
    (hheads : heads.length ≤ limit) (h : expandNode? limit node heads = some ps) :
    ps.length ≤ limit := by
  cases node with
  | word raw =>
      rw [expandNode?] at h
      rwa [← Option.some.inj h, List.length_map]
  | slot name =>
      rw [expandNode?] at h
      rwa [← Option.some.inj h, List.length_map]
  | choice branches =>
      obtain ⟨tails, _, hle, rfl⟩ := expandNode?_choice_eq_some_iff.mp h
      rwa [length_combine]

lemma length_le_of_expandAfter? {nodes : List Node} {heads ps : List Phrasing}
    (hheads : heads.length ≤ limit) (h : expandAfter? limit nodes heads = some ps) :
    ps.length ≤ limit := by
  induction nodes generalizing heads with
  | nil =>
      rw [expandAfter?] at h
      rwa [← Option.some.inj h]
  | cons node nodes ih =>
      obtain ⟨heads', hfirst, hrest⟩ := expandAfter?_cons_eq_some_iff.mp h
      exact ih (length_le_of_expandNode? hheads hfirst) hrest

/- What is refused has too many phrasings.  A refusal may come from a part of the template, in front
of which `heads` have been written already: the whole has as many phrasings or more, since there is
a head and every element that follows can be said. -/
mutual

lemma lt_of_expandNode?_eq_none : ∀ {node : Node} {heads : List Phrasing}, node.Sayable →
    heads ≠ [] → expandNode? limit node heads = none → limit < heads.length * node.count
  | .word raw, heads, _, _, h => by
      rw [expandNode?] at h
      cases h
  | .slot name, heads, _, _, h => by
      rw [expandNode?] at h
      cases h
  | .choice branches, heads, .choice _ hsayable, hheads, h => by
      rw [Node.count]
      rcases expandNode?_choice_eq_none_iff.mp h with htails | ⟨tails, htails, hlt⟩
      · have hlt := lt_of_expandBranches?_eq_none hsayable htails
        exact hlt.trans_le (Nat.le_mul_of_pos_left _ (List.length_pos_iff.mpr hheads))
      · rwa [expandBranches?_eq htails, length_waysOfBranches] at hlt

lemma lt_of_expandAfter?_eq_none : ∀ {nodes : List Node} {heads : List Phrasing},
    (∀ node ∈ nodes, node.Sayable) → heads ≠ [] → expandAfter? limit nodes heads = none →
      limit < heads.length * count nodes
  | [], heads, _, _, h => by
      rw [expandAfter?] at h
      cases h
  | node :: nodes, heads, hsayable, hheads, h => by
      obtain ⟨hnode, hnodes⟩ := List.forall_mem_cons.mp hsayable
      rw [count, ← Nat.mul_assoc]
      rcases expandAfter?_cons_eq_none_iff.mp h with hfirst | ⟨heads', hfirst, hrest⟩
      · have hlt := lt_of_expandNode?_eq_none hnode hheads hfirst
        exact hlt.trans_le (Nat.le_mul_of_pos_right _ (count_pos hnodes))
      · have hlength : heads'.length = heads.length * node.count := by
          rw [expandNode?_eq hfirst, length_combine, length_ways_node]
        have hpos : 0 < heads'.length :=
          hlength ▸ Nat.mul_pos (List.length_pos_iff.mpr hheads) (count_pos_node hnode)
        rw [← hlength]
        exact lt_of_expandAfter?_eq_none hnodes (List.length_pos_iff.mp hpos) hrest

lemma lt_of_expandBranches?_eq_none : ∀ {branches : List (List Node)},
    (∀ branch ∈ branches, ∀ node ∈ branch, node.Sayable) →
      expandBranches? limit branches = none → limit < countBranches branches
  | [], _, h => by
      rw [expandBranches?] at h
      cases h
  | branch :: branches, hsayable, h => by
      obtain ⟨hbranch, hbranches⟩ := List.forall_mem_cons.mp hsayable
      rw [countBranches]
      rcases expandBranches?_cons_eq_none_iff.mp h with hfirst | hothers
      · have hlt := lt_of_expandAfter?_eq_none hbranch (List.cons_ne_nil _ _) hfirst
        rw [List.length_singleton, Nat.one_mul] at hlt
        exact hlt.trans_le (Nat.le_add_right _ _)
      · exact (lt_of_expandBranches?_eq_none hbranches hothers).trans_le (Nat.le_add_left _ _)

end

/-- **Which templates are refused**: those with more choices than the limit. -/
theorem expand?_eq_none_iff {nodes : List Node} (hsayable : ∀ node ∈ nodes, node.Sayable)
    (hlimit : 1 ≤ limit) : expand? limit nodes = none ↔ limit < count nodes := by
  constructor
  · intro h
    have hlt := lt_of_expandAfter?_eq_none hsayable (List.cons_ne_nil [] []) h
    rwa [List.length_singleton, Nat.one_mul] at hlt
  · intro hlt
    rw [Option.eq_none_iff_forall_not_mem]
    intro ps hps
    have hone : ([[]] : List Phrasing).length ≤ limit := hlimit
    have hle : ps.length ≤ limit := length_le_of_expandAfter? hone hps
    rw [expand?_eq_ways hps, length_ways] at hle
    exact absurd hlt (Nat.not_lt_of_le hle)

lemma expand?_eq_some_iff {nodes : List Node} (hsayable : ∀ node ∈ nodes, node.Sayable)
    (hlimit : 1 ≤ limit) {ps : List Phrasing} :
    expand? limit nodes = some ps ↔ count nodes ≤ limit ∧ ps = ways nodes := by
  have hnone := expand?_eq_none_iff hsayable hlimit
  constructor
  · intro h
    refine ⟨Nat.le_of_not_lt fun hlt => ?_, expand?_eq_ways h⟩
    rw [hnone.mpr hlt] at h
    cases h
  · rintro ⟨hle, rfl⟩
    cases hall : expand? limit nodes with
    | none => exact absurd (hnone.mp hall) (Nat.not_lt_of_le hle)
    | some all => rw [expand?_eq_ways hall]

end Template

end Dialogue
