import Dialogue.Proofs.Template.Choices

/-!
# How templates are spelled

The grammar leaves open how much spacing stands between elements.  Of all texts with the same
elements one is plainest: a single space between neighbours, and none around bars and names.  This
file writes it and shows that the reader takes it back, so that a template written in this way can
be known by its elements.

* `Node.spelling`, `spell`, `spellBranches` — the plainest text of elements.
* `Node.isSpellable`, `areSpellable`, `areSpellableBranches` — what can be spelled at all: words and
  names have characters of theirs, and groups have alternatives.
* **`parse_spell`** — the spelling is read as the elements.
* **`parse_spell_of_parse`** — so every template has a plain form with the same elements.
-/

namespace Dialogue

/-! ## Spelling -/

mutual

/-- The plainest text of an element. -/
def Node.spelling : Node → List Char
  | .word raw => raw
  | .slot name => '[' :: '[' :: (name.toList ++ [']', ']'])
  | .choice branches => '{' :: (Template.spellBranches branches ++ ['}'])

/-- The plainest text of elements: single spaces stand between them. -/
def Template.spell : List Node → List Char
  | [] => []
  | [node] => node.spelling
  | node :: next :: nodes => node.spelling ++ ' ' :: Template.spell (next :: nodes)

/-- The plainest text of alternatives: bars stand between them. -/
def Template.spellBranches : List (List Node) → List Char
  | [] => []
  | [branch] => Template.spell branch
  | branch :: next :: branches =>
    Template.spell branch ++ '|' :: Template.spellBranches (next :: branches)

end

mutual

/-- Words and names of slots have characters, all of them of words and of names, and every group
offers an alternative. -/
def Node.isSpellable : Node → Bool
  | .word raw => !raw.isEmpty && raw.all Template.isWordChar
  | .slot name => !name.toList.isEmpty && name.toList.all Template.isSlotChar
  | .choice branches => !branches.isEmpty && Template.areSpellableBranches branches

/-- All elements can be spelled. -/
def Template.areSpellable : List Node → Bool
  | [] => true
  | node :: nodes => node.isSpellable && Template.areSpellable nodes

/-- All alternatives can be spelled. -/
def Template.areSpellableBranches : List (List Node) → Bool
  | [] => true
  | branch :: branches => Template.areSpellable branch && Template.areSpellableBranches branches

end

namespace Template

lemma isGap_nil : IsGap [] := List.forall_mem_nil _

/-- After an element, the spelling ends or goes on with a space. -/
lemma endsWord_space (cs : List Char) : EndsWord (' ' :: cs) := by
  rintro c ⟨⟩
  rfl

/-- A space may stand in front of elements. -/
lemma IsTemplate.space {nodes : List Node} {text : List Char} (h : IsTemplate nodes text) :
    IsTemplate nodes (' ' :: text) := by
  cases h with
  | nil hgap => exact .nil (List.forall_mem_cons.mpr ⟨rfl, hgap⟩)
  | cons hgap htext hrest =>
      exact .cons (List.forall_mem_cons.mpr ⟨rfl, hgap⟩) htext hrest

/-! ## Reading what is spelled -/

mutual

lemma isElement_spelling : ∀ {node : Node} {after : List Char}, node.isSpellable = true →
    EndsWord after → IsElement node node.spelling after
  | .word raw, after, h, hafter => by
      rw [Node.isSpellable, Bool.and_eq_true] at h
      rw [Node.spelling]
      exact .word (by simpa using h.1) (List.all_eq_true.mp h.2) hafter
  | .slot name, after, h, _ => by
      rw [Node.isSpellable, Bool.and_eq_true] at h
      have hslot := @IsElement.slot [] name.toList [] after (by simpa using h.1)
        (List.all_eq_true.mp h.2) isGap_nil isGap_nil
      rw [List.nil_append, List.append_nil, String.ofList_toList] at hslot
      rwa [Node.spelling]
  | .choice branches, after, h, _ => by
      rw [Node.isSpellable, Bool.and_eq_true] at h
      rw [Node.spelling]
      exact .group (isAlternatives_spellBranches (by simpa using h.1) h.2)

lemma isTemplate_spell : ∀ {nodes : List Node}, areSpellable nodes = true →
    IsTemplate nodes (spell nodes)
  | [], _ => by
      rw [spell]
      exact .nil isGap_nil
  | [node], h => by
      rw [areSpellable, Bool.and_eq_true] at h
      have hend : EndsWord [] := fun c hc => by cases hc
      have htemplate :=
        IsTemplate.cons isGap_nil (isElement_spelling h.1 hend) (.nil isGap_nil)
      rwa [List.nil_append, List.append_nil, ← spell] at htemplate
  | node :: next :: nodes, h => by
      rw [areSpellable, Bool.and_eq_true] at h
      have htemplate := IsTemplate.cons isGap_nil (isElement_spelling h.1 (endsWord_space _))
        (isTemplate_spell h.2).space
      rwa [List.nil_append, ← spell] at htemplate

lemma isAlternatives_spellBranches : ∀ {branches : List (List Node)}, branches ≠ [] →
    areSpellableBranches branches = true → IsAlternatives branches (spellBranches branches)
  | [], hne, _ => absurd rfl hne
  | [branch], _, h => by
      rw [areSpellableBranches, Bool.and_eq_true] at h
      rw [spellBranches]
      exact .last (isTemplate_spell h.1)
  | branch :: next :: branches, _, h => by
      rw [areSpellableBranches, Bool.and_eq_true] at h
      rw [spellBranches]
      exact .bar (isTemplate_spell h.1) (isAlternatives_spellBranches (List.cons_ne_nil _ _) h.2)

end

/-- **The spelling is read as the elements.** -/
theorem parse_spell {nodes : List Node} (h : areSpellable nodes = true) :
    parse (String.ofList (spell nodes)) = .ok nodes := by
  refine parse_eq_ok_iff.mpr ?_
  rw [String.toList_ofList]
  exact isTemplate_spell h

/-! ## What is read can be spelled -/

lemma areSpellable_eq_true_iff {nodes : List Node} :
    areSpellable nodes = true ↔ ∀ node ∈ nodes, node.isSpellable = true := by
  induction nodes with
  | nil => simp [areSpellable]
  | cons node nodes ih => simp [areSpellable, ih]

lemma areSpellableBranches_eq_true_iff {branches : List (List Node)} :
    areSpellableBranches branches = true ↔ ∀ branch ∈ branches, areSpellable branch = true := by
  induction branches with
  | nil => simp [areSpellableBranches]
  | cons branch branches ih => simp [areSpellableBranches, ih]

lemma hereditary_isSpellable : Hereditary fun node => node.isSpellable = true where
  word raw hne hraw := by simp [Node.isSpellable, hne, List.all_eq_true.mpr hraw]
  slot name hne hname := by simp [Node.isSpellable, hne, List.all_eq_true.mpr hname]
  choice branches hne hbranches := by
    have hall : areSpellableBranches branches = true := areSpellableBranches_eq_true_iff.mpr
      fun branch hbranch => areSpellable_eq_true_iff.mpr (hbranches branch hbranch)
    simp [Node.isSpellable, hne, hall]

/-- **Every template has a plain form**: the spelling of its elements is read as them. -/
theorem parse_spell_of_parse {template : String} {nodes : List Node}
    (h : parse template = .ok nodes) : parse (String.ofList (spell nodes)) = .ok nodes :=
  parse_spell (areSpellable_eq_true_iff.mpr
    (hereditary_isSpellable.of_isTemplate (parse_eq_ok_iff.mp h)))

end Template

end Dialogue
