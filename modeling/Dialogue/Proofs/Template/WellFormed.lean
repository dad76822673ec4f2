import Dialogue.Proofs.Template.Choices
import Dialogue.Proofs.Template.Compiling
import Dialogue.Proofs.Text.Words

/-!
# What compiled phrasings are made of

Matching relies on two facts about the phrasings of a compiled template: a phrasing has a token, and
the words in it have letters and no blanks.  Neither is checked when a phrasing is matched.  Both
hold because of how phrasings come about: the reader cuts words at blanks, writing out the groups
only puts pieces together, and what is empty is passed over in the end.

* `Node.Solid`, `Token.Solid` — no blanks in words, for templates and for phrasings.
* `solid_parse` — what the reader returns is solid.
* `forall_mem_expand?` — writing out the groups makes no token of its own.
* **`solid_compile`** — compiled phrasings are solid and not empty.
* **`spoken_compile`** — the words of compiled phrasings are words of the literal text.
-/

namespace Dialogue

/-- The words in an element have no blanks. -/
inductive Node.Solid : Node → Prop
  | word {raw : List Char} (h : ∀ c ∈ raw, Text.isBlank c = false) : Node.Solid (.word raw)
  | slot (name : String) : Node.Solid (.slot name)
  | choice {branches : List (List Node)} (h : ∀ branch ∈ branches, ∀ node ∈ branch, node.Solid) :
      Node.Solid (.choice branches)

/-- The token is a slot or a word that has letters and no blanks. -/
def Token.Solid : Token → Prop
  | .word letters => Text.IsField letters
  | .slot _ => True

/-- All tokens of a phrasing are solid. -/
def Phrasing.Solid (p : Phrasing) : Prop := ∀ t ∈ p, t.Solid

/-- The token is a slot or one of the words of some text. -/
def Token.IsSpoken : Token → Prop
  | .word letters => ∃ raw, letters ∈ Text.words raw
  | .slot _ => True

namespace Template

/-! ## Reading -/

lemma solid_of_written {node : Node} (h : node.Written) : node.Solid := by
  induction h with
  | word _ hraw => exact .word fun c hc => isBlank_of_isWordChar (hraw c hc)
  | slot => exact .slot _
  | choice _ ih => exact .choice ih

/-- **What the reader returns is solid.** -/
theorem solid_parse {template : String} {nodes : List Node} (h : parse template = .ok nodes) :
    ∀ node ∈ nodes, node.Solid :=
  fun node hnode => solid_of_written (written_parse h node hnode)

/-! ## Writing out -/

lemma solid_wordTokens {raw : List Char} (h : ∀ c ∈ raw, Text.isBlank c = false) :
    Phrasing.Solid (wordTokens raw) := by
  intro t ht
  obtain ⟨w, hw, rfl⟩ := List.mem_map.mp ht
  exact ⟨Text.ne_nil_of_mem_words hw, fun c hc => h c (Text.mem_of_mem_words hw hc)⟩

lemma spoken_wordTokens (raw : List Char) : ∀ t ∈ wordTokens raw, t.IsSpoken := by
  intro t ht
  obtain ⟨w, hw, rfl⟩ := List.mem_map.mp ht
  exact ⟨raw, hw⟩

section Tokens

variable {P : Token → Prop}

lemma forall_mem_ways {nodes : List Node} (h : ∀ node ∈ nodes, ∀ p ∈ node.ways, ∀ t ∈ p, P t) :
    ∀ p ∈ ways nodes, ∀ t ∈ p, P t := by
  induction nodes with
  | nil =>
      rw [ways]
      exact List.forall_mem_singleton.mpr (List.forall_mem_nil _)
  | cons node nodes ih =>
      obtain ⟨hnode, hnodes⟩ := List.forall_mem_cons.mp h
      intro p hp
      rw [ways] at hp
      obtain ⟨head, hhead, tail, htail, rfl⟩ := mem_combine.mp hp
      exact List.forall_mem_append.mpr ⟨hnode head hhead, ih hnodes tail htail⟩

variable (hslot : ∀ name, P (.slot name))
  (hword : ∀ raw : List Char, (∀ c ∈ raw, Text.isBlank c = false) → ∀ t ∈ wordTokens raw, P t)

include hslot hword

lemma forall_mem_ways_node {node : Node} (h : node.Solid) : ∀ p ∈ node.ways, ∀ t ∈ p, P t := by
  induction h with
  | word hraw =>
      rw [Node.ways]
      exact List.forall_mem_singleton.mpr (hword _ hraw)
  | slot name =>
      rw [Node.ways]
      exact List.forall_mem_singleton.mpr (List.forall_mem_singleton.mpr (hslot name))
  | choice _ ih =>
      intro p hp
      rw [Node.ways] at hp
      obtain ⟨branch, hbranch, hp⟩ := mem_waysOfBranches.mp hp
      exact forall_mem_ways (ih branch hbranch) p hp

/-- Writing out only puts pieces together: **what holds of slots and of words without blanks holds
of every token** that is written out of a solid template. -/
theorem forall_mem_expand? {limit : ℕ} {nodes : List Node} (hnodes : ∀ node ∈ nodes, node.Solid)
    {ps : List Phrasing} (h : expand? limit nodes = some ps) : ∀ p ∈ ps, ∀ t ∈ p, P t := by
  rw [expand?_eq_ways h]
  exact forall_mem_ways fun node hnode => forall_mem_ways_node hslot hword (hnodes node hnode)

end Tokens

/-- **Writing out the groups of a solid template** gives solid phrasings. -/
theorem solid_expand? {limit : ℕ} {nodes : List Node} (hnodes : ∀ node ∈ nodes, node.Solid)
    {ps : List Phrasing} (h : expand? limit nodes = some ps) : ∀ p ∈ ps, p.Solid :=
  forall_mem_expand? (fun _ => trivial) (fun _ => solid_wordTokens) hnodes h

lemma spoken_expand? {limit : ℕ} {nodes : List Node} (hnodes : ∀ node ∈ nodes, node.Solid)
    {ps : List Phrasing} (h : expand? limit nodes = some ps) : ∀ p ∈ ps, ∀ t ∈ p, t.IsSpoken :=
  forall_mem_expand? (fun _ => trivial) (fun raw _ => spoken_wordTokens raw) hnodes h

end Template

/-! ## Compiling -/

namespace Matcher

variable {patterns : PatternBuilder} {types : InputTypes} {limit : ℕ} {template : String}
  {m : Matcher}

/-- **A compiled phrasing has tokens, and all of them are solid.** -/
theorem solid_compile (h : compile patterns types limit template = .ok m) :
    ∀ p ∈ m.phrasings, p ≠ [] ∧ p.Solid := by
  obtain ⟨nodes, all, hnodes, hall, hkept⟩ := exists_of_compile h
  intro p hp
  obtain ⟨hmem, hne⟩ := (mem_kept_iff hkept).mp hp
  exact ⟨hne, Template.solid_expand? (Template.solid_parse hnodes) hall p hmem⟩

/-- **The words of compiled phrasings** are words of the literal text. -/
theorem spoken_compile (h : compile patterns types limit template = .ok m) :
    ∀ p ∈ m.phrasings, ∀ t ∈ p, t.IsSpoken := by
  obtain ⟨nodes, all, hnodes, hall, hkept⟩ := exists_of_compile h
  intro p hp
  obtain ⟨hmem, _⟩ := (mem_kept_iff hkept).mp hp
  exact Template.spoken_expand? (Template.solid_parse hnodes) hall p hmem

end Matcher

end Dialogue
