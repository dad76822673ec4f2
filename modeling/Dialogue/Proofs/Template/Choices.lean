import Dialogue.Proofs.Template.Parsing

/-!
# The ways to say a template

Writing out a template goes from left to right, keeps all beginnings at once, and gives up when they
become too many.  What it computes is simpler: the ways to say a sequence are the ways to say its
first element, each followed by the ways to say the rest, and the ways to say a group are those of
its alternatives, one after the other.

What is in a template therefore turns up in some phrasing, provided that every group offers an
alternative; the grammar sees to that.

* `Node.ways`, `Template.ways`, `Template.waysOfBranches` — all phrasings in order, without a limit.
* `expand?_eq_ways` — what is written out are all phrasings.
* `Node.Mentions` — a slot stands somewhere in an element, at any depth.
* **`exists_slot_mem_ways_iff`** — the slots of the phrasings are the slots of the template.
* `Hereditary` — a property of elements that every template inherits from its words and slots.
* `Node.Written` — the characters of words and of names of slots.
-/

namespace Dialogue

/-! ## All phrasings -/

mutual

/-- The ways to say an element. -/
def Node.ways : Node → List Phrasing
  | .word raw => [Template.wordTokens raw]
  | .slot name => [[.slot name]]
  | .choice branches => Template.waysOfBranches branches

/-- The ways to say a sequence of elements. -/
def Template.ways : List Node → List Phrasing
  | [] => [[]]
  | node :: nodes => Template.combine node.ways (Template.ways nodes)

/-- The ways to say one of several alternatives. -/
def Template.waysOfBranches : List (List Node) → List Phrasing
  | [] => []
  | branch :: branches => Template.ways branch ++ Template.waysOfBranches branches

end

namespace Template

lemma mem_combine {heads tails : List Phrasing} {p : Phrasing} :
    p ∈ combine heads tails ↔ ∃ head ∈ heads, ∃ tail ∈ tails, head ++ tail = p := by
  simp [combine]

lemma combine_singleton (heads : List Phrasing) (tail : Phrasing) :
    combine heads [tail] = heads.map (· ++ tail) := by
  rw [combine, List.map_eq_flatMap]
  rfl

lemma combine_nil_left (tails : List Phrasing) : combine [[]] tails = tails := by
  simp [combine]

lemma combine_assoc (as bs cs : List Phrasing) :
    combine (combine as bs) cs = combine as (combine bs cs) := by
  simp [combine, List.flatMap_assoc, List.map_flatMap, List.flatMap_map, Function.comp_def]

/-! ## The steps of writing out -/

section Steps

variable {limit : ℕ}

/-- A group is written out unless its alternatives make too many phrasings. -/
lemma expandNode?_choice_eq_some_iff {branches : List (List Node)} {heads ps : List Phrasing} :
    expandNode? limit (.choice branches) heads = some ps ↔
      ∃ tails, expandBranches? limit branches = some tails ∧
        heads.length * tails.length ≤ limit ∧ combine heads tails = ps := by
  rw [expandNode?]
  cases expandBranches? limit branches with
  | none => simp
  | some tails =>
      simp only [Option.some.injEq, exists_eq_left']
      split
      · rename_i hlt
        simp [Nat.not_le_of_lt hlt]
      · rename_i hle
        simp [Nat.le_of_not_lt hle]

lemma expandNode?_choice_eq_none_iff {branches : List (List Node)} {heads : List Phrasing} :
    expandNode? limit (.choice branches) heads = none ↔
      expandBranches? limit branches = none ∨
        ∃ tails, expandBranches? limit branches = some tails ∧
          limit < heads.length * tails.length := by
  rw [expandNode?]
  cases expandBranches? limit branches with
  | none => simp
  | some tails => simp

lemma expandAfter?_cons_eq_some_iff {node : Node} {nodes : List Node} {heads ps : List Phrasing} :
    expandAfter? limit (node :: nodes) heads = some ps ↔
      ∃ heads', expandNode? limit node heads = some heads' ∧
        expandAfter? limit nodes heads' = some ps := by
  rw [expandAfter?]
  cases expandNode? limit node heads with
  | none => simp
  | some heads' => simp

lemma expandAfter?_cons_eq_none_iff {node : Node} {nodes : List Node} {heads : List Phrasing} :
    expandAfter? limit (node :: nodes) heads = none ↔
      expandNode? limit node heads = none ∨
        ∃ heads', expandNode? limit node heads = some heads' ∧
          expandAfter? limit nodes heads' = none := by
  rw [expandAfter?]
  cases expandNode? limit node heads with
  | none => simp
  | some heads' => simp

lemma expandBranches?_cons_eq_some_iff {branch : List Node} {branches : List (List Node)}
    {ps : List Phrasing} :
    expandBranches? limit (branch :: branches) = some ps ↔
      ∃ first others, expandAfter? limit branch [[]] = some first ∧
        expandBranches? limit branches = some others ∧ first ++ others = ps := by
  rw [expandBranches?]
  cases expandAfter? limit branch [[]] with
  | none => simp
  | some first => cases expandBranches? limit branches <;> simp

lemma expandBranches?_cons_eq_none_iff {branch : List Node} {branches : List (List Node)} :
    expandBranches? limit (branch :: branches) = none ↔
      expandAfter? limit branch [[]] = none ∨ expandBranches? limit branches = none := by
  rw [expandBranches?]
  cases expandAfter? limit branch [[]] with
  | none => simp
  | some first => cases expandBranches? limit branches <;> simp

end Steps

/-! ## Writing out -/

mutual

lemma expandNode?_eq {limit : ℕ} : ∀ {node : Node} {heads ps : List Phrasing},
    expandNode? limit node heads = some ps → ps = combine heads node.ways
  | .word raw, heads, ps, h => by
      rw [expandNode?] at h
      rw [← Option.some.inj h, Node.ways, combine_singleton]
  | .slot name, heads, ps, h => by
      rw [expandNode?] at h
      rw [← Option.some.inj h, Node.ways, combine_singleton]
  | .choice branches, heads, ps, h => by
      obtain ⟨tails, htails, _, rfl⟩ := expandNode?_choice_eq_some_iff.mp h
      rw [Node.ways, expandBranches?_eq htails]

lemma expandAfter?_eq {limit : ℕ} : ∀ {nodes : List Node} {heads ps : List Phrasing},
    expandAfter? limit nodes heads = some ps → ps = combine heads (ways nodes)
  | [], heads, ps, h => by
      rw [expandAfter?] at h
      rw [← Option.some.inj h, ways, combine_singleton]
      simp
  | node :: nodes, heads, ps, h => by
      obtain ⟨heads', hfirst, hrest⟩ := expandAfter?_cons_eq_some_iff.mp h
      rw [expandAfter?_eq hrest, expandNode?_eq hfirst, ways, combine_assoc]

lemma expandBranches?_eq {limit : ℕ} : ∀ {branches : List (List Node)} {ps : List Phrasing},
    expandBranches? limit branches = some ps → ps = waysOfBranches branches
  | [], ps, h => by
      rw [expandBranches?] at h
      rw [← Option.some.inj h, waysOfBranches]
  | branch :: branches, ps, h => by
      obtain ⟨first, others, hfirst, hothers, rfl⟩ := expandBranches?_cons_eq_some_iff.mp h
      rw [waysOfBranches, expandAfter?_eq hfirst, combine_nil_left, expandBranches?_eq hothers]

end

/-- **What is written out are all phrasings**, in the order of the choices. -/
theorem expand?_eq_ways {limit : ℕ} {nodes : List Node} {ps : List Phrasing}
    (h : expand? limit nodes = some ps) : ps = ways nodes := by
  rw [expandAfter?_eq h, combine_nil_left]

end Template

/-! ## Slots -/

/-- A slot stands somewhere in an element: it is the element, or it stands in an alternative. -/
inductive Node.Mentions (name : String) : Node → Prop
  | slot : Node.Mentions name (.slot name)
  | choice {branches : List (List Node)} {branch : List Node} {node : Node}
      (hbranch : branch ∈ branches) (hnode : node ∈ branch) (h : Node.Mentions name node) :
      Node.Mentions name (.choice branches)

/-- Every group in an element offers an alternative. -/
inductive Node.Sayable : Node → Prop
  | word (raw : List Char) : Node.Sayable (.word raw)
  | slot (name : String) : Node.Sayable (.slot name)
  | choice {branches : List (List Node)} (hne : branches ≠ [])
      (h : ∀ branch ∈ branches, ∀ node ∈ branch, node.Sayable) : Node.Sayable (.choice branches)

namespace Template

lemma slot_not_mem_wordTokens (name : String) (raw : List Char) :
    Token.slot name ∉ wordTokens raw := by
  simp [wordTokens]

mutual

lemma mentions_of_mem_ways_node {name : String} : ∀ {node : Node} {p : Phrasing},
    p ∈ node.ways → Token.slot name ∈ p → node.Mentions name
  | .word raw, p, hp, hname => by
      rw [Node.ways, List.mem_singleton] at hp
      exact absurd (hp ▸ hname) (slot_not_mem_wordTokens name raw)
  | .slot name', p, hp, hname => by
      rw [Node.ways, List.mem_singleton] at hp
      subst hp
      obtain rfl : name = name' := by simpa using hname
      exact .slot
  | .choice branches, p, hp, hname => by
      rw [Node.ways] at hp
      obtain ⟨branch, hbranch, node, hnode, h⟩ := mentions_of_mem_waysOfBranches hp hname
      exact .choice hbranch hnode h

lemma mentions_of_mem_ways {name : String} : ∀ {nodes : List Node} {p : Phrasing},
    p ∈ ways nodes → Token.slot name ∈ p → ∃ node ∈ nodes, node.Mentions name
  | [], p, hp, hname => by
      rw [ways, List.mem_singleton] at hp
      subst hp
      cases hname
  | node :: nodes, p, hp, hname => by
      rw [ways] at hp
      obtain ⟨head, hhead, tail, htail, rfl⟩ := mem_combine.mp hp
      rcases List.mem_append.mp hname with hname | hname
      · exact ⟨node, List.mem_cons_self, mentions_of_mem_ways_node hhead hname⟩
      · obtain ⟨node', hnode', h⟩ := mentions_of_mem_ways htail hname
        exact ⟨node', List.mem_cons_of_mem _ hnode', h⟩

lemma mentions_of_mem_waysOfBranches {name : String} : ∀ {branches : List (List Node)}
    {p : Phrasing}, p ∈ waysOfBranches branches → Token.slot name ∈ p →
      ∃ branch ∈ branches, ∃ node ∈ branch, node.Mentions name
  | [], p, hp, hname => by
      rw [waysOfBranches] at hp
      cases hp
  | branch :: branches, p, hp, hname => by
      rw [waysOfBranches] at hp
      rcases List.mem_append.mp hp with hp | hp
      · exact ⟨branch, List.mem_cons_self, mentions_of_mem_ways hp hname⟩
      · obtain ⟨branch', hbranch', h⟩ := mentions_of_mem_waysOfBranches hp hname
        exact ⟨branch', List.mem_cons_of_mem _ hbranch', h⟩

end

lemma mem_waysOfBranches {branches : List (List Node)} {p : Phrasing} :
    p ∈ waysOfBranches branches ↔ ∃ branch ∈ branches, p ∈ ways branch := by
  induction branches with
  | nil => simp [waysOfBranches]
  | cons branch branches ih => simp [waysOfBranches, ih]

/-- Something can be said for a sequence if something can be said for each element. -/
lemma exists_mem_ways {nodes : List Node} (h : ∀ node ∈ nodes, ∃ p, p ∈ node.ways) :
    ∃ p, p ∈ ways nodes := by
  induction nodes with
  | nil => exact ⟨[], by simp [ways]⟩
  | cons node nodes ih =>
      obtain ⟨⟨head, hhead⟩, hnodes⟩ := List.forall_mem_cons.mp h
      obtain ⟨tail, htail⟩ := ih hnodes
      exact ⟨head ++ tail, by rw [ways]; exact mem_combine.mpr ⟨head, hhead, tail, htail, rfl⟩⟩

lemma exists_mem_ways_node {node : Node} (h : node.Sayable) : ∃ p, p ∈ node.ways := by
  induction h with
  | word raw => exact ⟨wordTokens raw, by simp [Node.ways]⟩
  | slot name => exact ⟨[.slot name], by simp [Node.ways]⟩
  | choice hne _ ih =>
      obtain ⟨branch, branches, rfl⟩ := List.exists_cons_of_ne_nil hne
      obtain ⟨p, hp⟩ := exists_mem_ways (ih branch List.mem_cons_self)
      exact ⟨p, by rw [Node.ways, waysOfBranches]; exact List.mem_append_left _ hp⟩

/-- A slot that one element can contribute turns up in a phrasing of the sequence. -/
lemma exists_slot_mem_ways {name : String} {nodes : List Node}
    (hsayable : ∀ node ∈ nodes, node.Sayable) {node : Node} (hnode : node ∈ nodes)
    (h : ∃ p ∈ node.ways, Token.slot name ∈ p) :
    ∃ p ∈ ways nodes, Token.slot name ∈ p := by
  induction nodes with
  | nil => cases hnode
  | cons node' nodes ih =>
      obtain ⟨hfirst, hrest⟩ := List.forall_mem_cons.mp hsayable
      rw [ways]
      rcases List.mem_cons.mp hnode with rfl | hnode
      · obtain ⟨head, hhead, hname⟩ := h
        obtain ⟨tail, htail⟩ := exists_mem_ways fun n hn => exists_mem_ways_node (hrest n hn)
        exact ⟨head ++ tail, mem_combine.mpr ⟨head, hhead, tail, htail, rfl⟩,
          List.mem_append_left _ hname⟩
      · obtain ⟨tail, htail, hname⟩ := ih hrest hnode
        obtain ⟨head, hhead⟩ := exists_mem_ways_node hfirst
        exact ⟨head ++ tail, mem_combine.mpr ⟨head, hhead, tail, htail, rfl⟩,
          List.mem_append_right _ hname⟩

lemma exists_slot_mem_ways_node {name : String} {node : Node} (h : node.Mentions name)
    (hsayable : node.Sayable) : ∃ p ∈ node.ways, Token.slot name ∈ p := by
  induction h with
  | slot => exact ⟨[.slot name], by simp [Node.ways], List.mem_singleton_self _⟩
  | choice hbranch hnode _ ih =>
      cases hsayable with
      | choice _ hsayable =>
          obtain ⟨p, hp, hname⟩ :=
            exists_slot_mem_ways (hsayable _ hbranch) hnode (ih (hsayable _ hbranch _ hnode))
          exact ⟨p, by rw [Node.ways]; exact mem_waysOfBranches.mpr ⟨_, hbranch, hp⟩, hname⟩

/-- **The slots of the phrasings are the slots of the template**, if every group offers an
alternative. -/
theorem exists_slot_mem_ways_iff {name : String} {nodes : List Node}
    (hsayable : ∀ node ∈ nodes, node.Sayable) :
    (∃ p ∈ ways nodes, Token.slot name ∈ p) ↔ ∃ node ∈ nodes, node.Mentions name := by
  constructor
  · rintro ⟨p, hp, hname⟩
    exact mentions_of_mem_ways hp hname
  · rintro ⟨node, hnode, h⟩
    exact exists_slot_mem_ways hsayable hnode (exists_slot_mem_ways_node h (hsayable node hnode))

/-! ## Elements of templates -/

lemma ne_nil_of_isAlternatives {branches : List (List Node)} {text : List Char}
    (h : IsAlternatives branches text) : branches ≠ [] := by
  cases h <;> exact List.cons_ne_nil _ _

/-- The property holds of words and of slots as the grammar has them, and of a group if it holds of
all elements in its alternatives. -/
structure Hereditary (P : Node → Prop) : Prop where
  word : ∀ raw : List Char, raw ≠ [] → (∀ c ∈ raw, isWordChar c = true) → P (.word raw)
  slot : ∀ name : List Char, name ≠ [] → (∀ c ∈ name, isSlotChar c = true) →
    P (.slot (String.ofList name))
  choice : ∀ branches : List (List Node), branches ≠ [] →
    (∀ branch ∈ branches, ∀ node ∈ branch, P node) → P (.choice branches)

section Hereditary

variable {P : Node → Prop}

mutual

lemma Hereditary.of_isElement (hP : Hereditary P) : ∀ {node : Node} {text after : List Char},
    IsElement node text after → P node
  | _, _, _, .word hne hraw _ => hP.word _ hne hraw
  | _, _, _, .slot hne hname _ _ => hP.slot _ hne hname
  | _, _, _, .group hbody =>
      hP.choice _ (ne_nil_of_isAlternatives hbody) (hP.of_isAlternatives hbody)

lemma Hereditary.of_isAlternatives (hP : Hereditary P) :
    ∀ {branches : List (List Node)} {text : List Char}, IsAlternatives branches text →
      ∀ branch ∈ branches, ∀ node ∈ branch, P node
  | _, _, .last h => List.forall_mem_singleton.mpr (hP.of_isTemplate h)
  | _, _, .bar h hrest =>
      List.forall_mem_cons.mpr ⟨hP.of_isTemplate h, hP.of_isAlternatives hrest⟩

/-- **A hereditary property holds of the elements of every template.** -/
lemma Hereditary.of_isTemplate (hP : Hereditary P) : ∀ {nodes : List Node} {text : List Char},
    IsTemplate nodes text → ∀ node ∈ nodes, P node
  | _, _, .nil _ => List.forall_mem_nil _
  | _, _, .cons _ htext hrest =>
      List.forall_mem_cons.mpr ⟨hP.of_isElement htext, hP.of_isTemplate hrest⟩

end

end Hereditary

lemma hereditary_sayable : Hereditary Node.Sayable where
  word raw _ _ := .word raw
  slot _ _ _ := .slot _
  choice _ := .choice

/-- In a template every group offers an alternative, which may be empty. -/
lemma sayable_of_isTemplate {nodes : List Node} {text : List Char} (h : IsTemplate nodes text) :
    ∀ node ∈ nodes, node.Sayable :=
  hereditary_sayable.of_isTemplate h

end Template

/-! ## Templates are made of their characters -/

/-- Words consist of word characters and names of slots of theirs, and neither is empty. -/
inductive Node.Written : Node → Prop
  | word {raw : List Char} (hne : raw ≠ []) (h : ∀ c ∈ raw, Template.isWordChar c = true) :
      Node.Written (.word raw)
  | slot {name : List Char} (hne : name ≠ []) (h : ∀ c ∈ name, Template.isSlotChar c = true) :
      Node.Written (.slot (String.ofList name))
  | choice {branches : List (List Node)} (h : ∀ branch ∈ branches, ∀ node ∈ branch, node.Written) :
      Node.Written (.choice branches)

namespace Template

lemma hereditary_written : Hereditary Node.Written where
  word _ := .word
  slot _ := .slot
  choice _ _ := .choice

/-- **What the reader returns is made of the characters of templates.** -/
theorem written_parse {template : String} {nodes : List Node} (h : parse template = .ok nodes) :
    ∀ node ∈ nodes, node.Written :=
  hereditary_written.of_isTemplate (parse_eq_ok_iff.mp h)

end Template

end Dialogue
