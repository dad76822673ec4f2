import Dialogue.Template.Matcher
import Mathlib.Data.List.TakeWhile

/-!
# The grammar of templates

The reader of templates works in two passes and goes as far as it can.  What it should accept is
said here without any of that, by a grammar over pieces of text:

    template     = (gap element)… gap
    element      = "[[" gap name gap "]]"  |  "{" alternatives "}"  |  word
    alternatives = template ("|" template)…

A word is maximal: it does not stop before another word character.  That is the only place where
the grammar looks at what follows, and it is why a text has at most one tree.

* `IsTemplate`, `IsAlternatives`, `IsElement` — the grammar, with the tree of each text.
* `sound_read` — what the reader returns is a tree of what it has consumed.
* `reads_of_isElement`, `sequence_of_isTemplate`, `alternatives_of_isAlternatives` — the reader
  finds the tree, whatever follows, as long as that cannot be taken for more of the same.
-/

namespace Dialogue.Template

/-! ## The grammar -/

/-- The text may stand between elements. -/
def IsGap (cs : List Char) : Prop := ∀ c ∈ cs, isSpacing c = true

/-- A word may end before the text: the text does not go on with a word character. -/
def EndsWord (cs : List Char) : Prop := ∀ c ∈ cs.head?, isWordChar c = false

mutual

/-- The text is an element when `after` follows it. -/
inductive IsElement : Node → List Char → List Char → Prop
  | word {raw after : List Char} (hne : raw ≠ []) (hraw : ∀ c ∈ raw, isWordChar c = true)
      (hafter : EndsWord after) : IsElement (.word raw) raw after
  | slot {front name back after : List Char} (hne : name ≠ [])
      (hname : ∀ c ∈ name, isSlotChar c = true) (hfront : IsGap front) (hback : IsGap back) :
      IsElement (.slot (String.ofList name)) ('[' :: '[' :: (front ++ name ++ back ++ [']', ']']))
        after
  | group {branches : List (List Node)} {body after : List Char}
      (hbody : IsAlternatives branches body) :
      IsElement (.choice branches) ('{' :: (body ++ ['}'])) after

/-- The text is one or more templates, separated by bars. -/
inductive IsAlternatives : List (List Node) → List Char → Prop
  | last {nodes : List Node} {text : List Char} (h : IsTemplate nodes text) :
      IsAlternatives [nodes] text
  | bar {nodes : List Node} {branches : List (List Node)} {text rest : List Char}
      (h : IsTemplate nodes text) (hrest : IsAlternatives branches rest) :
      IsAlternatives (nodes :: branches) (text ++ '|' :: rest)

/-- The text is a template with these elements. -/
inductive IsTemplate : List Node → List Char → Prop
  | nil {gap : List Char} (hgap : IsGap gap) : IsTemplate [] gap
  | cons {node : Node} {nodes : List Node} {gap text rest : List Char} (hgap : IsGap gap)
      (htext : IsElement node text rest) (hrest : IsTemplate nodes rest) :
      IsTemplate (node :: nodes) (gap ++ (text ++ rest))

end

/-! ## Characters -/

lemma isSpacing_iff {c : Char} :
    isSpacing c = true ↔ c = ' ' ∨ c = '\t' ∨ c = '\r' ∨ c = '\n' := by
  simp [isSpacing, or_assoc]

lemma isBlank_of_isSpacing {c : Char} (h : isSpacing c = true) : Text.isBlank c = true := by
  rcases isSpacing_iff.mp h with rfl | rfl | rfl | rfl <;> rfl

lemma isBlank_of_isWordChar {c : Char} (h : isWordChar c = true) : Text.isBlank c = false := by
  rw [isWordChar, Bool.and_eq_true] at h
  simpa using h.1

lemma isSpacing_of_isWordChar {c : Char} (h : isWordChar c = true) : isSpacing c = false := by
  by_contra hspacing
  have hblank := isBlank_of_isSpacing (by simpa using hspacing)
  exact Bool.noConfusion (hblank.symm.trans (isBlank_of_isWordChar h))

lemma isSlotChar_of_isSpacing {c : Char} (h : isSpacing c = true) : isSlotChar c = false := by
  rcases isSpacing_iff.mp h with rfl | rfl | rfl | rfl <;> decide

lemma isSpacing_of_isSlotChar {c : Char} (h : isSlotChar c = true) : isSpacing c = false := by
  by_contra hspacing
  exact Bool.noConfusion (h.symm.trans (isSlotChar_of_isSpacing (by simpa using hspacing)))

lemma ne_of_isWordChar {c d : Char} (h : isWordChar c = true) (hd : isDelimiter d = true) :
    c ≠ d := by
  rintro rfl
  simp [isWordChar, hd] at h

/-! ## Runs of characters -/

section Runs

variable {p : Char → Bool} {run rest : List Char}

lemma takeWhile_run (hrun : ∀ c ∈ run, p c = true) (hrest : ∀ c ∈ rest.head?, p c = false) :
    (run ++ rest).takeWhile p = run := by
  rw [List.takeWhile_append_of_pos hrun]
  cases rest with
  | nil => simp
  | cons c rest => simp [hrest c rfl]

lemma dropWhile_run (hrun : ∀ c ∈ run, p c = true) (hrest : ∀ c ∈ rest.head?, p c = false) :
    (run ++ rest).dropWhile p = rest := by
  rw [List.dropWhile_append_of_pos hrun]
  cases rest with
  | nil => rfl
  | cons c rest => simp [hrest c rfl]

lemma head?_append_of_ne_nil (hne : run ≠ []) (hrun : ∀ c ∈ run, p c = false) :
    ∀ c ∈ (run ++ rest).head?, p c = false := by
  obtain ⟨d, ds, rfl⟩ := List.exists_cons_of_ne_nil hne
  rintro c ⟨⟩
  exact hrun d List.mem_cons_self

end Runs

lemma skipSpacing_gap_append {gap cs : List Char} (hgap : IsGap gap) :
    skipSpacing (gap ++ cs) = skipSpacing cs := by
  rw [skipSpacing, List.dropWhile_append_of_pos hgap, ← skipSpacing]

lemma skipSpacing_eq_self {cs : List Char} (h : ∀ c ∈ cs.head?, isSpacing c = false) :
    skipSpacing cs = cs :=
  dropWhile_run (List.forall_mem_nil _) h

/-- A text is a gap and what is left without it. -/
lemma exists_gap (cs : List Char) : ∃ gap, IsGap gap ∧ cs = gap ++ skipSpacing cs :=
  ⟨cs.takeWhile isSpacing, fun _ hc => List.mem_takeWhile_imp hc,
    (List.takeWhile_append_dropWhile).symm⟩

/-! ## Slots and words -/

lemma slot?_of_skipSpacing {body rest : List Char}
    (hrest : skipSpacing ((skipSpacing body).dropWhile isSlotChar) = ']' :: ']' :: rest)
    (hne : (skipSpacing body).takeWhile isSlotChar ≠ []) :
    slot? ('[' :: '[' :: body) = some (String.ofList ((skipSpacing body).takeWhile isSlotChar),
      ⟨rest, length_rest_of_slot hrest⟩) := by
  rw [slot?]
  split
  · rename_i rest' hrest'
    obtain rfl : rest' = rest := by simpa [hrest] using hrest'.symm
    rw [if_neg (by simpa using hne)]
  · rename_i hnone
    exact absurd hrest (hnone rest)

lemma exists_of_slot? {cs : List Char} {name : String} {rest : Rest cs}
    (h : slot? cs = some (name, rest)) :
    ∃ text, cs = text ++ rest.1 ∧ IsElement (.slot name) text rest.1 := by
  unfold slot? at h
  split at h
  · rename_i body
    split at h
    · rename_i rest' hrest'
      dsimp only at h
      split at h
      · cases h
      · rename_i hne
        obtain ⟨rfl, rfl⟩ := Prod.mk.inj (Option.some.inj h)
        obtain ⟨front, hfront, hbody⟩ := exists_gap body
        obtain ⟨back, hback, hafter⟩ := exists_gap ((skipSpacing body).dropWhile isSlotChar)
        have hname : ∀ c ∈ (skipSpacing body).takeWhile isSlotChar, isSlotChar c = true :=
          fun _ hc => List.mem_takeWhile_imp hc
        have hwhole : body = front ++ ((skipSpacing body).takeWhile isSlotChar ++
            (back ++ ']' :: ']' :: rest')) := by
          rw [← hrest', ← hafter, List.takeWhile_append_dropWhile, ← hbody]
        exact ⟨_, by simpa using hwhole, .slot (by simpa using hne) hname hfront hback⟩
    · cases h
  · cases h

lemma exists_of_word? {cs raw : List Char} {rest : Rest cs} (h : word? cs = some (raw, rest)) :
    cs = raw ++ rest.1 ∧ IsElement (.word raw) raw rest.1 := by
  cases cs with
  | nil => simp [word?] at h
  | cons c cs =>
      rw [word?] at h
      split at h
      · rename_i hc
        obtain ⟨rfl, rfl⟩ := Prod.mk.inj (Option.some.inj h)
        refine ⟨by simp, .word (List.cons_ne_nil _ _) ?_ ?_⟩
        · exact List.forall_mem_cons.mpr ⟨hc, fun _ hd => List.mem_takeWhile_imp hd⟩
        · intro d hd
          have hnot := List.head?_dropWhile_not isWordChar cs
          rw [hd] at hnot
          simpa using hnot
      · cases h

/-- An element stays one when less follows it. -/
lemma IsElement.of_append {node : Node} {text after more : List Char}
    (h : IsElement node text (after ++ more)) : IsElement node text after := by
  cases h with
  | word hne hraw hafter =>
      refine .word hne hraw fun c hc => hafter c ?_
      cases after with
      | nil => cases hc
      | cons d after => exact hc
  | slot hne hname hfront hback => exact .slot hne hname hfront hback
  | group hbody => exact .group hbody

/-! ## The steps of the reader -/

lemma element?_of_slot {c : Char} {cs : List Char} (hc : c ≠ '{') {name : String}
    {rest : Rest (c :: cs)} (h : slot? (c :: cs) = some (name, rest)) :
    element? (c :: cs) = some (.slot name, rest) := by
  rw [element?, if_neg hc, h]

lemma element?_of_word {c : Char} {cs : List Char} (hc : c ≠ '{') {raw : List Char}
    {rest : Rest (c :: cs)} (hslot : slot? (c :: cs) = none)
    (h : word? (c :: cs) = some (raw, rest)) : element? (c :: cs) = some (.word raw, rest) := by
  rw [element?, if_neg hc, hslot, h]
  rfl

/-- A sequence goes on as long as there is an element. -/
lemma sequence_of_element? {cs : List Char} {node : Node} {rest : Rest (skipSpacing cs)}
    (h : element? (skipSpacing cs) = some (node, rest)) :
    (sequence cs).1 = node :: (sequence rest.1).1 ∧
      (sequence cs).2.1 = (sequence rest.1).2.1 := by
  obtain ⟨rest, hlt⟩ := rest
  rw [sequence, h]
  exact ⟨rfl, rfl⟩

/-- A sequence ends where there is no element. -/
lemma sequence_of_element?_eq_none {cs : List Char} (h : element? (skipSpacing cs) = none) :
    (sequence cs).1 = [] ∧ (sequence cs).2.1 = cs := by
  rw [sequence, h]
  exact ⟨rfl, rfl⟩

/-! ## The reader is sound -/

lemma afterBar?_eq_some {cs : List Char} {rest : Rest cs} (h : afterBar? cs = some rest) :
    skipSpacing cs = '|' :: rest.1 := by
  unfold afterBar? at h
  split at h
  · rename_i hbar
    rw [hbar, ← Option.some.inj h]
  · cases h

lemma afterBrace?_eq_some {cs : List Char} {left : { rest : List Char // rest.length ≤ cs.length }}
    {rest : Rest cs} (h : afterBrace? left = some rest) : left.1 = '}' :: rest.1 := by
  unfold afterBrace? at h
  split at h
  · rw [← Option.some.inj h]
  · cases h

/-- **What the reader returns is a tree of what it has consumed**: for an element, for alternatives,
and for a sequence with the gap behind it.  The cases are those of the reader. -/
theorem sound_read :
    (∀ cs : List Char, ∀ node rest, element? cs = some (node, rest) →
      ∃ text, cs = text ++ rest.1 ∧ IsElement node text rest.1) ∧
    (∀ cs : List Char, ∃ text, cs = text ++ (alternatives cs).2.1 ∧
      IsAlternatives (alternatives cs).1 text) ∧
    ∀ cs : List Char, ∃ text, cs = text ++ skipSpacing (sequence cs).2.1 ∧
      IsTemplate (sequence cs).1 text := by
  refine element?.mutual_induct
    (fun cs => ∀ node rest, element? cs = some (node, rest) →
      ∃ text, cs = text ++ rest.1 ∧ IsElement node text rest.1)
    (fun cs => ∃ text, cs = text ++ (alternatives cs).2.1 ∧ IsAlternatives (alternatives cs).1 text)
    (fun cs => ∃ text, cs = text ++ skipSpacing (sequence cs).2.1 ∧
      IsTemplate (sequence cs).1 text)
    ?atEnd ?group ?slot ?word ?bar ?lastBranch ?more ?noMore
  case atEnd =>
    intro node rest h
    simp [element?] at h
  case group =>
    intro cs branches left hbranches ih node rest h
    rw [element?, if_pos rfl, hbranches] at h
    obtain ⟨⟨after, hlt⟩, hafter, hnode⟩ := Option.map_eq_some_iff.mp h
    obtain ⟨rfl, rfl⟩ := Prod.mk.inj hnode
    obtain ⟨body, hcs, hbody⟩ := ih
    rw [hbranches] at hcs hbody
    have hwhole : cs = body ++ '}' :: after := hcs.trans (by rw [afterBrace?_eq_some hafter])
    exact ⟨_, by simpa using hwhole, .group hbody⟩
  case slot =>
    intro c cs hc name left hslot node rest h
    rw [element?_of_slot hc hslot] at h
    obtain ⟨rfl, rfl⟩ := Prod.mk.inj (Option.some.inj h)
    exact exists_of_slot? hslot
  case word =>
    intro c cs hc hslot node rest h
    rw [element?, if_neg hc, hslot] at h
    obtain ⟨⟨raw, left⟩, hword, hnode⟩ := Option.map_eq_some_iff.mp h
    obtain ⟨rfl, rfl⟩ := Prod.mk.inj hnode
    exact ⟨raw, exists_of_word? hword⟩
  case bar =>
    intro cs nodes left hle hnodes left' hlt hbar _ branches left'' hle'' hbranches ih ih'
    obtain ⟨text, hcs, htext⟩ := ih
    obtain ⟨rest, hleft', hrest⟩ := ih'
    rw [hnodes] at hcs htext
    rw [hbranches] at hleft' hrest
    rw [alternatives, hnodes]
    simp only [hbar, hbranches]
    have hwhole : cs = text ++ '|' :: left' := hcs.trans (by rw [afterBar?_eq_some hbar])
    exact ⟨_, by simpa [← hleft'] using hwhole, .bar htext hrest⟩
  case lastBranch =>
    intro cs nodes left hle hnodes hbar ih
    obtain ⟨text, hcs, htext⟩ := ih
    rw [hnodes] at hcs htext
    rw [alternatives, hnodes]
    simp only [hbar]
    exact ⟨text, hcs, .last htext⟩
  case more =>
    intro cs node left hlt hnode _ nodes left' hle hnodes ih ih'
    obtain ⟨text, hskip, htext⟩ := ih node _ hnode
    obtain ⟨rest, hleft, hrest⟩ := ih'
    obtain ⟨gap, hgap, hcs⟩ := exists_gap cs
    rw [(sequence_of_element? hnode).1, (sequence_of_element? hnode).2]
    have hwhole : cs = gap ++ (text ++ left) := hcs.trans (by rw [hskip])
    have htext' : IsElement node text (rest ++ skipSpacing (sequence left).2.1) := hleft ▸ htext
    exact ⟨_, by simpa [← hleft] using hwhole, .cons hgap htext'.of_append hrest⟩
  case noMore =>
    intro cs hnode _
    obtain ⟨gap, hgap, hcs⟩ := exists_gap cs
    rw [(sequence_of_element?_eq_none hnode).1, (sequence_of_element?_eq_none hnode).2]
    exact ⟨gap, hcs, .nil hgap⟩

/-! ## The reader is complete -/

/-- The text is at its end or goes on with what ends an alternative. -/
def Stops (cs : List Char) : Prop := ∀ c ∈ cs.head?, c = '|' ∨ c = '}'

lemma stops_bar (cs : List Char) : Stops ('|' :: cs) := by
  rintro c ⟨⟩
  exact .inl rfl

lemma stops_brace (cs : List Char) : Stops ('}' :: cs) := by
  rintro c ⟨⟩
  exact .inr rfl

lemma EndsWord.append {cs ds : List Char} (hcs : EndsWord cs) (hds : EndsWord ds) :
    EndsWord (cs ++ ds) := by
  cases cs with
  | nil => exact hds
  | cons c cs => exact hcs

lemma Stops.endsWord {cs : List Char} (h : Stops cs) : EndsWord cs := by
  intro c hc
  rcases h c hc with rfl | rfl <;> rfl

lemma Stops.skipSpacing_eq {cs : List Char} (h : Stops cs) : skipSpacing cs = cs := by
  refine skipSpacing_eq_self fun c hc => ?_
  rcases h c hc with rfl | rfl <;> rfl

lemma Stops.element?_eq_none {cs : List Char} (h : Stops cs) : element? cs = none := by
  cases cs with
  | nil => rw [element?]
  | cons c cs =>
      rcases h c rfl with rfl | rfl <;> simp [element?, slot?, word?, isWordChar, isDelimiter]

lemma afterBar?_of_skipSpacing {cs rest : List Char} (h : skipSpacing cs = '|' :: rest) :
    afterBar? cs = some ⟨rest, length_lt_of_skipSpacing_eq h⟩ := by
  unfold afterBar?
  split
  · rename_i rest' hrest'
    obtain rfl : rest' = rest := by simpa [h] using hrest'.symm
    rfl
  · rename_i hnone
    exact absurd h (hnone rest)

lemma afterBar?_eq_none {cs : List Char} (h : ∀ rest, skipSpacing cs ≠ '|' :: rest) :
    afterBar? cs = none := by
  unfold afterBar?
  split
  · rename_i rest hrest
    exact absurd hrest (h rest)
  · rfl

lemma alternatives_of_bar {cs rest : List Char} (h : skipSpacing (sequence cs).2.1 = '|' :: rest) :
    (alternatives cs).1 = (sequence cs).1 :: (alternatives rest).1 ∧
      (alternatives cs).2.1 = (alternatives rest).2.1 := by
  rw [alternatives]
  rcases hread : sequence cs with ⟨nodes, left, hle⟩
  rw [hread] at h
  simp only [afterBar?_of_skipSpacing h, and_self]

lemma alternatives_of_no_bar {cs : List Char}
    (h : ∀ rest, skipSpacing (sequence cs).2.1 ≠ '|' :: rest) :
    (alternatives cs).1 = [(sequence cs).1] ∧
      (alternatives cs).2.1 = skipSpacing (sequence cs).2.1 := by
  rw [alternatives]
  rcases hread : sequence cs with ⟨nodes, left, hle⟩
  rw [hread] at h
  simp only [afterBar?_eq_none h, and_self]

/-- The reader finds an element at the front of a text and stops before `after`. -/
def Reads (cs : List Char) (node : Node) (after : List Char) : Prop :=
  ∃ rest : Rest cs, element? cs = some (node, rest) ∧ rest.1 = after

lemma reads_word {raw after : List Char} (hne : raw ≠ []) (hraw : ∀ c ∈ raw, isWordChar c = true)
    (hafter : EndsWord after) : Reads (raw ++ after) (.word raw) after := by
  obtain ⟨c, cs, rfl⟩ := List.exists_cons_of_ne_nil hne
  obtain ⟨hc, hcs⟩ := List.forall_mem_cons.mp hraw
  have hslot : slot? (c :: (cs ++ after)) = none := by
    rw [slot?]
    intro body hbracket
    exact ne_of_isWordChar hc rfl (List.cons.inj hbracket).1
  have hword : word? (c :: (cs ++ after)) = some (c :: (cs ++ after).takeWhile isWordChar,
      ⟨(cs ++ after).dropWhile isWordChar, length_rest_of_word c _⟩) := by
    rw [word?, if_pos hc]
  rw [takeWhile_run hcs hafter] at hword
  exact ⟨_, element?_of_word (ne_of_isWordChar hc rfl) hslot hword, dropWhile_run hcs hafter⟩

lemma reads_slot {front name back : List Char} (hne : name ≠ [])
    (hname : ∀ c ∈ name, isSlotChar c = true) (hfront : IsGap front) (hback : IsGap back)
    (after : List Char) :
    Reads ('[' :: '[' :: (front ++ (name ++ (back ++ ']' :: ']' :: after))))
      (.slot (String.ofList name)) after := by
  generalize hbody : front ++ (name ++ (back ++ ']' :: ']' :: after)) = body
  have hskip : skipSpacing body = name ++ (back ++ ']' :: ']' :: after) := by
    rw [← hbody, skipSpacing_gap_append hfront, skipSpacing_eq_self]
    exact head?_append_of_ne_nil hne fun c hc => isSpacing_of_isSlotChar (hname c hc)
  have hends : ∀ c ∈ (back ++ ']' :: ']' :: after).head?, isSlotChar c = false := by
    cases back with
    | nil =>
        rintro c ⟨⟩
        decide
    | cons d back =>
        rintro c ⟨⟩
        exact isSlotChar_of_isSpacing (hback d List.mem_cons_self)
  have htake : (skipSpacing body).takeWhile isSlotChar = name := by
    rw [hskip, takeWhile_run hname hends]
  have hrest : skipSpacing ((skipSpacing body).dropWhile isSlotChar) = ']' :: ']' :: after := by
    rw [hskip, dropWhile_run hname hends, skipSpacing_gap_append hback]
    rfl
  have hslot := slot?_of_skipSpacing hrest (by rwa [htake])
  rw [htake] at hslot
  exact ⟨_, element?_of_slot (by decide) hslot, rfl⟩

lemma reads_group {inner after : List Char} (h : (alternatives inner).2.1 = '}' :: after) :
    Reads ('{' :: inner) (.choice (alternatives inner).1) after := by
  rw [Reads, element?, if_pos rfl]
  rcases hread : alternatives inner with ⟨branches, left, hle⟩
  rw [hread] at h
  obtain rfl : left = '}' :: after := h
  exact ⟨_, rfl, rfl⟩

lemma sequence_of_reads {cs after : List Char} {node : Node}
    (h : Reads (skipSpacing cs) node after) :
    (sequence cs).1 = node :: (sequence after).1 ∧ (sequence cs).2.1 = (sequence after).2.1 := by
  obtain ⟨rest, hnode, rfl⟩ := h
  exact sequence_of_element? hnode

lemma IsElement.skipSpacing_append {node : Node} {text after : List Char}
    (h : IsElement node text after) (more : List Char) :
    skipSpacing (text ++ more) = text ++ more := by
  cases h with
  | word hne hraw _ =>
      exact skipSpacing_eq_self
        (head?_append_of_ne_nil hne fun c hc => isSpacing_of_isWordChar (hraw c hc))
  | slot => exact skipSpacing_eq_self (by rintro c ⟨⟩; rfl)
  | group => exact skipSpacing_eq_self (by rintro c ⟨⟩; rfl)

mutual

/-- **An element is read**, whatever follows it, unless a word would go on there. -/
theorem reads_of_isElement : ∀ {node : Node} {text after : List Char},
    IsElement node text after → ∀ {after' : List Char}, (EndsWord after → EndsWord after') →
      Reads (text ++ after') node after'
  | _, _, _, .word hne hraw hafter, after', hends => reads_word hne hraw (hends hafter)
  | _, _, _, .slot hne hname hfront hback, after', _ => by
      simpa using reads_slot hne hname hfront hback after'
  | _, _, _, .group hbody, after', _ => by
      obtain ⟨hbranches, hleft⟩ := alternatives_of_isAlternatives hbody after'
      have hgroup := reads_group hleft
      rw [hbranches] at hgroup
      simpa using hgroup

/-- **Alternatives are read** up to the brace that closes them. -/
theorem alternatives_of_isAlternatives : ∀ {branches : List (List Node)} {text : List Char},
    IsAlternatives branches text → ∀ after : List Char,
      (alternatives (text ++ '}' :: after)).1 = branches ∧
        (alternatives (text ++ '}' :: after)).2.1 = '}' :: after
  | _, _, @IsAlternatives.last _ text h, after => by
      obtain ⟨hnodes, hleft⟩ := sequence_of_isTemplate h (stops_brace after)
      have hbar : ∀ rest, skipSpacing (sequence (text ++ '}' :: after)).2.1 ≠ '|' :: rest := by
        simp [hleft]
      obtain ⟨hbranches, hrest⟩ := alternatives_of_no_bar hbar
      exact ⟨hbranches.trans (by rw [hnodes]), hrest.trans hleft⟩
  | _, _, @IsAlternatives.bar _ _ text rest h hrest, after => by
      obtain ⟨hnodes, hleft⟩ := sequence_of_isTemplate h (stops_bar (rest ++ '}' :: after))
      obtain ⟨hothers, hend⟩ := alternatives_of_isAlternatives hrest after
      obtain ⟨hbranches, hrest⟩ := alternatives_of_bar hleft
      rw [List.append_assoc, List.cons_append, hbranches, hnodes, hothers, hrest, hend]
      exact ⟨rfl, rfl⟩

/-- **A template is read** to its end, and then comes what cannot belong to it. -/
theorem sequence_of_isTemplate : ∀ {nodes : List Node} {text : List Char},
    IsTemplate nodes text → ∀ {after : List Char}, Stops after →
      (sequence (text ++ after)).1 = nodes ∧ skipSpacing (sequence (text ++ after)).2.1 = after
  | _, _, @IsTemplate.nil gap hgap, after, hstops => by
      have hskip : skipSpacing (gap ++ after) = after := by
        rw [skipSpacing_gap_append hgap, hstops.skipSpacing_eq]
      have hnone : element? (skipSpacing (gap ++ after)) = none := by
        rw [hskip, hstops.element?_eq_none]
      obtain ⟨hnodes, hleft⟩ := sequence_of_element?_eq_none hnone
      exact ⟨hnodes, by rw [hleft, hskip]⟩
  | _, _, @IsTemplate.cons _ _ gap text rest hgap htext hrest, after, hstops => by
      have helement := reads_of_isElement htext fun hends => hends.append hstops.endsWord
      have hskip : skipSpacing (gap ++ (text ++ (rest ++ after))) = text ++ (rest ++ after) := by
        rw [skipSpacing_gap_append hgap, htext.skipSpacing_append]
      obtain ⟨hnodes, hleft⟩ := sequence_of_isTemplate hrest hstops
      obtain ⟨hcons, hend⟩ := sequence_of_reads (hskip.symm ▸ helement)
      rw [List.append_assoc, List.append_assoc, hcons, hend, hnodes, hleft]
      exact ⟨rfl, rfl⟩

end

end Dialogue.Template
