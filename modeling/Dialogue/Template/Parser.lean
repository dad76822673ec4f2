import Dialogue.Template.Basic

/-! # Reading templates

A template is read in two passes.  The first looks at delimiters only, so that an unbalanced one is
named as what it is; the second reads the elements by the grammar

    template    = sequence spacing
    sequence    = (spacing element)…
    element     = slot | group | word
    slot        = "[[" spacing name spacing "]]"
    group       = "{" sequence spacing ("|" sequence spacing)… "}"

where a word is a maximal stretch of word characters.  Each step returns what is left with the proof
that it is shorter, which is why the reading ends.

* `Template.delimiterFault?` — the first pass.
* `Template.element?`, `Template.sequence` — the second.
* `Template.parse` — both; text after the last element is malformed where that element ends.
-/

namespace Dialogue.Template

/-! ## Delimiters -/

/-- The unbalanced delimiter of a text, if there is one: `depth` groups are open before it, and it
may stand inside a slot, where no delimiter but the end of the slot counts.  The offset of a closing
brace without an opening one is given by the text that starts with it. -/
def unbalanced? (template : List Char) : Nat → Bool → List Char → Option TemplateFault
  | _, true, [] => some .unterminatedSlot
  | depth, false, [] => if depth > 0 then some .unterminatedGroup else none
  | depth, true, ']' :: ']' :: cs => unbalanced? template depth false cs
  | depth, true, _ :: cs => unbalanced? template depth true cs
  | depth, false, '[' :: '[' :: cs => unbalanced? template depth true cs
  | depth, false, c :: cs =>
    if c == '{' then unbalanced? template (depth + 1) false cs
    else if c == '}' then
      if depth == 0 then some (.malformed (byteLength template - byteLength (c :: cs)))
      else unbalanced? template (depth - 1) false cs
    else unbalanced? template depth false cs

/-- The unbalanced delimiter of a template, if there is one. -/
def delimiterFault? (template : List Char) : Option TemplateFault :=
  unbalanced? template 0 false template

/-! ## Elements -/

/-- The text without spacing at its front. -/
def skipSpacing (cs : List Char) : List Char := cs.dropWhile isSpacing

theorem length_dropWhile_le {α : Type} (p : α → Bool) (xs : List α) :
    (xs.dropWhile p).length ≤ xs.length :=
  (List.dropWhile_sublist p).length_le

theorem length_skipSpacing_le (cs : List Char) : (skipSpacing cs).length ≤ cs.length :=
  length_dropWhile_le _ cs

theorem length_lt_of_skipSpacing_eq {cs rest : List Char} {c : Char}
    (h : skipSpacing cs = c :: rest) : rest.length < cs.length := by
  have := length_skipSpacing_le cs
  rw [h] at this
  exact this

theorem length_rest_of_slot {body rest : List Char}
    (h : skipSpacing ((skipSpacing body).dropWhile isSlotChar) = ']' :: ']' :: rest) :
    rest.length < ('[' :: '[' :: body).length := by
  have h₁ := length_lt_of_skipSpacing_eq h
  have h₂ := length_dropWhile_le isSlotChar (skipSpacing body)
  have h₃ := length_skipSpacing_le body
  simp only [List.length_cons] at h₁ ⊢
  omega

theorem length_rest_of_word (c : Char) (cs : List Char) :
    (cs.dropWhile isWordChar).length < (c :: cs).length :=
  Nat.lt_succ_of_le (length_dropWhile_le isWordChar cs)

/-- What is left of a text after an element. -/
abbrev Rest (cs : List Char) := { rest : List Char // rest.length < cs.length }

/-- A slot at the front of a text. -/
def slot? (cs : List Char) : Option (String × Rest cs) :=
  match cs with
  | '[' :: '[' :: body =>
    let name := (skipSpacing body).takeWhile isSlotChar
    match h : skipSpacing ((skipSpacing body).dropWhile isSlotChar) with
    | ']' :: ']' :: rest =>
      if name.isEmpty then none else some (String.ofList name, ⟨rest, length_rest_of_slot h⟩)
    | _ => none
  | _ => none

/-- A word at the front of a text. -/
def word? (cs : List Char) : Option (List Char × Rest cs) :=
  match cs with
  | [] => none
  | c :: cs =>
    if isWordChar c then
      some (c :: cs.takeWhile isWordChar, ⟨cs.dropWhile isWordChar, length_rest_of_word c cs⟩)
    else none

/-- What follows a bar at the front of a text. -/
def afterBar? (cs : List Char) : Option (Rest cs) :=
  match h : skipSpacing cs with
  | '|' :: rest => some ⟨rest, length_lt_of_skipSpacing_eq h⟩
  | _ => none

/-- What follows a closing brace at the front of what is left of a text. -/
def afterBrace? {cs : List Char} :
    { rest : List Char // rest.length ≤ cs.length } → Option (Rest cs)
  | ⟨'}' :: rest, h⟩ => some ⟨rest, h⟩
  | _ => none

mutual

/-- An element at the front of a text. -/
def element? (cs : List Char) : Option (Node × Rest cs) :=
  match cs with
  | [] => none
  | c :: inner =>
    if c = '{' then
      let (branches, left) := alternatives inner
      (afterBrace? left).map fun ⟨rest, h⟩ => (.choice branches, ⟨rest, Nat.lt_succ_of_lt h⟩)
    else
      match slot? (c :: inner) with
      | some (name, rest) => some (.slot name, rest)
      | none => (word? (c :: inner)).map fun (raw, rest) => (.word raw, rest)
termination_by (cs.length, 0)
decreasing_by exact Prod.Lex.left _ _ (Nat.lt_succ_self _)

/-- The elements at the front of a text, as many as there are, and what is left after the last. -/
def sequence (cs : List Char) : List Node × { rest : List Char // rest.length ≤ cs.length } :=
  match element? (skipSpacing cs) with
  | some (node, ⟨rest, h⟩) =>
    have hlt : rest.length < cs.length := Nat.lt_of_lt_of_le h (length_skipSpacing_le cs)
    let (nodes, ⟨rest', h'⟩) := sequence rest
    (node :: nodes, ⟨rest', Nat.le_of_lt (Nat.lt_of_le_of_lt h' hlt)⟩)
  | none => ([], ⟨cs, Nat.le_refl _⟩)
termination_by (cs.length, 1)
decreasing_by
  · exact Prod.Lex.right' _ (length_skipSpacing_le cs) (by decide)
  · exact Prod.Lex.left _ _ hlt

/-- The alternatives at the front of a text, separated by bars, and what is left after them. -/
def alternatives (cs : List Char) :
    List (List Node) × { rest : List Char // rest.length ≤ cs.length } :=
  match sequence cs with
  | (nodes, ⟨rest, h⟩) =>
    match afterBar? rest with
    | some ⟨rest', h'⟩ =>
      have hlt : rest'.length < cs.length := Nat.lt_of_lt_of_le h' h
      let (branches, ⟨rest'', h''⟩) := alternatives rest'
      (nodes :: branches, ⟨rest'', Nat.le_of_lt (Nat.lt_of_le_of_lt h'' hlt)⟩)
    | none => ([nodes], ⟨skipSpacing rest, Nat.le_trans (length_skipSpacing_le rest) h⟩)
termination_by (cs.length, 2)
decreasing_by
  · exact Prod.Lex.right _ (by decide)
  · exact Prod.Lex.left _ _ hlt

end

/-! ## Templates -/

/-- The elements of a template. -/
def parse (template : String) : Except TemplateFault (List Node) :=
  let cs := template.toList
  match delimiterFault? cs with
  | some fault => .error fault
  | none =>
    match sequence cs with
    | (nodes, ⟨rest, _⟩) =>
      let rest := skipSpacing rest
      if rest.isEmpty then .ok nodes else .error (.malformed (byteLength cs - byteLength rest))

end Dialogue.Template
