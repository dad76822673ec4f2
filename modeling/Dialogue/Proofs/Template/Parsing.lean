import Dialogue.Proofs.Template.Grammar

/-!
# Reading templates is reading the grammar

The reader looks twice at a text: first at its delimiters alone, from one end to the other, and then
at its elements.  The first look knows nothing of elements; it goes from the beginning of a slot to
the next `]]`, whatever stands between.  So it has to be shown that it never stops a template
(`delimiterFault?_of_isTemplate`).  The second look is the reader of the grammar.  Where it stops
short, it has read a template and there is no element to go on with.

* `unbalanced?_of_isTemplate` — the first look passes over a template as if it were not there.
* `parse_eq_ok_iff` — what is read, and as which tree.
* **`parse_accepts_exactly_templates`** — this, and where the fault lies in what is not a template.
-/

namespace Dialogue.Template

/-! ## Delimiters -/

section Delimiters

variable {template : List Char} {depth : ℕ}

lemma unbalanced?_cons {c : Char} (hc : isDelimiter c = false) (cs : List Char) :
    unbalanced? template depth false (c :: cs) = unbalanced? template depth false cs := by
  have hne : ∀ d, isDelimiter d = true → c ≠ d := by
    rintro d hd rfl
    exact Bool.noConfusion (hd.symm.trans hc)
  rw [unbalanced?]
  · simp [hne '{' rfl, hne '}' rfl]
  · rintro _ rfl
    exact absurd rfl (hne '[' rfl)

lemma unbalanced?_run {run : List Char} (hrun : ∀ c ∈ run, isDelimiter c = false)
    (cs : List Char) :
    unbalanced? template depth false (run ++ cs) = unbalanced? template depth false cs := by
  induction run with
  | nil => rfl
  | cons c run ih =>
      obtain ⟨hc, hrun⟩ := List.forall_mem_cons.mp hrun
      rw [List.cons_append, unbalanced?_cons hc, ih hrun]

/-- Inside a slot, everything up to the next `]]` is passed over. -/
lemma unbalanced?_inside {run : List Char} (hrun : ∀ c ∈ run, c ≠ ']') (cs : List Char) :
    unbalanced? template depth true (run ++ ']' :: ']' :: cs) =
      unbalanced? template depth false cs := by
  induction run with
  | nil => rw [List.nil_append, unbalanced?]
  | cons c run ih =>
      obtain ⟨hc, hrun⟩ := List.forall_mem_cons.mp hrun
      rw [List.cons_append, unbalanced?, ih hrun]
      rintro _ rfl
      exact absurd rfl hc

lemma isDelimiter_of_isSpacing {c : Char} (h : isSpacing c = true) : isDelimiter c = false := by
  rcases isSpacing_iff.mp h with rfl | rfl | rfl | rfl <;> rfl

lemma isDelimiter_of_isWordChar {c : Char} (h : isWordChar c = true) : isDelimiter c = false := by
  simpa using (Bool.and_eq_true_iff.mp h).2

lemma ne_bracket_of_isSpacing {c : Char} (h : isSpacing c = true) : c ≠ ']' := by
  rintro rfl
  exact absurd h (by decide)

lemma ne_bracket_of_isSlotChar {c : Char} (h : isSlotChar c = true) : c ≠ ']' := by
  rintro rfl
  exact absurd h (by decide)

end Delimiters

mutual

lemma unbalanced?_of_isElement : ∀ {node : Node} {text after : List Char},
    IsElement node text after → ∀ (template : List Char) (depth : ℕ) (cs : List Char),
      unbalanced? template depth false (text ++ cs) = unbalanced? template depth false cs
  | _, _, _, .word _ hraw _, template, depth, cs =>
      unbalanced?_run (fun c hc => isDelimiter_of_isWordChar (hraw c hc)) cs
  | _, _, _, @IsElement.slot front name back _ _ hname hfront hback, template, depth, cs => by
      have hrun : ∀ c ∈ front ++ name ++ back, c ≠ ']' := by
        simp only [List.forall_mem_append]
        exact ⟨⟨fun c hc => ne_bracket_of_isSpacing (hfront c hc),
          fun c hc => ne_bracket_of_isSlotChar (hname c hc)⟩,
          fun c hc => ne_bracket_of_isSpacing (hback c hc)⟩
      rw [List.cons_append, List.cons_append, unbalanced?, List.append_assoc]
      exact unbalanced?_inside hrun cs
  | _, _, _, @IsElement.group _ body _ hbody, template, depth, cs => by
      have hopen : unbalanced? template depth false ('{' :: (body ++ '}' :: cs)) =
          unbalanced? template (depth + 1) false (body ++ '}' :: cs) := by
        rw [unbalanced?]
        · rfl
        · rintro _ ⟨⟩
      have hclose : unbalanced? template (depth + 1) false ('}' :: cs) =
          unbalanced? template depth false cs := by
        rw [unbalanced?]
        · rfl
        · rintro _ ⟨⟩
      rw [List.cons_append, List.append_assoc, List.singleton_append, hopen,
        unbalanced?_of_isAlternatives hbody, hclose]

lemma unbalanced?_of_isAlternatives : ∀ {branches : List (List Node)} {text : List Char},
    IsAlternatives branches text → ∀ (template : List Char) (depth : ℕ) (cs : List Char),
      unbalanced? template depth false (text ++ cs) = unbalanced? template depth false cs
  | _, _, .last h, template, depth, cs => unbalanced?_of_isTemplate h template depth cs
  | _, _, @IsAlternatives.bar _ _ text rest h hrest, template, depth, cs => by
      have hbar : unbalanced? template depth false ('|' :: (rest ++ cs)) =
          unbalanced? template depth false (rest ++ cs) := by
        rw [unbalanced?]
        · rfl
        · rintro _ ⟨⟩
      rw [List.append_assoc, List.cons_append, unbalanced?_of_isTemplate h, hbar,
        unbalanced?_of_isAlternatives hrest]

/-- **The delimiters of a template are balanced**: wherever it stands, the first look passes over
it. -/
theorem unbalanced?_of_isTemplate : ∀ {nodes : List Node} {text : List Char},
    IsTemplate nodes text → ∀ (template : List Char) (depth : ℕ) (cs : List Char),
      unbalanced? template depth false (text ++ cs) = unbalanced? template depth false cs
  | _, _, .nil hgap, template, depth, cs =>
      unbalanced?_run (fun c hc => isDelimiter_of_isSpacing (hgap c hc)) cs
  | _, _, .cons hgap htext hrest, template, depth, cs => by
      rw [List.append_assoc, List.append_assoc,
        unbalanced?_run fun c hc => isDelimiter_of_isSpacing (hgap c hc),
        unbalanced?_of_isElement htext, unbalanced?_of_isTemplate hrest]

end

lemma delimiterFault?_of_isTemplate {nodes : List Node} {text : List Char}
    (h : IsTemplate nodes text) : delimiterFault? text = none := by
  have hpassed := unbalanced?_of_isTemplate h text 0 []
  rw [List.append_nil] at hpassed
  rw [delimiterFault?, hpassed, unbalanced?]
  rfl

/-! ## Reading -/

/-- Where a sequence ends, there is no element. -/
lemma element?_rest_of_sequence (cs : List Char) :
    element? (skipSpacing (sequence cs).2.1) = none := by
  cases hnode : element? (skipSpacing cs) with
  | none => rw [(sequence_of_element?_eq_none hnode).2, hnode]
  | some read =>
      obtain ⟨node, rest, hlt⟩ := read
      rw [(sequence_of_element? hnode).2]
      exact element?_rest_of_sequence rest
termination_by cs.length
decreasing_by exact Nat.lt_of_lt_of_le hlt (length_skipSpacing_le cs)

/-- After the first look, the second one decides. -/
lemma parse_of_balanced {template : String} (h : delimiterFault? template.toList = none) :
    parse template =
      if skipSpacing (sequence template.toList).2.1 = [] then .ok (sequence template.toList).1
      else .error (.malformed (byteLength template.toList -
        byteLength (skipSpacing (sequence template.toList).2.1))) := by
  rw [parse, h]
  rcases sequence template.toList with ⟨nodes, rest, hle⟩
  simp only [List.isEmpty_iff]

/-- A template is read if its delimiters are balanced and nothing is left after the elements. -/
lemma parse_of_sequence {template : String} {nodes : List Node}
    (hfault : delimiterFault? template.toList = none)
    (hnodes : (sequence template.toList).1 = nodes)
    (hrest : skipSpacing (sequence template.toList).2.1 = []) : parse template = .ok nodes := by
  rw [parse_of_balanced hfault, if_pos hrest, hnodes]

/-- **What is read, and as which tree**: the templates of the grammar, as their trees. -/
theorem parse_eq_ok_iff {template : String} {nodes : List Node} :
    parse template = .ok nodes ↔ IsTemplate nodes template.toList := by
  constructor
  · intro h
    cases hfault : delimiterFault? template.toList with
    | some fault =>
        rw [parse, hfault] at h
        cases h
    | none =>
        rw [parse_of_balanced hfault] at h
        split at h
        · rename_i hrest
          obtain ⟨text, htext, hread⟩ := sound_read.2.2 template.toList
          rw [hrest, List.append_nil] at htext
          rw [htext, ← Except.ok.inj h, htext]
          exact htext ▸ hread
        · cases h
  · intro h
    have hstops : Stops [] := by rintro c ⟨⟩
    have hread := sequence_of_isTemplate h hstops
    rw [List.append_nil] at hread
    exact parse_of_sequence (delimiterFault?_of_isTemplate h) hread.1 hread.2

/-- A text has one tree. -/
lemma IsTemplate.unique {nodes nodes' : List Node} {text : List Char} (h : IsTemplate nodes text)
    (h' : IsTemplate nodes' text) : nodes = nodes' := by
  have hstops : Stops [] := by rintro c ⟨⟩
  exact (sequence_of_isTemplate h hstops).1.symm.trans (sequence_of_isTemplate h' hstops).1

/-! ## What is not a template -/

lemma byteLength_append (cs ds : List Char) :
    byteLength (cs ++ ds) = byteLength cs + byteLength ds := by
  induction cs with
  | nil => simp [byteLength]
  | cons c cs ih =>
      simp only [byteLength, List.cons_append, List.foldr_cons] at ih ⊢
      omega

lemma byteLength_eq (cs : List Char) : byteLength cs = (String.ofList cs).utf8ByteSize := by
  induction cs with
  | nil => rfl
  | cons c cs ih =>
      rw [← List.singleton_append, byteLength_append, ih, String.ofList_append,
        String.utf8ByteSize_append]
      simp [byteLength]

/-- A text with balanced delimiters that is no template is malformed where a template in front of it
ends and no element begins. -/
lemma exists_of_not_isTemplate {template : String} (hfault : delimiterFault? template.toList = none)
    (hnot : ∀ nodes, ¬ IsTemplate nodes template.toList) :
    ∃ front back : String, template = front ++ back ∧ back ≠ "" ∧
      parse template = .error (.malformed front.utf8ByteSize) ∧
      (∃ nodes, IsTemplate nodes front.toList) ∧
      ∀ node text after, back.toList = text ++ after → ¬ IsElement node text after := by
  obtain ⟨front, htext, hfront⟩ := sound_read.2.2 template.toList
  have hnone := element?_rest_of_sequence template.toList
  have hparse := parse_of_balanced hfault
  generalize skipSpacing (sequence template.toList).2.1 = back at htext hnone hparse
  generalize (sequence template.toList).1 = nodes at hfront hparse
  rw [htext] at hnot hparse
  have hback : back ≠ [] := by
    rintro rfl
    exact hnot nodes (by rwa [List.append_nil])
  refine ⟨String.ofList front, String.ofList back, ?_, ?_, ?_, ⟨nodes, ?_⟩, ?_⟩
  · rw [← String.ofList_append, ← htext, String.ofList_toList]
  · simpa using hback
  · rw [hparse, if_neg hback, byteLength_append, Nat.add_sub_cancel, byteLength_eq]
  · rwa [String.toList_ofList]
  · intro node text after htextback helement
    rw [String.toList_ofList] at htextback
    subst htextback
    obtain ⟨rest, hread, _⟩ := reads_of_isElement helement id
    rw [hnone] at hread
    cases hread

/-- **The reader accepts exactly the templates of the grammar**, each as its tree, and a text has
one tree.  The first look, at delimiters alone, stops no template.  A text that it lets pass and
that is no template is malformed at a position inside it: what stands before is a template, and no
element begins there. -/
theorem parse_accepts_exactly_templates (template : String) :
    (∀ nodes, parse template = .ok nodes ↔ IsTemplate nodes template.toList) ∧
    (∀ nodes nodes', IsTemplate nodes template.toList → IsTemplate nodes' template.toList →
      nodes = nodes') ∧
    (∀ nodes, IsTemplate nodes template.toList → delimiterFault? template.toList = none) ∧
    (delimiterFault? template.toList = none → (∀ nodes, ¬ IsTemplate nodes template.toList) →
      ∃ front back : String, template = front ++ back ∧ back ≠ "" ∧
        parse template = .error (.malformed front.utf8ByteSize) ∧
        (∃ nodes, IsTemplate nodes front.toList) ∧
        ∀ node text after, back.toList = text ++ after → ¬ IsElement node text after) :=
  ⟨fun _ => parse_eq_ok_iff, fun _ _ => IsTemplate.unique, fun _ => delimiterFault?_of_isTemplate,
    exists_of_not_isTemplate⟩

end Dialogue.Template
