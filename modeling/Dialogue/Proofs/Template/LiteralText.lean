import Dialogue.Proofs.Template.Captures
import Dialogue.Proofs.Template.Choices

/-!
# The literal text of a template

A template without slots looks like what may be said: choose an alternative in every group, and read
what is left.  But templates are cut into words by the rules of text segmentation, and utterances at
blanks.  Where a piece of the template is one word with at most some punctuation around it, the two
agree.  They disagree about `new-leads`, which is two words in a template and one field in an
utterance, and about a single `&`, which is no word and yet a field.  So the literal text is not
always matched; this file says exactly when it is.

* `Chooses` — the pieces of literal text that are left when an alternative is chosen in every group.
* `Chooses.mem_ways`, `exists_chooses` — the choices are the phrasings without slots.
* `aligned_words_iff` — words alone are aligned one by one.
* **`literal_text_matches_iff`** — when the literal text of a choice is matched.
-/

namespace Dialogue

open Text

/-! ## Choices -/

namespace Template

/-- The pieces of literal text that are left of elements when one alternative is chosen in every
group, provided that no slot is left. -/
inductive Chooses : List Node → List (List Char) → Prop
  | nil : Chooses [] []
  | word {nodes : List Node} {raw : List Char} {raws : List (List Char)} (h : Chooses nodes raws) :
      Chooses (.word raw :: nodes) (raw :: raws)
  | choice {nodes branch : List Node} {branches : List (List Node)} {raws raws' : List (List Char)}
      (hbranch : branch ∈ branches) (hchosen : Chooses branch raws) (h : Chooses nodes raws') :
      Chooses (.choice branches :: nodes) (raws ++ raws')

/-- **What is chosen is a way to say the template.** -/
lemma Chooses.mem_ways {nodes : List Node} {raws : List (List Char)} (h : Chooses nodes raws) :
    raws.flatMap wordTokens ∈ ways nodes := by
  induction h with
  | nil => exact List.mem_singleton_self _
  | word _ ih =>
      rw [List.flatMap_cons, ways, Node.ways]
      exact mem_combine.mpr ⟨_, List.mem_singleton_self _, _, ih, rfl⟩
  | choice hbranch _ _ ihbranch ih =>
      rw [List.flatMap_append, ways, Node.ways]
      exact mem_combine.mpr ⟨_, mem_waysOfBranches.mpr ⟨_, hbranch, ihbranch⟩, _, ih, rfl⟩

mutual

lemma exists_chooses_node : ∀ {node : Node} {p : Phrasing}, p ∈ node.ways →
    (∀ name, Token.slot name ∉ p) → ∃ raws, p = raws.flatMap wordTokens ∧
      ∀ nodes raws', Chooses nodes raws' → Chooses (node :: nodes) (raws ++ raws')
  | .word raw, p, hp, _ => by
      rw [Node.ways, List.mem_singleton] at hp
      refine ⟨[raw], ?_, fun nodes raws' h => .word h⟩
      rw [hp, List.flatMap_cons, List.flatMap_nil, List.append_nil]
  | .slot name, p, hp, hslot => by
      rw [Node.ways, List.mem_singleton] at hp
      exact absurd (hp ▸ List.mem_singleton_self _) (hslot name)
  | .choice branches, p, hp, hslot => by
      rw [Node.ways] at hp
      obtain ⟨branch, hbranch, raws, hraws, rfl⟩ := exists_chooses_branch hp hslot
      exact ⟨raws, rfl, fun nodes raws' h => .choice hbranch hraws h⟩

/-- **A way to say a template without a slot in it is chosen.** -/
lemma exists_chooses : ∀ {nodes : List Node} {p : Phrasing}, p ∈ ways nodes →
    (∀ name, Token.slot name ∉ p) → ∃ raws, Chooses nodes raws ∧ p = raws.flatMap wordTokens
  | [], p, hp, _ => by
      rw [ways, List.mem_singleton] at hp
      exact ⟨[], .nil, hp⟩
  | node :: nodes, p, hp, hslot => by
      rw [ways] at hp
      obtain ⟨head, hhead, tail, htail, rfl⟩ := mem_combine.mp hp
      obtain ⟨raws, rfl, hchooses⟩ :=
        exists_chooses_node hhead fun name hname => hslot name (List.mem_append_left _ hname)
      obtain ⟨raws', hraws', rfl⟩ :=
        exists_chooses htail fun name hname => hslot name (List.mem_append_right _ hname)
      exact ⟨raws ++ raws', hchooses nodes raws' hraws', List.flatMap_append.symm⟩

lemma exists_chooses_branch : ∀ {branches : List (List Node)} {p : Phrasing},
    p ∈ waysOfBranches branches → (∀ name, Token.slot name ∉ p) →
      ∃ branch ∈ branches, ∃ raws, Chooses branch raws ∧ p = raws.flatMap wordTokens
  | [], p, hp, _ => by
      rw [waysOfBranches] at hp
      cases hp
  | branch :: branches, p, hp, hslot => by
      rw [waysOfBranches] at hp
      rcases List.mem_append.mp hp with hp | hp
      · obtain ⟨raws, hraws, rfl⟩ := exists_chooses hp hslot
        exact ⟨branch, List.mem_cons_self, raws, hraws, rfl⟩
      · obtain ⟨branch', hbranch', raws, hraws, rfl⟩ := exists_chooses_branch hp hslot
        exact ⟨branch', List.mem_cons_of_mem _ hbranch', raws, hraws, rfl⟩

end

/-- What is chosen from a template are fields: pieces that have letters and no blanks. -/
lemma Chooses.isField {nodes : List Node} {raws : List (List Char)} (h : Chooses nodes raws)
    (hwritten : ∀ node ∈ nodes, node.Written) : ∀ raw ∈ raws, IsField raw := by
  induction h with
  | nil => exact List.forall_mem_nil _
  | word _ ih =>
      obtain ⟨hword, hrest⟩ := List.forall_mem_cons.mp hwritten
      cases hword with
      | word hne hraw =>
          exact List.forall_mem_cons.mpr
            ⟨⟨hne, fun c hc => isBlank_of_isWordChar (hraw c hc)⟩, ih hrest⟩
  | choice hbranch _ _ ihbranch ih =>
      obtain ⟨hchoice, hrest⟩ := List.forall_mem_cons.mp hwritten
      cases hchoice with
      | choice hbranches =>
          exact List.forall_mem_append.mpr ⟨ihbranch (hbranches _ hbranch), ih hrest⟩

end Template

/-! ## Phrasings of words alone -/

/-- **Words alone are aligned one by one.** -/
lemma aligned_words_iff : ∀ {ws fs : List (List Char)},
    (∃ runs, Aligned (ws.map .word) fs runs) ↔ List.Forall₂ Pattern.FieldMatches ws fs
  | [], fs => by
      rw [List.map_nil, List.forall₂_nil_left_iff]
      simp [aligned_nil_iff]
  | w :: ws, fs => by
      simp only [List.map_cons, aligned_word_iff, List.forall₂_cons_left_iff]
      constructor
      · rintro ⟨_, f, fs', runs, rfl, _, hf, hruns⟩
        exact ⟨f, fs', hf, aligned_words_iff.mp ⟨runs, hruns⟩, rfl⟩
      · rintro ⟨f, fs', hf, hws, rfl⟩
        obtain ⟨runs, hruns⟩ := aligned_words_iff.mpr hws
        exact ⟨_, f, fs', runs, rfl, rfl, hf, hruns⟩

/-! ## Literal text -/

/-- Pieces of literal text written out with a space between neighbours. -/
def literalText (raws : List (List Char)) : String := String.ofList (unfields raws)

/-- The piece is a single word, with nothing but punctuation attached to it. -/
def IsPlain (raw : List Char) : Prop := ∃ w, words raw = [w] ∧ Pattern.FieldMatches w raw

section LiteralText

variable {raws : List (List Char)}

lemma toList_normalize_literalText (h : ∀ raw ∈ raws, IsField raw) :
    (Text.normalize (literalText raws)).toList = unfields raws := by
  rw [toList_normalize, literalText, String.toList_ofList, fields_unfields h]

/-- The words of the pieces, as tokens. -/
lemma flatMap_wordTokens (raws : List (List Char)) :
    raws.flatMap Template.wordTokens = (raws.flatMap words).map .word := by
  rw [List.map_flatMap]
  rfl

/-- A text of pieces holds a word if one of them does. -/
lemma hasWord_literalText : hasWord (literalText raws) = true ↔ raws.flatMap words ≠ [] := by
  rw [hasWord, List.any_eq_true, literalText, String.toList_ofList, Ne, List.flatMap_eq_nil_iff]
  push Not
  constructor
  · rintro ⟨c, hc, hletter⟩
    rw [mem_unfields (isBlank_of_isAlphanumeric hletter)] at hc
    obtain ⟨raw, hraw, hcraw⟩ := List.mem_flatten.mp hc
    have hword : hasWord (String.ofList raw) = true := by
      rw [hasWord, String.toList_ofList]
      exact List.any_eq_true.mpr ⟨c, hcraw, hletter⟩
    exact ⟨raw, hraw, by simpa using (hasWord_iff _).mp hword⟩
  · rintro ⟨raw, hraw, hne⟩
    have hword : hasWord (String.ofList raw) = true :=
      (hasWord_iff _).mpr (by rwa [String.toList_ofList])
    rw [hasWord, String.toList_ofList] at hword
    obtain ⟨c, hc, hletter⟩ := List.any_eq_true.mp hword
    refine ⟨c, ?_, hletter⟩
    rw [mem_unfields (isBlank_of_isAlphanumeric hletter)]
    exact List.mem_flatten.mpr ⟨raw, hraw, hc⟩

/-- The words of plain pieces match the pieces, one by one. -/
lemma forall₂_of_isPlain : ∀ {raws : List (List Char)}, (∀ raw ∈ raws, IsPlain raw) →
    List.Forall₂ Pattern.FieldMatches (raws.flatMap words) raws
  | [], _ => .nil
  | raw :: raws, h => by
      obtain ⟨⟨w, hw, hmatches⟩, hraws⟩ := List.forall_mem_cons.mp h
      rw [List.flatMap_cons, hw]
      exact .cons hmatches (forall₂_of_isPlain hraws)

/-- The words of a choice match a literal text if they match its pieces, one by one. -/
lemma Template.Chooses.isMatch_iff {nodes : List Node} {chosen : List (List Char)}
    (h : Template.Chooses nodes chosen) (hwritten : ∀ node ∈ nodes, node.Written)
    (hne : chosen.flatMap words ≠ []) (hraws : ∀ raw ∈ raws, IsField raw) :
    Phrasing.isMatch (chosen.flatMap Template.wordTokens) (Text.normalize (literalText raws)) =
        true ↔ List.Forall₂ Pattern.FieldMatches (chosen.flatMap words) raws := by
  have hsolid : Phrasing.Solid (chosen.flatMap Template.wordTokens) := by
    intro t ht
    obtain ⟨raw, hraw, ht⟩ := List.mem_flatMap.mp ht
    exact Template.solid_wordTokens (h.isField hwritten raw hraw).2 t ht
  rw [flatMap_wordTokens] at hsolid ⊢
  rw [isMatch_iff_aligned hsolid (by simpa using hne) hraws (toList_normalize_literalText hraws),
    aligned_words_iff]

/-- The words of a choice are a phrasing of the compiled template, if there are any. -/
lemma Template.Chooses.mem_distinct {nodes : List Node} (h : Template.Chooses nodes raws)
    (hne : raws.flatMap words ≠ []) :
    raws.flatMap Template.wordTokens ∈ Matcher.distinct (Template.ways nodes) := by
  refine Matcher.mem_distinct.mpr ⟨h.mem_ways, ?_⟩
  rw [flatMap_wordTokens]
  simpa using hne

/-- A phrasing of a compiled template without slots comes from a choice that holds a word. -/
lemma exists_chooses_of_mem_distinct {nodes : List Node}
    (hslots : ∀ node ∈ nodes, ∀ name, ¬ node.Mentions name) {p : Phrasing}
    (hp : p ∈ Matcher.distinct (Template.ways nodes)) :
    ∃ raws, Template.Chooses nodes raws ∧ raws.flatMap words ≠ [] ∧
      p = raws.flatMap Template.wordTokens := by
  obtain ⟨hmem, hne⟩ := Matcher.mem_distinct.mp hp
  obtain ⟨raws, hraws, rfl⟩ := Template.exists_chooses hmem fun name hname => by
    obtain ⟨node, hnode, hmentions⟩ := Template.mentions_of_mem_ways hmem hname
    exact hslots node hnode name hmentions
  rw [flatMap_wordTokens] at hne
  exact ⟨raws, hraws, by simpa using hne, rfl⟩

end LiteralText

/-- **When the literal text of a template is matched.**  Choose an alternative in every group of a
compiled template, so that no slot is left and the text that is left holds a word.  Its words are
one of the phrasings, and this phrasing matches the text exactly if the words match the pieces of
the text, one by one.  So the text is matched if every piece is plain: a single word, with nothing
but punctuation attached to it.  If the template has no slots at all, the text is matched only if
the words of some choice match its pieces. -/
theorem literal_text_matches_iff {patterns : PatternBuilder} {types : InputTypes} {limit : ℕ}
    {template : String} {m : Matcher}
    (hm : Matcher.compile patterns types limit template = .ok m) :
    ∃ nodes, Template.parse template = .ok nodes ∧
      ∀ raws, Template.Chooses nodes raws → hasWord (literalText raws) = true →
        let p : Phrasing := raws.flatMap Template.wordTokens
        p ∈ m.phrasings ∧
        (p.isMatch (Text.normalize (literalText raws)) = true ↔
          List.Forall₂ Pattern.FieldMatches (raws.flatMap words) raws) ∧
        ((∀ raw ∈ raws, IsPlain raw) → m.isMatch (literalText raws) = true) ∧
        ((∀ node ∈ nodes, ∀ name, ¬ node.Mentions name) →
          (m.isMatch (literalText raws) = true ↔ ∃ chosen, Template.Chooses nodes chosen ∧
            List.Forall₂ Pattern.FieldMatches (chosen.flatMap words) raws)) := by
  obtain ⟨nodes, hnodes, rfl⟩ := Matcher.eq_of_compile hm
  have hwritten := Template.written_parse hnodes
  refine ⟨nodes, hnodes, fun raws hraws hword => ?_⟩
  have hfields := hraws.isField hwritten
  have hne := hasWord_literalText.mp hword
  have hmem := hraws.mem_distinct hne
  have hmatch := hraws.isMatch_iff hwritten hne hfields
  refine ⟨hmem, hmatch, fun hplain => ?_, fun hslots => ⟨fun h => ?_, ?_⟩⟩
  · exact List.any_eq_true.mpr ⟨_, hmem, hmatch.mpr (forall₂_of_isPlain hplain)⟩
  · obtain ⟨p, hp, hpmatch⟩ := List.any_eq_true.mp h
    obtain ⟨chosen, hchosen, hsome, rfl⟩ := exists_chooses_of_mem_distinct hslots hp
    exact ⟨chosen, hchosen, (hchosen.isMatch_iff hwritten hsome hfields).mp hpmatch⟩
  · rintro ⟨chosen, hchosen, hwords⟩
    have hsome : chosen.flatMap words ≠ [] := by
      intro hnil
      rw [hnil, List.forall₂_nil_left_iff] at hwords
      subst hwords
      exact hne rfl
    exact List.any_eq_true.mpr ⟨_, hchosen.mem_distinct hsome,
      (hchosen.isMatch_iff hwritten hsome hfields).mpr hwords⟩

/-- A piece of literal text is a template. -/
lemma Template.parse_piece {template : String} (hne : template.toList ≠ [])
    (h : ∀ c ∈ template.toList, isWordChar c = true) :
    parse template = .ok [.word template.toList] := by
  have hpiece : IsElement (.word template.toList) template.toList [] :=
    .word hne h (fun c hc => by cases hc)
  have htemplate := IsTemplate.cons (List.forall_mem_nil _) hpiece (.nil (List.forall_mem_nil _))
  rw [List.nil_append, List.append_nil] at htemplate
  exact parse_eq_ok_iff.mpr htemplate

/-- A piece of literal text that holds a word, compiled. -/
lemma Matcher.compile_piece {patterns : PatternBuilder} {types : InputTypes} {limit : ℕ}
    {template : String} (h : ∀ c ∈ template.toList, Template.isWordChar c = true)
    (hwords : words template.toList ≠ [])
    (hbuilt : patterns.Builds (Template.wordTokens template.toList)) :
    compile patterns types limit template =
      .ok ⟨template, [Template.wordTokens template.toList]⟩ := by
  have hne : template.toList ≠ [] := by
    intro hnil
    rw [hnil] at hwords
    exact hwords rfl
  have hsome : Template.wordTokens template.toList ≠ [] := by
    rw [Template.wordTokens]
    simpa using hwords
  have hnames : Phrasing.slotNames (Template.wordTokens template.toList) = [] := by
    rw [Phrasing.slotNames, Template.wordTokens, List.filterMap_map]
    exact List.filterMap_eq_nil_iff.mpr fun _ _ => rfl
  refine compile_of_single (Template.parse_piece hne h) hsome rfl
    (fault?_eq_none_iff.mpr ⟨fun name hname => ?_, hbuilt⟩)
  rw [← Phrasing.mem_slotNames, hnames] at hname
  cases hname

/-- The parentheses are attached to the word. -/
theorem leads_in_parentheses_match :
    ∃ m, Matcher.compile .unlimited .empty 8 "(leads)" = .ok m ∧
      m.isMatch (literalText ["(leads)".toList]) = true := by
  have hpiece : ∀ c ∈ "(leads)".toList, Template.isWordChar c = true :=
    List.all_eq_true.mp (by decide)
  have hm := @Matcher.compile_piece .unlimited .empty 8 _ hpiece (by decide) rfl
  refine ⟨_, hm, ?_⟩
  obtain ⟨nodes, hnodes, hmatch⟩ := literal_text_matches_iff hm
  obtain rfl := Except.ok.inj ((Template.parse_piece (by decide) hpiece).symm.trans hnodes)
  refine (hmatch _ (.word .nil) (by decide)).2.2.1 (List.forall_mem_singleton.mpr ?_)
  exact ⟨"leads".toList, by decide, ['('], "leads".toList, [')'], by decide, rfl,
    List.all_eq_true.mp (by decide), List.all_eq_true.mp (by decide)⟩

/-- `new-leads` is two words, and as it is written it is one field. -/
theorem new_leads_do_not_match :
    ∃ m nodes raws, Matcher.compile .unlimited .empty 1024 "new-leads" = .ok m ∧
      Template.parse "new-leads" = .ok nodes ∧ (∀ node ∈ nodes, ∀ name, ¬ node.Mentions name) ∧
      Template.Chooses nodes raws ∧ literalText raws = "new-leads" ∧
      hasWord (literalText raws) = true ∧ m.isMatch (literalText raws) = false := by
  have hpiece : ∀ c ∈ "new-leads".toList, Template.isWordChar c = true :=
    List.all_eq_true.mp (by decide)
  refine ⟨_, _, ["new-leads".toList], Matcher.compile_piece hpiece (by decide) rfl,
    Template.parse_piece (by decide) hpiece, ?_, .word .nil, rfl, by decide,
    by decide⟩
  intro node hnode name hmentions
  obtain rfl := List.mem_singleton.mp hnode
  cases hmentions

end Dialogue
