import Dialogue.Proofs.Resolution.Distinct
import Dialogue.Proofs.Resolution.FinalSlots
import Dialogue.Proofs.Template.Agreement

/-!
# Words that may be left out

A group whose second alternative is empty holds words that may be said or not.  Of a template with
one such group two phrasings are written out, the one with the words before the one without them.
Whatever text is said for the slot, either phrasing takes it from its own utterance, since a single
slot leaves no choice.  So the same is understood, unless the utterance without the words happens to
be one with them: the text for the slot may begin with these very words.

* `Phrasing.said` — the utterance that is written from a phrasing, with a text for every slot.
* `captures?_said` — what a phrasing captures from its own utterance.
* `ways_of_picks_nil`, `ways_optional` — the phrasings of elements without groups, and of elements
  around one group with words that may be left out.
* **`optional_words_may_be_left_out`** — the same is extracted with and without the words.
-/

namespace Dialogue

open Text

/-! ## Utterances that are written from a phrasing -/

/-- What is said for a token, if the text is said for a slot. -/
def Token.said (text : String) : Token → String
  | .word letters => String.ofList letters
  | .slot _ => text

namespace Phrasing

/-- The utterance that is written from a phrasing, with a text for every slot. -/
def said (text : String) (p : Phrasing) : String := " ".intercalate (p.map (Token.said text))

/-- The fields of this utterance, token by token. -/
def saidRuns (text : String) (p : Phrasing) : List (List (List Char)) :=
  p.map fun t => fields (t.said text).toList

variable {p : Phrasing} {text : String}

lemma fields_said (text : String) : ∀ p : Phrasing,
    fields (p.said text).toList = (p.saidRuns text).flatten
  | [] => rfl
  | [t] => by
      show fields (" ".intercalate [t.said text]).toList = [fields (t.said text).toList].flatten
      rw [String.intercalate_singleton, List.flatten_singleton]
  | t :: u :: p => by
      have hrest := fields_said text (u :: p)
      show fields (" ".intercalate (t.said text :: u.said text :: p.map _)).toList =
        fields (t.said text).toList ++ (saidRuns text (u :: p)).flatten
      rw [String.intercalate_cons_cons, fields_append_words rfl, ← hrest]
      rfl

/-- The slots stand for the text. -/
lemma slotRuns_said (text : String) : ∀ p : Phrasing,
    slotRuns p (p.saidRuns text) = p.slotNames.map fun _ => fields text.toList
  | [] => rfl
  | .word _ :: p => slotRuns_said text p
  | .slot _ :: p => congrArg (fields text.toList :: ·) (slotRuns_said text p)

section Said

variable (hp : p.Solid) (hword : hasWord text = true)
include hp hword

/-- A phrasing can be aligned with its own utterance. -/
lemma aligned_said : Aligned p (fields (p.said text).toList) (p.saidRuns text) := by
  refine ⟨(fields_said text p).symm, List.forall₂_map_right_iff.mpr ?_⟩
  refine List.forall₂_same.mpr fun t ht => ?_
  cases t with
  | word w =>
      have hw : IsField w := hp _ ht
      refine ⟨w, ?_, .refl w⟩
      rw [Token.said, String.toList_ofList]
      exact fields_unfields (List.forall_mem_singleton.mpr hw)
  | slot name => exact fields_ne_nil_of_hasWord hword

/-- **What a phrasing captures from its own utterance**, if it has one slot at most: the text,
without the sentence punctuation around it. -/
lemma captures?_said (hne : p ≠ []) (hslots : p.slotNames.length ≤ 1) :
    p.captures? (Text.normalize (p.said text)) =
      some (.ofList (p.slotNames.map fun name => (name, bareText text))) :=
  captures?_of_slotRuns hp hne ((aligned_said hp hword).least_of_single hslots)
    (slotRuns_said text p) hword

end Said

end Phrasing

/-! ## Phrasings of elements with one group -/

namespace Template

lemma ways_append (nodes nodes' : List Node) :
    ways (nodes ++ nodes') = combine (ways nodes) (ways nodes') := by
  induction nodes with
  | nil => rw [List.nil_append, ways, combine_nil_left]
  | cons node nodes ih => rw [List.cons_append, ways, ways, ih, combine_assoc]

/-- Elements among which there is nothing to choose have one phrasing. -/
lemma ways_of_picks_nil : ∀ {nodes : List Node} {picks : List ℕ} {p : Phrasing},
    Picks nodes picks p → picks = [] → ways nodes = [p]
  | [], picks, p, h, _ => by
      cases h
      rw [ways]
  | node :: nodes, picks, p, h, hnil => by
      cases h with
      | @cons _ _ picks picks' p p' hnode h =>
          obtain ⟨rfl, hnil'⟩ := List.append_eq_nil_iff.mp hnil
          have hways : node.ways = [p] := by
            cases hnode with
            | word raw => rw [Node.ways]; rfl
            | slot name => rw [Node.ways]
          rw [ways, hways, ways_of_picks_nil h hnil', combine_singleton, List.map_singleton]

/-- **The phrasings of elements around words that may be left out**: with the words, and without
them. -/
lemma ways_optional {before optional after : List Node} {p o q : Phrasing}
    (hbefore : Picks before [] p) (hoptional : Picks optional [] o) (hafter : Picks after [] q) :
    ways (before ++ .choice [optional, []] :: after) = [p ++ o ++ q, p ++ q] := by
  have hgroup : Node.ways (.choice [optional, []]) = [o, []] := by
    rw [Node.ways, waysOfBranches, waysOfBranches, waysOfBranches,
      ways_of_picks_nil hoptional rfl, ways]
    rfl
  rw [ways_append, ways, ways_of_picks_nil hbefore rfl, hgroup, ways_of_picks_nil hafter rfl]
  simp [combine]

end Template

/-! ## Compiling them -/

namespace Matcher

/-- Of two phrasings that say something the first is kept, and the second if it is different. -/
lemma distinct_pair {p q : Phrasing} (hp : p ≠ []) (hq : q ≠ []) :
    distinct [p, q] = p :: if p = q then [] else [q] := by
  have hfilter : [p, q].filter (fun p => !p.isEmpty) = [p, q] := by simp [hp, hq]
  rw [distinct, hfilter, List.eraseDups_cons]
  by_cases hsame : p = q
  · simp [hsame]
  · have hkept : [q].filter (fun r => !r == p) = [q] := by simp [Ne.symm hsame]
    rw [hkept, if_neg hsame, List.eraseDups_cons, List.filter_nil, List.eraseDups_nil]

/-- Two phrasings with registered slots pass if their patterns are built. -/
lemma pass_pair {patterns : PatternBuilder} {types : InputTypes} {p q : Phrasing} (hp : p ≠ [])
    (hq : q ≠ []) (hp' : p.Registered types) (hq' : q.Registered types) :
    Pass patterns types [p, q] ↔ patterns.Builds p ∧ patterns.Builds q := by
  simp [pass_iff, PatternBuilder.BuildsAll, hp, hq, hp', hq']

section Extract

variable {template utterance : String} {p : Phrasing} {ps : List Phrasing}

/-- What the first phrasing captures is extracted. -/
lemma extract?_of_captures? {slots : Dict String}
    (h : p.captures? (Text.normalize utterance) = some slots) :
    extract? ⟨template, p :: ps⟩ utterance = some slots := by
  rw [extract?, candidates, List.filterMap_cons, h]
  rfl

/-- A phrasing that does not match is passed over. -/
lemma extract?_of_not_isMatch (h : p.isMatch (Text.normalize utterance) = false) :
    extract? ⟨template, p :: ps⟩ utterance = extract? ⟨template, ps⟩ utterance := by
  rw [extract?, extract?, candidates, candidates, List.filterMap_cons,
    Phrasing.captures?_of_not_isMatch h]

end Extract

/-- A template with words that may be left out compiles if the patterns of its two phrasings are
built; if they are the same, one of them is left. -/
lemma compile_optional_eq_ok_iff {patterns : PatternBuilder} {types : InputTypes} {limit : ℕ}
    {template : String} {before optional after : List Node} {p o q : Phrasing}
    (hparse : Template.parse template = .ok (before ++ .choice [optional, []] :: after))
    (hbefore : Template.Picks before [] p) (hoptional : Template.Picks optional [] o)
    (hafter : Template.Picks after [] q) (hlimit : 2 ≤ limit) (hwords : o.slotNames = [])
    (hregistered : (p ++ q).Registered types) (hne : p ++ q ≠ []) {m : Matcher} :
    compile patterns types limit template = .ok m ↔
      (patterns.Builds (p ++ o ++ q) ∧ patterns.Builds (p ++ q)) ∧
      m = ⟨template, (p ++ o ++ q) :: if p ++ o ++ q = p ++ q then [] else [p ++ q]⟩ := by
  have hways := Template.ways_optional hbefore hoptional hafter
  have hne' : p ++ o ++ q ≠ [] := by
    simp only [ne_eq, List.append_eq_nil_iff] at hne ⊢
    tauto
  have hregistered' : (p ++ o ++ q).Registered types := by
    intro name hname
    have hmem : Token.slot name ∈ p ++ q ∨ Token.slot name ∈ o := by
      simp only [List.mem_append] at hname ⊢
      tauto
    rcases hmem with hmem | hmem
    · exact hregistered name hmem
    · rw [← Phrasing.mem_slotNames, hwords] at hmem
      cases hmem
  rw [compile_eq_ok_iff hparse (show 1 ≤ limit by omega), ← Template.length_ways, hways,
    pass_pair hne' hne hregistered' hregistered, distinct_pair hne' hne]
  constructor
  · rintro ⟨-, hbuilt, -, hm⟩
    exact ⟨hbuilt, hm⟩
  · rintro ⟨hbuilt, hm⟩
    exact ⟨hlimit, hbuilt, ⟨_, List.mem_cons_self, hne'⟩, hm⟩

end Matcher

/-- **Words that may be left out.**  Let a template be words, with one slot among them at most and
one group that holds more words or nothing, and let the words outside the group not be missing
altogether.  The template compiles exactly if the patterns of both phrasings are built.  Then say
any text that holds a word and is in normal form for the slot.  The utterance that is written from
the template with the words of the group is understood, and the slot gets the text without the
sentence punctuation around it.  The same is extracted from the utterance without them, unless this
utterance is matched by the phrasing that has the words. -/
theorem optional_words_may_be_left_out (patterns : PatternBuilder) {types : InputTypes} {limit : ℕ}
    {template : String} {before optional after : List Node} {p o q : Phrasing}
    (hparse : Template.parse template = .ok (before ++ .choice [optional, []] :: after))
    (hbefore : Template.Picks before [] p) (hoptional : Template.Picks optional [] o)
    (hafter : Template.Picks after [] q) (hlimit : 2 ≤ limit) (hwords : o.slotNames = [])
    (hregistered : (p ++ q).Registered types) (hne : p ++ q ≠ [])
    (hslots : (p ++ q).slotNames.length ≤ 1) {text : String}
    (hnormal : Text.normalize text = text) (hword : hasWord text = true) :
    let slots := Dict.ofList
      ((p ++ q).slotNames.map fun name => (name, String.ofList (trimCapture text.toList)))
    ((∃ m, Matcher.compile patterns types limit template = .ok m) ↔
      patterns.Builds (p ++ o ++ q) ∧ patterns.Builds (p ++ q)) ∧
    ∀ m, Matcher.compile patterns types limit template = .ok m →
      m.extract? ((p ++ o ++ q).said text) = some slots ∧
      ((p ++ o ++ q).isMatch (Text.normalize ((p ++ q).said text)) = false →
        m.extract? ((p ++ q).said text) = some slots) := by
  intro slots
  have hcompile : ∀ m, Matcher.compile patterns types limit template = .ok m ↔ _ := fun m =>
    Matcher.compile_optional_eq_ok_iff hparse hbefore hoptional hafter hlimit hwords hregistered hne
  constructor
  · simp only [hcompile, exists_and_left, exists_eq, and_true]
  intro m hm
  have hnames : (p ++ o ++ q).slotNames = (p ++ q).slotNames := by
    simp only [Phrasing.slotNames, List.filterMap_append] at hwords ⊢
    rw [hwords, List.append_nil]
  have hbare : bareText text = String.ofList (trimCapture text.toList) := by
    rw [bareText, hnormal]
  have hwell := Matcher.solid_compile hm
  obtain ⟨-, rfl⟩ := (hcompile m).mp hm
  obtain ⟨hne', hsolid⟩ := hwell _ List.mem_cons_self
  have hsolid' : (p ++ q).Solid := fun t ht => by
    refine hsolid t ?_
    rw [List.append_assoc]
    exact ((List.sublist_append_right o q).append_left p).subset ht
  have hsaid : (p ++ o ++ q).captures? (Text.normalize ((p ++ o ++ q).said text)) =
      some slots := by
    rw [Phrasing.captures?_said hsolid hword hne' (hnames ▸ hslots), hnames, hbare]
  have homitted : (p ++ q).captures? (Text.normalize ((p ++ q).said text)) = some slots := by
    rw [Phrasing.captures?_said hsolid' hword hne hslots, hbare]
  refine ⟨Matcher.extract?_of_captures? hsaid, fun hother => ?_⟩
  have hmatch : (p ++ q).isMatch (Text.normalize ((p ++ q).said text)) = true :=
    (isMatch_normalize_iff hsolid' hne _).mpr ⟨_, Phrasing.aligned_said hsolid' hword⟩
  have hdifferent : p ++ o ++ q ≠ p ++ q := by
    intro hsame
    rw [hsame, hmatch] at hother
    cases hother
  rw [if_neg hdifferent, Matcher.extract?_of_not_isMatch hother]
  exact Matcher.extract?_of_captures? homitted

/-- “I am looking for”. -/
def lookingFor : List Node :=
  [.word "I".toList, .word "am".toList, .word "looking".toList, .word "for".toList]

/-- “Information on”. -/
def informationOn : List Node := [.word "information".toList, .word "on".toList]

lemma parse_lookingFor :
    Template.parse "I am looking for \x7binformation on|\x7d [[searchTerm]]" =
      .ok (lookingFor ++ .choice [informationOn, []] :: [.slot "searchTerm"]) :=
  @Template.parse_spell (lookingFor ++ (Node.choice [informationOn, []] ::
    [Node.slot "searchTerm"])) (by decide)

/-- “I am looking for security” is understood as “I am looking for information on security”. -/
theorem information_on_may_be_left_out :
    let types := InputTypes.add .empty (.literal "searchTerm" ["security", "data"])
    ∃ m, Matcher.compile .unlimited types 8
        "I am looking for \x7binformation on|\x7d [[searchTerm]]" = .ok m ∧
      m.extract? "I am looking for information on security" =
        some (.ofList [("searchTerm", "security")]) ∧
      m.extract? "I am looking for security" = some (.ofList [("searchTerm", "security")]) := by
  intro types
  have hbefore : Template.Picks lookingFor []
      [.word "I".toList, .word "am".toList, .word "looking".toList, .word "for".toList] :=
    Template.mem_sayings_iff.mp (by decide)
  have hoptional : Template.Picks informationOn []
      [.word "information".toList, .word "on".toList] := Template.mem_sayings_iff.mp (by decide)
  have hafter : Template.Picks [.slot "searchTerm"] [] [.slot "searchTerm"] :=
    Template.mem_sayings_iff.mp (by decide)
  have hregistered : Phrasing.Registered types
      [.word "I".toList, .word "am".toList, .word "looking".toList, .word "for".toList,
        .slot "searchTerm"] := by
    intro name hname
    obtain rfl : name = "searchTerm" := by simpa using hname
    decide
  obtain ⟨hcompiles, hextract⟩ := optional_words_may_be_left_out .unlimited
    parse_lookingFor hbefore hoptional hafter (show 2 ≤ 8 by decide) rfl hregistered (by decide)
    (by decide) (show Text.normalize "security" = "security" by decide) (by decide)
  obtain ⟨m, hm⟩ := hcompiles.mpr ⟨rfl, rfl⟩
  obtain ⟨hsaid, homitted⟩ := hextract m hm
  exact ⟨m, hm, hsaid, homitted (by decide)⟩

end Dialogue
