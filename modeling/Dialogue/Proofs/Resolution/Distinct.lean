import Dialogue.Proofs.Lists
import Dialogue.Proofs.Template.Expansion
import Dialogue.Proofs.Template.Spelling
import Dialogue.Proofs.Resolution.Registration

/-!
# What templates are compiled to

What a template is compiled to can be told from its choices.  There is a phrasing for every choice,
and whether they are too many is decided by counting them, without writing any out.  Of those that
are not, the phrasings that say something are left, each once, where it comes first.

* `compile_eq_tooManyExpansions_iff` — which templates are refused for the number of their
  phrasings.
* `compile_eq_ok_iff` — which templates are compiled, and to what.
* **`expansion_is_exact`** — writing out and compiling, for every template and every limit.
-/

namespace Dialogue

/-! ## Compiling -/

namespace Matcher

variable {patterns : PatternBuilder} {types : InputTypes} {limit : ℕ} {template : String}
  {nodes : List Node}

/-- A template that is written out is not refused for the number of its phrasings. -/
lemma compile_ne_tooManyExpansions {all : List Phrasing}
    (hnodes : Template.parse template = .ok nodes)
    (hall : Template.expand? limit nodes = some all) (limit' : ℕ) :
    compile patterns types limit template ≠ .error ⟨template, .tooManyExpansions limit'⟩ := by
  rcases compile_cases patterns types hnodes hall with ⟨fault, ⟨p, _, _, hfault⟩, hcompile⟩ |
    ⟨_, hcompile⟩
  · rw [hcompile]
    rcases fault?_cases hfault with ⟨name, rfl, -⟩ | ⟨reason, rfl, -⟩ <;> simp
  · rw [hcompile]
    split <;> simp

/-- **Which templates are refused for the number of their phrasings.** -/
lemma compile_eq_tooManyExpansions_iff (hnodes : Template.parse template = .ok nodes)
    (hlimit : 1 ≤ limit) :
    compile patterns types limit template = .error ⟨template, .tooManyExpansions limit⟩ ↔
      limit < Template.count nodes := by
  have hsayable := Template.sayable_of_isTemplate (Template.parse_eq_ok_iff.mp hnodes)
  rw [← Template.expand?_eq_none_iff hsayable hlimit]
  refine ⟨fun h => ?_, compile_of_expand?_eq_none hnodes⟩
  cases hall : Template.expand? limit nodes with
  | none => rfl
  | some all => exact absurd h (compile_ne_tooManyExpansions hnodes hall limit)

/-- **What is compiled**: templates with few enough phrasings, all of which pass, and one of which
says something. -/
lemma compile_eq_ok_iff (hnodes : Template.parse template = .ok nodes) (hlimit : 1 ≤ limit)
    {m : Matcher} :
    compile patterns types limit template = .ok m ↔
      Template.count nodes ≤ limit ∧ Pass patterns types (Template.ways nodes) ∧
      (∃ p ∈ Template.ways nodes, p ≠ []) ∧ m = ⟨template, distinct (Template.ways nodes)⟩ := by
  have hsayable := Template.sayable_of_isTemplate (Template.parse_eq_ok_iff.mp hnodes)
  have hsome : (∃ p ∈ Template.ways nodes, p ≠ []) ↔ distinct (Template.ways nodes) ≠ [] := by
    rw [Ne, distinct_eq_nil_iff]
    simp
  constructor
  · intro h
    obtain ⟨nodes', all, hnodes', hall, hkept⟩ := exists_of_compile h
    obtain rfl := Except.ok.inj (hnodes.symm.trans hnodes')
    obtain ⟨hle, rfl⟩ := (Template.expand?_eq_some_iff hsayable hlimit).mp hall
    obtain ⟨hpass, _⟩ := keepDistinct_eq_ok_iff.mp hkept
    rw [compile_of_pass hnodes hall hpass] at h
    split at h
    · cases h
    · rename_i hne
      exact ⟨hle, hpass, hsome.mpr hne, (Except.ok.inj h).symm⟩
  · rintro ⟨hle, hpass, hne, rfl⟩
    have hall := (Template.expand?_eq_some_iff hsayable hlimit).mpr ⟨hle, rfl⟩
    rw [compile_of_pass hnodes hall hpass, if_neg (hsome.mp hne)]

end Matcher

/-- **Expansion is exact and bounded.**  A template is refused for the number of its phrasings
exactly if more choices can be made in it than the limit allows.  Otherwise what is written out are
the phrasings of all its choices, one for each, in the lexicographic order of the choices.  The
template compiles exactly if, moreover, all slots have input types, all patterns are built, and some
phrasing says something.  Then those that say something are left, each once, where it comes first;
so there are no more of them than the limit allows either. -/
theorem expansion_is_exact {template : String} {nodes : List Node}
    (hnodes : Template.parse template = .ok nodes) {limit : ℕ} (hlimit : 1 ≤ limit)
    (patterns : PatternBuilder) (types : InputTypes) :
    (Template.expand? limit nodes = none ↔ limit < Template.count nodes) ∧
    (Matcher.compile patterns types limit template =
        .error ⟨template, .tooManyExpansions limit⟩ ↔ limit < Template.count nodes) ∧
    (∃ sayings : List Saying,
      sayings.length = Template.count nodes ∧
      (∀ picks p, (picks, p) ∈ sayings ↔ Template.Picks nodes picks p) ∧
      (sayings.Pairwise fun s s' => s.1 < s'.1) ∧
      (Template.count nodes ≤ limit →
        Template.expand? limit nodes = some (sayings.map Prod.snd)) ∧
      ∀ m, Matcher.compile patterns types limit template = .ok m ↔
        Template.count nodes ≤ limit ∧ (∀ p ∈ sayings.map Prod.snd, p.Registered types) ∧
        patterns.BuildsAll (sayings.map Prod.snd) ∧ (∃ p ∈ sayings.map Prod.snd, p ≠ []) ∧
        m = ⟨template, ((sayings.map Prod.snd).filter fun p => !p.isEmpty).eraseDups⟩) ∧
    ∀ m, Matcher.compile patterns types limit template = .ok m →
      m.phrasings.Nodup ∧ m.phrasings.length ≤ limit := by
  have hsayable := Template.sayable_of_isTemplate (Template.parse_eq_ok_iff.mp hnodes)
  refine ⟨Template.expand?_eq_none_iff hsayable hlimit,
    Matcher.compile_eq_tooManyExpansions_iff hnodes hlimit,
    ⟨Template.sayings nodes, ?number, fun picks p => Template.mem_sayings_iff, ?order, ?written,
      ?compiled⟩, ?bounded⟩
  case number =>
    rw [← Template.length_ways, ← Template.map_sayings, List.length_map]
  case order =>
    exact (Template.earlier_sayings nodes).imp Template.Earlier.lt
  case written =>
    intro hle
    rw [Template.map_sayings]
    exact (Template.expand?_eq_some_iff hsayable hlimit).mpr ⟨hle, rfl⟩
  case compiled =>
    intro m
    rw [Template.map_sayings, Matcher.compile_eq_ok_iff hnodes hlimit, Matcher.pass_iff, and_assoc]
    rfl
  case bounded =>
    intro m hm
    obtain ⟨hle, _, _, rfl⟩ := (Matcher.compile_eq_ok_iff hnodes hlimit).mp hm
    refine ⟨nodup_eraseDups _, (Matcher.length_distinct_le _).trans ?_⟩
    rwa [Template.length_ways]

/-- A group whose second alternative is empty and in whose first one another group stands. -/
def aboutIt : List Node :=
  [.choice [[.word "tell".toList, .word "me".toList, .choice [[.word "more".toList], []]], []],
    .word "about".toList, .word "it".toList]

lemma parse_aboutIt :
    Template.parse "\x7btell me \x7bmore|\x7d|\x7d about it" = .ok aboutIt :=
  @Template.parse_spell aboutIt (by decide)

/-- “Tell me more about it”, “tell me about it” and “about it” are three phrasings, so a limit of
two is too low for the template and one of three is not. -/
theorem about_it_has_three_phrasings :
    Template.parse "\x7btell me \x7bmore|\x7d|\x7d about it" = .ok aboutIt ∧
    Template.expand? 2 aboutIt = none ∧
    (∃ ps, Template.expand? 3 aboutIt = some ps ∧ ps.length = 3) ∧
    ∀ patterns types m,
      Matcher.compile patterns types 3 "\x7btell me \x7bmore|\x7d|\x7d about it" = .ok m →
        m.phrasings.length ≤ 3 := by
  have hcount : Template.count aboutIt = 3 := by decide
  obtain ⟨htwo, _⟩ := @expansion_is_exact _ _ parse_aboutIt 2 (by decide) .unlimited .empty
  obtain ⟨_, _, ⟨sayings, hlength, _, _, hthree, _⟩, _⟩ :=
    @expansion_is_exact _ _ parse_aboutIt 3 (by decide) .unlimited .empty
  refine ⟨parse_aboutIt, htwo.mpr (by omega), ⟨_, hthree hcount.le, ?_⟩, ?_⟩
  · rw [List.length_map, hlength, hcount]
  · intro patterns types m hm
    obtain ⟨_, _, _, hbounded⟩ := @expansion_is_exact _ _ parse_aboutIt 3 (by decide) patterns types
    exact (hbounded m hm).2

end Dialogue
