import Dialogue.Proofs.Lists
import Dialogue.Proofs.Template.Choices
import Dialogue.Template.Matcher

/-!
# What is compiled of the phrasings

When a template has been written out, its phrasings are gone through in order.  Those that say
nothing are passed over, and so are those that have been met; of the others it is checked that their
slots have types and that their patterns can be built.  What comes of this is described without
going through anything: the phrasings that are not empty are left, each once, where it comes first,
and the first fault among them is reported if there is one.

* `Phrasing.Registered`, `PatternBuilder.BuildsAll` — the slots of a phrasing have input types, and
  the patterns of phrasings are built.
* `fault?_eq_none_iff`, `fault?_eq_unbuildable_iff`, `fault?_cases` — what can be wrong with a
  phrasing.
* `Matcher.isNew`, `Matcher.distinct` — what is added to the phrasings that are kept, and what is
  kept in the end.
* **`keepDistinct_nil`** — what going through the phrasings comes to.
* `keepDistinct_eq_ok_iff` — when nothing is refused, and what is kept then.
* `exists_of_compile`, `compile_cases` — compiling is reading, writing out and keeping.
* `eq_of_compile` — what a template is compiled to depends on nothing but the template.
-/

namespace Dialogue

/-- The slots of the phrasing have input types. -/
def Phrasing.Registered (types : InputTypes) (p : Phrasing) : Prop :=
  ∀ name, Token.slot name ∈ p → types.contains name = true

/-- The patterns of the phrasings are built; that of an empty one is not asked for. -/
def PatternBuilder.BuildsAll (patterns : PatternBuilder) (ps : List Phrasing) : Prop :=
  ∀ p ∈ ps, p ≠ [] → patterns.Builds p

lemma Phrasing.mem_slotNames {p : Phrasing} {name : String} :
    name ∈ p.slotNames ↔ Token.slot name ∈ p := by
  rw [slotNames, List.mem_filterMap]
  constructor
  · rintro ⟨t, ht, hname⟩
    cases t with
    | word w => cases hname
    | slot name' => exact Option.some.inj hname ▸ ht
  · exact fun h => ⟨.slot name, h, rfl⟩

namespace Matcher

variable {patterns : PatternBuilder} {types : InputTypes}

/-! ## What is refused -/

lemma unregistered?_eq_none_iff {p : Phrasing} :
    unregistered? types p = none ↔ p.Registered types := by
  rw [unregistered?, List.find?_eq_none]
  simp [Phrasing.Registered, Phrasing.mem_slotNames]

/-- Nothing is wrong with a phrasing whose slots are registered and whose pattern is built, and with
no other. -/
lemma fault?_eq_none_iff {p : Phrasing} :
    fault? patterns types p = none ↔ p.Registered types ∧ patterns.Builds p := by
  rw [fault?, ← unregistered?_eq_none_iff, PatternBuilder.Builds]
  cases unregistered? types p <;> simp

/-- A pattern is what is wrong with a phrasing whose slots are registered and whose pattern is
refused. -/
lemma fault?_eq_unbuildable_iff {p : Phrasing} {reason : String} :
    fault? patterns types p = some (.unbuildable reason) ↔
      p.Registered types ∧ patterns.refusal? p = some reason := by
  rw [fault?, ← unregistered?_eq_none_iff]
  cases unregistered? types p <;> simp

/-- **What can be wrong with a phrasing**: a slot of it has no input type, or its slots are
registered and its pattern is refused. -/
lemma fault?_cases {p : Phrasing} {fault : TemplateFault}
    (h : fault? patterns types p = some fault) :
    (∃ name, fault = .unknownSlot name ∧ types.contains name = false ∧ Token.slot name ∈ p) ∨
    ∃ reason, fault = .unbuildable reason ∧ p.Registered types ∧
      patterns.refusal? p = some reason := by
  rw [fault?] at h
  cases hfound : unregistered? types p with
  | some name =>
      rw [hfound] at h
      refine .inl ⟨name, (Option.some.inj h).symm, ?_, ?_⟩
      · simpa using List.find?_some hfound
      · exact Phrasing.mem_slotNames.mp (List.mem_of_find?_eq_some hfound)
  | none =>
      rw [hfound] at h
      obtain ⟨reason, hreason, rfl⟩ := Option.map_eq_some_iff.mp h
      exact .inr ⟨reason, rfl, unregistered?_eq_none_iff.mp hfound, hreason⟩

/-! ## What is kept -/

/-- The phrasing says something and is not among those that are kept. -/
def isNew (kept : List Phrasing) (p : Phrasing) : Bool := !p.isEmpty && !kept.contains p

/-- The phrasings that say something, each once, where it comes first. -/
def distinct (ps : List Phrasing) : List Phrasing := (ps.filter fun p => !p.isEmpty).eraseDups

/-- Once a phrasing is kept, the new ones are those that were new and are different from it. -/
lemma isNew_append_singleton (kept : List Phrasing) (p : Phrasing) :
    isNew (kept ++ [p]) = fun q => !(q == p) && isNew kept q := by
  funext q
  by_cases hq : q = p <;> simp [isNew, hq]

/-- **What going through phrasings comes to**, when some are kept already: the first fault among the
new ones, or else these are added, each once. -/
lemma keepDistinct_eq : ∀ kept ps : List Phrasing,
    keepDistinct patterns types kept ps =
      match (ps.filter (isNew kept)).eraseDups.findSome? (fault? patterns types) with
      | some fault => .error fault
      | none => .ok (kept ++ (ps.filter (isNew kept)).eraseDups)
  | kept, [] => by
      rw [keepDistinct, List.filter_nil, List.eraseDups_nil, List.findSome?_nil, List.append_nil]
  | kept, p :: ps => by
      rw [keepDistinct]
      by_cases hseen : (p.isEmpty || kept.contains p) = true
      · have hold : ¬ isNew kept p = true := by
          rw [isNew, ← Bool.not_or, hseen]
          exact Bool.false_ne_true
        rw [if_pos hseen, keepDistinct_eq kept ps, List.filter_cons_of_neg hold]
      · have hnew : isNew kept p = true := by
          rw [isNew, ← Bool.not_or, Bool.eq_false_iff.mpr hseen]
          rfl
        rw [if_neg hseen, List.filter_cons_of_pos hnew, List.eraseDups_cons, List.filter_filter,
          ← isNew_append_singleton, List.findSome?_cons]
        cases fault? patterns types p with
        | some fault => rfl
        | none =>
            simp only
            rw [keepDistinct_eq (kept ++ [p]) ps, List.append_assoc, List.singleton_append]

/-- **What going through the phrasings comes to**: the first fault among those that are distinct, or
else these. -/
theorem keepDistinct_nil (patterns : PatternBuilder) (types : InputTypes) (ps : List Phrasing) :
    keepDistinct patterns types [] ps =
      match (distinct ps).findSome? (fault? patterns types) with
      | some fault => .error fault
      | none => .ok (distinct ps) := by
  have hnew : isNew [] = fun p => !p.isEmpty := by
    funext p
    simp [isNew]
  rw [keepDistinct_eq, distinct, hnew, List.nil_append]

lemma mem_distinct {ps : List Phrasing} {p : Phrasing} : p ∈ distinct ps ↔ p ∈ ps ∧ p ≠ [] := by
  simp [distinct]

lemma distinct_eq_nil_iff {ps : List Phrasing} : distinct ps = [] ↔ ∀ p ∈ ps, p = [] := by
  rw [List.eq_nil_iff_forall_not_mem]
  simp only [mem_distinct, not_and, not_not]

lemma length_distinct_le (ps : List Phrasing) : (distinct ps).length ≤ ps.length :=
  ((eraseDups_sublist _).trans List.filter_sublist).length_le

/-- All phrasings pass: their slots are registered, and their patterns are built. -/
@[mk_iff pass_iff]
structure Pass (patterns : PatternBuilder) (types : InputTypes) (ps : List Phrasing) : Prop where
  registered : ∀ p ∈ ps, p.Registered types
  built : patterns.BuildsAll ps

/-- Nothing is wrong with what is distinct exactly if all phrasings pass.  An empty one has no
slots. -/
lemma findSome?_fault?_eq_none_iff {ps : List Phrasing} :
    (distinct ps).findSome? (fault? patterns types) = none ↔ Pass patterns types ps := by
  rw [List.findSome?_eq_none_iff]
  simp only [fault?_eq_none_iff, mem_distinct, and_imp]
  constructor
  · refine fun h => ⟨fun p hp => ?_, fun p hp hne => (h p hp hne).2⟩
    by_cases hne : p = []
    · rintro name hname
      rw [hne] at hname
      cases hname
    · exact (h p hp hne).1
  · exact fun h p hp hne => ⟨h.registered p hp, h.built p hp hne⟩

/-- **When nothing is refused, and what is kept then.** -/
theorem keepDistinct_eq_ok_iff {ps kept : List Phrasing} :
    keepDistinct patterns types [] ps = .ok kept ↔
      Pass patterns types ps ∧ kept = distinct ps := by
  rw [keepDistinct_nil, ← findSome?_fault?_eq_none_iff]
  cases (distinct ps).findSome? (fault? patterns types) <;> simp [eq_comm]

/-- What is kept was written out and says something, and nothing else is dropped. -/
lemma mem_kept_iff {all kept : List Phrasing} (h : keepDistinct patterns types [] all = .ok kept)
    {p : Phrasing} : p ∈ kept ↔ p ∈ all ∧ p ≠ [] := by
  rw [(keepDistinct_eq_ok_iff.mp h).2, mem_distinct]

/-! ## Compiling -/

variable {limit : ℕ} {template : String}

/-- Compiling is reading, writing out, and keeping what is distinct. -/
lemma exists_of_phrasingsOf {kept : List Phrasing}
    (h : phrasingsOf patterns types limit template = .ok kept) :
    ∃ nodes all, Template.parse template = .ok nodes ∧ Template.expand? limit nodes = some all ∧
      keepDistinct patterns types [] all = .ok kept := by
  simp only [phrasingsOf, bind, Except.bind] at h
  cases hnodes : Template.parse template with
  | error fault =>
      rw [hnodes] at h
      cases h
  | ok nodes =>
      rw [hnodes] at h
      simp only at h
      cases hall : Template.expand? limit nodes with
      | none =>
          rw [hall] at h
          cases h
      | some all =>
          rw [hall] at h
          simp only at h
          split at h
          · cases h
          · rename_i kept' hkept
            split at h
            · cases h
            · exact ⟨nodes, all, rfl, hall, by rw [hkept, ← Except.ok.inj h]⟩

lemma exists_of_compile {m : Matcher} (h : compile patterns types limit template = .ok m) :
    ∃ nodes all, Template.parse template = .ok nodes ∧ Template.expand? limit nodes = some all ∧
      keepDistinct patterns types [] all = .ok m.phrasings := by
  rw [compile] at h
  split at h
  · rename_i phrasings hphrasings
    obtain rfl := Except.ok.inj h
    exact exists_of_phrasingsOf hphrasings
  · cases h

variable {nodes : List Node} {all : List Phrasing}

lemma compile_of_expand?_eq_none (hnodes : Template.parse template = .ok nodes)
    (hall : Template.expand? limit nodes = none) :
    compile patterns types limit template = .error ⟨template, .tooManyExpansions limit⟩ := by
  simp only [compile, phrasingsOf, hnodes, bind, Except.bind, hall]

/-- **Compiling what was written out**: the first fault among the distinct phrasings is reported, or
that there are none; otherwise they are left. -/
theorem compile_of_expand? (hnodes : Template.parse template = .ok nodes)
    (hall : Template.expand? limit nodes = some all) :
    compile patterns types limit template =
      match (distinct all).findSome? (fault? patterns types) with
      | some fault => .error ⟨template, fault⟩
      | none =>
        if distinct all = [] then .error ⟨template, .empty⟩ else .ok ⟨template, distinct all⟩ := by
  simp only [compile, phrasingsOf, hnodes, bind, Except.bind, hall, keepDistinct_nil]
  cases (distinct all).findSome? (fault? patterns types) with
  | some fault => rfl
  | none => cases distinct all <;> rfl

/-- A fault of a phrasing is reported exactly if it is the first one. -/
lemma compile_eq_error_iff (hnodes : Template.parse template = .ok nodes)
    (hall : Template.expand? limit nodes = some all) {fault : TemplateFault}
    (hfault : fault ≠ .empty) :
    compile patterns types limit template = .error ⟨template, fault⟩ ↔
      (distinct all).findSome? (fault? patterns types) = some fault := by
  rw [compile_of_expand? hnodes hall]
  cases (distinct all).findSome? (fault? patterns types) with
  | some fault' => simp
  | none =>
      simp only [reduceCtorEq, iff_false]
      split
      · simp [hfault.symm]
      · simp

/-- Phrasings that pass compile unless none of them says something. -/
lemma compile_of_pass (hnodes : Template.parse template = .ok nodes)
    (hall : Template.expand? limit nodes = some all) (h : Pass patterns types all) :
    compile patterns types limit template =
      if distinct all = [] then .error ⟨template, .empty⟩ else .ok ⟨template, distinct all⟩ := by
  rw [compile_of_expand? hnodes hall, findSome?_fault?_eq_none_iff.mpr h]

/-- **What compiling comes to once a template is written out**: something is wrong with a phrasing
that says something, or all phrasings pass and those that say something are left. -/
theorem compile_cases (patterns : PatternBuilder) (types : InputTypes)
    (hnodes : Template.parse template = .ok nodes)
    (hall : Template.expand? limit nodes = some all) :
    (∃ fault, (∃ p ∈ all, p ≠ [] ∧ fault? patterns types p = some fault) ∧
      compile patterns types limit template = .error ⟨template, fault⟩) ∨
    (Pass patterns types all ∧ compile patterns types limit template =
      if distinct all = [] then .error ⟨template, .empty⟩ else .ok ⟨template, distinct all⟩) := by
  cases hfound : (distinct all).findSome? (fault? patterns types) with
  | some fault =>
      obtain ⟨p, hp, hfault⟩ := List.exists_of_findSome?_eq_some hfound
      obtain ⟨hmem, hne⟩ := mem_distinct.mp hp
      refine .inl ⟨fault, ⟨p, hmem, hne, hfault⟩, ?_⟩
      rw [compile_of_expand? hnodes hall, hfound]
  | none =>
      have hpass := findSome?_fault?_eq_none_iff.mp hfound
      exact .inr ⟨hpass, compile_of_pass hnodes hall hpass⟩

/-! ## What is compiled -/

variable {m : Matcher}

/-- **What a template is compiled to** depends on the template alone. -/
theorem eq_of_compile (h : compile patterns types limit template = .ok m) :
    ∃ nodes, Template.parse template = .ok nodes ∧
      m = ⟨template, distinct (Template.ways nodes)⟩ := by
  obtain ⟨nodes, all, hnodes, hall, hkept⟩ := exists_of_compile h
  obtain ⟨hpass, -⟩ := keepDistinct_eq_ok_iff.mp hkept
  rw [compile_of_pass hnodes hall hpass, Template.expand?_eq_ways hall] at h
  split at h
  · cases h
  · exact ⟨nodes, hnodes, (Except.ok.inj h).symm⟩

/-- Whatever lets a template pass compiles it to the same. -/
lemma compile_unique {patterns' : PatternBuilder} {types' : InputTypes} {limit' : ℕ} {m' : Matcher}
    (h : compile patterns types limit template = .ok m)
    (h' : compile patterns' types' limit' template = .ok m') : m = m' := by
  obtain ⟨nodes, hnodes, rfl⟩ := eq_of_compile h
  obtain ⟨nodes', hnodes', rfl⟩ := eq_of_compile h'
  obtain rfl := Except.ok.inj (hnodes.symm.trans hnodes')
  rfl

section Single

variable {p : Phrasing} (hnodes : Template.parse template = .ok nodes) (hne : p ≠ [])

include hne in
lemma distinct_singleton : distinct [p] = [p] := by
  simp [distinct, hne, List.eraseDups_cons]

include hnodes hne

/-- A template that is written out into a single phrasing, compiled. -/
lemma compile_of_single (hall : Template.expand? limit nodes = some [p])
    (hfault : fault? patterns types p = none) :
    compile patterns types limit template = .ok ⟨template, [p]⟩ := by
  rw [compile_of_expand? hnodes hall, distinct_singleton hne, List.findSome?_singleton, hfault]
  rfl

/-- What such a template is compiled to. -/
lemma eq_of_compile_single (hways : Template.ways nodes = [p])
    (h : compile patterns types limit template = .ok m) : m = ⟨template, [p]⟩ := by
  obtain ⟨nodes', hnodes', rfl⟩ := eq_of_compile h
  obtain rfl := Except.ok.inj (hnodes.symm.trans hnodes')
  rw [hways, distinct_singleton hne]

end Single

end Matcher

end Dialogue
