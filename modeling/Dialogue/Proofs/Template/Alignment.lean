import Dialogue.Proofs.Template.Spans
import Dialogue.Proofs.Template.WellFormed

/-!
# Matching is aligning tokens with fields

Seen from a distance, matching has nothing to do with characters.  The fields of an utterance are
cut into consecutive runs, one for each token: a word stands for one field, a slot for one or more.
Several such alignments may exist, and the one that gives early slots as few fields as possible
decides what the slots capture.

* `Aligned`, `LeastAligned` — alignments, and the one whose run lengths come first in lexicographic
  order (`LexLE`).
* `LeastAligned.unique` — there is one such alignment at most; `Aligned.least_of_single` — if there
  is one slot at most, every alignment is this one.
* **`decides_spans?`** — the search over characters finds it, or there is no alignment at all.
-/

namespace Dialogue

open Text

/-! ## Alignments -/

/-- What a token asks of its run of fields: a word stands for one field that matches it, a slot for
one or more fields. -/
def Token.Fits : Token → List (List Char) → Prop
  | .word w, run => ∃ f, run = [f] ∧ Pattern.FieldMatches w f
  | .slot _, run => run ≠ []

/-- The fields are cut into runs, one for each token and fitting it. -/
structure Aligned (p : Phrasing) (fs : List (List Char)) (runs : List (List (List Char))) :
    Prop where
  flatten : runs.flatten = fs
  fits : List.Forall₂ Token.Fits p runs

/-- The runs of the slots. -/
def slotRuns : Phrasing → List (List (List Char)) → List (List (List Char))
  | .word _ :: p, _ :: runs => slotRuns p runs
  | .slot _ :: p, run :: runs => run :: slotRuns p runs
  | _, _ => []

/-- How many fields each slot stands for. -/
def slotLengths (p : Phrasing) (runs : List (List (List Char))) : List ℕ :=
  (slotRuns p runs).map List.length

/-- The lexicographic order: the first numbers that differ decide. -/
def LexLE : List ℕ → List ℕ → Prop
  | [], _ => True
  | _ :: _, [] => False
  | m :: ms, n :: ns => m < n ∨ (m = n ∧ LexLE ms ns)

/-- The alignment that gives the slots the fewest fields, earlier slots first. -/
structure LeastAligned (p : Phrasing) (fs : List (List Char)) (runs : List (List (List Char))) :
    Prop extends Aligned p fs runs where
  least : ∀ runs', Aligned p fs runs' → LexLE (slotLengths p runs) (slotLengths p runs')

/-! ## The first token of an alignment -/

section Cases

variable {p : Phrasing} {fs : List (List Char)} {runs : List (List (List Char))}

lemma aligned_nil_iff : Aligned [] fs runs ↔ fs = [] ∧ runs = [] := by
  constructor
  · rintro ⟨rfl, hfits⟩
    cases hfits
    exact ⟨rfl, rfl⟩
  · rintro ⟨rfl, rfl⟩
    exact ⟨rfl, .nil⟩

lemma aligned_word_iff {w : List Char} : Aligned (.word w :: p) fs runs ↔
    ∃ f fs' runs', fs = f :: fs' ∧ runs = [f] :: runs' ∧ Pattern.FieldMatches w f ∧
      Aligned p fs' runs' := by
  constructor
  · rintro ⟨rfl, hfits⟩
    cases hfits with
    | cons hrun hfits =>
        obtain ⟨f, rfl, hf⟩ := hrun
        exact ⟨f, _, _, rfl, rfl, hf, rfl, hfits⟩
  · rintro ⟨f, fs', runs', rfl, rfl, hf, rfl, hfits⟩
    exact ⟨rfl, .cons ⟨f, rfl, hf⟩ hfits⟩

lemma aligned_slot_iff {name : String} : Aligned (.slot name :: p) fs runs ↔
    ∃ vs us runs', vs ≠ [] ∧ fs = vs ++ us ∧ runs = vs :: runs' ∧ Aligned p us runs' := by
  constructor
  · rintro ⟨rfl, hfits⟩
    cases hfits with
    | cons hrun hfits => exact ⟨_, _, _, hrun, rfl, rfl, rfl, hfits⟩
  · rintro ⟨vs, us, runs', hvs, rfl, rfl, rfl, hfits⟩
    exact ⟨rfl, .cons hvs hfits⟩

end Cases

/-! ## The least alignment -/

lemma LexLE.refl : ∀ ms : List ℕ, LexLE ms ms
  | [] => trivial
  | _ :: ms => .inr ⟨rfl, refl ms⟩

lemma LexLE.antisymm : ∀ {ms ns : List ℕ}, LexLE ms ns → LexLE ns ms → ms = ns
  | [], [], _, _ => rfl
  | [], _ :: _, _, h => h.elim
  | _ :: _, [], h, _ => h.elim
  | m :: ms, n :: ns, h, h' => by
      rcases h with hlt | ⟨rfl, h⟩
      · rcases h' with hgt | ⟨rfl, _⟩ <;> omega
      · rcases h' with hlt | ⟨_, h'⟩
        · omega
        · rw [h.antisymm h']

lemma LeastAligned.nil : LeastAligned [] [] [] :=
  ⟨aligned_nil_iff.mpr ⟨rfl, rfl⟩, fun _ _ => trivial⟩

lemma LeastAligned.word {p : Phrasing} {w f : List Char} {fs : List (List Char)}
    {runs : List (List (List Char))} (hf : Pattern.FieldMatches w f) (h : LeastAligned p fs runs) :
    LeastAligned (.word w :: p) (f :: fs) ([f] :: runs) := by
  refine ⟨aligned_word_iff.mpr ⟨f, fs, runs, rfl, rfl, hf, h.toAligned⟩, fun runs' hruns' => ?_⟩
  obtain ⟨f', fs', runs'', hcons, rfl, _, hruns''⟩ := aligned_word_iff.mp hruns'
  obtain ⟨rfl, rfl⟩ := List.cons.inj hcons
  exact h.least runs'' hruns''

/-- A slot takes the fewest fields that leave something to be aligned with the rest. -/
lemma LeastAligned.slot {p : Phrasing} {name : String} {vs us : List (List Char)}
    {runs : List (List (List Char))} (hvs : vs ≠ []) (h : LeastAligned p us runs)
    (hfewer : ∀ vs' us', vs' ≠ [] → vs ++ us = vs' ++ us' → vs'.length < vs.length →
      ∀ runs', ¬ Aligned p us' runs') :
    LeastAligned (.slot name :: p) (vs ++ us) (vs :: runs) := by
  refine ⟨aligned_slot_iff.mpr ⟨vs, us, runs, hvs, rfl, rfl, h.toAligned⟩, fun runs' hruns' => ?_⟩
  obtain ⟨vs', us', runs'', hvs', hsplit, rfl, hruns''⟩ := aligned_slot_iff.mp hruns'
  show vs.length < vs'.length ∨
    (vs.length = vs'.length ∧ LexLE (slotLengths p runs) (slotLengths p runs''))
  rcases Nat.lt_trichotomy vs.length vs'.length with hlt | heq | hgt
  · exact .inl hlt
  · obtain ⟨rfl, rfl⟩ := List.append_inj hsplit heq
    exact .inr ⟨rfl, h.least runs'' hruns''⟩
  · exact absurd hruns'' (hfewer vs' us' hvs' hsplit hgt runs'')

/-- The numbers of fields that the slots stand for determine the alignment. -/
lemma Aligned.unique : ∀ {p : Phrasing} {fs : List (List Char)}
    {runs runs' : List (List (List Char))}, Aligned p fs runs → Aligned p fs runs' →
      slotLengths p runs = slotLengths p runs' → runs = runs'
  | [], fs, runs, runs', h, h', _ => by
      rw [(aligned_nil_iff.mp h).2, (aligned_nil_iff.mp h').2]
  | .word w :: p, fs, runs, runs', h, h', hlengths => by
      obtain ⟨f, fs₁, runs₁, rfl, rfl, _, h₁⟩ := aligned_word_iff.mp h
      obtain ⟨f', fs₂, runs₂, hcons, rfl, _, h₂⟩ := aligned_word_iff.mp h'
      obtain ⟨rfl, rfl⟩ := List.cons.inj hcons
      rw [h₁.unique h₂ hlengths]
  | .slot name :: p, fs, runs, runs', h, h', hlengths => by
      obtain ⟨vs, us, runs₁, _, rfl, rfl, h₁⟩ := aligned_slot_iff.mp h
      obtain ⟨vs', us', runs₂, _, hsplit, rfl, h₂⟩ := aligned_slot_iff.mp h'
      obtain ⟨hlength, hothers⟩ := List.cons.inj hlengths
      obtain ⟨rfl, rfl⟩ := List.append_inj hsplit hlength
      rw [h₁.unique h₂ hothers]

/-- **There is one least alignment at most.** -/
theorem LeastAligned.unique {p : Phrasing} {fs : List (List Char)}
    {runs runs' : List (List (List Char))} (h : LeastAligned p fs runs)
    (h' : LeastAligned p fs runs') : runs = runs' :=
  h.toAligned.unique h'.toAligned
    ((h.least runs' h'.toAligned).antisymm (h'.least runs h.toAligned))

lemma length_slotNames {p : Phrasing} {runs : List (List (List Char))}
    (h : List.Forall₂ Token.Fits p runs) : p.slotNames.length = (slotRuns p runs).length := by
  induction h with
  | nil => rfl
  | @cons t run p runs _ _ ih =>
      cases t with
      | word w => exact ih
      | slot name =>
          show (Phrasing.slotNames p).length + 1 = (slotRuns p runs).length + 1
          rw [ih]

/-! ## Phrasings with one slot at most -/

/-- Every word stands for one field, and the slots for all others. -/
lemma Aligned.length_eq : ∀ {p : Phrasing} {fs : List (List Char)} {runs : List (List (List Char))},
    Aligned p fs runs →
      fs.length + p.slotNames.length = p.length + (slotRuns p runs).flatten.length
  | [], fs, runs, h => by
      obtain ⟨rfl, rfl⟩ := aligned_nil_iff.mp h
      rfl
  | .word w :: p, fs, runs, h => by
      obtain ⟨f, fs', runs', rfl, rfl, _, h'⟩ := aligned_word_iff.mp h
      have hrest := h'.length_eq
      show fs'.length + 1 + (Phrasing.slotNames p).length =
        p.length + 1 + (slotRuns p runs').flatten.length
      omega
  | .slot name :: p, fs, runs, h => by
      obtain ⟨vs, us, runs', _, rfl, rfl, h'⟩ := aligned_slot_iff.mp h
      have hrest := h'.length_eq
      show (vs ++ us).length + ((Phrasing.slotNames p).length + 1) =
        p.length + 1 + (vs ++ (slotRuns p runs').flatten).length
      rw [List.length_append, List.length_append]
      omega

/-- **A single slot leaves no choice**: it takes the fields that the words do not stand for. -/
lemma Aligned.least_of_single {p : Phrasing} {fs : List (List Char)}
    {runs : List (List (List Char))} (h : Aligned p fs runs) (hslots : p.slotNames.length ≤ 1) :
    LeastAligned p fs runs := by
  refine ⟨h, fun runs' h' => ?_⟩
  have hlength := length_slotNames h.fits
  have hlength' := length_slotNames h'.fits
  have hfields := Nat.add_left_cancel (h.length_eq.symm.trans h'.length_eq)
  have hsame : slotLengths p runs = slotLengths p runs' := by
    rcases Nat.le_one_iff_eq_zero_or_eq_one.mp hslots with hslots | hslots
    · rw [hslots] at hlength hlength'
      rw [slotLengths, slotLengths, List.length_eq_zero_iff.mp hlength.symm,
        List.length_eq_zero_iff.mp hlength'.symm]
    · rw [hslots] at hlength hlength'
      obtain ⟨vs, hvs⟩ := List.length_eq_one_iff.mp hlength.symm
      obtain ⟨vs', hvs'⟩ := List.length_eq_one_iff.mp hlength'.symm
      rw [hvs, hvs', List.flatten_singleton, List.flatten_singleton] at hfields
      rw [slotLengths, slotLengths, hvs, hvs', List.map_singleton, List.map_singleton, hfields]
  rw [hsame]
  exact LexLE.refl _

/-! ## The search finds it -/

namespace Pattern

/-- The atoms after a token: nothing at the end of a phrasing, and a space before another token. -/
def afterToken : Phrasing → Pattern
  | [] => []
  | t :: ts => .letter ' ' :: ofPhrasing (t :: ts)

lemma ofPhrasing_cons (t : Token) (ts : Phrasing) :
    ofPhrasing (t :: ts) = ofToken t ++ afterToken ts := by
  cases ts with
  | nil => rw [ofPhrasing, afterToken, List.append_nil]
  | cons u ts => rfl

/-- After a token, the text ends or goes on with a space. -/
lemma endsField_afterToken (ts : Phrasing) : EndsField (afterToken ts) := by
  rintro cs found h d ds rfl
  cases ts with
  | nil => cases (spans?_nil_eq_some_iff.mp h).1
  | cons t ts =>
      rw [afterToken, spans?_letter_cons] at h
      split at h
      · rename_i hd
        exact eq_space_of_fold hd
      · cases h

/-- Before another token, the space is passed over, and the rest is matched with the fields that
are left. -/
lemma spans?_afterToken (t : Token) (ts : Phrasing) {fs : List (List Char)} (hfs : fs ≠ []) :
    spans? (afterToken (t :: ts)) (spaced fs) = spans? (ofPhrasing (t :: ts)) (unfields fs) := by
  rw [afterToken, spaced_eq hfs, spans?_letter_cons, if_pos (by decide)]

/-- What a search finds tells how the fields are aligned with a phrasing: it finds the texts of the
slots in the least alignment, or nothing if there is no alignment. -/
def Decides (p : Phrasing) (fs : List (List Char)) : Option (List (List Char)) → Prop
  | none => ∀ runs, ¬ Aligned p fs runs
  | some found => ∃ runs, LeastAligned p fs runs ∧ found = (slotRuns p runs).map unfields

lemma Decides.not_aligned {p : Phrasing} {fs : List (List Char)} {found : Option (List (List Char))}
    (h : Decides p fs found) (hnone : found = none) : ∀ runs, ¬ Aligned p fs runs := by
  subst hnone
  exact h

lemma Decides.exists_least {p : Phrasing} {fs : List (List Char)}
    {found : Option (List (List Char))} (h : Decides p fs found) {spans : List (List Char)}
    (hsome : found = some spans) :
    ∃ runs, LeastAligned p fs runs ∧ spans = (slotRuns p runs).map unfields := by
  subst hsome
  exact h

lemma Decides.eq_some {p : Phrasing} {fs : List (List Char)} {found : Option (List (List Char))}
    (h : Decides p fs found) {runs : List (List (List Char))} (hruns : LeastAligned p fs runs) :
    found = some ((slotRuns p runs).map unfields) := by
  cases found with
  | none => exact absurd hruns.toAligned (h runs)
  | some spans =>
      obtain ⟨runs', hruns', rfl⟩ := h
      rw [hruns.unique hruns']

/-- A word in front takes one field, and the rest is decided by the other fields. -/
lemma decides_word {w : List Char} {ts : Phrasing} (hw : IsField w) {f : List Char}
    {fs : List (List Char)} (hf : IsField f)
    (h : Decides ts fs (spans? (afterToken ts) (spaced fs))) :
    Decides (.word w :: ts) (f :: fs)
      (spans? (ofToken (.word w) ++ afterToken ts) (unfields (f :: fs))) := by
  have hspace : ∀ d ds, spaced fs = d :: ds → d = ' ' := by
    intro d ds hd
    cases fs with
    | nil => cases hd
    | cons g gs => exact (List.cons.inj hd).1.symm
  have hword : ∀ found,
      spans? (ofToken (.word w) ++ afterToken ts) (unfields (f :: fs)) = some found ↔
        FieldMatches w f ∧ spans? (afterToken ts) (spaced fs) = some found := by
    intro found
    rw [unfields_cons]
    exact spans?_word hw hf hspace (endsField_afterToken ts)
  cases hfound : spans? (ofToken (.word w) ++ afterToken ts) (unfields (f :: fs)) with
  | none =>
      intro runs hruns
      obtain ⟨f', fs', runs', hcons, rfl, hmatches, hruns'⟩ := aligned_word_iff.mp hruns
      obtain ⟨rfl, rfl⟩ := List.cons.inj hcons
      have hafter : spans? (afterToken ts) (spaced fs) = none := by
        refine Option.eq_none_iff_forall_ne_some.mpr fun found hafter => ?_
        rw [(hword found).mpr ⟨hmatches, hafter⟩] at hfound
        cases hfound
      exact h.not_aligned hafter runs' hruns'
  | some found =>
      obtain ⟨hmatches, hafter⟩ := (hword found).mp hfound
      obtain ⟨runs, hruns, rfl⟩ := h.exists_least hafter
      exact ⟨[f] :: runs, hruns.word hmatches, rfl⟩

/-- A slot in front takes the fewest fields after which the rest can be aligned with the others. -/
lemma decides_slot {name : String} {ts : Phrasing} {fs : List (List Char)}
    (hfs : ∀ f ∈ fs, IsField f) (h : ∀ us : List (List Char), (∀ u ∈ us, IsField u) →
      Decides ts us (spans? (afterToken ts) (spaced us))) :
    Decides (.slot name :: ts) fs (spans? (.span :: afterToken ts) (unfields fs)) := by
  have hrest : ∀ vs us, fs = vs ++ us → ∀ u ∈ us, IsField u :=
    fun vs us hsplit u hu => hfs u (hsplit ▸ List.mem_append_right vs hu)
  cases hfound : spans? (.span :: afterToken ts) (unfields fs) with
  | none =>
      intro runs hruns
      obtain ⟨vs, us, runs', hvs, hsplit, rfl, hruns'⟩ := aligned_slot_iff.mp hruns
      have hafter := spans?_slot_eq_none hfs hfound hvs hsplit
      exact (h us (hrest vs us hsplit)).not_aligned hafter runs' hruns'
  | some found =>
      obtain ⟨vs, us, found', hvs, hsplit, hafter, rfl, hfewer⟩ :=
        (spans?_slot (endsField_afterToken ts) hfs).mp hfound
      obtain ⟨runs, hruns, rfl⟩ := (h us (hrest vs us hsplit)).exists_least hafter
      have hleast : LeastAligned (.slot name :: ts) (vs ++ us) (vs :: runs) := by
        refine hruns.slot hvs fun vs' us' hvs' hsplit' hlt => ?_
        have hsplit'' := hsplit.trans hsplit'
        exact (h us' (hrest vs' us' hsplit'')).not_aligned (hfewer vs' us' hvs' hsplit'' hlt)
      exact ⟨vs :: runs, hsplit ▸ hleast, rfl⟩

/-- **The search finds the least alignment.**  The induction is on the tokens, each seen after a
token or a beginning that the space before it stands for. -/
theorem decides_afterToken : ∀ {p : Phrasing}, p.Solid → ∀ {fs : List (List Char)},
    (∀ f ∈ fs, IsField f) → Decides p fs (spans? (afterToken p) (spaced fs))
  | [], _, fs, _ => by
      cases fs with
      | nil => exact ⟨[], .nil, rfl⟩
      | cons f fs => exact fun runs hruns => List.cons_ne_nil _ _ (aligned_nil_iff.mp hruns).1
  | t :: ts, hp, [], _ => by
      intro runs hruns
      cases t with
      | word w =>
          obtain ⟨_, _, _, hcons, _⟩ := aligned_word_iff.mp hruns
          cases hcons
      | slot name =>
          obtain ⟨vs, us, _, hvs, hsplit, _⟩ := aligned_slot_iff.mp hruns
          exact hvs (List.append_eq_nil_iff.mp hsplit.symm).1
  | t :: ts, hp, f :: fs, hfs => by
      obtain ⟨ht, hts⟩ := List.forall_mem_cons.mp hp
      rw [spans?_afterToken t ts (List.cons_ne_nil _ _), ofPhrasing_cons]
      cases t with
      | word w =>
          obtain ⟨hf, hfs⟩ := List.forall_mem_cons.mp hfs
          exact decides_word ht hf (decides_afterToken hts hfs)
      | slot name => exact decides_slot hfs fun us hus => decides_afterToken hts hus

lemma spans?_ofPhrasing_nil {p : Phrasing} (hp : p.Solid) (hne : p ≠ []) :
    spans? (ofPhrasing p) [] = none := by
  obtain ⟨t, ts, rfl⟩ := List.exists_cons_of_ne_nil hne
  rw [ofPhrasing_cons]
  cases t with
  | word w =>
      obtain ⟨c, cs, rfl, _⟩ := IsField.exists_cons (hp _ List.mem_cons_self)
      simp [ofToken, spans?_cons, Atom.offers, Atom.downFrom]
  | slot name => simp [ofToken, spans?_cons, Atom.offers]

/-- **The search over characters decides the alignment of fields.** -/
theorem decides_spans? {p : Phrasing} (hp : p.Solid) (hne : p ≠ []) {fs : List (List Char)}
    (hfs : ∀ f ∈ fs, IsField f) : Decides p fs (spans? (ofPhrasing p) (unfields fs)) := by
  have hdecides := decides_afterToken hp hfs
  cases fs with
  | nil =>
      rw [unfields_nil, spans?_ofPhrasing_nil hp hne]
      obtain ⟨t, ts, rfl⟩ := List.exists_cons_of_ne_nil hne
      exact hdecides
  | cons f fs =>
      obtain ⟨t, ts, rfl⟩ := List.exists_cons_of_ne_nil hne
      rwa [spans?_afterToken t ts (List.cons_ne_nil _ _)] at hdecides

end Pattern

end Dialogue
