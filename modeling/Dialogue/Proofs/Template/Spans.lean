import Dialogue.Template.Pattern
import Dialogue.Proofs.Text.Fields
import Mathlib.Data.List.TakeWhile

/-!
# What each part of a pattern does to a match

A match is a search through the numbers of characters that the atoms could take.  This file says
what the search finds for one atom, then for the atoms of one word and of one slot, in terms of what
it finds for the rest of the pattern on the rest of the text.  The text is always one of fields with
single spaces; since the rest of a pattern after a token starts with a space, it is matched at the
end of a field only, and that is why words and slots take whole fields.

* `spans?_letter_cons`, `spans?_punctuation`, `spans?_span` — the atoms.
* `FieldMatches` — a field is a word up to case with punctuation around it.
* **`spans?_word`** — a word takes one field that matches it.
* **`spans?_slot`** — a slot takes as few fields as it can.
-/

namespace Dialogue

open Text

/-! ## Folding and attached characters -/

lemma CaseRun.image?_mem_run {n k : ℕ} : ∀ {runs : List CaseRun},
    CaseRun.image? runs n = some k → ∃ r ∈ runs, r.target ≤ k ∧ k ≤ r.target + (r.last - r.first)
  | [], h => by simp [CaseRun.image?] at h
  | r :: runs, h => by
      rw [CaseRun.image?] at h
      split at h
      · cases h
      · split at h
        · rename_i hwithin
          simp only [Bool.and_eq_true, decide_eq_true_eq] at hwithin
          refine ⟨r, List.mem_cons_self, ?_⟩
          rw [← Option.some.inj h]
          omega
        · obtain ⟨r', hr', hle⟩ := image?_mem_run h
          exact ⟨r', List.mem_cons_of_mem _ hr', hle⟩

/-- Nothing else folds to a character that stands before the small letters. -/
lemma eq_of_fold {c d : Char} (h : fold c = d) (hpos : 0 < d.toNat) (hlt : d.toNat < 97) :
    c = d := by
  rw [fold] at h
  split at h
  · rename_i n hn
    obtain ⟨r, hr, hle, _⟩ := CaseRun.image?_mem_run hn
    have hall : ∀ r ∈ foldRuns, 97 ≤ r.target := by decide +kernel
    have hge : 97 ≤ n := Nat.le_trans (hall r hr) hle
    by_cases hvalid : n.isValidChar
    · rw [Char.ofNat, dif_pos hvalid] at h
      have hn : n = d.toNat := congrArg Char.toNat h
      omega
    · rw [Char.ofNat, dif_neg hvalid] at h
      have hzero : 0 = d.toNat := congrArg Char.toNat h
      omega
  · exact h

/-- Only the space folds to the space. -/
lemma eq_space_of_fold {c : Char} (h : fold c = ' ') : c = ' ' :=
  eq_of_fold h (by decide) (by decide)

lemma isBlank_of_isAttached {c : Char} (h : Atom.isAttached c = true) : isBlank c = false := by
  rw [Atom.isAttached, Bool.and_eq_true] at h
  simpa using h.2

/-! ## Single atoms -/

lemma Atom.mem_downFrom {n k : ℕ} : n ∈ Atom.downFrom k ↔ n ≤ k := by
  induction k with
  | zero => simp [downFrom]
  | succ k ih => rw [downFrom, List.mem_cons, ih]; omega

namespace Pattern

lemma spans?_nil_eq_some_iff {cs : List Char} {found : List (List Char)} :
    spans? [] cs = some found ↔ cs = [] ∧ found = [] := by
  cases cs <;> simp [spans?, match?, spans, eq_comm]

/-- What an atom takes, followed by what the rest takes; only the stretches of slots are kept. -/
lemma spans?_cons (a : Atom) (as : Pattern) (cs : List Char) :
    spans? (a :: as) cs = (a.offers cs).findSome? fun n =>
      (spans? as (cs.drop n)).map fun found =>
        match a with
        | .span => cs.take n :: found
        | _ => found := by
  rw [spans?, match?, List.map_findSome?]
  refine congrArg (List.findSome? · _) (funext fun n => ?_)
  cases a <;> simp [spans?, spans, Function.comp_def]

lemma spans?_letter_nil (folded : Char) (as : Pattern) :
    spans? (.letter folded :: as) [] = none := by
  simp [spans?_cons, Atom.offers]

lemma spans?_letter_cons (folded : Char) (as : Pattern) (c : Char) (cs : List Char) :
    spans? (.letter folded :: as) (c :: cs) = if fold c = folded then spans? as cs else none := by
  rw [spans?_cons, Atom.offers]
  by_cases h : fold c = folded
  · simp [h]
  · simp [h]

lemma spans?_letters {bs : Pattern} {found : List (List Char)} : ∀ {w cs : List Char},
    spans? (w.map (fun c => .letter (fold c)) ++ bs) cs = some found ↔
      ∃ stretch rest, cs = stretch ++ rest ∧ stretch.map fold = w.map fold ∧
        spans? bs rest = some found
  | [], cs => by
      constructor
      · exact fun h => ⟨[], cs, rfl, rfl, h⟩
      · rintro ⟨stretch, rest, rfl, hfold, h⟩
        rw [List.map_nil, List.map_eq_nil_iff] at hfold
        rw [hfold]
        exact h
  | c :: w, [] => by
      rw [List.map_cons, List.cons_append, spans?_letter_nil]
      constructor
      · exact fun h => by cases h
      · rintro ⟨stretch, rest, hcs, hfold, _⟩
        obtain ⟨rfl, _⟩ := List.append_eq_nil_iff.mp hcs.symm
        cases hfold
  | c :: w, d :: cs => by
      rw [List.map_cons, List.cons_append, spans?_letter_cons]
      constructor
      · intro h
        split at h
        · rename_i hd
          obtain ⟨stretch, rest, rfl, hfold, hrest⟩ := spans?_letters.mp h
          exact ⟨d :: stretch, rest, rfl, by rw [List.map_cons, List.map_cons, hd, hfold], hrest⟩
        · cases h
      · rintro ⟨stretch, rest, hcs, hfold, hrest⟩
        cases stretch with
        | nil => cases hfold
        | cons d' stretch =>
            obtain ⟨rfl, rfl⟩ := List.cons.inj hcs
            obtain ⟨hd, hfold⟩ := List.cons.inj hfold
            rw [if_pos hd]
            exact spans?_letters.mpr ⟨stretch, rest, rfl, hfold, hrest⟩

/-- What punctuation takes is attached. -/
lemma spans?_punctuation {as : Pattern} {cs : List Char} {found : List (List Char)}
    (h : spans? (.punctuation :: as) cs = some found) :
    ∃ attached rest, cs = attached ++ rest ∧ (∀ c ∈ attached, Atom.isAttached c = true) ∧
      spans? as rest = some found := by
  rw [spans?_cons] at h
  obtain ⟨n, hn, hfound⟩ := List.exists_of_findSome?_eq_some h
  rw [Atom.offers, Atom.mem_downFrom] at hn
  refine ⟨cs.take n, cs.drop n, (List.take_append_drop n cs).symm, fun c hc => ?_,
    by simpa using hfound⟩
  have hinitial : cs.take n <+: cs.takeWhile Atom.isAttached :=
    List.prefix_of_prefix_length_le (List.take_prefix n cs) (List.takeWhile_prefix _)
      (Nat.le_trans (List.length_take_le n cs) hn)
  exact List.mem_takeWhile_imp (hinitial.subset hc)

/-- If some way to take attached characters works, punctuation takes some. -/
lemma isSome_spans?_punctuation {as : Pattern} {attached rest : List Char}
    (hattached : ∀ c ∈ attached, Atom.isAttached c = true) (h : (spans? as rest).isSome = true) :
    (spans? (.punctuation :: as) (attached ++ rest)).isSome = true := by
  rw [spans?_cons]
  refine List.findSome?_isSome_iff.mpr ⟨attached.length, ?_, ?_⟩
  · rw [Atom.offers, Atom.mem_downFrom, List.takeWhile_append_of_pos hattached,
      List.length_append]
    exact Nat.le_add_right _ _
  · rw [List.drop_left]
    simpa using h

/-! ## Words -/

/-- A field is the word up to case, with only punctuation attached to it. -/
def FieldMatches (w f : List Char) : Prop :=
  ∃ before stretch after, f = before ++ stretch ++ after ∧ stretch.map fold = w.map fold ∧
    (∀ c ∈ before, Atom.isAttached c = true) ∧ ∀ c ∈ after, Atom.isAttached c = true

/-- The pattern matches only at the end of a field: where the text ends or a space follows. -/
def EndsField (bs : Pattern) : Prop :=
  ∀ cs found, spans? bs cs = some found → ∀ d ds, cs = d :: ds → d = ' '

/-- A text is cut in one way only into a part without spaces and a part that starts with one. -/
lemma append_inj_of_space {xs ys r r' : List Char} (hxs : ∀ c ∈ xs, c ≠ ' ')
    (hys : ∀ c ∈ ys, c ≠ ' ') (hr : ∀ d ds, r = d :: ds → d = ' ')
    (hr' : ∀ d ds, r' = d :: ds → d = ' ') (h : xs ++ r = ys ++ r') : xs = ys ∧ r = r' := by
  rcases List.append_eq_append_iff.mp h with ⟨zs, rfl, rfl⟩ | ⟨zs, rfl, rfl⟩
  · cases zs with
    | nil => simp
    | cons z zs => exact absurd (hr z _ rfl) (hys z (by simp))
  · cases zs with
    | nil => simp
    | cons z zs => exact absurd (hr' z _ rfl) (hxs z (by simp))

lemma ne_space_of_isBlank {c : Char} (h : isBlank c = false) : c ≠ ' ' := by
  rintro rfl
  simp at h

lemma ne_space_of_fold {w stretch : List Char} (hw : IsField w)
    (hfold : stretch.map fold = w.map fold) : ∀ c ∈ stretch, c ≠ ' ' := by
  rintro c hc rfl
  have hmem : fold ' ' ∈ w.map fold := hfold ▸ List.mem_map_of_mem hc
  obtain ⟨d, hd, hspace⟩ := List.mem_map.mp hmem
  have hfoldspace : fold ' ' = ' ' := by decide
  exact ne_space_of_isBlank (hw.2 d hd) (eq_space_of_fold (hspace.trans hfoldspace))

/-- **A word takes one field that matches it**, and all of it. -/
theorem spans?_word {w f rest : List Char} {bs : Pattern} {found : List (List Char)}
    (hw : IsField w) (hf : IsField f) (hrest : ∀ d ds, rest = d :: ds → d = ' ')
    (hbs : EndsField bs) :
    spans? (ofToken (.word w) ++ bs) (f ++ rest) = some found ↔
      FieldMatches w f ∧ spans? bs rest = some found := by
  have hpattern : ofToken (.word w) ++ bs =
      .punctuation :: (w.map (fun c => .letter (fold c)) ++ .punctuation :: bs) := by
    simp [ofToken]
  rw [hpattern]
  have hsound : ∀ found, spans? (.punctuation ::
      (w.map (fun c => .letter (fold c)) ++ .punctuation :: bs)) (f ++ rest) = some found →
      FieldMatches w f ∧ spans? bs rest = some found := by
    intro found h
    obtain ⟨before, rest₁, hcut, hbefore, h⟩ := spans?_punctuation h
    obtain ⟨stretch, rest₂, rfl, hfold, h⟩ := spans?_letters.mp h
    obtain ⟨after, rest₃, rfl, hafter, h⟩ := spans?_punctuation h
    have hattached : ∀ cs : List Char, (∀ c ∈ cs, Atom.isAttached c = true) → ∀ c ∈ cs, c ≠ ' ' :=
      fun cs hcs c hc => ne_space_of_isBlank (isBlank_of_isAttached (hcs c hc))
    have hsolid : ∀ c ∈ before ++ stretch ++ after, c ≠ ' ' :=
      List.forall_mem_append.mpr ⟨List.forall_mem_append.mpr
        ⟨hattached before hbefore, ne_space_of_fold hw hfold⟩, hattached after hafter⟩
    obtain ⟨rfl, rfl⟩ := append_inj_of_space (fun c hc => ne_space_of_isBlank (hf.2 c hc)) hsolid
      hrest (hbs rest₃ found h) (by simpa using hcut)
    exact ⟨⟨before, stretch, after, rfl, hfold, hbefore, hafter⟩, h⟩
  refine ⟨hsound found, ?_⟩
  rintro ⟨hmatches, hfound⟩
  obtain ⟨before, stretch, after, hcut, hfold, hbefore, hafter⟩ := hmatches
  have hsome : (spans? (.punctuation ::
      (w.map (fun c => .letter (fold c)) ++ .punctuation :: bs)) (f ++ rest)).isSome = true := by
    have hlast := isSome_spans?_punctuation hafter (Option.isSome_of_eq_some hfound)
    obtain ⟨found₁, hfound₁⟩ := Option.isSome_iff_exists.mp hlast
    have hletters := spans?_letters.mpr ⟨stretch, after ++ rest, rfl, hfold, hfound₁⟩
    have hfirst := isSome_spans?_punctuation hbefore (Option.isSome_of_eq_some hletters)
    rw [hcut]
    simpa using hfirst
  obtain ⟨found', hfound'⟩ := Option.isSome_iff_exists.mp hsome
  rw [hfound', ← hfound, (hsound found' hfound').2]

/-! ## Slots -/

lemma findSome?_range'_eq_some_iff {β : Type} {f : ℕ → Option β} {k : ℕ} {b : β} :
    (List.range' 1 k).findSome? f = some b ↔
      ∃ n, 1 ≤ n ∧ n ≤ k ∧ f n = some b ∧ ∀ m, 1 ≤ m → m < n → f m = none := by
  rw [List.findSome?_eq_some_iff]
  constructor
  · rintro ⟨before, n, after, hsplit, hn, hbefore⟩
    obtain ⟨j, hj, rfl, hafter⟩ := List.range'_eq_append_iff.mp hsplit
    have hhead : n = 1 + j ∧ 0 < k - j := by
      cases hk : k - j with
      | zero => simp [hk] at hafter
      | succ i => simp [hk, List.range'_succ] at hafter; omega
    refine ⟨n, by omega, by omega, hn, fun m hm hlt => hbefore m ?_⟩
    rw [List.mem_range'_1]
    omega
  · rintro ⟨n, hpos, hle, hn, hbefore⟩
    refine ⟨List.range' 1 (n - 1), n, List.range' (n + 1) (k - n), ?_, hn, fun m hm => ?_⟩
    · have hsplit := List.range'_append_1 (s := 1) (m := n - 1) (n := k - n + 1)
      rw [← List.range'_succ]
      rwa [Nat.add_sub_cancel' hpos, show n - 1 + (k - n + 1) = k by omega, eq_comm] at hsplit
    · rw [List.mem_range'_1] at hm
      exact hbefore m (by omega) (by omega)

/-- A slot takes a character at least, and as few as it can. -/
lemma spans?_span {bs : Pattern} {fs : List (List Char)} (hfs : ∀ f ∈ fs, IsField f) :
    spans? (.span :: bs) (unfields fs) = (List.range' 1 (unfields fs).length).findSome? fun n =>
      (spans? bs ((unfields fs).drop n)).map ((unfields fs).take n :: ·) := by
  have hline : (unfields fs).takeWhile (· != '\n') = unfields fs := by
    refine List.takeWhile_eq_self_iff.mpr fun c hc => ?_
    rw [bne_iff_ne]
    rintro rfl
    exact absurd (eq_space_of_mem_unfields hfs hc (by decide)) (by decide)
  rw [spans?_cons, Atom.offers, hline]

lemma exists_fields_of_span {bs : Pattern} (hbs : EndsField bs) {fs : List (List Char)}
    (hfs : ∀ f ∈ fs, IsField f) {n : ℕ} (hpos : 1 ≤ n) (hle : n ≤ (unfields fs).length)
    {found : List (List Char)} (h : spans? bs ((unfields fs).drop n) = some found) :
    ∃ vs us, vs ≠ [] ∧ fs = vs ++ us ∧ (unfields fs).take n = unfields vs ∧
      (unfields fs).drop n = spaced us := by
  have hne : (unfields fs).take n ≠ [] := by
    intro hnil
    have hlength := congrArg List.length hnil
    rw [List.length_take, List.length_nil] at hlength
    omega
  exact unfields_eq_append hfs hne (hbs _ found h) (List.take_append_drop n _).symm

/-- Taking the characters of the first fields takes these fields and leaves the others. -/
lemma cut_unfields {fs vs us : List (List Char)} (hfs : ∀ f ∈ fs, IsField f) (hvs : vs ≠ [])
    (hsplit : fs = vs ++ us) :
    1 ≤ (unfields vs).length ∧ (unfields vs).length ≤ (unfields fs).length ∧
      (unfields fs).take (unfields vs).length = unfields vs ∧
      (unfields fs).drop (unfields vs).length = spaced us := by
  subst hsplit
  rw [unfields_append hvs, List.drop_left, List.take_left, List.length_append]
  refine ⟨?_, Nat.le_add_right _ _, rfl, rfl⟩
  obtain ⟨v, vs, rfl⟩ := List.exists_cons_of_ne_nil hvs
  have hv : IsField v := hfs v (by simp)
  exact List.length_pos_iff.mpr (hv.unfields_ne_nil vs)

/-- Of two beginnings of a list of fields, the one with fewer fields is the shorter text. -/
lemma length_unfields_lt_iff {fs vs us vs' us' : List (List Char)} (hvs : vs ≠ [])
    (hvs' : vs' ≠ []) (hsplit : fs = vs ++ us) (hsplit' : fs = vs' ++ us') :
    (unfields vs').length < (unfields vs).length ↔ vs'.length < vs.length := by
  have hinitial : vs <+: fs := ⟨us, hsplit.symm⟩
  have hinitial' : vs' <+: fs := ⟨us', hsplit'.symm⟩
  constructor
  · intro hlt
    by_contra hge
    obtain ⟨more, rfl⟩ := List.prefix_of_prefix_length_le hinitial hinitial' (Nat.le_of_not_lt hge)
    rw [unfields_append hvs, List.length_append] at hlt
    omega
  · intro hlt
    obtain ⟨more, rfl⟩ := List.prefix_of_prefix_length_le hinitial' hinitial hlt.le
    have hmore : more ≠ [] := by
      rintro rfl
      simp at hlt
    rw [unfields_append hvs', spaced_eq hmore, List.length_append, List.length_cons]
    omega

/-- **A slot takes as few fields as it can**, one at least, and all the characters of them. -/
theorem spans?_slot {bs : Pattern} (hbs : EndsField bs) {fs : List (List Char)}
    (hfs : ∀ f ∈ fs, IsField f) {found : List (List Char)} :
    spans? (.span :: bs) (unfields fs) = some found ↔
      ∃ vs us found', vs ≠ [] ∧ fs = vs ++ us ∧ spans? bs (spaced us) = some found' ∧
        found = unfields vs :: found' ∧ ∀ vs' us', vs' ≠ [] → fs = vs' ++ us' →
          vs'.length < vs.length → spans? bs (spaced us') = none := by
  rw [spans?_span hfs, findSome?_range'_eq_some_iff]
  constructor
  · rintro ⟨n, hpos, hle, hn, hfewer⟩
    obtain ⟨found', hfound', rfl⟩ := Option.map_eq_some_iff.mp hn
    obtain ⟨vs, us, hvs, hsplit, htake, hdrop⟩ := exists_fields_of_span hbs hfs hpos hle hfound'
    have hlength : (unfields vs).length = n := by
      rw [← htake, List.length_take, Nat.min_eq_left hle]
    refine ⟨vs, us, found', hvs, hsplit, hdrop ▸ hfound', by rw [htake],
      fun vs' us' hvs' hsplit' hlt => ?_⟩
    obtain ⟨hpos', _, _, hdrop'⟩ := cut_unfields hfs hvs' hsplit'
    have hshorter := (length_unfields_lt_iff hvs hvs' hsplit hsplit').mpr hlt
    have hnone := hfewer _ hpos' (hlength ▸ hshorter)
    rwa [hdrop', Option.map_eq_none_iff] at hnone
  · rintro ⟨vs, us, found', hvs, hsplit, hfound', rfl, hfewer⟩
    obtain ⟨hpos, hle, htake, hdrop⟩ := cut_unfields hfs hvs hsplit
    refine ⟨(unfields vs).length, hpos, hle, by rw [hdrop, htake, hfound', Option.map_some],
      fun m hm hlt => ?_⟩
    rw [Option.map_eq_none_iff, Option.eq_none_iff_forall_ne_some]
    intro found'' hfound''
    have hmle : m ≤ (unfields fs).length := Nat.le_trans hlt.le hle
    obtain ⟨vs', us', hvs', hsplit', htake', hdrop'⟩ :=
      exists_fields_of_span hbs hfs hm hmle hfound''
    have hlength : (unfields vs').length = m := by
      rw [← htake', List.length_take, Nat.min_eq_left hmle]
    have hfew := (length_unfields_lt_iff hvs hvs' hsplit hsplit').mp (hlength ▸ hlt)
    rw [hdrop', hfewer vs' us' hvs' hsplit' hfew] at hfound''
    cases hfound''

lemma spans?_slot_eq_none {bs : Pattern} {fs : List (List Char)} (hfs : ∀ f ∈ fs, IsField f)
    (h : spans? (.span :: bs) (unfields fs) = none) {vs us : List (List Char)} (hvs : vs ≠ [])
    (hsplit : fs = vs ++ us) : spans? bs (spaced us) = none := by
  obtain ⟨hpos, hle, _, hdrop⟩ := cut_unfields hfs hvs hsplit
  rw [spans?_span hfs, List.findSome?_eq_none_iff] at h
  have hnone := h (unfields vs).length (List.mem_range'_1.mpr ⟨hpos, by omega⟩)
  rwa [hdrop, Option.map_eq_none_iff] at hnone

end Pattern

end Dialogue
