import Dialogue.Proofs.Handler.Placeholders

/-!
# Cutting spoken text

Text that is spoken is often put together from pieces, and some of them come from elsewhere.  If no
placeholder reaches across the place where two pieces meet, they are filled in one by one.  That is
so where the second piece begins with a character that belongs to no placeholder, where it holds no
closing delimiter, and where it is made of two such pieces.

* `map_delimitedName?_eq_some_iff` — what a name in delimiters looks like.
* `cutsBefore_of_stop`, `cutsBefore_of_unclosed`, `CutsBefore.append` — where a text can be cut.
* `interpolate_of_no_placeholder` — a text without placeholders stays.
* `placeholder?_of_unopened` — such is a text without opening delimiters.
-/

namespace Dialogue

open Text

/-! ## Characters -/

/-- A character with which a placeholder may end. -/
def closesPlaceholder (c : Char) : Bool := c == ']' || c == '}'

lemma Placeholder.closesPlaceholder_closing (p : Placeholder) :
    closesPlaceholder p.closing = true := by
  rw [closing]
  split <;> rfl

lemma Placeholder.ne_closing (p : Placeholder) {c : Char} (h : closesPlaceholder c = false) :
    c ≠ p.closing := by
  rintro rfl
  exact Bool.noConfusion (h.symm.trans p.closesPlaceholder_closing)

/-- A character of a name is no blank. -/
lemma isBlank_of_isPlaceholderChar {c : Char} (h : isPlaceholderChar c = true) :
    isBlank c = false := by
  by_contra hblank
  have hc : c.toNat ∈ blankPoints := mem_blankPoints (by simpa using hblank)
  have hnone : ∀ n ∈ blankPoints, isPlaceholderChar (Char.ofNat n) = false := by decide +kernel
  have hnot := hnone c.toNat hc
  rw [Char.ofNat_toNat] at hnot
  exact Bool.noConfusion (hnot.symm.trans h)

/-! ## Names in delimiters -/

section Names

variable {close : Char} (hblank : isBlank close = false) (hclose : isPlaceholderChar close = false)
include hblank hclose

/-- **A name in delimiters** is a run of characters of names with blanks around it, and two closing
delimiters follow. -/
lemma map_delimitedName?_eq_some_iff {cs rest : List Char} {name : String} :
    (delimitedName? close cs).map (fun x => (x.1, x.2.1)) = some (name, rest) ↔
      ∃ front back, cs = front ++ (name.toList ++ (back ++ close :: close :: rest)) ∧
        (∀ c ∈ front, isBlank c = true) ∧ (∀ c ∈ back, isBlank c = true) ∧
        name.toList ≠ [] ∧ ∀ c ∈ name.toList, isPlaceholderChar c = true := by
  rw [map_delimitedName?]
  constructor
  · intro h
    split at h
    · rename_i c d left hleft
      split at h
      · rename_i hcond
        obtain ⟨rfl, rfl⟩ := Prod.mk.inj (Option.some.inj h)
        simp only [Bool.and_eq_true, beq_iff_eq, Bool.not_eq_true', List.isEmpty_eq_false_iff]
          at hcond
        obtain ⟨⟨rfl, rfl⟩, hne⟩ := hcond
        refine ⟨cs.takeWhile isBlank,
          ((cs.dropWhile isBlank).dropWhile isPlaceholderChar).takeWhile isBlank, ?_,
          fun c hc => List.mem_takeWhile_imp hc, fun c hc => List.mem_takeWhile_imp hc, ?_, ?_⟩
        · rw [String.toList_ofList, ← hleft, List.takeWhile_append_dropWhile,
            List.takeWhile_append_dropWhile, List.takeWhile_append_dropWhile]
        · rwa [String.toList_ofList]
        · rw [String.toList_ofList]
          exact fun c hc => List.mem_takeWhile_imp hc
      · cases h
    · cases h
  · rintro ⟨front, back, rfl, hfront, hback, hne, hname⟩
    have hends : ∀ c ∈ (back ++ close :: close :: rest).head?, isPlaceholderChar c = false := by
      intro c hc
      cases back with
      | nil =>
          obtain rfl := Option.some.inj hc
          exact hclose
      | cons b back =>
          obtain rfl := Option.some.inj hc
          by_contra hnot
          have hb := isBlank_of_isPlaceholderChar (by simpa using hnot)
          exact Bool.noConfusion (hb.symm.trans (hback b List.mem_cons_self))
    have hstart : ∀ c ∈ (name.toList ++ (back ++ close :: close :: rest)).head?,
        isBlank c = false :=
      Template.head?_append_of_ne_nil hne fun c hc => isBlank_of_isPlaceholderChar (hname c hc)
    have hclosing : ∀ c ∈ (close :: close :: rest).head?, isBlank c = false := by
      rintro c ⟨⟩
      exact hblank
    rw [Template.dropWhile_run hfront hstart, Template.takeWhile_run hname hends,
      Template.dropWhile_run hname hends, Template.dropWhile_run hback hclosing]
    simp [hne]

/-- A text without the closing delimiter does not change what is read before it. -/
lemma map_delimitedName?_append_of_unclosed {after : List Char} (h : ∀ c ∈ after, c ≠ close)
    (cs : List Char) :
    (delimitedName? close (cs ++ after)).map (fun x => (x.1, x.2.1)) =
      ((delimitedName? close cs).map (fun x => (x.1, x.2.1))).map
        fun x => (x.1, x.2 ++ after) := by
  refine Option.ext fun ⟨name, rest⟩ => ?_
  rw [Option.map_eq_some_iff (f := fun x : String × List Char => (x.1, x.2 ++ after)),
    map_delimitedName?_eq_some_iff hblank hclose]
  constructor
  · rintro ⟨front, back, hsplit, hfront, hback, hne, hname⟩
    -- the closing delimiters stand before the text that has none
    have hgroup : cs ++ after = (front ++ (name.toList ++ (back ++ [close, close]))) ++ rest := by
      simp [hsplit]
    rcases List.append_eq_append_iff.mp hgroup with ⟨as, hleft, hafter⟩ | ⟨as, hcs, rfl⟩
    · rcases List.eq_nil_or_concat' as with rfl | ⟨as, c, rfl⟩
      · rw [List.nil_append] at hafter
        refine ⟨(name, []), (map_delimitedName?_eq_some_iff hblank hclose).mpr
          ⟨front, back, ?_, hfront, hback, hne, hname⟩, by rw [hafter]; rfl⟩
        rw [List.append_nil] at hleft
        exact hleft.symm
      · have hlast : c = close := by
          have hends := congrArg List.getLast? hleft
          simpa using hends.symm
        exact absurd hlast (h c (by simp [hafter]))
    · refine ⟨(name, as), (map_delimitedName?_eq_some_iff hblank hclose).mpr
        ⟨front, back, ?_, hfront, hback, hne, hname⟩, rfl⟩
      simp [hcs]
  · rintro ⟨⟨name', rest'⟩, hread, hpair⟩
    obtain ⟨rfl, rfl⟩ := Prod.mk.inj hpair
    obtain ⟨front, back, rfl, hfront, hback, hne, hname⟩ :=
      (map_delimitedName?_eq_some_iff hblank hclose).mp hread
    exact ⟨front, back, by simp, hfront, hback, hne, hname⟩

end Names

/-! ## Cuts -/

/-- A character that belongs to no placeholder cuts, whatever follows. -/
lemma cutsBefore_of_stop {d : Char} (hblank : isBlank d = false)
    (hname : isPlaceholderChar d = false) (hopens : opensPlaceholder d = false)
    (hcloses : closesPlaceholder d = false) (after : List Char) : CutsBefore (d :: after) :=
  cutsBefore_of_names
    (fun p cs => map_delimitedName?_append hblank hname (p.ne_closing hcloses) cs after)
    fun p => placeholder?_eq_none_of_ne (p.ne_opening hopens) after

/-- In a text without closing delimiters no placeholder ends. -/
lemma placeholder?_of_unclosed {cs : List Char} (h : ∀ c ∈ cs, closesPlaceholder c = false) :
    ∀ c, placeholder? (c :: cs) = none := by
  intro c
  cases hc : opensPlaceholder c with
  | false => exact placeholder?_eq_none hc cs
  | true =>
      obtain ⟨p, rfl⟩ := exists_opening hc
      rcases cs with _ | ⟨d, cs⟩
      · exact placeholder?_singleton _
      · obtain ⟨_, hcs⟩ := List.forall_mem_cons.mp h
        by_cases heq : d = p.opening
        · have hnone : (delimitedName? p.closing cs).map (fun x => (x.1, x.2.1)) = none := by
            refine Option.eq_none_iff_forall_ne_some.mpr fun ⟨name, rest⟩ hread => ?_
            obtain ⟨front, back, rfl, -⟩ := (map_delimitedName?_eq_some_iff p.isBlank_closing
              p.isPlaceholderChar_closing).mp hread
            exact p.ne_closing (hcs p.closing (by simp)) rfl
          have hread := placeholder?_opening p cs
          rw [hnone, Option.map_none, Option.map_eq_none_iff] at hread
          rw [heq, hread]
        · exact placeholder?_eq_none_of_ne heq cs

/-- A text without closing delimiters cuts. -/
lemma cutsBefore_of_unclosed {after : List Char} (h : ∀ c ∈ after, closesPlaceholder c = false) :
    CutsBefore after :=
  cutsBefore_of_names
    (fun p cs => map_delimitedName?_append_of_unclosed p.isBlank_closing
      p.isPlaceholderChar_closing (fun c hc => p.ne_closing (h c hc)) cs)
    fun p => placeholder?_of_unclosed h p.opening

/-- If no placeholder reaches into a text, and none from there into the next, then none reaches into
the two. -/
lemma CutsBefore.append {as bs : List Char} (has : CutsBefore as) (hbs : CutsBefore bs) :
    CutsBefore (as ++ bs) := by
  intro c before
  have hfirst := hbs c (before ++ as)
  rw [← List.cons_append, has c before, List.append_assoc] at hfirst
  rw [hfirst, Option.map_map, Option.map_map, Option.map_map]
  refine congrArg (Option.map · _) (funext fun x => ?_)
  simp [Function.comp]

/-! ## Texts without placeholders -/

/-- A text in which no placeholder begins stays. -/
lemma interpolate_of_no_placeholder {value : Placeholder → String} {cs : List Char}
    (h : ∀ ds, ds <:+ cs → placeholder? ds = none) : interpolate value cs = cs := by
  induction cs with
  | nil => exact interpolate_nil
  | cons c cs ih =>
      rw [interpolate_cons_of_none (h _ List.suffix_rfl),
        ih fun ds hds => h ds (hds.trans (List.suffix_cons c cs))]

/-- No placeholder begins in a text without doubled opening characters. -/
lemma placeholder?_of_unopened {cs : List Char} (hsquare : ¬ ['[', '['] <:+: cs)
    (hcurly : ¬ ['{', '{'] <:+: cs) : ∀ ds, ds <:+ cs → placeholder? ds = none := by
  rintro ds hds
  rcases ds with _ | ⟨c, _ | ⟨d, ds⟩⟩
  · rw [placeholder?] <;> simp
  · exact placeholder?_singleton c
  · cases hc : opensPlaceholder c with
    | false => exact placeholder?_eq_none hc _
    | true =>
        refine placeholder?_eq_none_of_ne ?_ ds
        rintro rfl
        have hdoubled : [d, d] <:+: cs := List.IsInfix.trans ⟨[], ds, rfl⟩ hds.isInfix
        rcases Bool.or_eq_true_iff.mp hc with hc | hc
        · exact hsquare (eq_of_beq hc ▸ hdoubled)
        · exact hcurly (eq_of_beq hc ▸ hdoubled)

end Dialogue
