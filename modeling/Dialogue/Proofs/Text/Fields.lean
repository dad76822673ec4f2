import Dialogue.Text.Spacing
import Dialogue.Text.WordBreak
import Mathlib.Tactic.Common

/-!
# Fields and normal spacing

`fields` cuts a text at its blanks and `unfields` puts the pieces together again with single spaces.
This file has the two directions.

* `isField_of_mem_fields` — what is cut out is a field: it has characters, and none is blank.
* `fields_unfields` — fields that are put together are cut apart again.
* `fields_normalize`, `normalize_normalize` — so normalizing changes the spacing only, and once.
* `fields_append_space` — a space cuts.
* `normalize_append_space`, `normalize_append_field` — what may be put together to a normal text.
* `unfields_eq_append` — a normal text can be cut in two at a space between fields and at its end,
  and nowhere else where the right part is to start with a space.
-/

namespace Dialogue.Text

/-- A stretch without blanks, which is not empty. -/
def IsField (w : List Char) : Prop := w ≠ [] ∧ ∀ c ∈ w, isBlank c = false

-- decided by going through the word, not through all characters there are
instance : DecidablePred IsField := fun w =>
  @instDecidableAnd _ _ _ (List.decidableBAll _ w)

/-- Fields with a space before each of them. -/
def spaced (ws : List (List Char)) : List Char := ws.flatMap (' ' :: ·)

@[simp] lemma spaced_nil : spaced [] = [] := rfl

@[simp] lemma spaced_cons (w : List Char) (ws : List (List Char)) :
    spaced (w :: ws) = ' ' :: (w ++ spaced ws) := rfl

@[simp] lemma spaced_append (vs ws : List (List Char)) :
    spaced (vs ++ ws) = spaced vs ++ spaced ws := List.flatMap_append

@[simp] lemma unfields_nil : unfields [] = [] := rfl

lemma unfields_cons (w : List Char) : ∀ ws, unfields (w :: ws) = w ++ spaced ws
  | [] => by simp [unfields]
  | v :: ws => by rw [unfields, unfields_cons v ws, spaced_cons]; simp

lemma unfields_append {vs : List (List Char)} (hvs : vs ≠ []) (ws : List (List Char)) :
    unfields (vs ++ ws) = unfields vs ++ spaced ws := by
  cases vs with
  | nil => exact absurd rfl hvs
  | cons v vs => rw [List.cons_append, unfields_cons, unfields_cons, spaced_append,
      List.append_assoc]

/-- The last field stands at the end. -/
lemma unfields_concat (ws : List (List Char)) (v : List Char) :
    unfields (ws ++ [v]) = (if ws = [] then [] else unfields ws ++ [' ']) ++ v := by
  by_cases hend : ws = []
  · simp [hend, unfields]
  · simp [hend, unfields_append]

/-- After a space, putting fields together is the same as putting a space before each. -/
lemma spaced_eq {ws : List (List Char)} (hws : ws ≠ []) : spaced ws = ' ' :: unfields ws := by
  cases ws with
  | nil => exact absurd rfl hws
  | cons w ws => rw [spaced_cons, unfields_cons]

lemma infix_unfields {ws run : List (List Char)} (h : run <:+: ws) (hrun : run ≠ []) :
    unfields run <:+: unfields ws := by
  obtain ⟨before, after, rfl⟩ := h
  by_cases hbefore : before = []
  · refine ⟨[], spaced after, ?_⟩
    rw [hbefore, List.nil_append, List.nil_append, unfields_append hrun]
  · refine ⟨unfields before ++ [' '], spaced after, ?_⟩
    rw [List.append_assoc before, unfields_append hbefore, spaced_append, spaced_eq hrun]
    simp

lemma IsField.exists_cons {w : List Char} (h : IsField w) :
    ∃ c cs, w = c :: cs ∧ isBlank c = false := by
  obtain ⟨hne, hsolid⟩ := h
  cases w with
  | nil => exact absurd rfl hne
  | cons c cs => exact ⟨c, cs, rfl, hsolid c List.mem_cons_self⟩

lemma IsField.unfields_ne_nil {w : List Char} (h : IsField w) (ws : List (List Char)) :
    unfields (w :: ws) ≠ [] := by
  rw [unfields_cons]
  exact fun h' => h.1 (List.append_eq_nil_iff.mp h').1

/-! ## Cutting -/

lemma fields_cons_of_blank {c : Char} (h : isBlank c = true) (cs : List Char) :
    fields (c :: cs) = fields cs := by
  simp [fields, h]

/-- A solid character before the end or before a blank is a field of its own. -/
lemma fields_cons_of_end {c : Char} (h : isBlank c = false) {cs : List Char}
    (hcs : ∀ d ds, cs = d :: ds → isBlank d = true) : fields (c :: cs) = [c] :: fields cs := by
  cases cs with
  | nil => simp [fields, h]
  | cons d ds =>
      have hd := hcs d ds rfl
      cases hws : fields (d :: ds) with
      | nil => simp [fields.eq_3, h, hws]
      | cons w ws => rw [fields.eq_2 c d ds w ws hws, h, hd]; rfl

lemma fields_cons_of_solid {c d : Char} (h : isBlank c = false) (hd : isBlank d = false)
    {ds w : List Char} {ws : List (List Char)} (hws : fields (d :: ds) = w :: ws) :
    fields (c :: d :: ds) = (c :: w) :: ws := by
  rw [fields.eq_2 c d ds w ws hws, h, hd]
  rfl

lemma fields_ne_nil_of_solid {c : Char} (h : isBlank c = false) :
    ∀ cs, fields (c :: cs) ≠ []
  | [] => by simp [fields, h]
  | d :: ds => by
      by_cases hd : isBlank d = true
      · rw [fields_cons_of_end h fun e es he => by cases he; exact hd]
        exact List.cons_ne_nil _ _
      · have hd : isBlank d = false := by simpa using hd
        obtain ⟨w, ws, hws⟩ := List.exists_cons_of_ne_nil (fields_ne_nil_of_solid hd ds)
        rw [fields_cons_of_solid h hd hws]
        exact List.cons_ne_nil _ _

/-- **A field is cut off** where the text ends or a blank follows. -/
lemma fields_append : ∀ {w : List Char}, IsField w → ∀ {cs : List Char},
    (∀ d ds, cs = d :: ds → isBlank d = true) → fields (w ++ cs) = w :: fields cs
  | [], hw, _, _ => absurd rfl hw.1
  | [c], hw, cs, hcs => fields_cons_of_end (hw.2 c List.mem_cons_self) hcs
  | c :: d :: w, hw, cs, hcs => by
      have hc := hw.2 c List.mem_cons_self
      have hd := hw.2 d (List.mem_cons_of_mem _ List.mem_cons_self)
      have hw' : IsField (d :: w) :=
        ⟨List.cons_ne_nil _ _, fun e he => hw.2 e (List.mem_cons_of_mem _ he)⟩
      exact fields_cons_of_solid hc hd (fields_append hw' hcs)

lemma isBlank_of_spaced {ws : List (List Char)} {d : Char} {ds : List Char}
    (h : spaced ws = d :: ds) : isBlank d = true := by
  cases ws with
  | nil => simp at h
  | cons w ws =>
      rw [spaced_cons] at h
      rw [← (List.cons.inj h).1, isBlank_space]

lemma fields_spaced : ∀ {ws : List (List Char)}, (∀ w ∈ ws, IsField w) → fields (spaced ws) = ws
  | [], _ => rfl
  | w :: ws, h => by
      obtain ⟨hw, hws⟩ := List.forall_mem_cons.mp h
      rw [spaced_cons, fields_cons_of_blank isBlank_space,
        fields_append hw fun d ds => isBlank_of_spaced, fields_spaced hws]

/-- **Fields that are put together are cut apart again.** -/
theorem fields_unfields {ws : List (List Char)} (h : ∀ w ∈ ws, IsField w) :
    fields (unfields ws) = ws := by
  cases ws with
  | nil => rfl
  | cons w ws =>
      obtain ⟨hw, hws⟩ := List.forall_mem_cons.mp h
      rw [unfields_cons, fields_append hw fun d ds => isBlank_of_spaced, fields_spaced hws]

/-- **What is cut out is a field.** -/
theorem isField_of_mem_fields : ∀ {cs : List Char}, ∀ w ∈ fields cs, IsField w
  | [], _, h => by simp [fields] at h
  | c :: cs, w, h => by
      by_cases hc : isBlank c = true
      · rw [fields_cons_of_blank hc] at h
        exact isField_of_mem_fields w h
      · have hc : isBlank c = false := by simpa using hc
        have hsingle : IsField [c] := ⟨List.cons_ne_nil _ _, by simpa using hc⟩
        by_cases hend : ∀ d ds, cs = d :: ds → isBlank d = true
        · rw [fields_cons_of_end hc hend] at h
          rcases List.mem_cons.mp h with rfl | h
          · exact hsingle
          · exact isField_of_mem_fields w h
        · push Not at hend
          obtain ⟨d, ds, rfl, hd⟩ := hend
          have hd : isBlank d = false := by simpa using hd
          obtain ⟨v, vs, hvs⟩ := List.exists_cons_of_ne_nil (fields_ne_nil_of_solid hd ds)
          have ih : ∀ w ∈ v :: vs, IsField w := hvs ▸ fun w => isField_of_mem_fields w
          rw [fields_cons_of_solid hc hd hvs] at h
          rcases List.mem_cons.mp h with rfl | h
          · obtain ⟨_, hsolid⟩ := ih v List.mem_cons_self
            exact ⟨List.cons_ne_nil _ _, List.forall_mem_cons.mpr ⟨hc, hsolid⟩⟩
          · exact ih w (List.mem_cons_of_mem _ h)

/-- A space cuts: no field reaches across. -/
lemma fields_append_space : ∀ (cs ds : List Char),
    fields (cs ++ ' ' :: ds) = fields cs ++ fields ds
  | [], ds => fields_cons_of_blank isBlank_space ds
  | c :: cs, ds => by
      have ih := fields_append_space cs ds
      rw [List.cons_append]
      by_cases hc : isBlank c = true
      · rw [fields_cons_of_blank hc, fields_cons_of_blank hc, ih]
      · have hc : isBlank c = false := by simpa using hc
        by_cases hend : ∀ d es, cs = d :: es → isBlank d = true
        · have hend' : ∀ d es, cs ++ ' ' :: ds = d :: es → isBlank d = true := by
            intro d es h
            cases cs with
            | nil => exact (List.cons.inj h).1 ▸ isBlank_space
            | cons c' cs => exact (List.cons.inj h).1 ▸ hend c' cs rfl
          rw [fields_cons_of_end hc hend, fields_cons_of_end hc hend', ih, List.cons_append]
        · push Not at hend
          obtain ⟨d, es, rfl, hd⟩ := hend
          have hd : isBlank d = false := by simpa using hd
          obtain ⟨w, ws, hws⟩ := List.exists_cons_of_ne_nil (fields_ne_nil_of_solid hd es)
          rw [hws, List.cons_append, List.cons_append] at ih
          rw [List.cons_append, fields_cons_of_solid hc hd hws, fields_cons_of_solid hc hd ih,
            List.cons_append]

/-- **Where a normal text can be cut** so that the right part is empty or starts with a space: after
one or more fields, and nowhere else. -/
theorem unfields_eq_append : ∀ {ws : List (List Char)}, (∀ w ∈ ws, IsField w) →
    ∀ {as bs : List Char}, as ≠ [] → (∀ d ds, bs = d :: ds → d = ' ') →
      unfields ws = as ++ bs →
      ∃ vs us, vs ≠ [] ∧ ws = vs ++ us ∧ as = unfields vs ∧ bs = spaced us
  | [], _, as, bs, has, _, h => absurd (List.append_eq_nil_iff.mp h.symm).1 has
  | w :: ws, hws, as, bs, has, hbs, h => by
      obtain ⟨hw, hws⟩ := List.forall_mem_cons.mp hws
      rw [unfields_cons] at h
      -- the cut lies after the first field, or in it
      rcases List.append_eq_append_iff.mp h with ⟨as', rfl, hspaced⟩ | ⟨bs', hw', rfl⟩
      · cases as' with
        | nil => exact ⟨[w], ws, List.cons_ne_nil _ _, rfl, by simp [unfields], hspaced.symm⟩
        | cons x as' =>
            have hne : ws ≠ [] := by rintro rfl; simp at hspaced
            rw [spaced_eq hne, List.cons_append] at hspaced
            obtain ⟨rfl, hrest⟩ := List.cons.inj hspaced
            have has' : as' ≠ [] := by
              rintro rfl
              obtain ⟨v, vs, rfl⟩ := List.exists_cons_of_ne_nil hne
              obtain ⟨c, cs, rfl, hc⟩ := (hws v List.mem_cons_self).exists_cons
              rw [unfields_cons] at hrest
              rw [hbs c _ hrest.symm, isBlank_space] at hc
              exact Bool.noConfusion hc
            obtain ⟨vs, us, hvs, rfl, rfl, rfl⟩ := unfields_eq_append hws has' hbs hrest
            exact ⟨w :: vs, us, List.cons_ne_nil _ _, rfl,
              by rw [unfields_cons, spaced_eq hvs], rfl⟩
      · cases bs' with
        | nil => exact ⟨[w], ws, List.cons_ne_nil _ _, rfl, by simpa [unfields] using hw'.symm, rfl⟩
        | cons c bs' =>
            have hc := hw.2 c (by rw [hw']; simp)
            rw [hbs c _ rfl, isBlank_space] at hc
            exact Bool.noConfusion hc

/-! ## Normal texts -/

@[simp] lemma toList_normalize (text : String) :
    (normalize text).toList = unfields (fields text.toList) := by
  rw [normalize, String.toList_ofList]

/-- Normalizing keeps the fields. -/
@[simp] theorem fields_normalize (text : String) :
    fields (normalize text).toList = fields text.toList := by
  rw [toList_normalize, fields_unfields isField_of_mem_fields]

/-- Normalizing a second time changes nothing. -/
@[simp] theorem normalize_normalize (text : String) :
    normalize (normalize text) = normalize text := by
  rw [normalize, fields_normalize]
  rfl

/-- The normal form depends on the fields alone. -/
lemma normalize_congr {a b : String} (h : fields a.toList = fields b.toList) :
    normalize a = normalize b := by
  rw [normalize, h, normalize]

/-- A text in normal form is its fields, put together. -/
lemma toList_of_normalize {text : String} (h : normalize text = text) :
    text.toList = unfields (fields text.toList) := by
  rw [← toList_normalize, h]

lemma normalize_of_unfields {text : String} {ws : List (List Char)} (hws : ∀ w ∈ ws, IsField w)
    (h : text.toList = unfields ws) : normalize text = text := by
  rw [normalize, h, fields_unfields hws, ← h, String.ofList_toList]

lemma fields_ne_nil_of_normalize {text : String} (h : normalize text = text) (hne : text ≠ "") :
    fields text.toList ≠ [] := by
  intro hnil
  have hempty := toList_of_normalize h
  rw [hnil] at hempty
  exact hne (String.toList_eq_nil_iff.mp hempty)

/-- Two texts in normal form may be put together with a space. -/
lemma normalize_append_space {a b : String} (ha : normalize a = a) (hane : a ≠ "")
    (hb : normalize b = b) (hbne : b ≠ "") : normalize (a ++ " " ++ b) = a ++ " " ++ b := by
  have hfields : ∀ w ∈ fields a.toList ++ fields b.toList, IsField w :=
    List.forall_mem_append.mpr ⟨isField_of_mem_fields, isField_of_mem_fields⟩
  refine normalize_of_unfields hfields ?_
  rw [unfields_append (fields_ne_nil_of_normalize ha hane),
    spaced_eq (fields_ne_nil_of_normalize hb hbne), ← toList_of_normalize ha,
    ← toList_of_normalize hb]
  simp

/-- A text in normal form may get something solid attached. -/
lemma normalize_append_field {a b : String} (ha : normalize a = a) (hane : a ≠ "")
    (hb : IsField b.toList) : normalize (a ++ b) = a ++ b := by
  obtain ⟨ws, w, hws⟩ : ∃ ws w, fields a.toList = ws ++ [w] :=
    ⟨_, _, (List.dropLast_concat_getLast (fields_ne_nil_of_normalize ha hane)).symm⟩
  have hfields : ∀ v ∈ ws ++ [w], IsField v := hws ▸ isField_of_mem_fields
  obtain ⟨hwne, hwsolid⟩ := hfields w (by simp)
  have hattached : IsField (w ++ b.toList) :=
    ⟨List.append_ne_nil_of_left_ne_nil hwne _, List.forall_mem_append.mpr ⟨hwsolid, hb.2⟩⟩
  have hall : ∀ v ∈ ws ++ [w ++ b.toList], IsField v := by
    refine List.forall_mem_append.mpr ⟨fun v hv => hfields v (by simp [hv]), ?_⟩
    exact List.forall_mem_singleton.mpr hattached
  refine normalize_of_unfields hall ?_
  rw [String.toList_append, toList_of_normalize ha, hws, unfields_concat, unfields_concat,
    List.append_assoc]

/-- The fields hold the characters that are not blank, in order. -/
lemma flatten_fields : ∀ cs, (fields cs).flatten = cs.filter fun c => !isBlank c
  | [] => rfl
  | c :: cs => by
      have ih := flatten_fields cs
      by_cases hc : isBlank c = true
      · rw [fields_cons_of_blank hc, ih]
        simp [hc]
      · have hc : isBlank c = false := by simpa using hc
        have hfilter : (c :: cs).filter (fun c => !isBlank c)
            = c :: cs.filter fun c => !isBlank c := by simp [hc]
        rw [hfilter, ← ih]
        by_cases hend : ∀ d ds, cs = d :: ds → isBlank d = true
        · rw [fields_cons_of_end hc hend]
          rfl
        · push Not at hend
          obtain ⟨d, ds, rfl, hd⟩ := hend
          have hd : isBlank d = false := by simpa using hd
          obtain ⟨w, ws, hws⟩ := List.exists_cons_of_ne_nil (fields_ne_nil_of_solid hd ds)
          rw [fields_cons_of_solid hc hd hws, hws]
          rfl

lemma mem_spaced {c : Char} (hc : isBlank c = false) {ws : List (List Char)} :
    c ∈ spaced ws ↔ c ∈ ws.flatten := by
  have hspace : c ≠ ' ' := by rintro rfl; simp at hc
  induction ws with
  | nil => simp
  | cons w ws ih => simp [hspace, ih]

lemma mem_unfields {c : Char} (hc : isBlank c = false) {ws : List (List Char)} :
    c ∈ unfields ws ↔ c ∈ ws.flatten := by
  cases ws with
  | nil => simp
  | cons w ws => simp [unfields_cons, mem_spaced hc]

lemma eq_space_of_mem_unfields {ws : List (List Char)} (hws : ∀ w ∈ ws, IsField w) {c : Char}
    (hc : c ∈ unfields ws) (hblank : isBlank c = true) : c = ' ' := by
  have hspaced : c ∈ spaced ws := by
    cases ws with
    | nil => simp at hc
    | cons w ws =>
        rw [spaced_cons, ← unfields_cons]
        exact List.mem_cons_of_mem _ hc
  obtain ⟨w, hw, hcw⟩ := List.mem_flatMap.mp hspaced
  rcases List.mem_cons.mp hcw with rfl | hcw
  · rfl
  · exact absurd hblank (by simp [(hws w hw).2 c hcw])

/-- Normalizing keeps every character that is not blank. -/
theorem mem_normalize {c : Char} (hc : isBlank c = false) {text : String} :
    c ∈ (normalize text).toList ↔ c ∈ text.toList := by
  rw [toList_normalize, mem_unfields hc, flatten_fields]
  simp [hc]

end Dialogue.Text
