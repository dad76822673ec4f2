import Dialogue.Engine
import Dialogue.Proofs.Dict
import Mathlib.Data.Int.Notation
import Mathlib.Tactic.Common

/-!
# Filling in fields of a text

The texts for what goes wrong hold fields in braces.  A text with a single field is filled in to
what stands before the field, the value, and what stands behind it, whatever the value is.

Several fields are filled in one after the other, each over the whole text that the ones before it
have left.  So a value with braces in it might be taken for a field, or complete one.  Where the
names, the values and the text around the fields have no braces, this cannot happen: filling in one
field leaves a text of the same form, with one field less to fill in, and in the end it is as if all
of them had been filled in at once.

* `replaceFrom_append`, `replaceFrom_old`, `replaceFrom_other` — replacing passes over what the
  replaced text cannot begin in and over other fields, and then replaces.
* **`fillField_around`** — a text with a single field.
* `TextPart` — the parts of a text with fields.
* `fillField_parts`, `fill_parts` — what filling in one field, or several, does to the parts.
* **`fields_are_filled_at_once`** — filling in is simultaneous substitution.
* `apology_outOfRange` — what is said of a number that no item has.
-/

namespace Dialogue

section Replacing

variable {d : Char} {ds new before : List Char}

lemma replaceFrom_length (old new passed rest : List Char) :
    replaceFrom old new passed.length (passed ++ rest) = replaceFrom old new 0 rest := by
  induction passed with
  | nil => rfl
  | cons c passed ih => exact ih

/-- What does not hold the first character of the replaced text stays. -/
lemma replaceFrom_append (h : d ∉ before) (rest : List Char) :
    replaceFrom (d :: ds) new 0 (before ++ rest) =
      before ++ replaceFrom (d :: ds) new 0 rest := by
  induction before with
  | nil => rfl
  | cons c before ih =>
      obtain ⟨hc, hbefore⟩ := not_or.mp (List.mem_cons.not.mp h)
      have hno : (d :: ds).isPrefixOf (c :: (before ++ rest)) = false := by
        rw [List.isPrefixOf_cons_cons, beq_false_of_ne hc, Bool.false_and]
      rw [List.cons_append, replaceFrom, hno, ih hbefore]
      rfl

/-- A text without the replaced one stays. -/
lemma replaceFrom_of_absent {old cs : List Char} (h : ¬ old <:+: cs) :
    replaceFrom old new 0 cs = cs := by
  induction cs with
  | nil => rfl
  | cons c cs ih =>
      have hno : old.isPrefixOf (c :: cs) = false := by
        rw [Bool.eq_false_iff, ne_eq, List.isPrefixOf_iff_prefix]
        exact fun hprefix => h hprefix.isInfix
      rw [replaceFrom, hno, ih fun hoccurs => h (hoccurs.trans (List.suffix_cons c cs).isInfix)]
      rfl

/-- The replaced text gives way to the new one. -/
lemma replaceFrom_old (rest : List Char) :
    replaceFrom (d :: ds) new 0 (d :: ds ++ rest) =
      new ++ replaceFrom (d :: ds) new 0 rest := by
  have hyes : (d :: ds).isPrefixOf (d :: (ds ++ rest)) = true :=
    List.isPrefixOf_iff_prefix.mpr (List.prefix_append (d :: ds) rest)
  rw [List.cons_append, replaceFrom, hyes, if_pos rfl, List.length_cons, Nat.add_sub_cancel,
    replaceFrom_length]

end Replacing

/-- **A text with a single field** is filled in to the value between what stands around the
field. -/
theorem fillField_around {before after : List Char} {name : String} (hbefore : '{' ∉ before)
    (hafter : ¬ '{' :: name.toList ++ ['}'] <:+: after) (value : String) :
    fillField (before ++ ('{' :: name.toList ++ ['}']) ++ after) (name, value) =
      before ++ value.toList ++ after := by
  rw [List.cons_append] at hafter ⊢
  rw [fillField, List.cons_append, List.append_assoc, replaceFrom_append hbefore, replaceFrom_old,
    replaceFrom_of_absent hafter, List.append_assoc]

/-! ## Texts with several fields -/

/-- The text has no braces in it. -/
def HasNoBrace (text : String) : Prop := '{' ∉ text.toList ∧ '}' ∉ text.toList

instance : DecidablePred HasNoBrace := fun text =>
  inferInstanceAs (Decidable ('{' ∉ text.toList ∧ '}' ∉ text.toList))

/-- A part of a text with fields: plain text, or a field. -/
inductive TextPart where
  | plain (text : String)
  | field (name : String)
deriving DecidableEq, Repr

namespace TextPart

/-- The part as it is written. -/
def text : TextPart → String
  | .plain text => text
  | .field name => String.ofList ('{' :: name.toList ++ ['}'])

/-- The only braces are those around the name of a field. -/
def IsWritten : TextPart → Prop
  | .plain text => HasNoBrace text
  | .field name => HasNoBrace name

instance : DecidablePred IsWritten
  | .plain text => inferInstanceAs (Decidable (HasNoBrace text))
  | .field name => inferInstanceAs (Decidable (HasNoBrace name))

/-- The part when the field of one name has become plain text. -/
def fillIn (field : String × String) : TextPart → TextPart
  | .plain text => .plain text
  | .field name => if name = field.1 then .plain field.2 else .field name

/-- What is read in the place of the part when fields are filled in: plain text stays, and a field
gives way to the value of its name, if there is one. -/
def filled (fields : List (String × String)) : TextPart → String
  | .plain text => text
  | .field name =>
    match fields.lookup name with
    | some value => value
    | none => text (.field name)

/-- Filling in a field with a value without braces adds no braces. -/
lemma IsWritten.fillIn {part : TextPart} (h : part.IsWritten) {field : String × String}
    (hvalue : HasNoBrace field.2) : (part.fillIn field).IsWritten := by
  cases part with
  | plain text => exact h
  | field name =>
      rw [TextPart.fillIn]
      split
      · exact hvalue
      · exact h

/-- Filling in one field and then the others. -/
lemma filled_fillIn (field : String × String) (fields : List (String × String)) (part : TextPart) :
    (part.fillIn field).filled fields = part.filled (field :: fields) := by
  cases part with
  | plain text => rfl
  | field name =>
      rw [fillIn, filled, List.lookup_cons]
      by_cases hname : name = field.1
      · rw [if_pos hname, beq_iff_eq.mpr hname]
        rfl
      · rw [if_neg hname, beq_false_of_ne hname]
        rfl

lemma filled_nil (part : TextPart) : part.filled [] = part.text := by
  cases part <;> rfl

end TextPart

/-- What stands before the first delimiter of a text does not depend on what follows it. -/
lemma eq_of_prefix_delimited {d : Char} {as bs after : List Char} (has : d ∉ as) (hbs : d ∉ bs)
    (h : as ++ [d] <+: bs ++ d :: after) : as = bs := by
  have htake : ∀ cs ds : List Char, d ∉ cs → (cs ++ d :: ds).takeWhile (· != d) = cs := by
    intro cs ds hcs
    have hkept : ∀ c ∈ cs, (c != d) = true :=
      fun c hc => bne_iff_ne.mpr (ne_of_mem_of_not_mem hc hcs)
    rw [List.takeWhile_append_of_pos hkept, List.takeWhile_cons_of_neg (by simp), List.append_nil]
  obtain ⟨ds, hds⟩ := h
  rw [List.append_assoc, List.singleton_append] at hds
  rw [← htake as ds has, hds, htake bs after hbs]

section Parts

variable {key : String} (hkey : HasNoBrace key) (value rest : List Char)
include hkey

/-- A field of another name stays. -/
lemma replaceFrom_other {name : String} (hname : HasNoBrace name) (hne : name ≠ key) :
    replaceFrom ('{' :: key.toList ++ ['}']) value 0 ('{' :: (name.toList ++ ['}'] ++ rest)) =
      '{' :: (name.toList ++ ['}'] ++ replaceFrom ('{' :: key.toList ++ ['}']) value 0 rest) := by
  have hno : ('{' :: key.toList ++ ['}']).isPrefixOf ('{' :: (name.toList ++ ['}'] ++ rest)) =
      false := by
    rw [Bool.eq_false_iff, ne_eq, List.isPrefixOf_iff_prefix, List.cons_append,
      List.prefix_cons_inj, List.append_assoc, List.singleton_append]
    intro hprefix
    exact hne (String.toList_inj.mp (eq_of_prefix_delimited hkey.2 hname.2 hprefix).symm)
  have hbehind : '{' ∉ name.toList ++ ['}'] := by simp [hname.1]
  rw [replaceFrom, hno, List.cons_append, replaceFrom_append hbehind]
  rfl

/-- **One part, and what follows it**: the replaced text begins at a field of its name and nowhere
else. -/
lemma replaceFrom_part {part : TextPart} (h : part.IsWritten) (value : String) :
    replaceFrom ('{' :: key.toList ++ ['}']) value.toList 0 (part.text.toList ++ rest) =
      (part.fillIn (key, value)).text.toList ++
        replaceFrom ('{' :: key.toList ++ ['}']) value.toList 0 rest := by
  cases part with
  | plain text => exact replaceFrom_append h.1 rest
  | field name =>
      rw [TextPart.text, String.toList_ofList, TextPart.fillIn]
      by_cases hname : name = key
      · rw [if_pos hname, hname]
        exact replaceFrom_old rest
      · rw [if_neg hname, TextPart.text, String.toList_ofList]
        exact replaceFrom_other hkey value.toList rest h hname

end Parts

/-- **One field**: filling it in does to the text what it does to each part. -/
lemma fillField_parts {parts : List TextPart} (hparts : ∀ part ∈ parts, part.IsWritten)
    {field : String × String} (hname : HasNoBrace field.1) :
    fillField (String.join (parts.map TextPart.text)).toList field =
      (String.join ((parts.map (TextPart.fillIn field)).map TextPart.text)).toList := by
  induction parts with
  | nil => rfl
  | cons part parts ih =>
      obtain ⟨hpart, hrest⟩ := List.forall_mem_cons.mp hparts
      rw [List.map_cons, List.map_cons, List.map_cons, String.join_cons, String.join_cons,
        String.toList_append, String.toList_append, ← ih hrest]
      exact replaceFrom_part hname _ hpart field.2

/-- **All fields**: one after the other they do to the text what they do at once to each part. -/
lemma fill_parts {fields : List (String × String)}
    (hfields : ∀ field ∈ fields, HasNoBrace field.1 ∧ HasNoBrace field.2) {parts : List TextPart}
    (hparts : ∀ part ∈ parts, part.IsWritten) :
    fill (String.join (parts.map TextPart.text)) fields =
      String.join (parts.map (TextPart.filled fields)) := by
  -- the first field leaves a text of the same form for the others
  induction fields generalizing parts with
  | nil =>
      rw [fill, List.foldl_nil, String.ofList_toList]
      exact congrArg String.join (List.map_congr_left fun part _ => part.filled_nil.symm)
  | cons field fields ih =>
      obtain ⟨⟨hname, hvalue⟩, hrest⟩ := List.forall_mem_cons.mp hfields
      have hfilled : ∀ part ∈ parts.map (TextPart.fillIn field), part.IsWritten := by
        intro part hpart
        obtain ⟨written, hwritten, rfl⟩ := List.mem_map.mp hpart
        exact (hparts written hwritten).fillIn hvalue
      rw [fill, List.foldl_cons, fillField_parts hparts hname, ← fill, ih hrest hfilled,
        List.map_map]
      exact congrArg String.join
        (List.map_congr_left fun part _ => part.filled_fillIn field fields)

/-- **Fields are filled in at once.**  Let a text be put together from plain text and fields, with
no braces in the plain text and in the names of the fields, and let values without braces be given
for distinct names without braces.  Then filling them in one after the other gives the text in which
every field whose name has a value is replaced by this value, while plain text and all other fields
stay as they are; and the order in which the values are given does not matter. -/
theorem fields_are_filled_at_once {parts : List TextPart}
    (hparts : ∀ part ∈ parts, part.IsWritten) {fields : List (String × String)}
    (hnames : (fields.map (·.1)).Nodup)
    (hfields : ∀ field ∈ fields, HasNoBrace field.1 ∧ HasNoBrace field.2) :
    fill (String.join (parts.map TextPart.text)) fields =
        String.join (parts.map (TextPart.filled fields)) ∧
      ∀ fields' : List (String × String), fields'.Perm fields →
        fill (String.join (parts.map TextPart.text)) fields' =
          fill (String.join (parts.map TextPart.text)) fields := by
  refine ⟨fill_parts hfields hparts, fun fields' hperm => ?_⟩
  have hfields' : ∀ field ∈ fields', HasNoBrace field.1 ∧ HasNoBrace field.2 :=
    fun field hfield => hfields field (hperm.mem_iff.mp hfield)
  have hfilled : TextPart.filled fields' = TextPart.filled fields := by
    funext part
    cases part with
    | plain text => rfl
    | field name =>
        rw [TextPart.filled, TextPart.filled, Dict.lookup_congr_of_perm hperm.symm hnames]
  rw [fill_parts hfields' hparts, fill_parts hfields hparts, hfilled]

/-- The text for a failed call on the record source, with the values in another order than the text
has its fields, and with a field that nobody fills in. -/
theorem search_of_leads_is_told :
    let parts : List TextPart := [.plain "Sorry, I was unable to ", .field "operation", .plain " ",
      .field "entity", .plain " right now, ", .field "caller", .plain "."]
    let fields := [("entity", "leads"), ("operation", "search")]
    (∀ part ∈ parts, part.IsWritten) ∧ (fields.map (·.1)).Nodup ∧
      (∀ field ∈ fields, HasNoBrace field.1 ∧ HasNoBrace field.2) ∧
      String.join (parts.map TextPart.text) =
        "Sorry, I was unable to \x7boperation\x7d \x7bentity\x7d right now, \x7bcaller\x7d." ∧
      fill "Sorry, I was unable to \x7boperation\x7d \x7bentity\x7d right now, \x7bcaller\x7d."
        fields = "Sorry, I was unable to search leads right now, \x7bcaller\x7d." ∧
      fill "Sorry, I was unable to \x7boperation\x7d \x7bentity\x7d right now, \x7bcaller\x7d."
        [("operation", "search"), ("entity", "leads")] =
          "Sorry, I was unable to search leads right now, \x7bcaller\x7d." := by
  intro parts fields
  have hparts : ∀ part ∈ parts, part.IsWritten := by decide
  have hnames : (fields.map (·.1)).Nodup := by decide
  have hfields : ∀ field ∈ fields, HasNoBrace field.1 ∧ HasNoBrace field.2 := by decide
  have htext : String.join (parts.map TextPart.text) =
      "Sorry, I was unable to \x7boperation\x7d \x7bentity\x7d right now, \x7bcaller\x7d." := by
    decide
  have hfilled : String.join (parts.map (TextPart.filled fields)) =
      "Sorry, I was unable to search leads right now, \x7bcaller\x7d." := by
    decide
  obtain ⟨hfill, horder⟩ := fields_are_filled_at_once hparts hnames hfields
  have hswapped := horder [("operation", "search"), ("entity", "leads")] (List.Perm.swap _ _ _)
  rw [hfill, hfilled] at hswapped
  rw [htext] at hfill hswapped
  exact ⟨hparts, hnames, hfields, htext, hfill.trans hfilled, hswapped⟩

/-- With braces in a value the order matters. -/
example : fill "\x7bitem\x7d" [("item", "\x7bindex\x7d"), ("index", "2")] = "2" ∧
    fill "\x7bitem\x7d" [("index", "2"), ("item", "\x7bindex\x7d")] = "\x7bindex\x7d" := by
  decide

/-! ## Apologies -/

/-- **What is said of a number that no item has**, if no other text is set for it. -/
theorem apology_outOfRange {σ τ : Type} {e : Engine σ τ} (h : e.fallback = .default) {item : String}
    (hitem : '{' ∉ item.toList) (index : ℤ) (count : ℕ) :
    e.apology (.index (.outOfRange item index count)) =
      "Sorry, I could not find " ++ item ++ " " ++ integerText index ++ "." := by
  have htemplate : Fallback.default.itemNotFound.toList =
      "Sorry, I could not find ".toList ++ ('{' :: "item".toList ++ ['}']) ++
        " \x7bindex\x7d.".toList := by
    decide
  have hrest : " \x7bindex\x7d.".toList =
      " ".toList ++ ('{' :: "index".toList ++ ['}']) ++ ".".toList := by
    decide
  have hbegin : '{' ∉ "Sorry, I could not find ".toList := by decide
  have hbefore : '{' ∉ "Sorry, I could not find ".toList ++ item.toList ++ " ".toList := by
    simp only [List.mem_append, not_or]
    exact ⟨⟨hbegin, hitem⟩, by decide⟩
  have hfirst : fillField Fallback.default.itemNotFound.toList ("item", item) =
      "Sorry, I could not find ".toList ++ item.toList ++ " \x7bindex\x7d.".toList := by
    rw [htemplate, fillField_around hbegin (by decide +kernel)]
  have hsecond : fillField ("Sorry, I could not find ".toList ++ item.toList ++
      " \x7bindex\x7d.".toList) ("index", integerText index) =
        "Sorry, I could not find ".toList ++ item.toList ++ " ".toList ++
          (integerText index).toList ++ ".".toList := by
    rw [hrest, ← List.append_assoc, ← List.append_assoc,
      fillField_around hbefore (by decide)]
  have hfill : e.apology (.index (.outOfRange item index count)) =
      String.ofList (fillField (fillField Fallback.default.itemNotFound.toList ("item", item))
        ("index", integerText index)) := by
    rw [Engine.apology, h, fill]
    rfl
  rw [hfill, hfirst, hsecond, ← String.toList_inj, String.toList_ofList]
  simp only [String.toList_append]

end Dialogue
