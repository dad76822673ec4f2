import Dialogue.Proofs.Handler.Cuts
import Dialogue.Proofs.Handler.Lists
import Dialogue.Proofs.Number.Integers

/-!
# What the user hears of a list

A list is announced as one text: how many records there are, and then each one's number and title.
The titles come from the records, and the text is spoken like any other, so placeholders are filled
in, those that a title happens to hold included.  A title “About [[term]]” is not read out as it
stands; what the user hears instead depends on the slots.

The numbers and commas between the titles keep them apart: no placeholder begins in one title and
ends in another.  So every title is filled in by itself, once, and a title without placeholders is
read out as it is.

* `ResultsList.listing` — a list of titles read out.
* `announcement_eq` — announcing records is reading out their titles.
* `isPlainText_capitalize` — a capital letter is no delimiter.
* `filled_listing` — the titles are filled in one by one.
* **`announced_titles_are_filled`** — what the user hears of a list.
-/

namespace Dialogue

open Text

/-! ## Titles read out -/

namespace ResultsList

variable (l : ResultsList)

/-- What stands before a title: the name of an item, capitalized, and its number. -/
def itemHead (n : ℕ) : String := " " ++ Text.capitalize l.itemName ++ " " ++ naturalText n

/-- Titles read out from a number on. -/
def itemLines : ℕ → List String → String
  | _, [] => ""
  | n, title :: titles => l.itemHead n ++ ", " ++ title ++ "." ++ itemLines (n + 1) titles

/-- What stands before all titles: how many there are. -/
def heading (n : ℕ) : String :=
  "I found " ++ naturalText n ++ " " ++ (if n == 1 then l.itemName else l.itemsName) ++ "."

/-- A list of titles read out: how many there are, and each with its number, counted from one. -/
def listing (titles : List String) : String :=
  l.heading titles.length ++ l.itemLines 1 titles

lemma join_announceItem (records : List Record) (n : ℕ) :
    String.join ((records.zipIdx n).map fun (record, i) => l.announceItem (i + 1) record) =
      l.itemLines (n + 1) (records.map (·.spokenField l.titleField)) := by
  induction records generalizing n with
  | nil => rfl
  | cons record records ih =>
      rw [List.zipIdx_cons, List.map_cons, String.join_cons, ih, List.map_cons, itemLines]
      rfl

/-- **Announcing records is reading out their titles**, each once and in order. -/
lemma announcement_eq (records : List Record) :
    l.announcement records = l.listing (records.map (·.spokenField l.titleField)) := by
  rw [announcement, join_announceItem, listing, List.length_map]
  rfl

end ResultsList

/-! ## Texts without delimiters -/

/-- The text holds no delimiters of placeholders. -/
def IsPlainText (text : String) : Prop :=
  ∀ c ∈ text.toList, opensPlaceholder c = false ∧ closesPlaceholder c = false

-- decided by going through the text, not through all characters there are
instance : DecidablePred IsPlainText := fun text => List.decidableBAll _ text.toList

lemma IsPlainText.append {a b : String} (ha : IsPlainText a) (hb : IsPlainText b) :
    IsPlainText (a ++ b) := by
  intro c hc
  rw [String.toList_append] at hc
  rcases List.mem_append.mp hc with hc | hc
  · exact ha c hc
  · exact hb c hc

lemma isPlainText_naturalText (n : ℕ) : IsPlainText (naturalText n) := by
  intro c hc
  rw [naturalText, String.toList_ofList] at hc
  have hdigit := isDigit_of_mem_digitChars hc
  rw [opensPlaceholder, closesPlaceholder]
  simp [ne_of_isDigit hdigit]

/-- The code points of the delimiters. -/
def delimiterPoints : List ℕ := [0x5B, 0x5D, 0x7B, 0x7D]

lemma toNat_mem_delimiterPoints_iff {c : Char} : c.toNat ∈ delimiterPoints ↔
    ¬ (opensPlaceholder c = false ∧ closesPlaceholder c = false) := by
  have hpoint : ∀ d : Char, c = d ↔ c.toNat = d.toNat := fun d =>
    ⟨congrArg Char.toNat, fun h => Char.ext (UInt32.toNat_inj.mp h)⟩
  simp only [opensPlaceholder, closesPlaceholder, Bool.or_eq_false_iff, beq_eq_false_iff_ne, ne_eq,
    hpoint, delimiterPoints, List.mem_cons, List.not_mem_nil, or_false]
  show _ ↔ ¬ ((¬ c.toNat = 91 ∧ ¬ c.toNat = 123) ∧ ¬ c.toNat = 93 ∧ ¬ c.toNat = 125)
  omega

/-- No uppercase form is a delimiter, unless the character is one itself. -/
lemma not_delimiter_of_mem_upperChar {c d : Char} (hc : c.toNat ∉ delimiterPoints)
    (hd : d ∈ upperChar c) : d.toNat ∉ delimiterPoints := by
  have hofNat : ∀ n, n ∉ delimiterPoints → (Char.ofNat n).toNat ∉ delimiterPoints := by
    intro n hn
    by_cases hvalid : n.isValidChar
    · rw [Char.ofNat, dif_pos hvalid]
      exact hn
    · rw [Char.ofNat, dif_neg hvalid]
      decide
  rw [upperChar] at hd
  split at hd
  · rename_i ns hns
    obtain ⟨n, hn, rfl⟩ := List.mem_map.mp hd
    have hall : ∀ e ∈ upperExpansions, ∀ n ∈ e.2, n ∉ delimiterPoints := by decide
    obtain ⟨before, after, hsplit, _⟩ := List.lookup_eq_some_iff.mp hns
    exact hofNat n (hall (c.toNat, ns) (by simp [hsplit]) n hn)
  · split at hd
    · rename_i n hn
      obtain rfl := List.mem_singleton.mp hd
      obtain ⟨r, hr, hlo, hhi⟩ := CaseRun.image?_mem_run hn
      have hall : ∀ r ∈ upperRuns, ∀ n ∈ delimiterPoints,
          n < r.target ∨ r.target + (r.last - r.first) < n := by decide +kernel
      refine hofNat n fun hmem => ?_
      have := hall r hr n hmem
      omega
    · exact List.mem_singleton.mp hd ▸ hc

/-- **A capital letter is no delimiter.** -/
lemma isPlainText_capitalize {text : String} (h : IsPlainText text) :
    IsPlainText (Text.capitalize text) := by
  intro c hc
  by_contra hdelimiter
  have hpoint := toNat_mem_delimiterPoints_iff.mpr hdelimiter
  rw [Text.capitalize] at hc
  split at hc
  · cases hc
  · rename_i d ds hchars
    rw [String.toList_ofList] at hc
    have hplain : ∀ e ∈ d :: ds, e.toNat ∉ delimiterPoints := fun e he hmem =>
      toNat_mem_delimiterPoints_iff.mp hmem (h e (hchars ▸ he))
    rcases List.mem_append.mp hc with hc | hc
    · exact not_delimiter_of_mem_upperChar (hplain d List.mem_cons_self) hc hpoint
    · exact hplain c (List.mem_cons_of_mem _ hc) hpoint

/-! ## Heard as it is -/

/-- Something is heard of a text that is not blank. -/
lemma heard_of_mem {c : Char} (hc : Text.isBlank c = false) {text : String} (h : c ∈ text.toList) :
    heard text = [Text.normalize text] := by
  have hmem := (mem_normalize hc).mpr h
  refine if_neg fun hempty => ?_
  rw [hempty] at hmem
  cases hmem

/-- A text that is heard as it is. -/
def IsHeard (text : String) : Prop := heard text = [text]

instance : DecidablePred IsHeard := fun text => inferInstanceAs (Decidable (heard text = [text]))

/-- That is a text in normal form that is not empty. -/
lemma isHeard_iff {text : String} : IsHeard text ↔ Text.normalize text = text ∧ text ≠ "" := by
  rw [IsHeard, heard]
  split
  · rename_i hempty
    simp [hempty, eq_comm]
  · rename_i hsome
    simpa using fun h => h ▸ hsome

lemma IsHeard.append_space {a b : String} (ha : IsHeard a) (hb : IsHeard b) :
    IsHeard (a ++ " " ++ b) := by
  obtain ⟨hanormal, hane⟩ := isHeard_iff.mp ha
  obtain ⟨hbnormal, hbne⟩ := isHeard_iff.mp hb
  exact isHeard_iff.mpr ⟨Text.normalize_append_space hanormal hane hbnormal hbne, by simp [hane]⟩

lemma IsHeard.append_field {a b : String} (ha : IsHeard a) (hb : Text.IsField b.toList) :
    IsHeard (a ++ b) := by
  obtain ⟨hanormal, hane⟩ := isHeard_iff.mp ha
  exact isHeard_iff.mpr ⟨Text.normalize_append_field hanormal hane hb, by simp [hane]⟩

/-! ## Filling in -/

namespace Turn

variable (t : Turn)

/-- Two pieces are filled in one by one if no placeholder reaches across. -/
lemma filled_append {after : String} (h : CutsBefore after.toList) (before : String) :
    t.filled (before ++ after) = t.filled before ++ t.filled after := by
  rw [filled, String.toList_append, h.interpolate_append, String.ofList_append, filled, filled]

/-- A text without delimiters stays, and so does what follows it. -/
lemma filled_plain_append {before : String} (h : IsPlainText before) (after : String) :
    t.filled (before ++ after) = before ++ t.filled after := by
  rw [filled, String.toList_append, interpolate_append fun c hc => (h c hc).1,
    String.ofList_append, String.ofList_toList, filled]

lemma filled_plain {text : String} (h : IsPlainText text) : t.filled text = text := by
  have happend := t.filled_plain_append h ""
  rwa [t.filled_empty, String.append_empty] at happend

/-- Between two texts, a placeholder whose name spoken text knows gives way to its value. -/
lemma filled_around_value {p : Placeholder} (hne : p.name.toList ≠ [])
    (hname : ∀ c ∈ p.name.toList, isPlaceholderChar c = true) {v : Json}
    (h : t.preferred? p = some v) (before after : String) :
    t.filled (before ++ p.text ++ after) = t.filled before ++ v.spoken ++ t.filled after := by
  refine t.filled_around (fun rest => ?_) before after
  rw [interpolate_of_name hne (fun c hc => isBlank_of_isPlaceholderChar (hname c hc)) hname,
    t.placeholderText_of_preferred? h]

/-- So does one that stands behind a text. -/
lemma filled_append_value {p : Placeholder} (hne : p.name.toList ≠ [])
    (hname : ∀ c ∈ p.name.toList, isPlaceholderChar c = true) {v : Json}
    (h : t.preferred? p = some v) (before : String) :
    t.filled (before ++ p.text) = t.filled before ++ v.spoken := by
  have haround := t.filled_around_value hne hname h before ""
  rwa [t.filled_empty, String.append_empty, String.append_empty] at haround

/-- A text in which no placeholder begins stays. -/
lemma filled_of_no_placeholder {text : String}
    (h : ∀ cs, cs <:+ text.toList → placeholder? cs = none) : t.filled text = text := by
  rw [filled, interpolate_of_no_placeholder h, String.ofList_toList]

/-- A text in which no placeholder begins stays between two texts without delimiters. -/
lemma filled_between {before text after : String} (hbefore : IsPlainText before)
    (hafter : IsPlainText after) (hsquare : ¬ ['[', '['] <:+: text.toList)
    (hcurly : ¬ ['{', '{'] <:+: text.toList) :
    t.filled (before ++ text ++ after) = before ++ text ++ after := by
  have hcuts : CutsBefore after.toList := cutsBefore_of_unclosed fun c hc => (hafter c hc).2
  rw [String.append_assoc, t.filled_plain_append hbefore, t.filled_append hcuts,
    t.filled_of_no_placeholder (placeholder?_of_unopened hsquare hcurly), t.filled_plain hafter]

end Turn

/-! ## Announcing -/

section Announcing

variable {l : ResultsList}

lemma isPlainText_itemHead (hitem : IsPlainText l.itemName) (n : ℕ) :
    IsPlainText (l.itemHead n) :=
  have hspace : IsPlainText " " := by decide
  ((hspace.append (isPlainText_capitalize hitem)).append hspace).append (isPlainText_naturalText n)

/-- Between a title and the next, the comma behind the number cuts. -/
lemma cutsBefore_itemLines (hitem : IsPlainText l.itemName) (n : ℕ) (titles : List String) :
    CutsBefore ("." ++ l.itemLines n titles).toList := by
  cases titles with
  | nil =>
      have hstop : IsPlainText "." := by decide
      rw [ResultsList.itemLines, String.append_empty]
      exact cutsBefore_of_unclosed fun c hc => (hstop c hc).2
  | cons title titles =>
      have hsplit : ("." ++ l.itemLines n (title :: titles)).toList =
          ('.' :: (l.itemHead n).toList) ++
            ',' :: (" " ++ title ++ "." ++ l.itemLines (n + 1) titles).toList := by
        simp [ResultsList.itemLines]
      have hunclosed : ∀ c ∈ '.' :: (l.itemHead n).toList, closesPlaceholder c = false :=
        List.forall_mem_cons.mpr ⟨by decide, fun c hc => (isPlainText_itemHead hitem n c hc).2⟩
      rw [hsplit]
      exact (cutsBefore_of_unclosed hunclosed).append
        (cutsBefore_of_stop (by decide) (by decide) (by decide) (by decide) _)

/-- The titles are filled in one by one.  The induction is on the titles; each is cut off where the
number of the next begins. -/
lemma filled_itemLines (t : Turn) (hitem : IsPlainText l.itemName) (n : ℕ) (titles : List String) :
    t.filled (l.itemLines n titles) = l.itemLines n (titles.map t.filled) := by
  induction titles generalizing n with
  | nil => exact t.filled_empty
  | cons title titles ih =>
      have hhead : IsPlainText (l.itemHead n ++ ", ") :=
        (isPlainText_itemHead hitem n).append (by decide)
      have hstop : IsPlainText "." := by decide
      rw [List.map_cons, ResultsList.itemLines, ResultsList.itemLines, String.append_assoc,
        String.append_assoc, t.filled_plain_append hhead,
        t.filled_append (cutsBefore_itemLines hitem (n + 1) titles),
        t.filled_plain_append hstop, ih]
      simp only [String.append_assoc]

lemma isPlainText_heading (hitem : IsPlainText l.itemName) (hitems : IsPlainText l.itemsName)
    (n : ℕ) : IsPlainText (l.heading n) := by
  have hfound : IsPlainText "I found " := by decide
  have hspace : IsPlainText " " := by decide
  have hstop : IsPlainText "." := by decide
  have hnoun : IsPlainText (if n == 1 then l.itemName else l.itemsName) := by
    split
    · exact hitem
    · exact hitems
  exact (((hfound.append (isPlainText_naturalText n)).append hspace).append hnoun).append hstop

/-- **The titles are filled in one by one**, and nothing else is. -/
lemma filled_listing (t : Turn) (hitem : IsPlainText l.itemName) (hitems : IsPlainText l.itemsName)
    (titles : List String) : t.filled (l.listing titles) = l.listing (titles.map t.filled) := by
  rw [ResultsList.listing, t.filled_plain_append (isPlainText_heading hitem hitems _),
    filled_itemLines t hitem, ResultsList.listing, List.length_map]

/-- Something is heard of every list. -/
lemma heard_listing (titles : List String) :
    heard (l.listing titles) = [Text.normalize (l.listing titles)] :=
  heard_of_mem (by decide : Text.isBlank 'I' = false)
    (by simp [ResultsList.listing, ResultsList.heading])

/-- **What the user hears of a list.**  Announcing records succeeds if the goal of the list exists,
and what is heard is the list of their titles, filled in like any text that is spoken.  Let the
names of the list's items hold no delimiters of placeholders.  Then one fragment is spoken: how many
records there are, and for each, in order, the capitalized name, its number and its title, up to the
spacing.  A title is filled in by itself, when the records are kept already, so it is heard as it
stands if no placeholder begins in it; if that is so of all titles, the fragment does not depend on
any slot. -/
theorem announced_titles_are_filled {σ : Type} (setting : Setting σ) (t : Turn) (s : σ)
    (l : ResultsList) (records : List Record) (hgoal : setting.knows l.interactionGoal = true) :
    let titles := records.map (·.spokenField l.titleField)
    let kept := t.set l.slot (.arr (records.map Json.ofDict))
    let run := Script.run setting (l.respondWithItems records).run t s
    run.1 = .ok () ∧
    run.2.1.speech = t.speech ++ heard (kept.filled (l.listing titles)) ∧
    (IsPlainText l.itemName → IsPlainText l.itemsName →
      run.2.1.speech = t.speech ++ [Text.normalize (l.listing (titles.map kept.filled))] ∧
      (∀ title ∈ titles, (∀ cs, cs <:+ title.toList → placeholder? cs = none) →
        kept.filled title = title) ∧
      ((∀ title ∈ titles, ∀ cs, cs <:+ title.toList → placeholder? cs = none) →
        run.2.1.speech = t.speech ++ [Text.normalize (l.listing titles)])) := by
  intro titles kept run
  have hspeech : run.2.1.speech = t.speech ++ heard (kept.filled (l.listing titles)) := by
    have htold : run.2.1.speech = (kept.say (l.announcement records)).speech := by
      show (Script.run setting (Act.addGoal l.interactionGoal).run
        (kept.say (l.announcement records)) s).2.1.speech = _
      rw [speech_run, trace_addGoal]
      exact List.append_nil _
    rw [htold, kept.speech_say_eq_heard, l.announcement_eq]
    rfl
  refine ⟨result_respondWithItems setting t s l records hgoal, hspeech, fun hitem hitems => ?_⟩
  rw [filled_listing kept hitem hitems, heard_listing] at hspeech
  refine ⟨hspeech, fun title _ h => kept.filled_of_no_placeholder h, fun h => ?_⟩
  have hsame : titles.map kept.filled = titles.map id :=
    List.map_congr_left fun title htitle => kept.filled_of_no_placeholder (h title htitle)
  rw [hspeech, hsame, List.map_id]

end Announcing

/-- The notes on a subject. -/
def notes : ResultsList := ⟨"notes", "note", "notes", "Title"⟩

/-- A source without records, for handlers whose goals all exist. -/
def emptyDesk : Setting Records :=
  ⟨fun _ => true, Records.source ⟨0, none, naturalText⟩, .ofMarker '*', 0⟩

/-- A note with a title. -/
def noteOf (title : String) : Record := .ofList [("Title", .str title)]

/-- Single brackets are heard as they are. -/
theorem drafts_are_read_out :
    let drafts := [noteOf "Plan [draft]", noteOf "\x7ba, b\x7d"]
    (Script.run emptyDesk (notes.respondWithItems drafts).run
      (Turn.start (Session.new "s" .epoch) .empty) .empty).2.1.speech =
        ["I found 2 notes. Note 1, Plan [draft]. Note 2, \x7ba, b\x7d."] := by
  intro drafts
  have htitles : drafts.map (·.spokenField notes.titleField) =
      ["Plan [draft]", "\x7ba, b\x7d"] := by decide
  have hundoubled : ∀ title ∈ ["Plan [draft]", "\x7ba, b\x7d"],
      ¬ ['[', '['] <:+: title.toList ∧ ¬ ['{', '{'] <:+: title.toList := by decide +kernel
  obtain ⟨_, _, hnames⟩ := announced_titles_are_filled emptyDesk
    (Turn.start (Session.new "s" .epoch) .empty) .empty notes drafts rfl
  obtain ⟨_, _, hsame⟩ := hnames (by decide) (by decide)
  rw [htitles] at hsame
  rw [hsame fun title htitle => placeholder?_of_unopened (hundoubled title htitle).1
    (hundoubled title htitle).2]
  decide +kernel

/-- A title with the name of a slot in brackets: what is heard is the value of the slot. -/
theorem title_is_taken_for_a_slot :
    emptyDesk.knows notes.interactionGoal = true ∧
    (noteOf "About [[term]]").spokenField notes.titleField = "About [[term]]" ∧
    ∀ term ∈ ["Ann", "Bob"],
      (Script.run emptyDesk (notes.respondWithItems [noteOf "About [[term]]"]).run
        (Turn.start (Session.new "s" .epoch) (.ofList [("term", .str term)])) .empty).2.1.speech =
          ["I found 1 note. Note 1, About " ++ term ++ "."] := by
  decide +kernel

end Dialogue
