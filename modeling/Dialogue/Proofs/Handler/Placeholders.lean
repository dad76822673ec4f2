import Dialogue.Proofs.Handler.Trace
import Dialogue.Proofs.Lists
import Dialogue.Proofs.Resolution.Registration

/-!
# Slot names in spoken text

Two readers know what the name of a slot is.  The one for templates takes letters, numerals and the
three characters `_`, `.` and `-`; the one for spoken text takes word characters and the full stop.
Names on which they agree can be spoken.  A name with a hyphen, or with a numeral such as `½`, can
be declared in a template, but in spoken text nobody takes it for a name, and the user hears it in
its brackets.

* `Placeholder.chars`, `Placeholder.text` — a placeholder as it is written.
* `CutsBefore`, `CutsBefore.interpolate_append` — where no placeholder reaches across, the pieces of
  a text are filled in one by one.
* `interpolate_append_opening` — the text before a placeholder is filled in apart from it.
* `interpolate_of_name`, `interpolate_of_no_name` — what becomes of the placeholder.
* `isSlotChar_of_mem_slotNames` — the names of the slots of a compiled template.
* `Turn.filled`, `heard` — what is said, and what the user hears of it.
* **`slot_is_spoken_by_name`** — which of them are spoken as their values, and which as themselves.
-/

namespace Dialogue

open Text

/-! ## Placeholders as they are written -/

/-- A character with which a placeholder may begin. -/
def opensPlaceholder (c : Char) : Bool := c == '[' || c == '{'

namespace Placeholder

/-- The character that opens the placeholder, twice. -/
def opening (p : Placeholder) : Char := if p.sessionFirst then '{' else '['

/-- The character that closes it, twice. -/
def closing (p : Placeholder) : Char := if p.sessionFirst then '}' else ']'

/-- The placeholder as it is written. -/
def chars (p : Placeholder) : List Char :=
  p.opening :: p.opening :: (p.name.toList ++ [p.closing, p.closing])

/-- The placeholder as a text to be spoken. -/
def text (p : Placeholder) : String := String.ofList p.chars

lemma chars_append (p : Placeholder) (rest : List Char) : p.chars ++ rest =
    p.opening :: p.opening :: (p.name.toList ++ p.closing :: p.closing :: rest) := by
  simp [chars]

lemma opensPlaceholder_opening (p : Placeholder) : opensPlaceholder p.opening = true := by
  rw [opening]
  split <;> rfl

lemma ne_opening (p : Placeholder) {c : Char} (h : opensPlaceholder c = false) :
    c ≠ p.opening := by
  rintro rfl
  exact Bool.noConfusion (h.symm.trans p.opensPlaceholder_opening)

lemma isBlank_opening (p : Placeholder) : isBlank p.opening = false := by
  rw [opening]
  split <;> decide

lemma isPlaceholderChar_opening (p : Placeholder) : isPlaceholderChar p.opening = false := by
  rw [opening]
  split <;> decide

lemma isBlank_closing (p : Placeholder) : isBlank p.closing = false := by
  rw [closing]
  split <;> decide

lemma opensPlaceholder_closing (p : Placeholder) : opensPlaceholder p.closing = false := by
  rw [closing]
  split <;> decide

lemma isPlaceholderChar_closing (p : Placeholder) : isPlaceholderChar p.closing = false := by
  rw [closing]
  split <;> decide

lemma opening_ne_closing (p q : Placeholder) : p.opening ≠ q.closing := by
  intro h
  have hopens := p.opensPlaceholder_opening
  rw [h, q.opensPlaceholder_closing] at hopens
  cases hopens

end Placeholder

/-- A character with which a placeholder may begin opens one of the two kinds. -/
lemma exists_opening {c : Char} (h : opensPlaceholder c = true) :
    ∃ p : Placeholder, p.opening = c := by
  rcases Bool.or_eq_true_iff.mp h with h | h
  · exact ⟨⟨false, ""⟩, (eq_of_beq h).symm⟩
  · exact ⟨⟨true, ""⟩, (eq_of_beq h).symm⟩

/-! ## Reading names -/

/-- A name is read up to the closing delimiters, without the proof that it gets shorter. -/
lemma map_delimitedName? (close : Char) (cs : List Char) :
    (delimitedName? close cs).map (fun x => (x.1, x.2.1)) =
      match (((cs.dropWhile isBlank).dropWhile isPlaceholderChar).dropWhile isBlank) with
      | c :: d :: rest =>
        if c == close && d == close &&
          !((cs.dropWhile isBlank).takeWhile isPlaceholderChar).isEmpty then
          some (String.ofList ((cs.dropWhile isBlank).takeWhile isPlaceholderChar), rest)
        else none
      | _ => none := by
  rw [delimitedName?]
  split
  · rename_i c d rest h
    conv_rhs => rw [h]
    dsimp only
    split <;> rfl
  · rename_i hshort
    split
    · rename_i c d rest h
      exact absurd h (hshort c d rest)
    · rfl

section Stretches

variable {p : Char → Bool} {d : Char}

/-- A stretch ends before a character that does not belong to it. -/
lemma takeWhile_append_cons (hd : p d = false) (cs after : List Char) :
    (cs ++ d :: after).takeWhile p = cs.takeWhile p := by
  rw [List.takeWhile_append, List.takeWhile_cons_of_neg (by simpa using hd), List.append_nil]
  split
  · rename_i hlength
    exact ((List.takeWhile_prefix p).eq_of_length hlength).symm
  · rfl

lemma dropWhile_append_cons (hd : p d = false) (cs after : List Char) :
    (cs ++ d :: after).dropWhile p = cs.dropWhile p ++ d :: after := by
  rw [List.dropWhile_append, List.dropWhile_cons_of_neg (by simpa using hd)]
  split
  · rename_i hnil
    rw [List.isEmpty_iff.mp hnil, List.nil_append]
  · rfl

end Stretches

section Names

variable {close : Char} {name rest : List Char}

/-- A name is read if placeholder characters stand before the closing delimiters. -/
lemma map_delimitedName?_of_name (hne : name ≠ []) (hsolid : ∀ c ∈ name, isBlank c = false)
    (hname : ∀ c ∈ name, isPlaceholderChar c = true) (hblank : isBlank close = false)
    (hclose : isPlaceholderChar close = false) :
    (delimitedName? close (name ++ close :: close :: rest)).map (fun x => (x.1, x.2.1)) =
      some (String.ofList name, rest) := by
  have hends : ∀ c ∈ (close :: close :: rest).head?, isPlaceholderChar c = false := by
    rintro c ⟨⟩
    exact hclose
  obtain ⟨c, cs, rfl⟩ := List.exists_cons_of_ne_nil hne
  have hfront : (c :: cs ++ close :: close :: rest).dropWhile isBlank =
      c :: cs ++ close :: close :: rest :=
    List.dropWhile_cons_of_neg (by simpa using hsolid c List.mem_cons_self)
  have hback : (close :: close :: rest).dropWhile isBlank = close :: close :: rest :=
    List.dropWhile_cons_of_neg (by simpa using hblank)
  rw [map_delimitedName?, hfront, Template.takeWhile_run hname hends,
    Template.dropWhile_run hname hends, hback]
  simp

/-- No name is read if nothing but placeholder characters is left. -/
lemma map_delimitedName?_eq_none (hname : ∀ c ∈ name, isPlaceholderChar c = true) :
    (delimitedName? close name).map (fun x => (x.1, x.2.1)) = none := by
  have hrest : (name.dropWhile isBlank).dropWhile isPlaceholderChar = [] :=
    List.dropWhile_eq_nil_iff.mpr fun c hc => hname c ((List.dropWhile_sublist _).subset hc)
  rw [map_delimitedName?, hrest]
  rfl

/-- What follows a character that belongs to no name does not change what is read before it. -/
lemma map_delimitedName?_append {d : Char} (hblank : isBlank d = false)
    (hd : isPlaceholderChar d = false) (hclose : d ≠ close) (cs after : List Char) :
    (delimitedName? close (cs ++ d :: after)).map (fun x => (x.1, x.2.1)) =
      ((delimitedName? close cs).map (fun x => (x.1, x.2.1))).map
        fun x => (x.1, x.2 ++ d :: after) := by
  rw [map_delimitedName?, map_delimitedName?, dropWhile_append_cons hblank,
    takeWhile_append_cons hd, dropWhile_append_cons hd, dropWhile_append_cons hblank]
  rcases (((cs.dropWhile isBlank).dropWhile isPlaceholderChar).dropWhile isBlank) with
    _ | ⟨c, _ | ⟨e, rest⟩⟩
  · cases after <;> simp [beq_false_of_ne hclose]
  · simp [beq_false_of_ne hclose]
  · simp only [List.cons_append]
    split <;> rfl

end Names

/-! ## Placeholders in a text -/

section Interpolation

variable {value : Placeholder → String}

lemma interpolate_nil : interpolate value [] = [] := by
  rw [interpolate]
  rfl

/-- Where a placeholder begins, it gives way to its value. -/
lemma interpolate_of_some {cs rest : List Char} {p : Placeholder}
    (h : (placeholder? cs).map (fun x => (x.1, x.2.1)) = some (p, rest)) :
    interpolate value cs = (value p).toList ++ interpolate value rest := by
  obtain ⟨⟨q, left⟩, hfound, hq⟩ := Option.map_eq_some_iff.mp h
  obtain ⟨rfl, rfl⟩ := Prod.mk.inj hq
  rw [interpolate.eq_def, hfound]

/-- Where no placeholder begins, the character stays. -/
lemma interpolate_cons_of_none {c : Char} {cs : List Char} (h : placeholder? (c :: cs) = none) :
    interpolate value (c :: cs) = c :: interpolate value cs := by
  rw [interpolate, h]

/-- No placeholder begins with a character that opens none. -/
lemma placeholder?_eq_none {c : Char} (hc : opensPlaceholder c = false) (cs : List Char) :
    placeholder? (c :: cs) = none := by
  rw [placeholder?]
  · intro cs h
    obtain ⟨rfl, _⟩ := List.cons.inj h
    cases hc
  · intro cs h
    obtain ⟨rfl, _⟩ := List.cons.inj h
    cases hc

/-- No placeholder begins with two characters that are not the same. -/
lemma placeholder?_eq_none_of_ne {c d : Char} (h : d ≠ c) (cs : List Char) :
    placeholder? (c :: d :: cs) = none := by
  rw [placeholder?]
  · intro cs h'
    obtain ⟨rfl, rfl, _⟩ := List.cons_eq_cons.mp h' |>.imp id List.cons_eq_cons.mp
    exact h rfl
  · intro cs h'
    obtain ⟨rfl, rfl, _⟩ := List.cons_eq_cons.mp h' |>.imp id List.cons_eq_cons.mp
    exact h rfl

lemma placeholder?_singleton (c : Char) : placeholder? [c] = none := by
  rw [placeholder?]
  · intro cs h
    cases (List.cons.inj h).2
  · intro cs h
    cases (List.cons.inj h).2

/-- A text in front of which nothing opens a placeholder stays. -/
lemma interpolate_append {before : List Char} (h : ∀ c ∈ before, opensPlaceholder c = false)
    (cs : List Char) : interpolate value (before ++ cs) = before ++ interpolate value cs := by
  induction before with
  | nil => rfl
  | cons c before ih =>
      obtain ⟨hc, hbefore⟩ := List.forall_mem_cons.mp h
      rw [List.cons_append, interpolate_cons_of_none (placeholder?_eq_none hc _), ih hbefore,
        List.cons_append]

/-- Two opening characters begin a placeholder if a name and two closing characters follow. -/
lemma placeholder?_opening (p : Placeholder) (cs : List Char) :
    (placeholder? (p.opening :: p.opening :: cs)).map (fun x => (x.1, x.2.1)) =
      ((delimitedName? p.closing cs).map (fun x => (x.1, x.2.1))).map
        fun x => (⟨p.sessionFirst, x.1⟩, x.2) := by
  obtain ⟨sessionFirst, name⟩ := p
  cases sessionFirst with
  | true =>
      show (placeholder? ('{' :: '{' :: cs)).map _ = ((delimitedName? '}' cs).map _).map _
      rw [placeholder?]
      cases delimitedName? '}' cs <;> rfl
  | false =>
      show (placeholder? ('[' :: '[' :: cs)).map _ = ((delimitedName? ']' cs).map _).map _
      rw [placeholder?]
      cases delimitedName? ']' cs <;> rfl

/-- No placeholder that begins before the text reaches into it. -/
def CutsBefore (after : List Char) : Prop :=
  ∀ (c : Char) (before : List Char),
    (placeholder? (c :: before ++ after)).map (fun x => (x.1, x.2.1)) =
      ((placeholder? (c :: before)).map (fun x => (x.1, x.2.1))).map fun x => (x.1, x.2 ++ after)

/-- Whether a text cuts is decided by how names are read before it. -/
lemma cutsBefore_of_names {after : List Char}
    (hread : ∀ (p : Placeholder) (cs : List Char),
      (delimitedName? p.closing (cs ++ after)).map (fun x => (x.1, x.2.1)) =
        ((delimitedName? p.closing cs).map (fun x => (x.1, x.2.1))).map
          fun x => (x.1, x.2 ++ after))
    (hopens : ∀ p : Placeholder, placeholder? (p.opening :: after) = none) :
    CutsBefore after := by
  intro c before
  cases hc : opensPlaceholder c with
  | false =>
      rw [List.cons_append, placeholder?_eq_none hc, placeholder?_eq_none hc]
      rfl
  | true =>
      obtain ⟨q, rfl⟩ := exists_opening hc
      rcases before with _ | ⟨d, before⟩
      · rw [placeholder?_singleton, List.cons_append, List.nil_append, hopens q]
        rfl
      · by_cases heq : d = q.opening
        · rw [heq, List.cons_append, List.cons_append, placeholder?_opening,
            placeholder?_opening, hread q before]
          cases delimitedName? q.closing before <;> rfl
        · rw [List.cons_append, List.cons_append, placeholder?_eq_none_of_ne heq,
            placeholder?_eq_none_of_ne heq]
          rfl

/-- **Two pieces are filled in one by one** if no placeholder reaches across. -/
lemma CutsBefore.interpolate_append {after : List Char} (h : CutsBefore after)
    (before : List Char) :
    interpolate value (before ++ after) = interpolate value before ++ interpolate value after := by
  induction before using interpolate.induct with
  | case1 cs q rest hshorter hq ih =>
      obtain ⟨c, cs, rfl⟩ := List.exists_cons_of_length_pos (Nat.zero_lt_of_lt hshorter)
      have hfirst : (placeholder? (c :: cs)).map (fun x => (x.1, x.2.1)) = some (q, rest) := by
        rw [hq, Option.map_some]
      have hsame := h c cs
      rw [hfirst, Option.map_some] at hsame
      rw [interpolate_of_some hsame, interpolate_of_some hfirst, ih, List.append_assoc]
  | case2 _ => rw [interpolate_nil, List.nil_append, List.nil_append]
  | case3 c cs hnone ih =>
      have hsame := h c cs
      rw [hnone, Option.map_none, Option.map_none, Option.map_eq_none_iff] at hsame
      rw [List.cons_append] at hsame ⊢
      rw [interpolate_cons_of_none hsame, interpolate_cons_of_none hnone, ih, List.cons_append]

/-- No placeholder reaches into another one. -/
lemma cutsBefore_opening (p : Placeholder) (after : List Char) :
    CutsBefore (p.opening :: p.opening :: after) := by
  have hread := fun q : Placeholder => map_delimitedName?_append p.isBlank_opening
    p.isPlaceholderChar_opening (p.opening_ne_closing q)
  refine cutsBefore_of_names (fun q cs => hread q cs (p.opening :: after)) fun q => ?_
  by_cases heq : p.opening = q.opening
  · have hnone := hread q [] after
    rw [map_delimitedName?_eq_none (List.forall_mem_nil _), List.nil_append] at hnone
    have hopening := placeholder?_opening q (p.opening :: after)
    rw [hnone, Option.map_none, Option.map_none, Option.map_eq_none_iff] at hopening
    rw [← hopening, heq]
  · exact placeholder?_eq_none_of_ne heq _

/-- **A placeholder ends the text before it**: the two are read one after the other. -/
lemma interpolate_append_opening (p : Placeholder) (before after : List Char) :
    interpolate value (before ++ p.opening :: p.opening :: after) =
      interpolate value before ++ interpolate value (p.opening :: p.opening :: after) :=
  (cutsBefore_opening p after).interpolate_append before

/-- **A placeholder with a name that spoken text knows** gives way to its value. -/
lemma interpolate_of_name {p : Placeholder} (hne : p.name.toList ≠ [])
    (hsolid : ∀ c ∈ p.name.toList, isBlank c = false)
    (hname : ∀ c ∈ p.name.toList, isPlaceholderChar c = true) (rest : List Char) :
    interpolate value (p.chars ++ rest) = (value p).toList ++ interpolate value rest := by
  have hread := placeholder?_opening p (p.name.toList ++ p.closing :: p.closing :: rest)
  rw [map_delimitedName?_of_name hne hsolid hname p.isBlank_closing p.isPlaceholderChar_closing,
    Option.map_some, String.ofList_toList] at hread
  rw [p.chars_append, interpolate_of_some hread]

/-- **A placeholder with another name** stays as it is written. -/
lemma interpolate_of_no_name {p : Placeholder}
    (hsolid : ∀ c ∈ p.name.toList, isBlank c = false)
    (hopens : ∀ c ∈ p.name.toList, opensPlaceholder c = false)
    (hcloses : ∀ c ∈ p.name.toList, c ≠ p.closing)
    (hname : ∃ c ∈ p.name.toList, isPlaceholderChar c = false) (rest : List Char) :
    interpolate value (p.chars ++ rest) = p.chars ++ interpolate value rest := by
  -- The name is read up to its first character that spoken text does not know.
  obtain ⟨d, hfind⟩ : ∃ d, p.name.toList.find? (fun c => !isPlaceholderChar c) = some d := by
    refine Option.isSome_iff_exists.mp (List.find?_isSome.mpr ?_)
    simpa using hname
  obtain ⟨hd, front, back, hsplit, hfront⟩ := List.find?_eq_some_iff_append.mp hfind
  have hmem : d ∈ p.name.toList := List.mem_of_find?_eq_some hfind
  have hunread : (delimitedName? p.closing (p.name.toList ++ p.closing :: p.closing :: rest)).map
      (fun x => (x.1, x.2.1)) = none := by
    rw [hsplit, List.append_assoc, List.cons_append]
    rw [map_delimitedName?_append (hsolid d hmem) (by simpa using hd) (hcloses d hmem),
      map_delimitedName?_eq_none (by simpa using hfront)]
    rfl
  have hfirst := placeholder?_opening p (p.name.toList ++ p.closing :: p.closing :: rest)
  rw [hunread, Option.map_none, Option.map_eq_none_iff] at hfirst
  obtain ⟨c, cs, hname⟩ := List.exists_cons_of_ne_nil (List.ne_nil_of_mem hmem)
  have hsecond : placeholder? (p.opening :: (p.name.toList ++ p.closing :: p.closing :: rest)) =
      none := by
    rw [hname]
    exact placeholder?_eq_none_of_ne (p.ne_opening (hopens c (hname ▸ List.mem_cons_self))) _
  have hend : ∀ c ∈ p.name.toList ++ [p.closing, p.closing], opensPlaceholder c = false := by
    refine List.forall_mem_append.mpr ⟨hopens, ?_⟩
    simp [p.opensPlaceholder_closing]
  have hgroup : p.name.toList ++ p.closing :: p.closing :: rest =
      p.name.toList ++ [p.closing, p.closing] ++ rest := by simp
  rw [p.chars_append, interpolate_cons_of_none hfirst, interpolate_cons_of_none hsecond, hgroup,
    interpolate_append hend]
  rfl

end Interpolation

/-! ## Names of slots -/

/-- The name of a slot that stands in an element has characters, all of them of slot names. -/
lemma Node.Mentions.isSlotChar {name : String} {node : Node} (h : node.Mentions name)
    (hwritten : node.Written) :
    name.toList ≠ [] ∧ ∀ c ∈ name.toList, Template.isSlotChar c = true := by
  induction h with
  | slot =>
      cases hwritten with
      | slot hne hname =>
          rw [String.toList_ofList]
          exact ⟨hne, hname⟩
  | choice hbranch hnode _ ih =>
      cases hwritten with
      | choice hbranches => exact ih (hbranches _ hbranch _ hnode)

/-- The slots of a compiled template are slots of its phrasings. -/
lemma Matcher.exists_of_mem_slotNames {m : Matcher} {name : String} (h : name ∈ m.slotNames) :
    ∃ p ∈ m.phrasings, Token.slot name ∈ p := by
  rcases mem_foldl_new.mp h with hnil | hmem
  · cases hnil
  · obtain ⟨p, hp, hname⟩ := List.mem_flatMap.mp hmem
    exact ⟨p, hp, Phrasing.mem_slotNames.mp hname⟩

/-- **The names of the slots of a compiled template** are not empty and consist of characters of
slot names. -/
lemma isSlotChar_of_mem_slotNames {patterns : PatternBuilder} {types : InputTypes} {limit : ℕ}
    {template : String} {m : Matcher} (hm : Matcher.compile patterns types limit template = .ok m)
    {name : String} (h : name ∈ m.slotNames) :
    name.toList ≠ [] ∧ ∀ c ∈ name.toList, Template.isSlotChar c = true := by
  obtain ⟨nodes, all, hnodes, hall, hkept⟩ := Matcher.exists_of_compile hm
  obtain ⟨p, hp, hslot⟩ := Matcher.exists_of_mem_slotNames h
  obtain ⟨hmem, _⟩ := (Matcher.mem_kept_iff hkept).mp hp
  obtain ⟨node, hnode, hmentions⟩ :=
    Template.mentions_of_mem_ways (Template.expand?_eq_ways hall ▸ hmem) hslot
  exact hmentions.isSlotChar (Template.written_parse hnodes node hnode)

/-- A character of a slot name is no blank, and it neither opens nor closes a placeholder. -/
lemma solid_of_isSlotChar {c : Char} (h : Template.isSlotChar c = true) :
    isBlank c = false ∧ opensPlaceholder c = false ∧ ∀ p : Placeholder, c ≠ p.closing := by
  have hne : ∀ d, Template.isSlotChar d = false → c ≠ d := by
    rintro d hd rfl
    exact Bool.noConfusion (h.symm.trans hd)
  refine ⟨?_, ?_, fun p => hne _ ?_⟩
  · simp only [Template.isSlotChar, Bool.or_eq_true, beq_iff_eq] at h
    rcases h with ((h | rfl) | rfl) | rfl
    · exact isBlank_of_isAlphanumeric h
    · decide
    · decide
    · decide
  · rw [opensPlaceholder, beq_false_of_ne (hne '[' (by decide)),
      beq_false_of_ne (hne '{' (by decide))]
    rfl
  · rw [Placeholder.closing]
    split <;> decide

/-! ## Saying a slot -/

/-- What the user hears of a text: nothing if nothing is left of it without its blanks. -/
def heard (text : String) : List String :=
  if Text.normalize text = "" then [] else [Text.normalize text]

namespace Turn

/-- The text with its placeholders filled in. -/
def filled (t : Turn) (text : String) : String :=
  String.ofList (interpolate t.placeholderText text.toList)

/-- The value that a placeholder stands for, if the slot has one: in brackets the extracted one
comes first, in braces the one of the session. -/
def preferred? (t : Turn) (p : Placeholder) : Option Json :=
  if p.sessionFirst then t.values.find? p.name <|> t.extracted.find? p.name
  else t.extracted.find? p.name <|> t.values.find? p.name

variable (t : Turn)

/-- Saying a text is speaking what it is filled in to. -/
lemma speech_say_eq_heard (text : String) :
    (t.say text).speech = t.speech ++ heard (t.filled text) := by
  rw [speech_say, fragment?, heard, filled]
  congr 1
  split <;> rfl

lemma filled_empty : t.filled "" = "" := by
  rw [filled, String.toList_empty, interpolate_nil]

lemma placeholderText_of_preferred? {p : Placeholder} {v : Json} (h : t.preferred? p = some v) :
    t.placeholderText p = v.spoken := by
  have hvalue : t.placeholderText p = ((t.preferred? p).map Json.spoken).getD "" := rfl
  rw [hvalue, h]
  rfl

/-- The text around a placeholder is filled in apart from it. -/
lemma filled_around {p : Placeholder} {shown : String}
    (h : ∀ rest, interpolate t.placeholderText (p.chars ++ rest) =
      shown.toList ++ interpolate t.placeholderText rest) (before after : String) :
    t.filled (before ++ p.text ++ after) = t.filled before ++ shown ++ t.filled after := by
  have htext : (before ++ p.text ++ after).toList =
      before.toList ++ p.opening :: p.opening ::
        (p.name.toList ++ p.closing :: p.closing :: after.toList) := by
    rw [String.toList_append, String.toList_append, Placeholder.text, String.toList_ofList,
      List.append_assoc, p.chars_append]
  rw [filled, htext, interpolate_append_opening, ← p.chars_append, h, String.ofList_append,
    String.ofList_append, String.ofList_toList, String.append_assoc, filled, filled]

/-- A placeholder alone is filled in to what is shown for it. -/
lemma filled_alone {p : Placeholder} {shown : String}
    (h : ∀ rest, interpolate t.placeholderText (p.chars ++ rest) =
      shown.toList ++ interpolate t.placeholderText rest) : t.filled p.text = shown := by
  have haround := t.filled_around h "" ""
  rwa [filled_empty, String.empty_append, String.append_empty, String.empty_append,
    String.append_empty] at haround

end Turn

/-- A placeholder whose name has no blanks is normal as it is written. -/
lemma Placeholder.normalize_text {p : Placeholder} (h : ∀ c ∈ p.name.toList, isBlank c = false) :
    Text.normalize p.text = p.text := by
  have hfield : ∀ w ∈ [p.chars], IsField w := by
    refine List.forall_mem_singleton.mpr ⟨List.cons_ne_nil _ _, ?_⟩
    simp only [chars, List.mem_cons, List.mem_append, List.not_mem_nil, or_false]
    rintro c (rfl | rfl | hc | rfl | rfl)
    · exact p.isBlank_opening
    · exact p.isBlank_opening
    · exact h c hc
    · exact p.isBlank_closing
    · exact p.isBlank_closing
  have hfields := fields_unfields hfield
  rw [unfields] at hfields
  rw [Text.normalize, text, String.toList_ofList, hfields, unfields]

lemma Placeholder.text_ne_empty (p : Placeholder) : p.text ≠ "" := by
  intro hempty
  have hchars := congrArg String.toList hempty
  rw [text, String.toList_ofList] at hchars
  cases hchars

/-- **Which slots are spoken by name.**  Let a compiled template have a slot, and let a placeholder
of the slot, of either kind, stand in a text that is said.  The rest of the text is filled in apart
from it.  If spoken text knows all characters of the name and the slot has a value in the turn, the
placeholder gives way to the value; said alone, it is the value that the user hears.  If there is
another character in the name, the placeholder stays as it is written, and said alone, it is the
placeholder that the user hears, whatever the value. -/
theorem slot_is_spoken_by_name {patterns : PatternBuilder} {types : InputTypes} {limit : ℕ}
    {template : String} {m : Matcher}
    (hm : Matcher.compile patterns types limit template = .ok m) {name : String}
    (hname : name ∈ m.slotNames) (t : Turn) (sessionFirst : Bool) (before after : String) :
    let p : Placeholder := ⟨sessionFirst, name⟩
    let said := (t.say (before ++ p.text ++ after)).speech
    ((∀ c ∈ name.toList, isPlaceholderChar c = true) → ∀ v, t.preferred? p = some v →
      said = t.speech ++ heard (t.filled before ++ v.spoken ++ t.filled after) ∧
      (t.say p.text).speech = t.speech ++ heard v.spoken) ∧
    ((∃ c ∈ name.toList, isPlaceholderChar c = false) →
      said = t.speech ++ heard (t.filled before ++ p.text ++ t.filled after) ∧
      (t.say p.text).speech = t.speech ++ [p.text]) := by
  intro p said
  obtain ⟨hne, hslot⟩ := isSlotChar_of_mem_slotNames hm hname
  have hsolid := fun c hc => (solid_of_isSlotChar (hslot c hc)).1
  constructor
  · intro hknown v hv
    have hshown : ∀ rest, interpolate t.placeholderText (p.chars ++ rest) =
        v.spoken.toList ++ interpolate t.placeholderText rest := by
      intro rest
      rw [interpolate_of_name hne hsolid hknown, t.placeholderText_of_preferred? hv]
    refine ⟨?_, ?_⟩
    · rw [← t.filled_around hshown]
      exact t.speech_say_eq_heard _
    · rw [t.speech_say_eq_heard, t.filled_alone hshown]
  · intro hunknown
    have hshown : ∀ rest, interpolate t.placeholderText (p.chars ++ rest) =
        p.text.toList ++ interpolate t.placeholderText rest := by
      rw [Placeholder.text, String.toList_ofList]
      exact interpolate_of_no_name hsolid (fun c hc => (solid_of_isSlotChar (hslot c hc)).2.1)
        (fun c hc => (solid_of_isSlotChar (hslot c hc)).2.2 p) hunknown
    refine ⟨?_, ?_⟩
    · rw [← t.filled_around hshown]
      exact t.speech_say_eq_heard _
    · rw [t.speech_say_eq_heard, t.filled_alone hshown, heard, Placeholder.normalize_text hsolid,
        if_neg p.text_ne_empty]

/-- Ann is called by name. -/
theorem name_is_spoken :
    let t := Turn.start (Session.new "s" .epoch) (.ofList [("name", .str "Ann")])
    ∃ m, Matcher.compile .unlimited (InputTypes.add .empty (.literal "name" [])) 8
        "call [[name]]" = .ok m ∧ "name" ∈ m.slotNames ∧
      (t.say "Calling [[name]]…").speech = ["Calling Ann…"] := by
  intro t
  have hmem : "name" ∈
      Matcher.slotNames ⟨"call [[name]]", [[.word "call".toList, .slot "name"]]⟩ := by
    decide
  have hname : ∀ c ∈ "name".toList, isPlaceholderChar c = true :=
    List.all_eq_true.mp (by decide)
  obtain ⟨hknown, _⟩ := slot_is_spoken_by_name compile_call hmem t false "Calling " "…"
  refine ⟨_, compile_call, hmem, (hknown hname (.str "Ann") rfl).1.trans ?_⟩
  decide +kernel

/-- A hyphen in the name of a slot: it is declared, it has a value, and nobody hears it. -/
theorem hyphenated_name_is_not_spoken :
    ∃ m t, Matcher.compile .unlimited (InputTypes.add .empty (.literal "first-name" [])) 1024
        "[[first-name]]" = .ok m ∧ "first-name" ∈ m.slotNames ∧
      Turn.get? t "first-name" = some (.str "Ann") ∧
      (t.say "[[first-name]]").speech = ["[[first-name]]"] := by
  have hparse : Template.parse "[[first-name]]" = .ok [.slot "first-name"] :=
    @Template.parse_spell [.slot "first-name"] (by decide)
  exact ⟨_, Turn.start (Session.new "s" .epoch) (.ofList [("first-name", .str "Ann")]),
    Matcher.compile_of_single hparse (List.cons_ne_nil _ _) rfl (by decide), by decide, rfl,
    by decide +kernel⟩

end Dialogue
