import Dialogue.Proofs.Handler.Announcements

/-!
# Spoken text piece by piece

An author who writes a text to be spoken thinks of it as literal text with placeholders in between.
The reader of placeholders sees characters only, and it goes from left to right; but where literal
text opens no placeholder, it finds the author's placeholders and no others.  So each piece is
filled in once, by itself, and what a value puts in the place of a placeholder is never read again,
even if it looks like a placeholder.

What is spoken is in normal form: every fragment is when it is added, and single spaces join them.

* `Piece`, `Piece.IsWritten` — literal text and placeholders, with blanks around the name or not.
* `interpolate_of_spaced_name` — a placeholder in a text gives way to its value.
* `Turn.filled_pieces` — a text made of pieces is filled in piece by piece.
* `Turn.SpeaksNormally` — the fragments are in normal form; no request changes that.
* **`pieces_are_filled_in_one_pass`** — what is said of a text made of pieces.
-/

namespace Dialogue

open Text

/-! ## Pieces -/

/-- A piece of a text to be spoken: literal text, or a placeholder with something before and behind
the name. -/
inductive Piece where
  | literal (text : String)
  | placeholder (p : Placeholder) (front back : String)

namespace Piece

/-- The piece as it is written. -/
def text : Piece → String
  | .literal text => text
  | .placeholder p front back =>
    String.ofList (p.opening :: p.opening ::
      (front.toList ++ (p.name.toList ++ (back.toList ++ [p.closing, p.closing]))))

/-- Literal text opens no placeholder; a placeholder has a name that spoken text knows, with nothing
but blanks around it. -/
def IsWritten : Piece → Prop
  | .literal text => ∀ c ∈ text.toList, opensPlaceholder c = false
  | .placeholder p front back =>
    (∀ c ∈ front.toList, isBlank c = true) ∧ (∀ c ∈ back.toList, isBlank c = true) ∧
      p.name.toList ≠ [] ∧ ∀ c ∈ p.name.toList, isPlaceholderChar c = true

-- decided by going through the texts, not through all characters there are
instance : DecidablePred IsWritten
  | .literal text => List.decidableBAll _ text.toList
  | .placeholder p front back =>
    have := List.decidableBAll (fun c => isBlank c = true) front.toList
    have := List.decidableBAll (fun c => isBlank c = true) back.toList
    have := List.decidableBAll (fun c => isPlaceholderChar c = true) p.name.toList
    inferInstanceAs (Decidable (_ ∧ _ ∧ _ ∧ _))

/-- What the piece is filled in to on a turn: literal text stays, and a placeholder gives way to the
value that it stands for, or to nothing. -/
def shown (t : Turn) : Piece → String
  | .literal text => text
  | .placeholder p _ _ =>
    match t.preferred? p with
    | some v => v.spoken
    | none => ""

end Piece

/-! ## Filling in -/

/-- Blanks around the name do not matter: the placeholder gives way to its value. -/
lemma interpolate_of_spaced_name {value : Placeholder → String} {p : Placeholder}
    {front back : List Char} (hfront : ∀ c ∈ front, isBlank c = true)
    (hback : ∀ c ∈ back, isBlank c = true) (hne : p.name.toList ≠ [])
    (hname : ∀ c ∈ p.name.toList, isPlaceholderChar c = true) (rest : List Char) :
    interpolate value (p.opening :: p.opening ::
        (front ++ (p.name.toList ++ (back ++ p.closing :: p.closing :: rest)))) =
      (value p).toList ++ interpolate value rest := by
  have hread : (delimitedName? p.closing
      (front ++ (p.name.toList ++ (back ++ p.closing :: p.closing :: rest)))).map
        (fun x => (x.1, x.2.1)) = some (p.name, rest) :=
    (map_delimitedName?_eq_some_iff p.isBlank_closing p.isPlaceholderChar_closing).mpr
      ⟨front, back, rfl, hfront, hback, hne, hname⟩
  have hfirst := placeholder?_opening p
    (front ++ (p.name.toList ++ (back ++ p.closing :: p.closing :: rest)))
  rw [hread, Option.map_some] at hfirst
  exact interpolate_of_some hfirst

namespace Turn

variable (t : Turn)

/-- The text of a placeholder is what is shown in its place. -/
lemma placeholderText_eq_shown (p : Placeholder) (front back : String) :
    t.placeholderText p = Piece.shown t (.placeholder p front back) := by
  have htext : t.placeholderText p = ((t.preferred? p).map Json.spoken).getD "" := rfl
  rw [htext, Piece.shown]
  cases t.preferred? p <;> rfl

/-- A piece is filled in apart from what follows it. -/
lemma interpolate_piece {piece : Piece} (h : piece.IsWritten) (rest : List Char) :
    interpolate t.placeholderText (piece.text.toList ++ rest) =
      (piece.shown t).toList ++ interpolate t.placeholderText rest := by
  cases piece with
  | literal text => exact interpolate_append h rest
  | placeholder p front back =>
      obtain ⟨hfront, hback, hne, hname⟩ := h
      have htext : (Piece.placeholder p front back).text.toList ++ rest =
          p.opening :: p.opening :: (front.toList ++
            (p.name.toList ++ (back.toList ++ p.closing :: p.closing :: rest))) := by
        simp [Piece.text]
      rw [htext, interpolate_of_spaced_name hfront hback hne hname,
        t.placeholderText_eq_shown p front back]

/-- **A text made of pieces is filled in piece by piece**, from left to right, each piece once. -/
theorem filled_pieces {pieces : List Piece} (h : ∀ piece ∈ pieces, piece.IsWritten) :
    t.filled (String.join (pieces.map Piece.text)) = String.join (pieces.map (Piece.shown t)) := by
  induction pieces with
  | nil => exact t.filled_empty
  | cons piece pieces ih =>
      obtain ⟨hpiece, hpieces⟩ := List.forall_mem_cons.mp h
      rw [List.map_cons, List.map_cons, String.join_cons, String.join_cons, ← ih hpieces, filled,
        String.toList_append, t.interpolate_piece hpiece, String.ofList_append,
        String.ofList_toList, filled]

/-- Saying a text adds what is heard of it to the speech, and changes nothing else. -/
lemma say_eq (text : String) :
    t.say text = { t with speech := t.speech ++ heard (t.filled text) } := by
  have hspeech := t.speech_say_eq_heard text
  rw [say] at hspeech ⊢
  split at hspeech
  · rename_i hempty
    rw [if_pos hempty, ← hspeech]
  · rename_i hsome
    rw [if_neg hsome, ← hspeech]

end Turn

/-! ## Speech in normal form -/

/-- Fragments that are heard as they are, joined by single spaces, are heard as they are. -/
lemma isHeard_intercalate : ∀ {fragments : List String}, fragments ≠ [] →
    (∀ f ∈ fragments, IsHeard f) → IsHeard (" ".intercalate fragments)
  | [], hne, _ => absurd rfl hne
  | [f], _, h => by
      rw [String.intercalate_singleton]
      exact h f List.mem_cons_self
  | f :: g :: fragments, _, h => by
      obtain ⟨hf, hrest⟩ := List.forall_mem_cons.mp h
      rw [String.intercalate_cons_cons]
      exact hf.append_space (isHeard_intercalate (List.cons_ne_nil _ _) hrest)

namespace Turn

/-- What a text amounts to is heard as it is. -/
lemma isHeard_of_fragment? {t : Turn} {text fragment : String}
    (h : t.fragment? text = some fragment) : IsHeard fragment := by
  rw [fragment?] at h
  split at h
  · cases h
  · rename_i hsome
    obtain rfl := Option.some.inj h
    exact isHeard_iff.mpr ⟨normalize_normalize _, hsome⟩

/-- Every fragment of the speech is heard as it is. -/
def SpeaksNormally (t : Turn) : Prop := ∀ fragment ∈ t.speech, IsHeard fragment

lemma speaksNormally_start (session : Session) (extracted : Dict Json) :
    (start session extracted).SpeaksNormally := List.forall_mem_nil _

/-- The whole speech is in normal form, then. -/
lemma SpeaksNormally.normalize_spoken {t : Turn} (h : t.SpeaksNormally) :
    Text.normalize t.spoken = t.spoken := by
  rw [spoken]
  by_cases hne : t.speech = []
  · rw [hne]
    rfl
  · exact (isHeard_iff.mp (isHeard_intercalate hne h)).1

/-- Saying a text adds a fragment that is heard as it is, or none. -/
lemma SpeaksNormally.say {t : Turn} (h : t.SpeaksNormally) (text : String) :
    (t.say text).SpeaksNormally := by
  rw [SpeaksNormally, speech_say]
  exact List.forall_mem_append.mpr
    ⟨h, fun fragment hf => isHeard_of_fragment? (Option.mem_toList.mp hf)⟩

/-- Texts are said one after the other. -/
lemma SpeaksNormally.foldl_say {t : Turn} (h : t.SpeaksNormally) (texts : List String) :
    (texts.foldl Turn.say t).SpeaksNormally := by
  induction texts generalizing t with
  | nil => exact h
  | cons text texts ih => exact ih (h.say text)

/-- **One request keeps the speech normal**: only a text that is said adds to it. -/
lemma SpeaksNormally.perform {σ : Type} (setting : Setting σ) {t : Turn} (h : t.SpeaksNormally)
    (s : σ) (r : Request) : (r.perform setting t s).2.1.SpeaksNormally := by
  have hrequest := speech_perform setting t s r
  cases r with
  | say text => exact h.say text
  | _ =>
      rw [SpeaksNormally, hrequest]
      exact List.forall_mem_append.mpr ⟨h, List.forall_mem_nil _⟩

/-- **So does a whole run.** -/
lemma SpeaksNormally.run {α σ : Type} (setting : Setting σ) (script : Script α) {t : Turn}
    (h : t.SpeaksNormally) (s : σ) : (script.run setting t s).2.1.SpeaksNormally :=
  run_keeps (fun r _ s' ht => ht.perform setting s' r) script h s

end Turn

/-- **What is said of a text made of pieces.**  Let a text be put together from literal text that
opens no placeholder and from placeholders, whatever blanks stand around their names.  Saying it
adds one fragment to the speech, or none if it is blank, and changes nothing else.  The fragment is,
up to spacing, the literal text with every placeholder replaced by the value that it stands for, as
it is spoken, or by nothing if there is no value; in brackets the value extracted in this turn comes
first, in braces the one of the session.  The values are not read again, whatever they look like.

And the speech is in normal form after any texts that are said one after the other on a new turn, as
it is after whatever else a handler does on it. -/
theorem pieces_are_filled_in_one_pass (t : Turn) {pieces : List Piece}
    (h : ∀ piece ∈ pieces, piece.IsWritten) :
    t.say (String.join (pieces.map Piece.text)) =
      { t with speech := t.speech ++ heard (String.join (pieces.map (Piece.shown t))) } ∧
    ∀ (session : Session) (extracted : Dict Json),
      (∀ texts : List String, let said := texts.foldl Turn.say (.start session extracted)
        Text.normalize said.spoken = said.spoken) ∧
      ∀ {α σ : Type} (setting : Setting σ) (script : Script α) (s : σ),
        let ended := (script.run setting (.start session extracted) s).2.1
        Text.normalize ended.spoken = ended.spoken := by
  refine ⟨?_, fun session extracted => ?_⟩
  · rw [t.say_eq, t.filled_pieces h]
  · have hstart := Turn.speaksNormally_start session extracted
    exact ⟨fun texts => (hstart.foldl_say texts).normalize_spoken,
      fun setting script s => (hstart.run setting script s).normalize_spoken⟩

/-- A guest gives a name that looks like a placeholder, and is called by it. -/
theorem guest_is_called_by_name :
    let t := Turn.start (Session.new "s" .epoch) (.ofList [("guest", .str "[[guest]] {{host}}")])
    let pieces := [.literal "Good  evening, ", .placeholder ⟨false, "guest"⟩ " " "", .literal "!]]",
      .placeholder ⟨true, "host"⟩ "" " "]
    (∀ piece ∈ pieces, piece.IsWritten) ∧
      String.join (pieces.map Piece.text) = "Good  evening, [[ guest]]!]]{{host }}" ∧
      (t.say "Good  evening, [[ guest]]!]]{{host }}").speech =
        ["Good evening, [[guest]] {{host}}!]]"] := by
  intro t pieces
  have hwritten : ∀ piece ∈ pieces, piece.IsWritten := by decide
  have htext : String.join (pieces.map Piece.text) = "Good  evening, [[ guest]]!]]{{host }}" := by
    decide
  obtain ⟨hsaid, _⟩ := pieces_are_filled_in_one_pass t hwritten
  rw [htext] at hsaid
  refine ⟨hwritten, htext, ?_⟩
  rw [hsaid]
  decide +kernel

end Dialogue
