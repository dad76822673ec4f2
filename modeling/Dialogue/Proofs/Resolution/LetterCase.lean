import Dialogue.Proofs.Number.Decimals
import Dialogue.Proofs.Resolution.Values
import Dialogue.Proofs.Template.LetterCase

/-!
# Understanding does not see case

An utterance is understood in the same way whatever the case of its letters is.  Each stage has its
own reason.  Whether there is a word and which phrasing matches are questions about characters that
do not see case.  Numbers are read from digits and signs, which have no case, from an `e`, which is
accepted in both forms, and from number words, which are compared in lower case.  Literal texts are
compared with samples up to case, and kept as they are.

* `spokenNumber?_lowerAscii` — numbers.
* `coerce_lowerAscii`, `coerceAll?_lowerAscii` — values.
* `resolve_lowerAscii` — understanding the text with its letters written small.
* **`resolve_ignores_case`** — two utterances that are the same up to case.
-/

namespace Dialogue

open Text

/-! ## Numbers -/

lemma caseBlind_isDigit : CaseBlind Char.isDigit := caseBlind_of_capitals (by decide)

/-- A digit has no small form of its own. -/
lemma toLower_of_isDigit {c : Char} (h : c.isDigit = true) : c.toLower = c := by
  have hcapitals : (capitals.all fun d => !d.isDigit) = true := by decide
  rcases mem_capitals_or c with hc | hc
  · simpa [h] using List.all_eq_true.mp hcapitals c hc
  · exact hc

/-- A mark has a small form only if it is that form itself. -/
lemma toLower_eq_iff {c d : Char} (h : CaseBlind (· == d)) : c.toLower = d ↔ c = d := by
  rw [← beq_iff_eq, ← beq_iff_eq (a := c)]
  exact iff_of_eq (congrArg (· = true) (h c))

lemma takeWhile_isDigit_small (cs : List Char) :
    (small cs).takeWhile Char.isDigit = cs.takeWhile Char.isDigit := by
  rw [takeWhile_small caseBlind_isDigit]
  exact small_eq_self fun c hc => toLower_of_isDigit (List.mem_takeWhile_imp hc)

/-- Splitting off a sign leaves the small form of what is left. -/
lemma splitSign_small (cs : List Char) :
    splitSign (small cs) = ((splitSign cs).1, small (splitSign cs).2) := by
  cases cs with
  | nil => rfl
  | cons c cs =>
      by_cases hminus : c = '-'
      · subst hminus
        rfl
      · by_cases hplus : c = '+'
        · subst hplus
          rfl
        · have hminus' : c.toLower ≠ '-' :=
            mt (toLower_eq_iff (caseBlind_of_capitals (by decide))).mp hminus
          have hplus' : c.toLower ≠ '+' :=
            mt (toLower_eq_iff (caseBlind_of_capitals (by decide))).mp hplus
          rw [small_cons, splitSign_of_ne _ hminus' hplus', splitSign_of_ne _ hminus hplus]
          rfl

lemma readDigits?_small (cs : List Char) : readDigits? (small cs) = readDigits? cs := by
  have hall : (small cs).all Char.isDigit = cs.all Char.isDigit := by
    rw [small, List.all_map, caseBlind_isDigit.comp_toLower]
  have hempty : (small cs).isEmpty = cs.isEmpty := by rw [small, List.isEmpty_map]
  rw [readDigits?, readDigits?, hall, hempty]
  by_cases hdigits : cs.all Char.isDigit = true
  · rw [small_eq_self fun c hc => toLower_of_isDigit (List.all_eq_true.mp hdigits c hc)]
  · simp [hdigits]

lemma readSigned?_small (cs : List Char) : readSigned? (small cs) = readSigned? cs := by
  rw [readSigned?, readSigned?, splitSign_small]
  dsimp only
  rw [readDigits?_small]

lemma readInteger?_small (cs : List Char) : readInteger? (small cs) = readInteger? cs := by
  rw [readInteger?, readInteger?, readSigned?_small]

lemma isUnboundedName_small (cs : List Char) :
    isUnboundedName (small cs) = isUnboundedName cs := by
  have htwice := small_small (splitSign cs).2
  rw [isUnboundedName, isUnboundedName, splitSign_small, ← small, htwice]
  rfl

/-- The `e` of an exponent may be small or not. -/
lemma readExponent?_small (cs : List Char) : readExponent? (small cs) = readExponent? cs := by
  have hmark : CaseBlind fun c => c == 'e' || c == 'E' := caseBlind_of_capitals (by decide)
  cases cs with
  | nil => rfl
  | cons c cs =>
      have hc : (c.toLower == 'e' || c.toLower == 'E') = (c == 'e' || c == 'E') := hmark c
      rw [small_cons, readExponent?, readExponent?, hc, readSigned?_small]

lemma splitFraction_small (cs : List Char) :
    splitFraction (small cs) = ((splitFraction cs).1, small (splitFraction cs).2) := by
  cases cs with
  | nil => rfl
  | cons c cs =>
      by_cases hpoint : c = '.'
      · subst hpoint
        have hpoint' : small ('.' :: cs) = '.' :: small cs := rfl
        rw [hpoint', splitFraction, takeWhile_isDigit_small, dropWhile_small caseBlind_isDigit]
        rfl
      · have hpoint' : c.toLower ≠ '.' :=
          mt (toLower_eq_iff (caseBlind_of_capitals (by decide))).mp hpoint
        have hnone : ∀ d ds, d ≠ '.' → splitFraction (d :: ds) = ([], d :: ds) :=
          fun d ds hd => splitFraction_of_ne fun es h => hd (List.cons.inj h).1
        rw [small_cons, hnone _ _ hpoint', hnone _ _ hpoint]
        rfl

lemma read?_small (cs : List Char) : Decimal.read? (small cs) = Decimal.read? cs := by
  rw [read?_eq, read?_eq, splitSign_small]
  dsimp only
  rw [takeWhile_isDigit_small, dropWhile_small caseBlind_isDigit, splitFraction_small]
  dsimp only
  rw [readExponent?_small]

/-- **A number is read in any case.** -/
theorem spokenNumber?_lowerAscii (raw : String) :
    spokenNumber? (lowerAscii raw) = spokenNumber? raw := by
  have hcomma : CaseBlind (· != ',') := caseBlind_of_capitals (by decide)
  rw [spokenNumber?, spokenNumber?, toList_lowerAscii, filter_small hcomma, readInteger?_small,
    isUnboundedName_small, read?_small, lower_lowerAscii]

/-! ## Values -/

/-- The value with its text in lower case, if it is a text. -/
def lowerValue : Json → Json
  | .str s => .str (lowerAscii s)
  | v => v

lemma lowerValue_of_spokenNumber? {raw : String} {v : Json} (h : spokenNumber? raw = some v) :
    lowerValue v = v := by
  rcases spokenNumber?_eq_some h with ⟨n, rfl⟩ | ⟨x, rfl⟩
  · rfl
  · rfl

/-- Samples are compared up to case. -/
lemma sameIgnoringCase_lowerAscii (sample raw : String) :
    sameIgnoringCase sample (lowerAscii raw) = sameIgnoringCase sample raw := by
  rw [Bool.eq_iff_iff, sameIgnoringCase_iff, sameIgnoringCase_iff, lowerAscii_lowerAscii]

/-- **A captured text is accepted in any case**, and its value is the same up to case. -/
lemma coerce_lowerAscii (types : InputTypes) (slot raw : String) :
    (types.coerce slot (lowerAscii raw)).toOption =
      (types.coerce slot raw).toOption.map lowerValue := by
  rw [InputTypes.coerce, InputTypes.coerce]
  cases types.find? slot with
  | none => rfl
  | some t =>
      dsimp only
      rw [InputType.coerce, InputType.coerce, trimBlanks_lowerAscii]
      generalize trimBlanks raw = raw
      cases t.domain with
      | number =>
          dsimp only
          rw [spokenNumber?_lowerAscii]
          cases hnumber : spokenNumber? raw with
          | none => rfl
          | some v => exact congrArg some (lowerValue_of_spokenNumber? hnumber).symm
      | literal samples closed =>
          dsimp only
          simp only [sameIgnoringCase_lowerAscii]
          split <;> rfl

lemma mapM_map_eq {α α' β β' : Type} {f : α → Option β} {f' : α' → Option β'} {g : α → α'}
    {h : β → β'} (hf : ∀ a, f' (g a) = (f a).map h) (as : List α) :
    (as.map g).mapM f' = (as.mapM f).map (List.map h) := by
  induction as with
  | nil => rfl
  | cons a as ih =>
      rw [List.map_cons, List.mapM_cons, List.mapM_cons, hf, ih]
      cases f a with
      | none => rfl
      | some b => cases as.mapM f <;> rfl

/-- The values of captured texts are the same up to case. -/
lemma coerceAll?_lowerAscii (types : InputTypes) (captured : Dict String) :
    types.coerceAll? (captured.map lowerAscii) =
      (types.coerceAll? captured).map (Dict.map lowerValue) := by
  have haccepted : ∀ e : String × String, types.accepted? (e.1, lowerAscii e.2) =
      (types.accepted? e).map fun e' => (e'.1, lowerValue e'.2) := by
    intro e
    have hcoerce := coerce_lowerAscii types e.1 e.2
    rw [InputTypes.accepted?, InputTypes.accepted?]
    dsimp only
    cases hraw : types.coerce e.1 e.2 with
    | error error =>
        rw [hraw] at hcoerce
        cases hlow : types.coerce e.1 (lowerAscii e.2) with
        | error error' => rfl
        | ok v => rw [hlow] at hcoerce; cases hcoerce
    | ok v =>
        rw [hraw] at hcoerce
        cases hlow : types.coerce e.1 (lowerAscii e.2) with
        | error error' => rw [hlow] at hcoerce; cases hcoerce
        | ok v' =>
            rw [hlow] at hcoerce
            rw [Option.some.inj hcoerce]
            rfl
  rw [InputTypes.coerceAll?_eq, InputTypes.coerceAll?_eq, Dict.map, mapM_map_eq haccepted,
    Option.map_map, Option.map_map]
  exact congrArg (Option.map · _) (funext fun es => (Dict.map_ofList lowerValue es).symm)

/-! ## Understanding -/

/-- The resolution with the texts among its values in lower case. -/
def Resolution.lower (r : Resolution) : Resolution := { r with values := r.values.map lowerValue }

lemma Attempt.result?_lowerAscii (m : Model) (normalized : String) (a : Attempt) :
    a.result? m (lowerAscii normalized) = (a.result? m normalized).map Resolution.lower := by
  rw [result?, result?, captures?_lowerAscii]
  cases a.phrasing.captures? normalized with
  | none => rfl
  | some captured =>
      rw [Option.map_some, Option.bind_some, Option.bind_some, coerceAll?_lowerAscii,
        Option.map_map, Option.map_map]
      rfl

/-- **An utterance with its letters written small** is understood as the utterance is, and gives the
same values up to case. -/
theorem resolve_lowerAscii (m : Model) (activeGoal : Option String) (utterance : String) :
    (m.resolve activeGoal (lowerAscii utterance)).toOption =
      (m.resolve activeGoal utterance).toOption.map Resolution.lower := by
  have hfound : (m.attempts activeGoal).findSome?
      (Attempt.result? m (lowerAscii (Text.normalize utterance))) =
        ((m.attempts activeGoal).findSome? (Attempt.result? m (Text.normalize utterance))).map
          Resolution.lower := by
    rw [List.map_findSome?]
    exact congrArg (List.findSome? · _) (funext (Attempt.result?_lowerAscii m _))
  rw [toOption_resolve, toOption_resolve, normalize_lowerAscii, hasWord_lowerAscii, hfound]
  split
  · rfl
  · rfl

/-- Two values of a slot agree: numbers are equal, and texts are the same up to case. -/
def InputType.Agree (t : InputType) (v v' : Json) : Prop :=
  match t.domain with
  | .number => v = v'
  | .literal _ _ => ∃ a b, v = .str a ∧ v' = .str b ∧ sameIgnoringCase a b = true

/-- Two resolutions agree: the same binding was triggered in the same scope, and it has values for
the same slots, which agree. -/
structure Resolution.Agree (types : InputTypes) (r r' : Resolution) : Prop where
  binding : r'.binding = r.binding
  scope : r'.scope = r.scope
  values : ∀ slot, Option.Rel (fun v v' => ∃ t, types.find? slot = some t ∧ t.Agree v v')
    (r.values.find? slot) (r'.values.find? slot)

/-- While a goal is active, or none is, two utterances are both not understood, or they are
understood in ways that agree. -/
def Model.UnderstandsAlike (m : Model) (activeGoal : Option String) (u u' : String) : Prop :=
  match m.resolve activeGoal u, m.resolve activeGoal u' with
  | .ok r, .ok r' => r.Agree m.types r'
  | .error _, .error _ => True
  | _, _ => False

/-- A value is of the kind of its slot: one that has no case, or a text. -/
def InputType.Gives (t : InputType) (v : Json) : Prop :=
  match t.domain with
  | .number => lowerValue v = v
  | .literal _ _ => ∃ text, v = .str text

lemma gives_of_coerce {types : InputTypes} {slot raw : String} {v : Json}
    (h : types.coerce slot raw = .ok v) : ∃ t, types.find? slot = some t ∧ t.Gives v := by
  obtain ⟨t, ht, hvalue⟩ := InputTypes.coerce_eq_ok h
  refine ⟨t, ht, ?_⟩
  rw [InputType.Gives]
  cases hdomain : t.domain with
  | number =>
      rw [hdomain] at hvalue
      exact lowerValue_of_spokenNumber? hvalue
  | literal samples closed =>
      rw [hdomain] at hvalue
      exact ⟨_, hvalue⟩

/-- Every value of a resolution is of the kind of its slot. -/
lemma gives_of_resolve {m : Model} {activeGoal : Option String} {utterance : String}
    {r : Resolution} (h : m.resolve activeGoal utterance = .ok r) {slot : String} {v : Json}
    (hv : r.values.find? slot = some v) : ∃ t, m.types.find? slot = some t ∧ t.Gives v := by
  obtain ⟨raw, hcoerce⟩ := exists_coerce_of_resolve h hv
  exact gives_of_coerce hcoerce

/-- Values of one kind that are the same up to case agree. -/
lemma InputType.Gives.agree {t : InputType} {v v' : Json} (h : t.Gives v) (h' : t.Gives v')
    (hlower : lowerValue v = lowerValue v') : t.Agree v v' := by
  rw [Gives] at h h'
  rw [Agree]
  cases hdomain : t.domain with
  | number =>
      rw [hdomain] at h h'
      exact h.symm.trans (hlower.trans h')
  | literal samples closed =>
      rw [hdomain] at h h'
      obtain ⟨a, rfl⟩ := h
      obtain ⟨b, rfl⟩ := h'
      exact ⟨a, b, rfl, rfl, sameIgnoringCase_iff.mpr (Json.str.inj hlower)⟩

/-- Resolutions that are the same once their texts are in lower case agree. -/
lemma agree_of_lower_eq {m : Model} {activeGoal : Option String} {u u' : String}
    {r r' : Resolution} (hr : m.resolve activeGoal u = .ok r)
    (hr' : m.resolve activeGoal u' = .ok r') (hsame : r.lower = r'.lower) :
    r.Agree m.types r' := by
  have hbinding : r'.lower.binding = r.lower.binding := by rw [hsame]
  have hscope : r'.lower.scope = r.lower.scope := by rw [hsame]
  refine ⟨hbinding, hscope, fun slot => ?_⟩
  have hvalues : (r.values.map lowerValue).find? slot = (r'.values.map lowerValue).find? slot :=
    congrArg (fun r => r.values.find? slot) hsame
  rw [Dict.find?_map, Dict.find?_map] at hvalues
  cases hv : r.values.find? slot with
  | none =>
      cases hv' : r'.values.find? slot with
      | none => exact .none
      | some v' => rw [hv, hv'] at hvalues; cases hvalues
  | some v =>
      cases hv' : r'.values.find? slot with
      | none => rw [hv, hv'] at hvalues; cases hvalues
      | some v' =>
          obtain ⟨t, ht, hgives⟩ := gives_of_resolve hr hv
          obtain ⟨t', ht', hgives'⟩ := gives_of_resolve hr' hv'
          obtain rfl := Option.some.inj (ht.symm.trans ht')
          rw [hv, hv'] at hvalues
          exact .some ⟨t, ht, hgives.agree hgives' (Option.some.inj hvalues)⟩

/-- **Case never changes the outcome.**  For utterances that are the same up to the case of the
letters `A` to `Z`, either none is understood, or both are: by the same binding in the same scope,
with values for the same slots, of which numbers are equal and texts the same up to case. -/
theorem resolve_ignores_case (m : Model) (s : Session) (u u' : String)
    (h : sameIgnoringCase u u' = true) : m.UnderstandsAlike s.activeGoal? u u' := by
  have hlower := resolve_lowerAscii m s.activeGoal? u
  have hlower' := resolve_lowerAscii m s.activeGoal? u'
  rw [← sameIgnoringCase_iff.mp h, hlower] at hlower'
  rw [Model.UnderstandsAlike]
  cases hr : m.resolve s.activeGoal? u with
  | error e =>
      cases hr' : m.resolve s.activeGoal? u' with
      | error e' => trivial
      | ok r' => rw [hr, hr'] at hlower'; cases hlower'
  | ok r =>
      cases hr' : m.resolve s.activeGoal? u' with
      | error e' => rw [hr, hr'] at hlower'; cases hlower'
      | ok r' =>
          rw [hr, hr'] at hlower'
          exact agree_of_lower_eq hr hr' (Option.some.inj hlower')

/-- Someone orders a number of things of a kind, of which there are two. -/
def orders : Model where
  types := (InputTypes.add .empty (.number "count")).add (.closed (.literal "kind" ["Tea", "Rusk"]))
  globals :=
    [⟨⟨"bring [[count]] [[kind]]", [[.word "bring".toList, .slot "count", .slot "kind"]]⟩,
      .immediate (Act.say "Coming!")⟩]
  goals := []

/-- An order in capitals is the same order. -/
theorem order_in_capitals :
    (orders.resolve none "Bring 1e2 rusk!").toOption.map (·.values.entries) =
        some [("count", .float ⟨false, 7036874417766400, -46⟩), ("kind", .str "rusk")] ∧
      orders.UnderstandsAlike (Session.new "s" .epoch).activeGoal? "Bring 1e2 rusk!"
        "BRING 1E2 RUSK!" := by
  have hcase : sameIgnoringCase "Bring 1e2 rusk!" "BRING 1E2 RUSK!" = true := by decide
  have halike := resolve_ignores_case orders (Session.new "s" .epoch) "Bring 1e2 rusk!"
    "BRING 1E2 RUSK!" hcase
  exact ⟨by decide, halike⟩

end Dialogue
