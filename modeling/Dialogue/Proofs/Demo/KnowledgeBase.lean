import Dialogue.Proofs.Demo.Model
import Dialogue.Proofs.Engine.ReliableStores
import Dialogue.Proofs.Engine.Sources
import Dialogue.Proofs.Fallback
import Dialogue.Proofs.Handler.Announcements
import Dialogue.Proofs.Handler.Running
import Dialogue.Proofs.Handler.SlotNumbers
import Dialogue.Proofs.Handler.Slots
import Dialogue.Proofs.Projection
import Dialogue.Proofs.Resolution.FinalSlots

/-!
# Looking for articles, and having one sent

Articles are looked for with a request that ends with their subject.  If there are any, their list
is kept, and a goal is put on the stack in which an article can be asked for by its number.  A
number in digits is always understood as a number; whether it is one of an article is up to the
list.

* `resolve_looking`, `resolve_sending` — how the two utterances are understood.
* `run_lookFor`, `run_send` — what the handlers do.
* **`articles_are_found_and_sent`** — the two turns together.
-/

namespace Dialogue.Demo.KnowledgeBase

open Text

/-! ## How the utterances are understood -/

/-- The words that begin a search. -/
def searchWords : List (List Char) :=
  ["I", "am", "looking", "for", "information", "on"].map String.toList

/-- The words that have an article sent. -/
def sendWords : List (List Char) := ["send", "me", "article"].map String.toList

/-- How a search is understood. -/
def lookingResolution (text : String) : Resolution :=
  ⟨lookingBinding, .global, .ofList [("searchTerm", .str (bareText text))]⟩

lemma resolve_looking {text : String} (htext : hasWord text = true) :
    compiled.resolve none ("I am looking for information on " ++ text) =
      .ok (lookingResolution text) := by
  have hspaced : "I am looking for information on " ++ text =
      "I am looking for information on" ++ " " ++ text :=
    congrArg (· ++ text) (by rfl)
  have hphrasings : lookingBinding.matcher.phrasings = Phrasing.request searchWords "searchTerm" ::
      [Phrasing.request (searchWords.take 4) "searchTerm"] := by
    decide +kernel
  have htype : compiled.types.find? "searchTerm" =
      some (.literal "searchTerm" ["security", "data"]) := by
    decide
  have hwords : fields "I am looking for information on".toList = searchWords := by decide
  obtain ⟨later, hglobals⟩ := exists_globals
  rw [hspaced]
  refine Model.resolve_of_global ((hglobals.trans List.cons_append).trans (List.nil_append _).symm)
    (hasWord_append_right htext _) nofun (List.forall_mem_nil _) ?_
  exact Binding.values?_of_request hphrasings (by decide)
    (fields_append_words hwords text) (List.forall₂_same.mpr fun w _ => Pattern.FieldMatches.refl w)
    htext (InputTypes.coerce_bareText htype htext)

/-! ## An article by its number -/

/-- The binding that has an article sent. -/
def sendingBinding : Binding := ⟨Matcher.spelled sending, .immediate send⟩

/-- The binding that lets an article be heard. -/
def hearingBinding : Binding := ⟨Matcher.spelled hearing, .immediate hear⟩

lemma goal?_list : compiled.goal? articles.interactionGoal =
    some ⟨articles.interactionGoal, listGoal.prompts, [hearingBinding, sendingBinding]⟩ := rfl

/-- What is said to have an article sent is not said to hear more about it. -/
lemma values?_hearing (text : String) :
    hearingBinding.values? compiled (Text.normalize ("send me article" ++ " " ++ text)) = none := by
  have hphrasings : hearingBinding.matcher.phrasings =
      [Phrasing.request (["hear", "more", "about", "article"].map String.toList) "articleNo",
        Phrasing.request (["more", "about", "article"].map String.toList) "articleNo"] := by
    decide +kernel
  have hwords : fields "send me article".toList = sendWords := by decide
  have hfields : fields ("send me article" ++ " " ++ text).toList =
      "send".toList :: (["me", "article"].map String.toList ++ fields text.toList) :=
    fields_append_words hwords text
  have hsend : 's' ∈ "send".toList := by decide
  have hplain : Atom.isAttached 's' = false := by decide
  refine Binding.values?_eq_none fun p hp => ?_
  rw [hphrasings, List.mem_pair] at hp
  rcases hp with rfl | rfl
  · exact captures?_request_eq_none (by decide) hfields
      (Pattern.not_fieldMatches hsend hplain (by decide))
  · exact captures?_request_eq_none (by decide) hfields
      (Pattern.not_fieldMatches hsend hplain (by decide))

/-- How the request for an article is understood. -/
def sendingResolution (i : ℤ) : Resolution :=
  ⟨sendingBinding, .goal articles.interactionGoal, .ofList [("articleNo", .int i)]⟩

lemma resolve_sending {i : ℤ} (hmin : int64Min ≤ i) (hmax : i ≤ int64Max) :
    compiled.resolve (some articles.interactionGoal) ("send me article " ++ integerText i) =
      .ok (sendingResolution i) := by
  have hspaced : "send me article " ++ integerText i =
      "send me article" ++ " " ++ integerText i :=
    congrArg (· ++ integerText i) (by rfl)
  have hwords : fields "send me article".toList = sendWords := by decide
  have hphrasings : sendingBinding.matcher.phrasings =
      [Phrasing.request sendWords "articleNo"] := by
    decide +kernel
  have htype : compiled.types.find? "articleNo" = some (.number "articleNo") := by
    decide
  have hcoerce : compiled.types.coerce "articleNo" (bareText (integerText i)) = .ok (.int i) := by
    rw [bareText_integerText, InputTypes.coerce_integerText htype hmin hmax]
  have hword := hasWord_integerText i
  rw [hspaced]
  refine Model.resolve_of_goal ((Option.bind_some _ _).trans goal?_list)
    (rfl : [hearingBinding, sendingBinding] = [hearingBinding] ++ sendingBinding :: [])
    (hasWord_append_right hword _) (List.forall_mem_singleton.mpr (values?_hearing _)) ?_
  exact Binding.values?_of_request hphrasings (by decide)
    (fields_append_words hwords _) (List.forall₂_same.mpr fun w _ => Pattern.FieldMatches.refl w)
    hword hcoerce

/-! ## What the handlers do -/

section Handlers

variable {σ : Type} (setting : Setting σ) (t : Turn) (s : σ)

/-- What is said if nothing was found. -/
def nothingFound : String := "Sorry. I did not find any information on [[searchTerm]]."

lemma strip_article {p : Projection} (hmarker : p.marker = Projection.defaultMarker) :
    p.strip "KnowledgeArticleVersion*" = "KnowledgeArticleVersion" := by
  rw [Projection.strip_eq hmarker]
  decide

/-- **Looking for articles** is searching, and then telling what was found. -/
lemma run_lookFor (hmarker : setting.projection.marker = Projection.defaultMarker) {term : String}
    (hterm : t.get? "searchTerm" = some (.str term)) {waited : ℕ} {found : List Record} {s' : σ}
    (hfound : setting.source.search "KnowledgeArticleVersion" term setting.patience s =
      (⟨waited, .ok found⟩, s')) {items : List Record}
    (hitems : found.map (setting.projection.project "KnowledgeArticleVersion*") = items) :
    Script.run setting lookFor.run t s =
      Script.run setting
        (if items.isEmpty then Act.say nothingFound else articles.respondWithItems items).run
        (t.wait waited) s' := by
  subst hitems
  have hcalled : setting.source.search (setting.projection.strip "KnowledgeArticleVersion*") term
      setting.patience s = (⟨waited, .ok found⟩, s') := by
    rw [strip_article hmarker, hfound]
  rw [lookFor, run_requireText_bind _ _ _ (requireText_of_get? hterm), run_act_bind,
    run_search _ _ _ hcalled, strip_article hmarker]
  rfl

/-- What is said of an article that was sent. -/
def sent (article : Record) : String :=
  "Article " ++ article.spokenField "Title" ++ " has been sent"

/-- **Having an article sent** is looking it up in the list, and telling its title. -/
lemma run_send : Script.run setting send.run t s =
    match articles.itemAtSlot t "articleNo" with
    | .ok article => (.ok (), t.say (sent article), s)
    | .error error => (.error (.index error), t, s) := by
  rw [send, chosenArticle, run_act_bind, run_listed]
  cases articles.itemAtSlot t "articleNo" with
  | ok article => rfl
  | error error => rfl

end Handlers

/-! ## What the user hears -/

section Speech

variable {t : Turn}

/-- **The subject is told verbatim** if nothing was found. -/
lemma speech_nothingFound {text : String} (htext : hasWord text = true) (hspeech : t.speech = [])
    (hterm : t.extracted.find? "searchTerm" = some (.str (bareText text))) :
    (t.say nothingFound).speech =
      ["Sorry. I did not find any information on " ++ bareText text ++ "."] := by
  have htext' : nothingFound = "Sorry. I did not find any information on " ++
      Placeholder.text ⟨false, "searchTerm"⟩ ++ "." := by
    decide
  have hplaced : t.preferred? ⟨false, "searchTerm"⟩ = some (.str (bareText text)) := by
    rw [Turn.preferred?, if_neg Bool.false_ne_true, hterm]
    rfl
  have hbegin : t.filled "Sorry. I did not find any information on " =
      "Sorry. I did not find any information on " := t.filled_plain (by decide)
  have hend : t.filled "." = "." := t.filled_plain (by decide)
  have hfilled := t.filled_around_value (by decide) (List.all_eq_true.mp (by decide)) hplaced
    "Sorry. I did not find any information on " "."
  rw [hbegin, hend, ← htext'] at hfilled
  have hwords : IsHeard "Sorry. I did not find any information on" := by decide
  have hfirst : "Sorry. I did not find any information on " =
      "Sorry. I did not find any information on" ++ " " := by
    rfl
  have hheard : IsHeard
      ("Sorry. I did not find any information on " ++ bareText text ++ ".") := by
    rw [hfirst]
    exact (hwords.append_space (isHeard_bareText htext)).append_field (by decide)
  rw [t.speech_say_eq_heard, hspeech, hfilled, List.nil_append]
  exact hheard

/-- **What is heard of an article that was sent**: its title, if no placeholder begins in it, up to
the spacing. -/
lemma speech_sent {article : Record} (hspeech : t.speech = [])
    (hsquare : ¬ ['[', '['] <:+: (article.spokenField "Title").toList)
    (hcurly : ¬ ['{', '{'] <:+: (article.spokenField "Title").toList) :
    (t.say (sent article)).speech = [Text.normalize (sent article)] := by
  have hfilled : t.filled (sent article) = sent article :=
    t.filled_between (by decide) (by decide) hsquare hcurly
  have hmem : 'A' ∈ (sent article).toList := by
    simp [sent]
  rw [t.speech_say_eq_heard, hspeech, hfilled, List.nil_append, heard_of_mem (by decide) hmem]

/-- Only the spacing of the title changes. -/
lemma normalize_sent {article : Record}
    (htitle : Text.normalize (article.spokenField "Title") ≠ "") :
    Text.normalize (sent article) =
      "Article " ++ Text.normalize (article.spokenField "Title") ++ " has been sent" := by
  have hfirst : "Article " = "Article" ++ " " := by rfl
  have hlast : " has been sent" = " " ++ "has been sent" := by rfl
  have hspaced (title : String) : "Article " ++ title ++ " has been sent" =
      "Article" ++ " " ++ (title ++ " " ++ "has been sent") := by
    rw [hfirst, hlast]
    simp only [String.append_assoc]
  have hfields (title : String) : fields ("Article " ++ title ++ " has been sent").toList =
      fields "Article".toList ++ (fields title.toList ++ fields "has been sent".toList) := by
    rw [hspaced, fields_append_words rfl, fields_append_words rfl]
  have hsame : Text.normalize (sent article) = Text.normalize
      ("Article " ++ Text.normalize (article.spokenField "Title") ++ " has been sent") :=
    normalize_congr (by rw [sent, hfields, hfields, fields_normalize])
  have harticle : IsHeard "Article" := by decide
  have hsent : IsHeard "has been sent" := by decide
  have hheard : IsHeard (Text.normalize (article.spokenField "Title")) :=
    isHeard_iff.mpr ⟨normalize_normalize _, htitle⟩
  rw [hsame, hspaced]
  exact (isHeard_iff.mp (harticle.append_space (hheard.append_space hsent))).1

end Speech

/-! ## The two turns -/

section Turns

variable {σ τ : Type} {e : Engine σ τ} {held : τ → String → Option Session} {w : World σ τ}
variable {now : Timestamp} {id : String} {s : Session}
variable (hmodel : e.model = compiled) (hstore : e.store.Reliable held)
include hmodel hstore

/-- **The first turn** tells that nothing was found, or keeps the list of what was. -/
lemma turn_looking (hmarker : e.projection.marker = Projection.defaultMarker)
    (hown : HeldByOwnId (held w.sessions)) (hmet : Engine.metBy id now (held w.sessions id) = s)
    (hidle : s.goals = .empty) {text : String} (htext : hasWord text = true) {waited : ℕ}
    {found : List Record} {source' : σ}
    (hfound : e.source.search "KnowledgeArticleVersion" (bareText text) e.patience w.source =
      (⟨waited, .ok found⟩, source')) {items : List Record}
    (hitems : found.map (e.projection.project "KnowledgeArticleVersion*") = items) :
    let turn := e.handleUtterance now id ("I am looking for information on " ++ text) w
    ∃ outcome s', turn.1.outcome = .ok outcome ∧ turn.2.Holds held id s' ∧
      (items = [] →
        outcome.spoken = "Sorry. I did not find any information on " ++ bareText text ++ "." ∧
        s'.slots = s.slots ∧ s'.goals.ids = []) ∧
      (items ≠ [] → s'.goals.ids = [articles.interactionGoal] ∧
        s'.slots = s.slots.insert articles.slot (.arr (items.map Json.ofDict))) := by
  intro turn
  have hresolve := resolve_looking htext
  have hactive : s.activeGoal? = none := by
    rw [Session.activeGoal?, hidle]
    rfl
  rw [← hmodel, ← hactive] at hresolve
  have hterm : (Engine.startTurn s (lookingResolution text)).get? "searchTerm" =
      some (.str (bareText text)) := rfl
  have hids : s.goals.ids = [] := by
    rw [hidle]
    rfl
  have hrun := run_lookFor e.setting _ _ hmarker hterm hfound hitems
  cases items with
  | nil =>
      rw [List.isEmpty_nil, if_pos rfl, run_say] at hrun
      obtain ⟨houtcome, -, s', hholds, hslots, hids'⟩ :=
        Engine.turn_of_success hstore hown hmet hresolve hrun
      rw [(slots_say _ _).1] at hslots
      rw [goals_say] at hids'
      refine ⟨_, s', houtcome, hholds, fun _ => ⟨?_, hslots, hids'.trans hids⟩,
        fun hne => absurd rfl hne⟩
      refine Engine.spoken_succeeded_of_idle e s _ (speech_nothingFound htext rfl rfl) ?_
      rw [goals_say]
      exact hids
  | cons item rest =>
      have hknows : e.setting.knows articles.interactionGoal = true :=
        knows_of_hasGoal hmodel (by rfl)
      rw [List.isEmpty_cons, if_neg Bool.false_ne_true,
        run_respondWithItems _ _ _ _ _ hknows] at hrun
      obtain ⟨houtcome, -, s', hholds, hslots, hids'⟩ :=
        Engine.turn_of_success hstore hown hmet hresolve hrun
      refine ⟨_, s', houtcome, hholds, fun hnil => absurd hnil (List.cons_ne_nil _ _),
        fun _ => ⟨hids'.trans ?_, hslots.trans (slots_say _ _).1⟩⟩
      rw [Turn.ids_pushed, goals_say]
      show s.goals.ids ++ _ = _
      rw [hids, List.nil_append]

/-- **The second turn** has an article sent, or tells that there is none with the number. -/
lemma turn_sending (hfallback : e.fallback = .default) (hholds : w.Holds held id s)
    (hids : s.goals.ids = [articles.interactionGoal]) {items : List Record}
    (hkept : s.slots.find? articles.slot = some (.arr (items.map Json.ofDict)))
    (now : Timestamp) {i : ℤ} (hmin : int64Min ≤ i) (hmax : i ≤ int64Max) :
    let turn := e.handleUtterance now id ("send me article " ++ integerText i) w
    ∃ outcome s', turn.1.outcome = .ok outcome ∧ turn.2.Holds held id s' ∧
      s'.slots = s.slots ∧
      (∀ (k : ℕ) (hk : k < items.length), i = k + 1 → s'.goals.ids = [] ∧
        (¬ ['[', '['] <:+: (items[k].spokenField "Title").toList →
          ¬ ['{', '{'] <:+: (items[k].spokenField "Title").toList →
          outcome.spoken = Text.normalize (sent items[k]))) ∧
      (i < 1 ∨ items.length < i →
        outcome.spoken = "Sorry, I could not find article " ++ integerText i ++ "." ∧
        s'.goals = s.goals) := by
  intro turn
  have hresolve := resolve_sending hmin hmax
  have hactive := Engine.activeGoal?_of_ids (hids.trans (List.nil_append _).symm)
  rw [← hmodel, ← hactive] at hresolve
  have hbelow := Engine.ids_startTurn (sendingResolution i) rfl
    (hids.trans (List.nil_append _).symm)
  obtain ⟨hvalues, hextracted⟩ := values_startTurn s (sendingResolution i)
  have hnumber : (Engine.startTurn s (sendingResolution i)).get? "articleNo" = some (.int i) := by
    rw [Turn.get?, hextracted]
    rfl
  have hlist : (Engine.startTurn s (sendingResolution i)).get? articles.slot =
      some (.arr (items.map Json.ofDict)) := by
    rw [Turn.get?, hextracted, hvalues]
    exact hkept
  have hanswers := ResultsList.answers_of_get? hlist
  have hrun := run_send e.setting (Engine.startTurn s (sendingResolution i)) w.source
  rw [ResultsList.itemAtSlot_of_int ⟨hmin, hmax⟩ hnumber] at hrun
  by_cases hrange : i < 1 ∨ items.length < i
  · rw [hanswers.outOfRange i hrange] at hrun
    obtain ⟨houtcome, -, s', hholds', hslots, hgoals'⟩ :=
      Engine.turn_of_failure hstore hholds.own (Engine.metBy_of_holds hholds now) hresolve hrun
    refine ⟨_, s', houtcome, hholds', hslots, fun k hk hi => by omega, fun _ => ⟨?_, hgoals'⟩⟩
    have happend : "Sorry, I could not find " ++ articles.itemName ++ " " ++ integerText i ++ "." =
        "Sorry, I could not find article " ++ integerText i ++ "." :=
      congrArg (· ++ integerText i ++ ".") (by rfl)
    have hsilent : (Engine.startTurn s (sendingResolution i)).speech.isEmpty = true := by
      rw [speech_startTurn, List.isEmpty_nil]
    exact (if_pos hsilent).trans
      ((apology_outOfRange hfallback (by decide) i items.length).trans happend)
  · obtain ⟨k, rfl⟩ : ∃ k : ℕ, i = k + 1 := ⟨(i - 1).toNat, by omega⟩
    have hk : k < items.length := by omega
    rw [hanswers.item k hk] at hrun
    obtain ⟨houtcome, -, s', hholds', hslots, hids'⟩ :=
      Engine.turn_of_success hstore hholds.own (Engine.metBy_of_holds hholds now) hresolve hrun
    rw [(slots_say _ _).1] at hslots
    rw [goals_say] at hids'
    refine ⟨_, s', houtcome, hholds', hslots.trans hvalues, fun k' hk' hi => ?_,
      fun h => absurd h hrange⟩
    obtain rfl : k' = k := by omega
    refine ⟨hids'.trans hbelow, fun hsquare hcurly => ?_⟩
    have hspeech := speech_sent (speech_startTurn s (sendingResolution (k' + 1))) hsquare hcurly
    refine Engine.spoken_succeeded_of_idle e s _ hspeech ?_
    rw [goals_say]
    exact hbelow

end Turns

/-! ## From the subject to the article -/

/-- **Articles are found, and one is sent.**  Let an engine have the demo's model, a store of
sessions that does not fail, such as one in memory, and a record source in memory that knows
articles, does not fail and takes no time; let no goal be active, and let a subject hold a word.
If no article mentions the subject, the user is told so, with the subject verbatim, and values and
goals stay.  Otherwise the list of the articles that do, in order, cut down to what is of interest,
is kept, and the goal of the list is active.  Then an article can be asked for by any 64-bit integer
in digits.  If it is the number of an article, counted from one, no goal is active any more, and the
user hears the article's title, up to the spacing, if no placeholder begins in it.  If it is not,
the user is told so, and values and goals stay. -/
theorem articles_are_found_and_sent {τ : Type} :
    SessionStore.inMemory.Reliable Dict.find? ∧
    (∀ record term, Records.mentions record term = true ↔
      ∃ name text, record.find? name = some (.str text) ∧
        (Text.lower term).toList <:+: (Text.lower text).toList) ∧
    ∀ (patterns : PatternBuilder) (settings : EngineSettings) (e : Engine Records τ)
      (b : Records.Behaviour) (held : τ → String → Option Session),
      model patterns settings = .ok e.model → e.projection.marker = Projection.defaultMarker →
      e.fallback = .default → e.store.Reliable held →
      e.source = Records.source b → b.failure = none → b.latency = 0 →
      ∀ (w : World Records τ) (id : String) (t₁ t₂ : Timestamp) (text : String),
        HeldByOwnId (held w.sessions) →
        w.source.entities.contains "KnowledgeArticleVersion" = true → hasWord text = true →
        let s := Engine.metBy id t₁ (held w.sessions id)
        s.goals = .empty →
        let T := bareText text
        let R := ((w.source.ofEntity "KnowledgeArticleVersion").filter (Records.mentions · T)).map
          (e.projection.project "KnowledgeArticleVersion*")
        let turn := e.handleUtterance t₁ id ("I am looking for information on " ++ text) w
        ∃ outcome s', turn.1.outcome = .ok outcome ∧ turn.2.Holds held id s' ∧
          (R = [] →
            outcome.spoken = "Sorry. I did not find any information on " ++ T ++ "." ∧
            s'.slots = s.slots ∧ s'.goals = s.goals) ∧
          (R ≠ [] →
            s'.goals.ids = ["interactionWithKnowledgeResults"] ∧
            s'.slots = s.slots.insert "KnowledgeResults" (.arr (R.map Json.ofDict)) ∧
            ∀ i : ℤ, int64Min ≤ i → i ≤ int64Max →
              let turn' := e.handleUtterance t₂ id ("send me article " ++ integerText i) turn.2
              ∃ outcome' s'', turn'.1.outcome = .ok outcome' ∧ turn'.2.Holds held id s'' ∧
                s''.slots = s'.slots ∧
                (∀ (k : ℕ) (hk : k < R.length), i = k + 1 →
                  let X := R[k].spokenField "Title"
                  s''.goals = .empty ∧
                  (¬ ['[', '['] <:+: X.toList → ¬ ['{', '{'] <:+: X.toList →
                    outcome'.spoken =
                      Text.normalize ("Article " ++ X ++ " has been sent") ∧
                    (Text.normalize X ≠ "" → outcome'.spoken =
                      "Article " ++ Text.normalize X ++ " has been sent"))) ∧
                (i < 1 ∨ R.length < i →
                  outcome'.spoken = "Sorry, I could not find article " ++ integerText i ++ "." ∧
                  s''.goals = s'.goals)) := by
  refine ⟨SessionStore.reliable_inMemory, fun record term => Records.mentions_iff, ?_⟩
  intro _ settings e b held hmodel hmarker hfallback hstore hsource hworks hfast w id t₁ t₂ text
    hown hknows htext s hidle T R turn
  have hcompiled : e.model = compiled := eq_compiled hmodel
  have hfound : e.source.search "KnowledgeArticleVersion" T e.patience w.source =
      (⟨b.latency, .ok ((w.source.ofEntity "KnowledgeArticleVersion").filter
        (Records.mentions · T))⟩, w.source) := by
    rw [hsource]
    exact Records.search_of_works hknows hworks (hfast ▸ Nat.zero_le _) T
  have hgoal : articles.interactionGoal = "interactionWithKnowledgeResults" := by rfl
  obtain ⟨outcome, s', houtcome, hholds, hnone, hsome⟩ :=
    turn_looking hcompiled hstore hmarker hown rfl hidle htext hfound (rfl : _ = R)
  refine ⟨outcome, s', houtcome, hholds, fun hR => ?_, fun hR => ?_⟩
  · obtain ⟨hspoken, hslots, hids⟩ := hnone hR
    exact ⟨hspoken, hslots, (GoalStack.eq_empty_of_ids hids).trans hidle.symm⟩
  · obtain ⟨hids, hslots⟩ := hsome hR
    have hkept : s'.slots.find? articles.slot = some (.arr (R.map Json.ofDict)) := by
      rw [hslots, Dict.find?_insert_self]
    refine ⟨hids.trans (congrArg ([·]) hgoal), hslots, fun i hmin hmax => ?_⟩
    obtain ⟨outcome', s'', houtcome', hholds', hslots', hsent, hmissed⟩ :=
      turn_sending hcompiled hstore hfallback hholds hids hkept t₂ hmin hmax
    refine ⟨outcome', s'', houtcome', hholds', hslots', fun k hk hi => ?_, hmissed⟩
    obtain ⟨hids', hspoken⟩ := hsent k hk hi
    refine ⟨GoalStack.eq_empty_of_ids hids', fun hsquare hcurly => ?_⟩
    have htold := hspoken hsquare hcurly
    exact ⟨htold, fun htitle => htold.trans (normalize_sent htitle)⟩

/-- The sample articles, and no sessions. -/
def shelf : World Records (Dict Session) :=
  ⟨Records.empty.withEntity "KnowledgeArticleVersion" Demo.articles, .empty⟩

/-- Of two articles on security the second is sent, and there is no third. -/
theorem second_article_is_sent :
    let turn := desk.handleUtterance .epoch "s"
      ("I am looking for information on " ++ "security") shelf
    ∃ outcome s', turn.1.outcome = .ok outcome ∧ turn.2.Holds Dict.find? "s" s' ∧
      s'.goals.ids = ["interactionWithKnowledgeResults"] ∧
      (∃ outcome', (desk.handleUtterance .epoch "s" ("send me article " ++ integerText 2)
        turn.2).1.outcome = .ok outcome' ∧
          outcome'.spoken = "Article Security health check has been sent") ∧
      ∃ outcome', (desk.handleUtterance .epoch "s" ("send me article " ++ integerText 3)
        turn.2).1.outcome = .ok outcome' ∧
          outcome'.spoken = "Sorry, I could not find article " ++ integerText 3 ++ "." := by
  dsimp only
  have hown : HeldByOwnId (Dict.find? (.empty : Dict Session)) := fun id s h => by cases h
  have hknows : shelf.source.entities.contains "KnowledgeArticleVersion" = true := by decide
  have htext : hasWord "security" = true := by decide
  have hlist : ((shelf.source.ofEntity "KnowledgeArticleVersion").filter
      (Records.mentions · (bareText "security"))).map
        (desk.projection.project "KnowledgeArticleVersion*") = Demo.articles.take 2 := by
    decide
  obtain ⟨hmemory, -, hdesk⟩ := articles_are_found_and_sent
  obtain ⟨outcome, s', houtcome, hholds, -, hfound⟩ :=
    hdesk .unlimited .default desk _ _ model_default rfl rfl hmemory rfl rfl rfl shelf "s" .epoch
      .epoch "security" hown hknows htext rfl
  rw [hlist] at hfound
  obtain ⟨hids, -, hsend⟩ := hfound (List.cons_ne_nil _ _)
  obtain ⟨second, _, hsecond, -, -, hsent, -⟩ := hsend 2 (by decide) (by decide)
  obtain ⟨third, _, hthird, -, -, -, hmissed⟩ := hsend 3 (by decide) (by decide)
  have htitle : (Demo.articles.take 2)[1].spokenField "Title" = "Security health check" := by
    decide
  have hsquare : '[' ∉ "Security health check".toList := by decide
  have hcurly : '{' ∉ "Security health check".toList := by decide
  obtain ⟨-, hspoken⟩ := hsent 1 (by decide) rfl
  rw [htitle] at hspoken
  refine ⟨outcome, s', houtcome, hholds, hids, ⟨second, hsecond, ?_⟩, third, hthird, ?_⟩
  · rw [(hspoken (fun h => hsquare (h.subset List.mem_cons_self))
      fun h => hcurly (h.subset List.mem_cons_self)).1]
    decide
  · exact (hmissed (.inr (by decide))).1

end Dialogue.Demo.KnowledgeBase
