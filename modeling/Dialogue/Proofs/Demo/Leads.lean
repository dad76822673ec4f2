import Dialogue.Proofs.Demo.Model
import Dialogue.Proofs.Engine.ReliableStores
import Dialogue.Proofs.Engine.Sources
import Dialogue.Proofs.Handler.Announcements
import Dialogue.Proofs.Handler.Running
import Dialogue.Proofs.Handler.Slots
import Dialogue.Proofs.Projection
import Dialogue.Proofs.Resolution.FinalSlots

/-!
# Creating a lead, from the first utterance to the record

A lead is created in three turns.  The first puts the goal on the stack that asks for a name; the
second keeps the name and asks for the company; the third stores the lead.  Between the turns there
may be pauses, utterances without a word.  Name and company may be any texts that hold a word: their
goals understand everything, and what was understood is spoken and stored as it is, without the
sentence punctuation around it.

* `resolve_begin`, `resolve_name`, `resolve_company` — how the three utterances are understood.
* `run_nameLead`, `run_createLead` — what the handlers do.
* **`lead_is_created`** — the three turns together.
-/

namespace Dialogue.Demo.Leads

open Text

/-! ## How the utterances are understood -/

/-- The binding that understands a name. -/
def nameBinding : Binding := ⟨Matcher.spelled [.slot "name"], .immediate nameLead⟩

/-- The binding that understands a company. -/
def companyBinding : Binding :=
  ⟨Matcher.spelled [.slot "company"], .suspending createLead⟩

/-- How “create a lead” is understood. -/
def beginResolution : Resolution := ⟨beginBinding, .global, .empty⟩

/-- How a name is understood. -/
def nameResolution (n : String) : Resolution :=
  ⟨nameBinding, .goal "createLeadName", .ofList [("name", .str (bareText n))]⟩

/-- How a company is understood. -/
def companyResolution (c : String) : Resolution :=
  ⟨companyBinding, .goal "createLeadCompany", .ofList [("company", .str (bareText c))]⟩

/-- The goals that ask for the parts of a lead. -/
def askingGoals : List String := ["createLeadName", "createLeadCompany"]

lemma values?_of_other : ∀ g ∈ compiled.goals, g.id ∉ askingGoals →
    ∀ b ∈ g.bindings, b.values? compiled (Text.normalize "create a lead") = none := by
  decide +kernel

lemma values?_earlier : ∀ b ∈ lookingBinding :: askingBindings,
    b.values? compiled (Text.normalize "create a lead") = none := by
  decide +kernel

lemma values?_begin :
    beginBinding.values? compiled (Text.normalize "create a lead") = some .empty := by
  decide +kernel

/-- The first utterance is understood if no part of a lead is being asked for. -/
lemma resolve_begin {activeGoal : Option String} (h : ∀ g ∈ askingGoals, activeGoal ≠ some g) :
    compiled.resolve activeGoal "create a lead" = .ok beginResolution := by
  obtain ⟨later, hglobals⟩ := exists_globals
  refine Model.resolve_of_global hglobals (by decide) (fun g hg => ?_) values?_earlier
    values?_begin
  obtain ⟨id, rfl, hgoal⟩ := Option.bind_eq_some_iff.mp hg
  have hid : g.id = id := by simpa using List.find?_some hgoal
  exact values?_of_other g (List.mem_of_find?_eq_some hgoal) fun hmem => h g.id hmem (by rw [hid])

/-- A goal that asks for a text understands every utterance that holds a word. -/
lemma resolve_slot {goal name : String} {prompts samples : List String} {handler : Handler}
    (hgoal : compiled.goal? goal =
      some ⟨goal, prompts, [⟨Matcher.spelled [.slot name], handler⟩]⟩)
    (htype : compiled.types.find? name = some (.literal name samples)) {text : String}
    (htext : hasWord text = true) :
    compiled.resolve (some goal) text =
      .ok ⟨⟨Matcher.spelled [.slot name], handler⟩, .goal goal,
        .ofList [(name, .str (bareText text))]⟩ := by
  refine Model.resolve_of_goal ((Option.bind_some _ _).trans hgoal) (List.nil_append _).symm htext
    (List.forall_mem_nil _) ?_
  exact Binding.values?_of_request rfl (List.forall_mem_nil _) (List.nil_append _).symm .nil htext
    (InputTypes.coerce_bareText htype htext)

lemma resolve_name {n : String} (hn : hasWord n = true) :
    compiled.resolve (some "createLeadName") n = .ok (nameResolution n) := by
  have htype : compiled.types.find? "name" =
      some (.literal "name" ["Jeff Douglas", "Steve Jones", "Mike Smith", "Mary Stewart"]) := by
    decide
  exact resolve_slot rfl htype hn

lemma resolve_company {c : String} (hc : hasWord c = true) :
    compiled.resolve (some "createLeadCompany") c = .ok (companyResolution c) := by
  have htype : compiled.types.find? "company" =
      some (.literal "company" ["ACME Corp", "ABC Company", "Fresh Foods Packaging"]) := by
    decide
  exact resolve_slot rfl htype hc

/-! ## What the handlers do -/

section Handlers

variable {σ : Type} (setting : Setting σ) (t : Turn) (s : σ)

lemma run_beginLead (hknows : setting.knows "createLeadName" = true) :
    Script.run setting beginLead.run t s =
      (.ok (), (t.say "OK, let's create a new lead.").pushed "createLeadName", s) := by
  rw [beginLead, run_say_bind, run_addGoal_of_knows _ _ _ hknows]

lemma run_nameLead (hknows : setting.knows "createLeadCompany" = true) {name : String}
    (hname : t.get? "name" = some (.str name)) :
    Script.run setting nameLead.run t s =
      (.ok (), ((t.say "Got it. the name is, [[name]].").set "name" (.str name)).pushed
        "createLeadCompany", s) := by
  have hread := requireText_of_get?
    ((get?_say t "Got it. the name is, [[name]]." "name").trans hname)
  rw [nameLead, run_say_bind, run_requireText_bind _ _ _ hread, run_set_bind,
    run_addGoal_of_knows _ _ _ hknows]

/-- The record of a lead, as it reaches the record source. -/
def leadRecord (name company : String) : Record :=
  .ofList [("FirstName", .str (splitName name).1), ("LastName", .str (splitName name).2),
    ("Company", .str company)]

/-- What the user hears of a lead that was created. -/
def announcement : String :=
  "Bingo! I created a new lead for \x7b\x7bname\x7d\x7d with the company name [[company]]"

/-- The record of a lead without its markers. -/
lemma stripFields_lead {p : Projection} (hmarker : p.marker = Projection.defaultMarker)
    (name company : String) :
    p.stripFields (.ofList [("FirstName*", .str (splitName name).1),
      ("LastName*", .str (splitName name).2), ("Company*", .str company)]) =
        leadRecord name company := by
  have hnames : ["FirstName*", "LastName*", "Company*"].map p.strip =
      ["FirstName", "LastName", "Company"] := by
    rw [Projection.strip_eq hmarker]
    decide
  obtain ⟨hfirst, hlast, hcompany⟩ : p.strip "FirstName*" = "FirstName" ∧
      p.strip "LastName*" = "LastName" ∧ p.strip "Company*" = "Company" := by
    simpa using hnames
  rw [Projection.stripFields_ofList]
  · simp only [List.map_cons, List.map_nil, hfirst, hlast, hcompany, leadRecord]
  · simp only [List.map_cons, List.map_nil, hfirst, hlast, hcompany]
    decide

lemma strip_lead {p : Projection} (hmarker : p.marker = Projection.defaultMarker) :
    p.strip "Lead*" = "Lead" := by
  rw [Projection.strip_eq hmarker]
  decide

/-- **The third handler** stores the lead, and announces it if that succeeds. -/
lemma run_createLead (hmarker : setting.projection.marker = Projection.defaultMarker)
    {name company : String} (hname : t.get? "name" = some (.str name))
    (hcompany : t.get? "company" = some (.str company)) {reply : Reply Record} {s' : σ}
    (hstore : setting.source.store "Lead" (leadRecord name company) setting.patience s =
      (reply, s')) :
    let t' := t.wait reply.waited
    Script.run setting createLead.run t s =
      match reply.result with
      | .ok _ => (.ok (), t'.say announcement, s')
      | .error error => (.error (.source .store "Lead" error), t', s') := by
  intro t'
  rw [createLead, run_requireText_bind _ _ _ (requireText_of_get? hname),
    run_requireText_bind _ _ _ (requireText_of_get? hcompany)]
  dsimp only
  have hcalled : setting.source.store (setting.projection.strip "Lead*")
      (setting.projection.stripFields (.ofList [("FirstName*", .str (splitName name).1),
        ("LastName*", .str (splitName name).2), ("Company*", .str company)]))
      setting.patience s = (reply, s') := by
    rw [strip_lead hmarker, stripFields_lead hmarker, hstore]
  rw [run_act_bind, run_store _ _ _ hcalled, strip_lead hmarker]
  obtain ⟨waited, result⟩ := reply
  cases result with
  | ok stored => rfl
  | error error => rfl

end Handlers

/-! ## What the user hears -/

section Speech

variable {t : Turn}

/-- The announcement of a lead with its name and its company. -/
def announced (name company : String) : String :=
  "Bingo! I created a new lead for " ++ name ++ " with the company name " ++ company

lemma filled_announcement {name company : String}
    (hname : t.values.find? "name" = some (.str name))
    (hcompany : t.extracted.find? "company" = some (.str company)) :
    t.filled announcement = announced name company := by
  have htext : announcement =
      "Bingo! I created a new lead for " ++ Placeholder.text ⟨true, "name"⟩ ++
        (" with the company name " ++ Placeholder.text ⟨false, "company"⟩) := by
    decide
  have hnamed : t.preferred? ⟨true, "name"⟩ = some (.str name) := by
    rw [Turn.preferred?, if_pos rfl, hname]
    rfl
  have hplaced : t.preferred? ⟨false, "company"⟩ = some (.str company) := by
    rw [Turn.preferred?, if_neg Bool.false_ne_true, hcompany]
    rfl
  have hbegin : t.filled "Bingo! I created a new lead for " = "Bingo! I created a new lead for " :=
    t.filled_plain (by decide)
  have hmiddle : t.filled " with the company name " = " with the company name " :=
    t.filled_plain (by decide)
  have hfilled := t.filled_around_value (by decide) (List.all_eq_true.mp (by decide)) hnamed
    "Bingo! I created a new lead for "
    (" with the company name " ++ Placeholder.text ⟨false, "company"⟩)
  rw [hbegin, t.filled_append_value (by decide) (List.all_eq_true.mp (by decide)) hplaced, hmiddle,
    ← htext] at hfilled
  exact hfilled.trans String.append_assoc.symm

/-- The pieces of an announcement are put together with spaces. -/
lemma append_spaced {a a' b b' : String} (ha : a = a' ++ " ") (hb : b = " " ++ (b' ++ " "))
    (name company : String) :
    a ++ name ++ b ++ company = a' ++ " " ++ name ++ " " ++ (b' ++ " " ++ company) := by
  rw [ha, hb]
  simp only [String.append_assoc]

/-- **Name and company are announced verbatim.** -/
lemma speech_announcement {n c : String} (hn : hasWord n = true) (hc : hasWord c = true)
    (hspeech : t.speech = []) (hname : t.values.find? "name" = some (.str (bareText n)))
    (hcompany : t.extracted.find? "company" = some (.str (bareText c))) :
    (t.say announcement).speech = [announced (bareText n) (bareText c)] := by
  have hbegin : IsHeard "Bingo! I created a new lead for" := by decide
  have hmiddle : IsHeard "with the company name" := by decide
  have hwords : announced (bareText n) (bareText c) =
      "Bingo! I created a new lead for" ++ " " ++ bareText n ++ " " ++
        ("with the company name" ++ " " ++ bareText c) :=
    append_spaced (by decide) (by decide) _ _
  have hheard : IsHeard (announced (bareText n) (bareText c)) := by
    rw [hwords]
    exact (hbegin.append_space (isHeard_bareText hn)).append_space
      (hmiddle.append_space (isHeard_bareText hc))
  rw [t.speech_say_eq_heard, hspeech, filled_announcement hname hcompany, hheard, List.nil_append]

end Speech

/-! ## The three turns -/

section Turns

variable {σ τ : Type} {e : Engine σ τ} {held : τ → String → Option Session} {w : World σ τ}
variable {now : Timestamp} {id : String} {s : Session} {below : List String}
variable (hmodel : e.model = compiled) (hstore : e.store.Reliable held)

include hmodel hstore

/-- **The first turn** asks for the name. -/
lemma turn_begin (hown : HeldByOwnId (held w.sessions))
    (hmet : Engine.metBy id now (held w.sessions id) = s)
    (hactive : ∀ g ∈ askingGoals, s.activeGoal? ≠ some g) :
    let turn := e.handleUtterance now id "create a lead" w
    turn.2.source = w.source ∧ ∃ s', turn.2.Holds held id s' ∧ s'.slots = s.slots ∧
      s'.goals.ids = s.goals.ids ++ ["createLeadName"] := by
  have hresolve := resolve_begin hactive
  rw [← hmodel] at hresolve
  have hknows : e.setting.knows "createLeadName" = true :=
    knows_of_hasGoal hmodel (by rfl)
  have hrun := run_beginLead e.setting (Engine.startTurn s beginResolution) w.source hknows
  obtain ⟨-, hsource, s', hholds, hslots, hids⟩ :=
    Engine.turn_of_success hstore hown hmet hresolve hrun
  refine ⟨hsource, s', hholds, hslots.trans (slots_say _ _).1, hids.trans ?_⟩
  rw [Turn.ids_pushed, goals_say]
  rfl

/-- **The second turn** keeps the name and asks for the company. -/
lemma turn_name (hholds : w.Holds held id s) (hids : s.goals.ids = below ++ ["createLeadName"])
    (now : Timestamp) {n : String} (hn : hasWord n = true) :
    let turn := e.handleUtterance now id n w
    turn.2.source = w.source ∧ ∃ s', turn.2.Holds held id s' ∧
      s'.slots = s.slots.insert "name" (.str (bareText n)) ∧
      s'.goals.ids = below ++ ["createLeadCompany"] := by
  have hresolve := resolve_name hn
  rw [← hmodel, ← Engine.activeGoal?_of_ids hids] at hresolve
  have hbelow := Engine.ids_startTurn (nameResolution n) rfl hids
  obtain ⟨hvalues, hextracted⟩ := values_startTurn s (nameResolution n)
  have hname : (Engine.startTurn s (nameResolution n)).get? "name" = some (.str (bareText n)) := by
    rw [Turn.get?, hextracted]
    rfl
  have hknows : e.setting.knows "createLeadCompany" = true :=
    knows_of_hasGoal hmodel (by rfl)
  have hrun := run_nameLead e.setting _ w.source hknows hname
  obtain ⟨-, hsource, s', hholds', hslots, hids'⟩ :=
    Engine.turn_of_success hstore hholds.own (Engine.metBy_of_holds hholds now) hresolve hrun
  refine ⟨hsource, s', hholds', hslots.trans ?_, hids'.trans ?_⟩
  · rw [← hvalues, ← (slots_say (Engine.startTurn s (nameResolution n)) _).1]
    rfl
  · rw [Turn.ids_pushed, Turn.set, goals_say, hbelow]

/-- **The third turn** stores the lead, and the conversation goes on where it was before, unless
storing fails. -/
lemma turn_company (hmarker : e.projection.marker = Projection.defaultMarker)
    (hholds : w.Holds held id s) (hids : s.goals.ids = below ++ ["createLeadCompany"])
    {n : String} (hn : hasWord n = true) (hname : s.slots.find? "name" = some (.str (bareText n)))
    (now : Timestamp) {c : String} (hc : hasWord c = true) {reply : Reply Record} {source' : σ}
    (hreply : e.source.store "Lead" (leadRecord (bareText n) (bareText c)) e.patience w.source =
      (reply, source')) :
    let turn := e.handleUtterance now id c w
    turn.2.source = source' ∧ ∃ outcome s', turn.1.outcome = .ok outcome ∧
      turn.2.Holds held id s' ∧ s'.slots = s.slots ∧
      match reply.result with
      | .ok _ => s'.goals.ids = below ∧
          ∃ rest, outcome.spoken = announced (bareText n) (bareText c) ++ rest
      | .error _ => s'.goals.ids = s.goals.ids := by
  intro turn
  have hresolve := resolve_company hc
  rw [← hmodel, ← Engine.activeGoal?_of_ids hids] at hresolve
  have hbelow := Engine.ids_startTurn (companyResolution c) rfl hids
  obtain ⟨hvalues, hextracted⟩ := values_startTurn s (companyResolution c)
  have hplaced : (Engine.startTurn s (companyResolution c)).extracted.find? "company" =
      some (.str (bareText c)) := by
    rw [hextracted]
    rfl
  have hcompany : (Engine.startTurn s (companyResolution c)).get? "company" =
      some (.str (bareText c)) := by
    rw [Turn.get?, hplaced]
    rfl
  have hread : (Engine.startTurn s (companyResolution c)).get? "name" =
      some (.str (bareText n)) := by
    rw [Turn.get?, hextracted, hvalues]
    exact hname
  have hrun := run_createLead e.setting _ w.source hmarker hread hcompany hreply
  cases hresult : reply.result with
  | ok stored =>
      rw [hresult] at hrun
      obtain ⟨houtcome, hsource, s', hholds', hslots, hids'⟩ :=
        Engine.turn_of_success hstore hholds.own (Engine.metBy_of_holds hholds now) hresolve hrun
      rw [(slots_say _ _).1] at hslots
      rw [goals_say] at hids'
      have hspeech : (((Engine.startTurn s (companyResolution c)).wait reply.waited).say
          announcement).speech = [announced (bareText n) (bareText c)] :=
        speech_announcement hn hc (speech_startTurn s _) (hvalues ▸ hname) hplaced
      exact ⟨hsource, _, s', houtcome, hholds', hslots.trans hvalues, hids'.trans hbelow, _,
        Engine.spoken_succeeded e s _ hspeech⟩
  | error error =>
      rw [hresult] at hrun
      obtain ⟨houtcome, hsource, s', hholds', hslots, hgoals'⟩ :=
        Engine.turn_of_failure hstore hholds.own (Engine.metBy_of_holds hholds now) hresolve hrun
      exact ⟨hsource, _, s', houtcome, hholds', hslots, by rw [hgoals']⟩

end Turns

/-! ## From the first utterance to the record -/

/-- A name is split at its first space: before it stands the first name, and behind it the last.
A name without a space is a first name. -/
def IsSplitName (name first last : String) : Prop :=
  ' ' ∉ first.toList ∧ (name = first ++ " " ++ last ∨ name = first ∧ last = "")

lemma isSplitName_splitName (name : String) :
    IsSplitName name (splitName name).1 (splitName name).2 := by
  have hsplit := List.takeWhile_append_dropWhile (p := (· != ' ')) (l := name.toList)
  have hfirst : (splitName name).1.toList = name.toList.takeWhile (· != ' ') :=
    String.toList_ofList
  refine ⟨fun hspace => ?_, ?_⟩
  · rw [hfirst] at hspace
    have hnot := List.mem_takeWhile_imp hspace
    simp at hnot
  · cases hrest : name.toList.dropWhile (· != ' ') with
    | nil =>
        right
        rw [hrest, List.append_nil] at hsplit
        refine ⟨String.toList_inj.mp (hsplit.symm.trans hfirst.symm), ?_⟩
        rw [splitName, hrest]
        rfl
    | cons c rest =>
        left
        have hspace : c = ' ' := by
          have hsome : name.toList.dropWhile (· != ' ') ≠ [] := by simp [hrest]
          simpa [hrest] using List.head_dropWhile_not (· != ' ') hsome
        have hlast : (splitName name).2.toList = rest := by
          rw [splitName, hrest]
          exact String.toList_ofList
        refine String.toList_inj.mp (hsplit.symm.trans ?_)
        rw [String.toList_append, String.toList_append, hfirst, hlast, hrest, hspace,
          List.append_assoc]
        rfl

/-- A stored lead has the fields of its record, and an id. -/
lemma eq_of_storedAs {name company : String} {stored : Record}
    (h : Record.StoredAs (leadRecord name company) stored) :
    ∃ recordId, stored = .ofList [("FirstName", .str (splitName name).1),
      ("LastName", .str (splitName name).2), ("Company", .str company), ("Id", .str recordId)] := by
  have hid : (leadRecord name company).find? "Id" = none := by
    rw [leadRecord, Dict.find?_ofList, Dict.lastValue?_eq_none_iff]
    simp
  exact h.eq_insert hid

/-- **A lead is created in three turns.**  Let an engine have the demo's model, a store of sessions
that does not fail, and a record source that appends what it stores; sessions and records in memory
are such, and the records store a lead if they know the entity, do not fail and are fast enough.
Let no part of a lead be asked for, and let two utterances hold a word each.  Then “create a lead”
and the two utterances, with any pauses between them, keep the first of the two as the name.  If the
source stores the lead, then the goals are those from before, the user hears of the lead with the
name and the company verbatim, and one record was added, to the leads: it has the first and the last
name, the company and an id.  If storing fails, no record was added, and the company is still asked
for.  In a pause, an utterance without a word, only prompts and turns are counted. -/
theorem lead_is_created {σ τ : Type} :
    SessionStore.inMemory.Reliable Dict.find? ∧
    (∀ b, (Records.source b).Appends Records.ofEntity) ∧
    (∀ b r patience lead, r.entities.contains "Lead" = true → b.failure = none →
      b.latency ≤ patience →
      ∃ stored, ((Records.source b).store "Lead" lead patience r).1.result = .ok stored) ∧
    ∀ (patterns : PatternBuilder) (e : Engine σ τ) (held : τ → String → Option Session)
      (records : σ → String → List Record), model patterns .default = .ok e.model →
      e.projection.marker = Projection.defaultMarker → e.store.Reliable held →
      e.source.Appends records →
      (∀ s o, hasWord o.utterance = false →
        e.next s o = { s with
          goals := ⟨s.goals.entries.modifyLast GoalInstance.prompted⟩
          turns := s.turns + 1
          updatedAt := o.now } ∧
        (e.answer s o.utterance o.source).2 = o.source) ∧
      ∀ (w : World σ τ) (id : String) (t₁ t₂ t₃ : Timestamp) (pauses₁ pauses₂ : List Contact)
        (n c : String), HeldByOwnId (held w.sessions) →
        (∀ x ∈ pauses₁ ++ pauses₂, Engine.IsPause id x) → hasWord n = true → hasWord c = true →
        let s := Engine.metBy id t₁ (held w.sessions id)
        s.activeGoal? ≠ some "createLeadName" → s.activeGoal? ≠ some "createLeadCompany" →
        let w₁ := e.after (e.handleUtterance t₁ id "create a lead" w).2 pauses₁
        let w₂ := e.after (e.handleUtterance t₂ id n w₁).2 pauses₂
        let turn := e.handleUtterance t₃ id c w₂
        let N := bareText n
        let C := bareText c
        let call := (e.source.store "Lead" (leadRecord N C) e.patience w.source).1
        ∃ outcome s', turn.1.outcome = .ok outcome ∧ turn.2.Holds held id s' ∧
          s'.slots = s.slots.insert "name" (.str N) ∧
          (∀ stored, call.result = .ok stored →
            s'.goals.ids = s.goals.ids ∧
            (∃ rest, outcome.spoken = "Bingo! I created a new lead for " ++ N ++
              " with the company name " ++ C ++ rest) ∧
            ∃ first last recordId, IsSplitName N first last ∧
              ∀ entity, records turn.2.source entity = records w.source entity ++
                if "Lead" = entity then
                  [.ofList [("FirstName", .str first), ("LastName", .str last),
                    ("Company", .str C), ("Id", .str recordId)]]
                else []) ∧
          (∀ error, call.result = .error error →
            s'.goals.ids = s.goals.ids ++ ["createLeadCompany"] ∧
            s'.activeGoal? = some "createLeadCompany" ∧
            ∀ entity, records turn.2.source entity = records w.source entity) := by
  refine ⟨SessionStore.reliable_inMemory, Records.appends_source,
    fun b r patience lead hknows hworks hfast => Records.exists_store hknows hworks hfast lead,
    fun _ e held records hmodel hmarker hstore hsource =>
      ⟨fun s o => Engine.next_of_wordless s, ?_⟩⟩
  intro w id t₁ t₂ t₃ pauses₁ pauses₂ n c hown hpauses hn hc s hname hcompany w₁ w₂ turn N C call
  obtain ⟨hpauses₁, hpauses₂⟩ := List.forall_mem_append.mp hpauses
  have hcompiled : e.model = compiled := eq_compiled hmodel
  have hactive : ∀ g ∈ askingGoals, s.activeGoal? ≠ some g := by
    simpa [askingGoals] using ⟨hname, hcompany⟩
  -- the first turn and the pauses after it
  obtain ⟨hsource₁, s₁, hholds₁, hslots₁, hids₁⟩ :=
    turn_begin hcompiled hstore hown (rfl : Engine.metBy id t₁ (held w.sessions id) = s) hactive
  obtain ⟨s₁', hholds₁', hslots₁', hids₁', hsource₁'⟩ :=
    Engine.holds_after_pauses hstore hpauses₁ hholds₁
  -- the second turn and the pauses after it
  obtain ⟨hsource₂, s₂, hholds₂, hslots₂, hids₂⟩ :=
    turn_name hcompiled hstore hholds₁' (hids₁'.trans hids₁) t₂ hn
  obtain ⟨s₂', hholds₂', hslots₂', hids₂', hsource₂'⟩ :=
    Engine.holds_after_pauses hstore hpauses₂ hholds₂
  have hunasked : w₂.source = w.source :=
    hsource₂'.trans (hsource₂.trans (hsource₁'.trans hsource₁))
  have hslots : s₂'.slots = s.slots.insert "name" (.str N) := by
    rw [hslots₂', hslots₂, hslots₁', hslots₁]
  have hkept : s₂'.slots.find? "name" = some (.str N) := by
    rw [hslots, Dict.find?_insert_self]
  -- the third turn
  have hreply : e.source.store "Lead" (leadRecord N C) e.patience w₂.source =
      (call, (e.source.store "Lead" (leadRecord N C) e.patience w.source).2) := by
    rw [hunasked]
  obtain ⟨hsource₃, outcome, s₃, houtcome, hholds₃, hslots₃, hend⟩ :=
    turn_company hcompiled hstore hmarker hholds₂' (hids₂'.trans hids₂) hn hkept t₃ hc hreply
  refine ⟨outcome, s₃, houtcome, hholds₃, hslots₃.trans hslots, fun stored hresult => ?_,
    fun error hresult => ?_⟩
  · rw [hresult] at hend
    obtain ⟨hstored, hrecords⟩ := hsource.of_ok hresult
    obtain ⟨recordId, rfl⟩ := eq_of_storedAs hstored
    refine ⟨hend.1, hend.2, _, _, recordId, isSplitName_splitName N, fun entity => ?_⟩
    rw [hsource₃, hrecords]
  · rw [hresult] at hend
    have hids₃ := hend.trans (hids₂'.trans hids₂)
    refine ⟨hids₃, Engine.activeGoal?_of_ids hids₃, fun entity => ?_⟩
    rw [hsource₃, hsource.of_error hresult]

/-- No sessions, and leads are known. -/
def leadWorld : World Records (Dict Session) := ⟨Records.empty.withEntity "Lead" [], .empty⟩

/-- Mary Ann Stewart of a company that is called like a placeholder. -/
theorem mary_ann_is_created :
    hasWord " Mary  Ann Stewart." = true ∧ hasWord "[[name]]" = true ∧
    let w₁ := desk.after (desk.handleUtterance .epoch "s" "create a lead" leadWorld).2
      [⟨.epoch, "s", .utterance "..."⟩]
    let w₂ := desk.after (desk.handleUtterance .epoch "s" " Mary  Ann Stewart." w₁).2 []
    let turn := desk.handleUtterance .epoch "s" "[[name]]" w₂
    ∃ outcome s' rest first last recordId, turn.1.outcome = .ok outcome ∧
      turn.2.Holds Dict.find? "s" s' ∧ s'.goals.ids = [] ∧
      s'.slots.find? "name" = some (.str "Mary Ann Stewart") ∧
      outcome.spoken = "Bingo! I created a new lead for " ++ "Mary Ann Stewart" ++
        " with the company name " ++ "[[name]]" ++ rest ∧
      IsSplitName "Mary Ann Stewart" first last ∧
      turn.2.source.ofEntity "Lead" = [.ofList [("FirstName", .str first), ("LastName", .str last),
        ("Company", .str "[[name]]"), ("Id", .str recordId)]] := by
  have hn : hasWord " Mary  Ann Stewart." = true := by decide
  have hc : hasWord "[[name]]" = true := by decide
  have hname : bareText " Mary  Ann Stewart." = "Mary Ann Stewart" := by decide
  have hcompany : bareText "[[name]]" = "[[name]]" := by decide
  refine ⟨hn, hc, ?_⟩
  dsimp only
  have hown : HeldByOwnId (Dict.find? (.empty : Dict Session)) := fun id s h => by cases h
  have hpauses : ∀ x ∈ [⟨.epoch, "s", .utterance "..."⟩] ++ [], Engine.IsPause "s" x :=
    List.forall_mem_singleton.mpr ⟨rfl, "...", rfl, by decide⟩
  have hknows : leadWorld.source.entities.contains "Lead" = true := by rfl
  have hnone : leadWorld.source.ofEntity "Lead" = [] := by rfl
  obtain ⟨hmemory, happends, hstores, hdesk⟩ := lead_is_created
  obtain ⟨-, hturns⟩ :=
    hdesk .unlimited desk Dict.find? Records.ofEntity model_default rfl hmemory (happends _)
  obtain ⟨outcome, s', houtcome, hholds, hslots, hstored, -⟩ :=
    hturns leadWorld "s" .epoch .epoch .epoch _ _ _ _ hown hpauses hn hc nofun nofun
  obtain ⟨stored, hresult⟩ := hstores ⟨0, none, naturalText⟩ leadWorld.source desk.patience
    (leadRecord (bareText " Mary  Ann Stewart.") (bareText "[[name]]")) hknows rfl (Nat.zero_le _)
  obtain ⟨hids, ⟨rest, hspoken⟩, first, last, recordId, hsplit, hrecords⟩ := hstored stored hresult
  rw [hcompany] at hspoken hrecords
  rw [hname] at hspoken hsplit hslots
  refine ⟨outcome, s', rest, first, last, recordId, houtcome, hholds, hids, ?_, hspoken, hsplit, ?_⟩
  · rw [hslots, Dict.find?_insert_self]
  · rw [hrecords, if_pos rfl, hnone, List.nil_append]

end Dialogue.Demo.Leads
