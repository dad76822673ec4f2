import Dialogue.Proofs.Handler.Announcements
import Dialogue.Proofs.Resolution.SingleSlots
import Dialogue.Proofs.Resolution.SpelledModels
import Dialogue.Service

/-!
# The demo model

The demo conversations are declared with seventeen templates.  This file has their elements, and so
the model that they are compiled to.  Settings that allow too few phrasings have no model; all
others have this one, if the patterns are built.

* `trees` — the elements of the templates; `compiled` — the model.
* `model_default` — the default settings have a model.
* **`eq_compiled`** — whatever the settings, the demo has no other.
* `lookingBinding`, `askingBindings`, `beginBinding` — the first bindings outside of goals.
-/

namespace Dialogue.Demo

/-! ## The elements of the templates -/

/-- Words that follow one another. -/
def literal (text : String) : List Node := (Text.fields text.toList).map .word

/-- A group of texts. -/
def oneOf (texts : List String) : Node := .choice (texts.map literal)

namespace KnowledgeBase

/-- Looking for information. -/
def looking : List Node :=
  literal "I am looking for" ++ [oneOf ["information on", ""], .slot "searchTerm"]

/-- Hearing more about an article. -/
def hearing : List Node :=
  oneOf ["hear", ""] :: literal "more about article" ++ [.slot "articleNo"]

/-- Having an article sent. -/
def sending : List Node := literal "send me article" ++ [.slot "articleNo"]

end KnowledgeBase

namespace Leads

/-- Asking for help. -/
def asking : List (List Node) := [
  literal "help" ++ [oneOf ["me", ""]],
  literal "what" ++ oneOf ["commands", "questions"] :: literal "can I" ++ [oneOf ["ask", "say"]],
  literal "what can I" ++ [oneOf ["do", "ask you"]],
  literal "what" ++ oneOf ["do", "can"] :: literal "I use you",
  literal "what" ++ oneOf ["do", "can"] :: literal "you do",
  literal "get help",
  literal "what can I use this for",
  literal "what can you tell me"]

/-- Creating a lead. -/
def creating : List Node :=
  oneOf ["to", ""] :: literal "create a" ++ oneOf ["new", ""] :: literal "lead"

/-- Hearing the leads of the day. -/
def listing : List Node := oneOf ["for", ""] :: oneOf ["any", "my"] :: literal "new leads"

/-- Asking how an opportunity stands. -/
def inquiring : List Node :=
  oneOf ["for", "about"] :: literal "opportunity" ++ [.slot "opportunityName"]

/-- Hearing the events of the day. -/
def planning : List Node := oneOf ["for", ""] :: literal "my calendar" ++ [oneOf ["for today", ""]]

end Leads

open KnowledgeBase Leads

/-- The elements of the templates, in the order of their declaration. -/
def trees : Declarations.Trees where
  responders := [[looking], asking, [creating], [listing], [inquiring], [planning]]
  goals := [[[hearing], [sending]], [[[.slot "name"]]], [[[.slot "company"]]]]

/-! ## The model -/

/-- The declarations with the limit on phrasings that holds if none is set, when every pattern is
built. -/
abbrev declared : Declarations := declarations .unlimited Matcher.defaultLimit

/-- The model that they are compiled to. -/
def compiled : Model := declared.spelled trees

lemma spelledBy_trees : declared.SpelledBy trees := by decide +kernel

/-- **The default settings have a model.** -/
theorem model_default : model .unlimited .default = .ok compiled :=
  Declarations.build_of_spelledBy spelledBy_trees

/-- **The demo has one model**: a limit on phrasings and a builder of patterns that let all
templates pass do not show. -/
theorem eq_compiled {patterns : PatternBuilder} {s : EngineSettings} {m : Model}
    (h : model patterns s = .ok m) : m = compiled := by
  have htypes : (declarations patterns s.maxExpansions).types = declared.types := rfl
  exact Declarations.build_unique htypes rfl rfl h model_default

/-! ## Its bindings -/

/-- The binding that looks for information. -/
def lookingBinding : Binding := ⟨Matcher.spelled looking, .suspending lookFor⟩

/-- The bindings that help. -/
def askingBindings : List Binding :=
  asking.map fun nodes => ⟨Matcher.spelled nodes, .immediate (Act.say help)⟩

/-- Begins to create a lead. -/
def beginLead : Act Unit := do
  Act.say "OK, let's create a new lead."
  Act.addGoal "createLeadName"

/-- The binding that begins to create a lead. -/
def beginBinding : Binding := ⟨Matcher.spelled creating, .immediate beginLead⟩

lemma exists_globals :
    ∃ later, compiled.globals = lookingBinding :: askingBindings ++ beginBinding :: later :=
  ⟨_, rfl⟩

/-! ## Understood and spoken -/

/-- What is understood of an utterance is heard as it is when it is spoken. -/
lemma isHeard_bareText {text : String} (h : Text.hasWord text = true) : IsHeard (bareText text) :=
  isHeard_iff.mpr ⟨(capturedText_bareText h).normal, (capturedText_bareText h).nonempty⟩

/-! ## Engines -/

/-- The goals that exist for handlers are those of the model. -/
lemma knows_of_hasGoal {σ τ : Type} {e : Engine σ τ} (hmodel : e.model = compiled) {goal : String}
    (h : compiled.hasGoal goal = true) : e.setting.knows goal = true := by
  rw [← hmodel] at h
  exact h

/-- The demo over records and sessions in memory, with the settings of an installation that decides
nothing. -/
def desk : Engine Records (Dict Session) :=
  .ofSettings compiled (Records.source ⟨0, none, naturalText⟩) .inMemory .default .default

end Dialogue.Demo
