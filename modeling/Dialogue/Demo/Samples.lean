import Dialogue.Demo.KnowledgeBase
import Dialogue.Demo.Leads
import Dialogue.Settings.Basic

/-! # Demo: the model and its sample records

Both demo conversations in one model, and records for trying them out without a system for customer
records.  The sample events take place on the day on which the samples are made.

* `Demo.model` — the model, the knowledge base first.
* `Demo.interest` — the fields that the conversations read.
* `Demo.samples` — the records.
-/

namespace Dialogue.Demo

/-- What both conversations declare. -/
def declarations (patterns : PatternBuilder) (maxExpansions : Nat) : Declarations :=
  Leads.declare (KnowledgeBase.declare (.empty patterns maxExpansions))

/-- The model of both conversations.  It fails to compile if the settings do not allow its templates
enough phrasings, or if a pattern cannot be built. -/
def model (patterns : PatternBuilder) (s : EngineSettings) : Except ModelError Model :=
  (declarations patterns s.maxExpansions).build

/-- The fields that the conversations read, by entity. -/
def interest : Dict (List String) := .ofList (KnowledgeBase.interest ++ Leads.interest)

/-! ## Sample records -/

/-- A record whose fields are texts. -/
def textRecord (fields : List (String × String)) : Record := (Dict.ofList fields).map .str

/-- An article. -/
def article (id title summary url : String) : Record :=
  textRecord [("Id", id), ("Title", title), ("Summary", summary), ("UrlName", url)]

/-- An opportunity. -/
def opportunity (id name stage : String) (probability amount : Nat) : Record :=
  .ofList [("Id", .str id), ("Name", .str name), ("StageName", .str stage),
    ("Probability", .int probability), ("Amount", .int amount)]

/-- The text of a full hour of a day. -/
def hourText (day : Timestamp) (hour : Nat) : String :=
  let date := (day.text.toList.takeWhile (· != 'T'))
  String.ofList (date ++ 'T' :: Timestamp.padded 2 hour) ++ ":00:00+00:00"

/-- Articles on two subjects. -/
def articles : List Record := [
  article "ka01" "Security basics for your org"
    "Turn on two-factor login and review sharing rules." "securing-your-org",
  article "ka02" "Security health check"
    "Compare your settings with the recommended baseline." "security-health-check",
  article "ka03" "Exporting data"
    "Schedule a weekly export from the setup menu." "exporting-data"]

/-- Opportunities at several stages. -/
def opportunities : List Record := [
  opportunity "op01" "Jones" "Prospecting" 10 5000,
  opportunity "op02" "Edge S L A" "Closed Won" 100 60000,
  opportunity "op03" "United Oil Standby Generators" "Negotiation" 90 120000]

/-- The leads of the day. -/
def leadsOfTheDay : List Record := [
  textRecord [("Id", "ld01"), ("Name", "Mike Smith"), ("Company", "Fresh Foods Packaging")],
  textRecord [("Id", "ld02"), ("Name", "Mary Stewart"), ("Company", "ABC Company")]]

/-- The events of the day. -/
def eventsOfTheDay (day : Timestamp) : List Record := [
  textRecord [("Id", "ev01"), ("StartDateTime", hourText day 9), ("Subject", "Pipeline review")],
  (textRecord [("Id", "ev02"), ("StartDateTime", hourText day 14), ("Subject", "Demo")]).insert
    "Who" (.ofDict (textRecord [("Name", "Steve Jones")]))]

/-- The sample records of a day. -/
def samples (day : Timestamp) : Records :=
  let entities := Records.empty.withEntity "KnowledgeArticleVersion" articles
    |>.withEntity "Lead" []
    |>.withEntity "Opportunity" opportunities
  entities.withView "Lead" Leads.newLeadsFilter leadsOfTheDay
    |>.withView "Event" Leads.todaysEventsFilter (eventsOfTheDay day)

end Dialogue.Demo
