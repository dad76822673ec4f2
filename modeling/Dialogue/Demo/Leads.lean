import Dialogue.Model
import Dialogue.Timestamp

/-! # Demo: leads, opportunities and the calendar

The user hears about new leads, about an opportunity and about the day's events, and creates leads.
A lead is created in two steps: a goal asks for the person's name, and then another for the company.

* `Leads.declare` — adds the conversation to a model's declarations.
* `Leads.interest` — the fields that it reads.
* `Leads.newLeadsFilter`, `Leads.todaysEventsFilter` — what it asks the record source for in the
  source's own language.
-/

namespace Dialogue.Demo.Leads

/-- The fields of leads, opportunities and events. -/
def interest : List (String × List String) := [
  ("Lead*", ["Name*", "Company*"]),
  ("Opportunity*", ["Name*", "StageName*", "Probability*", "Amount*"]),
  ("Event*", ["StartDateTime*", "Subject*", "Who*.Name*"])]

/-- The leads of the day. -/
def newLeadsFilter : String := "CreatedDate = TODAY"

/-- The events of the day in their order. -/
def todaysEventsFilter : String := "startdatetime = TODAY order by StartDateTime"

/-! ## Speech -/

/-- What the user can ask for. -/
def help : String :=
  "You can ask to check for any new leads, your calendar for today, "
    ++ "the status of a specific opportunity or, to create a new lead. "
    ++ "What can I help you with?"

/-- A noun in its number. -/
def counted (noun : String) (count : Nat) : String := if count == 1 then noun else noun ++ "s"

/-- Things in a sentence: `a, b and c`. -/
def enumerated : List String → String
  | [] => ""
  | [a] => a
  | parts => ", ".intercalate parts.dropLast ++ " and " ++ parts.getLast?.getD ""

/-- The first name, and the last name, which is all that follows the first space. -/
def splitName (name : String) : String × String :=
  let cs := name.toList
  (String.ofList (cs.takeWhile (· != ' ')), String.ofList ((cs.dropWhile (· != ' ')).drop 1))

/-- The time of day of a point in time, or the text itself if it is none. -/
def spokenTime (text : String) : String :=
  match readStrict? text with
  | some t => t.spoken
  | none => text

/-- A lead in a list. -/
def describeLead (number : Nat) (lead : Record) : String :=
  naturalText number ++ ", " ++ lead.spokenField "Name" ++ " from " ++ lead.spokenField "Company"

/-- The person an event is with, if one is named. -/
def withWhom? (event : Record) : Option String := do
  let who ← event.find? "Who"
  let name ← who.member? "Name"
  name.asText?

/-- An event of the day. -/
def describeEvent (event : Record) : String :=
  let company :=
    match withWhom? event with
    | some name => ", with " ++ name
    | none => ""
  " At " ++ spokenTime (event.spokenField "StartDateTime") ++ ", " ++ event.spokenField "Subject"
    ++ company ++ "."

/-! ## Handlers -/

/-- Keeps the person's name and asks for the company. -/
def nameLead : Act Unit := do
  Act.say "Got it. the name is, [[name]]."
  let name ← Act.requireText "name"
  Act.set "name" (.str name)
  Act.addGoal "createLeadCompany"

/-- Stores the lead. -/
def createLead : Act Unit := do
  let name ← Act.requireText "name"
  let company ← Act.requireText "company"
  let (first, last) := splitName name
  let _ ← Act.store "Lead*" (.ofList [
    ("FirstName*", .str first), ("LastName*", .str last), ("Company*", .str company)])
  Act.say
    "Bingo! I created a new lead for \x7b\x7bname\x7d\x7d with the company name [[company]]"

/-- Reads out the leads of the day. -/
def newLeads : Act Unit := do
  let leads ← Act.load "Lead*" none none (some newLeadsFilter)
  if leads.isEmpty then Act.say "Sorry, you do not have any new leads for today."
  else
    let listed := leads.zipIdx.map fun (lead, i) => describeLead (i + 1) lead
    Act.say ("You have " ++ naturalText leads.length ++ " new " ++ counted "lead" leads.length
      ++ ", " ++ enumerated listed ++ ". Go get them tiger!")

/-- Reads out how an opportunity stands. -/
def opportunityStatus : Act Unit := do
  let name ← Act.requireText "opportunityName"
  let found ← Act.load "Opportunity*" (some "Name*") (some name) none
  match found with
  | [] => Act.say "Sorry, I could not find an Opportunity named, [[opportunityName]]"
  | opportunity :: _ =>
    Act.say ("I found Opportunity [[opportunityName]] for $" ++ opportunity.spokenField "Amount"
      ++ ", the stage is " ++ opportunity.spokenField "StageName" ++ " and the probability is "
      ++ opportunity.spokenField "Probability" ++ " %")

/-- Reads out the events of the day. -/
def todaysCalendar : Act Unit := do
  let events ← Act.load "Event*" none none (some todaysEventsFilter)
  Act.say ("You have " ++ naturalText events.length ++ " " ++ counted "event" events.length
    ++ " for today." ++ String.join (events.map describeEvent))

/-! ## Declarations -/

/-- The input types of the conversation. -/
def types : List InputType := [
  .literal "name" ["Jeff Douglas", "Steve Jones", "Mike Smith", "Mary Stewart"],
  .literal "company" ["ACME Corp", "ABC Company", "Fresh Foods Packaging"],
  .literal "opportunityName" ["Jones", "Edge S L A", "United Oil Standby Generators"]]

/-- What is understood at any time. -/
def responders : List Responder := [
  ⟨["help \x7bme|\x7d",
      "what \x7bcommands|questions\x7d can I \x7bask|say\x7d",
      "what can I \x7bdo|ask you\x7d",
      "what \x7bdo|can\x7d I use you",
      "what \x7bdo|can\x7d you do",
      "get help",
      "what can I use this for",
      "what can you tell me"],
    .immediate (Act.say help)⟩,
  ⟨["\x7bto|\x7d create a \x7bnew|\x7d lead"],
    .immediate do
      Act.say "OK, let's create a new lead."
      Act.addGoal "createLeadName"⟩,
  ⟨["\x7bfor|\x7d \x7bany|my\x7d new leads"], .suspending newLeads⟩,
  ⟨["\x7bfor|about\x7d opportunity [[opportunityName]]"], .suspending opportunityStatus⟩,
  ⟨["\x7bfor|\x7d my calendar \x7bfor today|\x7d"], .suspending todaysCalendar⟩]

/-- The two steps of creating a lead. -/
def goals : List GoalDeclaration := [
  ⟨"createLeadName", ["What is the person's first and last name?"],
    [⟨["[[name]]"], .immediate nameLead⟩]⟩,
  ⟨"createLeadCompany", ["What is the company name?"],
    [⟨["[[company]]"], .suspending createLead⟩]⟩]

/-- Adds the conversation. -/
def declare (d : Declarations) : Declarations :=
  { d with
    types := types.foldl InputTypes.add d.types
    responders := d.responders ++ responders
    goals := d.goals ++ goals }

end Dialogue.Demo.Leads
