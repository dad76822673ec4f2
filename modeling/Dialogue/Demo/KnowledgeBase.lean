import Dialogue.Model
import Dialogue.ResultsList

/-! # Demo: the knowledge base

The user looks for information on a subject and hears a numbered list of articles.  While the list
is current, an article can be heard in more detail or sent.

* `KnowledgeBase.declare` — adds the conversation to a model's declarations.
* `KnowledgeBase.interest` — the fields that it reads.
-/

namespace Dialogue.Demo.KnowledgeBase

/-- The articles that were found. -/
def articles : ResultsList := ⟨"KnowledgeResults", "article", "articles", "Title"⟩

/-- The fields of an article. -/
def interest : List (String × List String) :=
  [("KnowledgeArticleVersion*", ["Id*", "Title*", "Summary*", "UrlName*", "LastPublishedDate*"])]

/-! ## Handlers -/

/-- The article whose number was said. -/
def chosenArticle : Act Record := Act.listed fun t => articles.itemAtSlot t "articleNo"

/-- Reads out the summary of an article. -/
def hear : Act Unit := do
  let article ← chosenArticle
  Act.say ("Article " ++ article.spokenField "Title" ++ " has summary "
    ++ article.spokenField "Summary")

/-- Sends an article. -/
def send : Act Unit := do
  let article ← chosenArticle
  Act.say ("Article " ++ article.spokenField "Title" ++ " has been sent")

/-- Looks for articles on a subject. -/
def lookFor : Act Unit := do
  let term ← Act.requireText "searchTerm"
  let found ← Act.search "KnowledgeArticleVersion*" term
  if found.isEmpty then Act.say "Sorry. I did not find any information on [[searchTerm]]."
  else articles.respondWithItems found

/-! ## Declarations -/

/-- The goal that is active while the list is current. -/
def listGoal : GoalDeclaration where
  id := articles.interactionGoal
  prompts := ["Would you like to hear more from an article or have an article sent to you."]
  responders := [
    ⟨["\x7bhear|\x7d more about article [[articleNo]]"], .immediate hear⟩,
    ⟨["send me article [[articleNo]]"], .immediate send⟩]

/-- Adds the conversation. -/
def declare (d : Declarations) : Declarations :=
  let d := (d.addType (.number "articleNo")).addType (.literal "searchTerm" ["security", "data"])
  (d.defineGoal listGoal).respondTo
    ["I am looking for \x7binformation on|\x7d [[searchTerm]]"] (.suspending lookFor)

end Dialogue.Demo.KnowledgeBase
