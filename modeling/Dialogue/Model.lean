import Dialogue.Template.Matcher
import Dialogue.Handler

/-! # Conversation models

A model is everything that the author of a conversation declares: input types, the templates that
are understood at any time and those that are understood while a goal is active, each with its
handler, and the prompts of the goals.  Templates are compiled when the model is built, so
declarations may come in any order.

* `Declarations` — what the author declares; `Model` — the compiled form.
* `Declarations.build` — compiles, or says what is wrong first.
* `Goal.prompt` — prompts are given in rotation.
-/

namespace Dialogue

/-- A compiled template and what it triggers. -/
structure Binding where
  matcher : Matcher
  handler : Handler

/-- A goal: its prompts and the bindings that are understood while it is active. -/
structure Goal where
  id : String
  prompts : List String
  bindings : List Binding

/-- The prompt that is given after `issued` others; empty if the goal has none. -/
def Goal.prompt (g : Goal) (issued : Nat) : String :=
  (g.prompts[issued % g.prompts.length]?).getD ""

/-- A compiled model. -/
structure Model where
  types : InputTypes
  globals : List Binding
  goals : List Goal

namespace Model

/-- The goal with an id. -/
def goal? (m : Model) (id : String) : Option Goal := m.goals.find? (·.id == id)

/-- Whether there is a goal with an id. -/
def hasGoal (m : Model) (id : String) : Bool := m.goals.any (·.id == id)

/-- The ids of the goals, in the order of their declaration. -/
def goalIds (m : Model) : List String := m.goals.map (·.id)

end Model

/-! ## Declarations -/

/-- Templates that all trigger the same handler. -/
structure Responder where
  templates : List String
  handler : Handler

/-- A goal before compilation. -/
structure GoalDeclaration where
  id : String
  prompts : List String
  responders : List Responder

/-- What the author of a conversation declares, and how it is compiled: how many phrasings a
template may have, and what their patterns are built with. -/
structure Declarations where
  types : InputTypes
  responders : List Responder
  goals : List GoalDeclaration
  maxExpansions : Nat
  patterns : PatternBuilder

/-- What is wrong with a declaration. -/
inductive ModelError where
  | template (error : TemplateError)
  | goal (error : GoalError)
deriving DecidableEq, Repr

/-- The wording of a model error. -/
def ModelError.message : ModelError → String
  | .template e => e.message
  | .goal e => e.message

namespace Declarations

/-- Nothing declared. -/
def empty (patterns : PatternBuilder) (maxExpansions : Nat) : Declarations :=
  ⟨.empty, [], [], maxExpansions, patterns⟩

/-- Declares an input type. -/
def addType (d : Declarations) (t : InputType) : Declarations := { d with types := d.types.add t }

/-- Declares templates that are understood at any time. -/
def respondTo (d : Declarations) (templates : List String) (handler : Handler) : Declarations :=
  { d with responders := d.responders ++ [⟨templates, handler⟩] }

/-- Declares a goal. -/
def defineGoal (d : Declarations) (g : GoalDeclaration) : Declarations :=
  { d with goals := d.goals ++ [g] }

/-- The bindings of one responder. -/
def compileResponder (d : Declarations) (r : Responder) : Except ModelError (List Binding) :=
  r.templates.mapM fun template =>
    match Matcher.compile d.patterns d.types d.maxExpansions template with
    | .ok matcher => .ok ⟨matcher, r.handler⟩
    | .error e => .error (.template e)

/-- The bindings of responders, in the order of the templates. -/
def compileResponders (d : Declarations) (rs : List Responder) : Except ModelError (List Binding) :=
  (rs.mapM d.compileResponder).map List.flatten

/-- Compiles goals after those that are compiled already.  A second goal with one id is an error. -/
def compileGoals (d : Declarations) (compiled : List Goal) :
    List GoalDeclaration → Except ModelError (List Goal)
  | [] => .ok compiled
  | g :: gs =>
    if compiled.any (·.id == g.id) then .error (.goal (.duplicate g.id))
    else do
      let bindings ← d.compileResponders g.responders
      d.compileGoals (compiled ++ [⟨g.id, g.prompts, bindings⟩]) gs

/-- The compiled model. -/
def build (d : Declarations) : Except ModelError Model := do
  let globals ← d.compileResponders d.responders
  let goals ← d.compileGoals [] d.goals
  return ⟨d.types, globals, goals⟩

end Declarations

end Dialogue
