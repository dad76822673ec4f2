import Dialogue.Model

/-! # Understanding an utterance

An utterance is understood by the first binding that captures something acceptable from it: the
bindings of the active goal come first, then those that are understood at any time, each in the
order of declaration.  Goals that are suspended do not take part.  A capture whose values are not
accepted by the input types is passed over.

* `Scope` — whether a binding belongs to a goal.
* `Model.resolve` — the binding, its scope and the values, or `NoMatch`.
-/

namespace Dialogue

/-- Where a binding was declared. -/
inductive Scope where
  | global
  | goal (id : String)
deriving DecidableEq, Repr

/-- The goal of a scope. -/
def Scope.goal? : Scope → Option String
  | .global => none
  | .goal id => some id

/-- The text of a scope. -/
def Scope.text : Scope → String
  | .global => "global"
  | .goal id => "goal:" ++ id

/-- The binding that understood an utterance, and the values it extracted. -/
structure Resolution where
  binding : Binding
  scope : Scope
  values : Dict Json

/-- An utterance that no binding understood, and the goal that was active. -/
structure NoMatch where
  utterance : String
  activeGoal : Option String
deriving DecidableEq, Repr

/-- The wording for an utterance that was not understood. -/
def NoMatch.message (e : NoMatch) : String := s!"no binding matched `{e.utterance}`"

/-- The values of captured texts, if all are accepted. -/
def InputTypes.coerceAll? (types : InputTypes) (captured : Dict String) : Option (Dict Json) :=
  let value? (e : String × String) : Option (String × Json) :=
    match types.coerce e.1 e.2 with
    | .ok v => some (e.1, v)
    | .error _ => none
  (captured.entries.mapM value?).map .ofList

namespace Model

/-- The first binding of a scope that captures something acceptable from a normalized text. -/
def firstMatch? (m : Model) (scope : Scope) (normalized : String) (bindings : List Binding) :
    Option Resolution :=
  bindings.findSome? fun b =>
    ((b.matcher.candidates normalized).findSome? m.types.coerceAll?).map (⟨b, scope, ·⟩)

/-- The bindings that are tried while a goal is active, or none is, with their scopes. -/
def scopes (m : Model) (activeGoal : Option String) : List (Scope × List Binding) :=
  let ofGoal :=
    match activeGoal.bind m.goal? with
    | some g => [(Scope.goal g.id, g.bindings)]
    | none => []
  ofGoal ++ [(.global, m.globals)]

/-- Understands an utterance while a goal is active, or none is.  An utterance without words is
never understood. -/
def resolve (m : Model) (activeGoal : Option String) (utterance : String) :
    Except NoMatch Resolution :=
  let normalized := Text.normalize utterance
  let found :=
    if Text.hasWord normalized then
      (m.scopes activeGoal).findSome? fun (scope, bindings) =>
        m.firstMatch? scope normalized bindings
    else none
  match found with
  | some r => .ok r
  | none => .error ⟨utterance, activeGoal⟩

end Model

end Dialogue
