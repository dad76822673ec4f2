import Dialogue.Template.Parser
import Dialogue.Template.Pattern
import Dialogue.Text.Spacing
import Dialogue.InputType

/-! # Compiled templates

A template is compiled once, when a model is built: it is read and written out into its phrasings;
these are checked against the registered input types, and their patterns are built.  What is left
are the phrasings that say something, each once, in the order in which they are tried.

* `Matcher.fault?` — what is wrong with a phrasing.
* `Matcher.compile` — the compiled template or what is wrong with it.
* `Matcher.isMatch`, `Matcher.candidates`, `Matcher.extract?` — matching an utterance.
-/

namespace Dialogue

/-- A compiled template. -/
structure Matcher where
  template : String
  phrasings : List Phrasing
deriving Repr

namespace Matcher

/-- The limit on phrasings that holds if none is set. -/
def defaultLimit : Nat := 1024

/-- The first slot of a phrasing that has no input type. -/
def unregistered? (types : InputTypes) (p : Phrasing) : Option String :=
  p.slotNames.find? fun name => !types.contains name

/-- What is wrong with a phrasing, if something is: a slot has no input type, or else the pattern
cannot be built. -/
def fault? (patterns : PatternBuilder) (types : InputTypes) (p : Phrasing) : Option TemplateFault :=
  match unregistered? types p with
  | some slot => some (.unknownSlot slot)
  | none => (patterns.refusal? p).map .unbuildable

/-- Adds the phrasings to those that are kept already: empty ones and repetitions are passed over,
and the first of the others with which something is wrong is an error. -/
def keepDistinct (patterns : PatternBuilder) (types : InputTypes) (kept : List Phrasing) :
    List Phrasing → Except TemplateFault (List Phrasing)
  | [] => .ok kept
  | p :: ps =>
    if p.isEmpty || kept.contains p then keepDistinct patterns types kept ps
    else
      match fault? patterns types p with
      | some fault => .error fault
      | none => keepDistinct patterns types (kept ++ [p]) ps

/-- The phrasings of a template that are tried. -/
def phrasingsOf (patterns : PatternBuilder) (types : InputTypes) (limit : Nat) (template : String) :
    Except TemplateFault (List Phrasing) := do
  let nodes ← Template.parse template
  match Template.expand? limit nodes with
  | none => .error (.tooManyExpansions limit)
  | some all =>
    let kept ← keepDistinct patterns types [] all
    if kept.isEmpty then .error .empty else .ok kept

/-- Compiles a template. -/
def compile (patterns : PatternBuilder) (types : InputTypes) (limit : Nat) (template : String) :
    Except TemplateError Matcher :=
  match phrasingsOf patterns types limit template with
  | .ok phrasings => .ok ⟨template, phrasings⟩
  | .error fault => .error ⟨template, fault⟩

/-- The names of the slots, in the order of their first use. -/
def slotNames (m : Matcher) : List String :=
  (m.phrasings.flatMap Phrasing.slotNames).foldl
    (fun names n => if names.contains n then names else names ++ [n]) []

/-- What the phrasings capture from a normalized text, for those that capture something, in
order. -/
def candidates (m : Matcher) (normalized : String) : List (Dict String) :=
  m.phrasings.filterMap (·.captures? normalized)

/-- Whether some phrasing matches an utterance. -/
def isMatch (m : Matcher) (utterance : String) : Bool :=
  m.phrasings.any (·.isMatch (Text.normalize utterance))

/-- What the first phrasing that captures something captures from an utterance. -/
def extract? (m : Matcher) (utterance : String) : Option (Dict String) :=
  (m.candidates (Text.normalize utterance)).head?

end Matcher

end Dialogue
