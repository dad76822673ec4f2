import Dialogue.Proofs.Resolution.Precedence

/-!
# Understanding, binding by binding

The bindings of a model are known, and so is what each of them makes of an utterance.  Then the
utterance is understood by the first one that makes something of it.  This file says so for the two
places where that binding may stand: in the active goal, and outside of all goals.

* `Binding.values?` — what a binding makes of a text.
* `Binding.values?_of_first`, `Binding.values?_eq_none` — the same from its phrasings.
* **`resolve_of_goal`**, **`resolve_of_global`** — which binding understands an utterance.
-/

namespace Dialogue

/-! ## One binding -/

namespace Binding

/-- The values that a binding extracts from a normalized text, if it understands it. -/
def values? (m : Model) (normalized : String) (b : Binding) : Option (Dict Json) :=
  (b.matcher.candidates normalized).findSome? m.types.coerceAll?

variable {m : Model} {normalized : String} {b : Binding}

/-- What the binding extracts is what the first phrasing does that extracts anything. -/
lemma values?_eq : b.values? m normalized =
    b.matcher.phrasings.findSome? fun p => (p.captures? normalized).bind m.types.coerceAll? := by
  rw [values?, Matcher.candidates, ← List.head?_filterMap, List.filterMap_filterMap,
    List.head?_filterMap]

lemma values?_of_first {p : Phrasing} {ps : List Phrasing}
    (hphrasings : b.matcher.phrasings = p :: ps) {captured : Dict String} {values : Dict Json}
    (hcaptured : p.captures? normalized = some captured)
    (hvalues : m.types.coerceAll? captured = some values) :
    b.values? m normalized = some values := by
  rw [values?_eq, hphrasings, List.findSome?_cons, hcaptured, Option.bind_some, hvalues]

lemma values?_eq_none (h : ∀ p ∈ b.matcher.phrasings, p.captures? normalized = none) :
    b.values? m normalized = none := by
  rw [values?_eq]
  exact List.findSome?_eq_none_iff.mpr fun p hp => by rw [h p hp, Option.bind_none]

end Binding

/-! ## One scope -/

namespace Model

variable {m : Model} {normalized utterance : String} {before after : List Binding} {b : Binding}
variable {values : Dict Json}

/-- The first binding that understands a text. -/
lemma firstMatch?_append_cons {scope : Scope}
    (hbefore : ∀ b' ∈ before, b'.values? m normalized = none)
    (hb : b.values? m normalized = some values) :
    m.firstMatch? scope normalized (before ++ b :: after) = some ⟨b, scope, values⟩ := by
  have hnone : ∀ b' ∈ before, (b'.values? m normalized).map (Resolution.mk b' scope) = none :=
    fun b' hb' => by rw [hbefore b' hb', Option.map_none]
  show (before ++ b :: after).findSome?
    (fun b' => (b'.values? m normalized).map (Resolution.mk b' scope)) = _
  rw [List.findSome?_append, List.findSome?_eq_none_iff.mpr hnone, Option.none_or,
    List.findSome?_cons_of_isSome (by rw [hb]; rfl), hb]
  rfl

lemma firstMatch?_eq_none {scope : Scope} {bindings : List Binding}
    (h : ∀ b ∈ bindings, b.values? m normalized = none) :
    m.firstMatch? scope normalized bindings = none :=
  List.findSome?_eq_none_iff.mpr fun b hb => Option.map_eq_none_iff.mpr (h b hb)

/-! ## Both scopes -/

/-- **A binding of the active goal understands an utterance** if it is the first that does. -/
theorem resolve_of_goal {activeGoal : Option String} {g : Goal}
    (hgoal : activeGoal.bind m.goal? = some g) (hbindings : g.bindings = before ++ b :: after)
    (hword : Text.hasWord utterance = true)
    (hbefore : ∀ b' ∈ before, b'.values? m (Text.normalize utterance) = none)
    (hb : b.values? m (Text.normalize utterance) = some values) :
    m.resolve activeGoal utterance = .ok ⟨b, .goal g.id, values⟩ := by
  have hfirst : m.firstMatch? (.goal g.id) (Text.normalize utterance) g.bindings =
      some ⟨b, .goal g.id, values⟩ := hbindings ▸ firstMatch?_append_cons hbefore hb
  rw [resolve, Text.hasWord_normalize, if_pos hword, scopes, hgoal]
  dsimp only
  rw [List.singleton_append, List.findSome?_cons_of_isSome (by rw [hfirst]; rfl), hfirst]

/-- **A binding outside of goals understands an utterance** if it is the first that does and the
active goal has none. -/
theorem resolve_of_global {activeGoal : Option String}
    (hglobals : m.globals = before ++ b :: after) (hword : Text.hasWord utterance = true)
    (hgoal : ∀ g, activeGoal.bind m.goal? = some g →
      ∀ b' ∈ g.bindings, b'.values? m (Text.normalize utterance) = none)
    (hbefore : ∀ b' ∈ before, b'.values? m (Text.normalize utterance) = none)
    (hb : b.values? m (Text.normalize utterance) = some values) :
    m.resolve activeGoal utterance = .ok ⟨b, .global, values⟩ := by
  have hfirst : m.firstMatch? .global (Text.normalize utterance) m.globals =
      some ⟨b, .global, values⟩ := hglobals ▸ firstMatch?_append_cons hbefore hb
  rw [resolve, Text.hasWord_normalize, if_pos hword, scopes]
  cases hactive : activeGoal.bind m.goal? with
  | none =>
      dsimp only
      rw [List.nil_append, List.findSome?_cons_of_isSome (by rw [hfirst]; rfl), hfirst]
  | some g =>
      dsimp only
      rw [List.singleton_append, List.findSome?_cons, firstMatch?_eq_none (hgoal g hactive)]
      dsimp only
      rw [List.findSome?_cons_of_isSome (by rw [hfirst]; rfl), hfirst]

end Model

end Dialogue
