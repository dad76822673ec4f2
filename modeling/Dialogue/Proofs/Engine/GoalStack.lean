import Dialogue.Proofs.Engine.Turns
import Mathlib.Data.List.Induction

/-!
# Goals come and go as on a stack

A turn that commits takes the active goal off the stack if it was that goal's own binding that was
triggered, and puts on top what its handler added; no other turn changes which goals there are.  So
whatever happens above a goal, the goal and those beneath it stay where they are, until the goal is
on top and its own binding is triggered.

* `ids_next_of_commits`, `ids_next_of_not_commits` — the goals after one turn.
* `prefix_ids_next` — a goal leaves only by its own binding, and only from the top.
* `prefix_ids_nexts` — the same over any number of turns.
-/

namespace Dialogue.Engine

variable {σ τ : Type} {e : Engine σ τ} {s : Session} {o : Occasion σ} {r : Resolution}

/-! ## One turn -/

lemma ids_prompted (entries : List GoalInstance) :
    (entries.modifyLast GoalInstance.prompted).map (·.id) = entries.map (·.id) := by
  rcases List.eq_nil_or_concat entries with rfl | ⟨below, g, rfl⟩
  · rfl
  · rw [List.concat_eq_append, List.modifyLast_concat]
    simp [GoalInstance.prompted]

lemma length_prompted (entries : List GoalInstance) :
    (entries.modifyLast GoalInstance.prompted).length = entries.length := by
  simpa using congrArg List.length (ids_prompted entries)

lemma getElem?_prompted {entries : List GoalInstance} {i : ℕ} (h : i + 1 < entries.length) :
    (entries.modifyLast GoalInstance.prompted)[i]? = entries[i]? := by
  rcases List.eq_nil_or_concat entries with rfl | ⟨below, g, rfl⟩
  · simp at h
  · rw [List.concat_eq_append] at h ⊢
    have hi : i < below.length := by simpa using h
    rw [List.modifyLast_concat, List.getElem?_append_left hi, List.getElem?_append_left hi]

lemma ids_fresh (ids : List String) : (ids.map GoalInstance.fresh).map (·.id) = ids := by
  simp [Function.comp_def, GoalInstance.fresh]

lemma ids_next_of_commits (h : e.Commits s o r) :
    (e.next s o).goals.ids =
      (r.scope.remaining s.goals.entries).map (·.id) ++ addedGoals (e.trace s o r) := by
  rw [GoalStack.ids, h.answered.2.2, ids_prompted, List.map_append, ids_fresh]

/-- A turn that does not commit leaves the entries as they are, except that it may give a prompt. -/
lemma entries_next_of_not_commits (h : ∀ r, ¬ e.Commits s o r) :
    (e.next s o).goals.entries = s.goals.entries ∨
    (e.next s o).goals.entries = s.goals.entries.modifyLast GoalInstance.prompted := by
  rcases turn_cases e s o with ⟨error, herror⟩ | ⟨r, hcommits⟩ | ⟨r, error, hfails⟩
  · rw [next, answered_of_error herror, ← GoalStack.entries_issue]
    exact .inr rfl
  · exact absurd hcommits (h r)
  · rw [next, hfails.answered.1]
    exact .inl rfl

lemma ids_next_of_not_commits (h : ∀ r, ¬ e.Commits s o r) :
    (e.next s o).goals.ids = s.goals.ids := by
  rcases entries_next_of_not_commits h with hentries | hentries
  · rw [GoalStack.ids, hentries, GoalStack.ids]
  · rw [GoalStack.ids, hentries, ids_prompted, GoalStack.ids]

/-- The binding of a turn that commits is a global one or one of the goal on top. -/
lemma binding_of_commits (h : e.Commits s o r) :
    (r.scope = .global ∧ r.binding ∈ e.model.globals) ∨
    ∃ X g, s.goals.ids.getLast? = some X ∧ e.model.goal? X = some g ∧ r.scope = .goal X ∧
      r.binding ∈ g.bindings := by
  rcases scope_of_resolve h.1 with hglobal | ⟨X, g, hactive, hgoal⟩
  · exact .inl hglobal
  · obtain ⟨below, top, hentries, rfl⟩ := Session.activeGoal?_eq_some hactive
    exact .inr ⟨top.id, g, by simp [GoalStack.ids, hentries], hgoal⟩

lemma ids_of_commits_goal {X : String} (h : e.Commits s o r) (hscope : r.scope = .goal X) :
    s.goals.ids = (r.scope.remaining s.goals.entries).map (·.id) ++ [X] := by
  rcases binding_of_commits h with ⟨hglobal, _⟩ | ⟨Y, _, htop, _, hgoal, _⟩
  · rw [hglobal] at hscope
    cases hscope
  · obtain rfl : Y = X := Scope.goal.inj (hgoal.symm.trans hscope)
    obtain ⟨below, hbelow⟩ := List.getLast?_eq_some_iff.mp htop
    have hdrop : (s.goals.entries.dropLast).map (·.id) = below := by
      rw [List.map_dropLast, ← GoalStack.ids, hbelow, List.dropLast_concat]
    rw [hscope, Scope.remaining, hdrop, hbelow]

/-- **A goal leaves the stack only by its own binding, and only from the top.**  Otherwise it and
the goals beneath it stay. -/
lemma prefix_ids_next {below above : List String} {X : String}
    (hids : s.goals.ids = below ++ X :: above) :
    below ++ [X] <+: (e.next s o).goals.ids ∨
    (above = [] ∧ ∃ r, e.Commits s o r ∧ r.scope = .goal X) := by
  have hstays : below ++ [X] <+: s.goals.ids := ⟨above, by rw [hids]; simp⟩
  by_cases hcommits : ∃ r, e.Commits s o r
  · obtain ⟨r, hr⟩ := hcommits
    cases hscope : r.scope with
    | global =>
        refine .inl (hstays.trans ⟨addedGoals (e.trace s o r), ?_⟩)
        rw [ids_next_of_commits hr, hscope]
        rfl
    | goal Y =>
        have htop := ids_of_commits_goal hr hscope
        rcases List.eq_nil_or_concat above with rfl | ⟨above', Z, rfl⟩
        · obtain ⟨_, hXY⟩ := List.append_inj' (hids.symm.trans htop) rfl
          exact .inr ⟨rfl, r, hr, by rw [hscope, (List.cons.inj hXY).1]⟩
        · -- something stands above the goal, and that is what was taken off
          have hshape : (below ++ X :: above') ++ [Z] =
              (r.scope.remaining s.goals.entries).map (·.id) ++ [Y] := by
            rw [← htop, hids]
            simp
          obtain ⟨hremaining, _⟩ := List.append_inj' hshape rfl
          refine .inl ⟨above' ++ addedGoals (e.trace s o r), ?_⟩
          rw [ids_next_of_commits hr, ← hremaining]
          simp
  · rw [ids_next_of_not_commits fun r hr => hcommits ⟨r, hr⟩]
    exact .inl hstays

/-- An entry that is beneath the top before a turn and after it is the same, its prompts
included. -/
lemma getElem?_next {i : ℕ} (hbefore : i + 1 < s.goals.entries.length)
    (hafter : i + 1 < (e.next s o).goals.entries.length) :
    (e.next s o).goals.entries[i]? = s.goals.entries[i]? := by
  by_cases hcommits : ∃ r, e.Commits s o r
  · obtain ⟨r, hr⟩ := hcommits
    have hentries := hr.answered.2.2
    rw [hentries, length_prompted] at hafter
    have hremaining : i < (r.scope.remaining s.goals.entries).length := by
      cases r.scope with
      | global => exact Nat.lt_of_succ_lt hbefore
      | goal X =>
          rw [Scope.remaining, List.length_dropLast]
          omega
    rw [hentries, getElem?_prompted hafter, List.getElem?_append_left hremaining]
    cases r.scope with
    | global => rfl
    | goal X => rw [Scope.remaining, List.getElem?_dropLast, if_pos (by omega)]
  · rcases entries_next_of_not_commits fun r hr => hcommits ⟨r, hr⟩ with hentries | hentries
    · rw [hentries]
    · rw [hentries, getElem?_prompted hbefore]

/-! ## Any number of turns -/

lemma nexts_concat (e : Engine σ τ) (s : Session) (os : List (Occasion σ)) (o : Occasion σ) :
    e.nexts s (os ++ [o]) = e.next (e.nexts s os) o := by
  rw [nexts, List.foldl_append, List.foldl_cons, List.foldl_nil, ← nexts]

/-- In a run of turns, the goal above `below` is not resolved: whenever it is on top, the turn does
not commit by a binding of it. -/
def Unresolved (e : Engine σ τ) (s : Session) (os : List (Occasion σ)) (below : List String)
    (X : String) : Prop :=
  ∀ before o after, os = before ++ o :: after → (e.nexts s before).goals.ids = below ++ [X] →
    ∀ r, e.Commits (e.nexts s before) o r → r.scope ≠ .goal X

/-- **A goal that is not resolved stays**, and so do the goals beneath it, whatever happens above
them. -/
lemma prefix_ids_nexts {below above : List String} {X : String}
    (hids : s.goals.ids = below ++ X :: above) {os : List (Occasion σ)}
    (hos : e.Unresolved s os below X) : below ++ [X] <+: (e.nexts s os).goals.ids := by
  -- the last turn of the run decides, so the induction is from that end
  induction os using List.reverseRecOn with
  | nil => exact ⟨above, by rw [nexts, List.foldl_nil, hids]; simp⟩
  | append_singleton os o ih =>
      have hinitial := ih fun before o' after hsplit =>
        hos before o' (after ++ [o]) (by rw [hsplit]; simp)
      obtain ⟨above', habove'⟩ := hinitial
      have hnow : (e.nexts s os).goals.ids = below ++ X :: above' := by rw [← habove']; simp
      rw [nexts_concat]
      rcases prefix_ids_next (e := e) (o := o) hnow with hstays | ⟨rfl, r, hr, hscope⟩
      · exact hstays
      · exact absurd hscope (hos os o [] rfl hnow r hr)

/-! ## The law of the goal stack -/

/-- **The law of the goal stack.**  A turn with a store around it is a step of the session.  One
that reports success puts a session back whose stack is what the scope of its binding left of the
old one, then the goals that its handler added, and the last entry has given one more prompt.  In
every step, a goal leaves only by its own binding and only from the top, and entries that are
beneath the top before and after are the same.  Hence, when a goal is resolved in the end and
nothing is added in its place, the goals are again those that were there before it, whatever was
added and resolved above it in between. -/
theorem goal_stack_law (e : Engine σ τ) :
    (∀ now id utterance (w : World σ τ) found, e.store.get w.sessions id = .ok found →
      e.Settles w (e.handleUtterance now id utterance w)
        (e.next (metBy id now found) ⟨now, utterance, w.source⟩)
        (e.answered (metBy id now found) ⟨now, utterance, w.source⟩).outcome) ∧
    (∀ now id utterance (w : World σ τ) outcome,
      (e.handleUtterance now id utterance w).1.outcome = .ok outcome → outcome.updated = true →
      ∃ found r, e.store.get w.sessions id = .ok found ∧
        let s := metBy id now found
        let o : Occasion σ := ⟨now, utterance, w.source⟩
        e.Commits s o r ∧ outcome.matched = some r.scope ∧
        ((r.scope = .global ∧ r.binding ∈ e.model.globals) ∨
          ∃ X g, s.goals.ids.getLast? = some X ∧ e.model.goal? X = some g ∧ r.scope = .goal X ∧
            r.binding ∈ g.bindings) ∧
        e.store.put w.sessions (e.next s o) =
          .ok (e.handleUtterance now id utterance w).2.sessions ∧
        (e.next s o).goals.entries =
          (r.scope.remaining s.goals.entries ++
            (addedGoals (e.trace s o r)).map GoalInstance.fresh).modifyLast
              GoalInstance.prompted) ∧
    (∀ s o r, e.Commits s o r → (e.next s o).goals.ids =
      (r.scope.remaining s.goals.entries).map (·.id) ++ addedGoals (e.trace s o r)) ∧
    (∀ s o below X above, s.goals.ids = below ++ X :: above →
      below ++ [X] <+: (e.next s o).goals.ids ∨
      (above = [] ∧ ∃ r, e.Commits s o r ∧ r.scope = .goal X)) ∧
    (∀ s o i, i + 1 < s.goals.entries.length → i + 1 < (e.next s o).goals.entries.length →
      (e.next s o).goals.entries[i]? = s.goals.entries[i]?) ∧
    (∀ s os below X above, s.goals.ids = below ++ X :: above → e.Unresolved s os below X →
      below ++ [X] <+: (e.nexts s os).goals.ids ∧
      ∀ o r, e.Commits (e.nexts s os) o r → r.scope = .goal X →
        (e.nexts s os).goals.ids.length = below.length + 1 →
        addedGoals (e.trace (e.nexts s os) o r) = [] →
        (e.next (e.nexts s os) o).goals.ids = below) := by
  refine ⟨fun now id utterance w found => handleUtterance_settles,
    fun now id utterance w outcome houtcome hupdated => ?_,
    fun s o r => ids_next_of_commits, fun s o below X above => prefix_ids_next,
    fun s o i => getElem?_next, fun s os below X above hids hos =>
      ⟨prefix_ids_nexts hids hos, fun o r hr hscope hlength hnone => ?_⟩⟩
  · obtain ⟨found, r, hget, hr, hmatched, hput⟩ := exists_commits_of_updated houtcome hupdated
    exact ⟨found, r, hget, hr, hmatched, binding_of_commits hr, hput, hr.answered.2.2⟩
  · have htop := ids_of_commits_goal hr hscope
    have hsame : below = (r.scope.remaining (e.nexts s os).goals.entries).map (·.id) := by
      have hinitial : below ++ [X] <+: _ ++ [X] := htop ▸ prefix_ids_nexts hids hos
      refine (List.append_inj' (hinitial.eq_of_length ?_) rfl).1
      rw [← htop, hlength, List.length_append, List.length_singleton]
    rw [ids_next_of_commits hr, hnone, List.append_nil, hsame]

-- An order needs an address first: the order is suspended while the address is asked for, and an
-- answer to the suspended goal is not understood.
example :
    let binding (word : List Char) (goals : List String) : Binding :=
      ⟨⟨String.ofList word, [[Token.word word]]⟩, .immediate (goals.forM Act.addGoal)⟩
    let e := recordless
      { types := .empty
        globals := [binding "ask".toList ["order", "address"]]
        goals := [⟨"order", ["What?"], [binding "tea".toList []]⟩,
          ⟨"address", ["Where?"], [binding "here".toList []]⟩] }
    let stack (us : List String) : List (String × ℕ) :=
      (e.nexts (.new "s" .epoch) (us.map (⟨.epoch, ·, ()⟩))).goals.entries.map fun g =>
        (g.id, g.promptsIssued)
    stack ["ask"] = [("order", 0), ("address", 1)] ∧
      stack ["ask", "tea"] = [("order", 0), ("address", 2)] ∧
      stack ["ask", "Here!"] = [("order", 1)] ∧ stack ["ask", "Here!", "tea"] = [] := by
  decide

end Dialogue.Engine
