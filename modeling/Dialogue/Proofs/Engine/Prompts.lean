import Dialogue.Proofs.Engine.GoalStack

/-!
# Prompts are given in rotation

A turn asks the goal that is on top in the end for a prompt, unless its handler failed.  Which of
its prompts a goal gives depends on the number it has given so far, and this number is kept on the
stack.  While other goals stand above it the goal is not asked and its number does not change, so it
goes on where it stopped.

A goal may stand on the stack several times.  What identifies one of them is its place, from the
turn that puts it there to the turn that takes it off.

* `Engine.promptingGoals?` — the stack whose top a turn asks for a prompt.
* `Engine.promptAt?` — the prompt that a turn selects of the goal at a place.
* `Engine.Advances` — how a turn treats one goal; `advances_of_added` and `advances_of_not_takesOff`
  say that a goal is treated so from the turn that adds it until one takes it off.
* `Engine.Keeps`, `Engine.promptsAt` — runs of turns in which the goal at a place is not taken off,
  and the prompts that they select of it.
* **`prompts_rotate`** — these prompts are the goal's prompts, one after the other and then again.
-/

namespace Dialogue

/-- The prompt after `issued` others is the next one in the rotation, or empty if there is none. -/
lemma Goal.prompt_eq (g : Goal) (issued : ℕ) :
    (g.prompts = [] ∧ g.prompt issued = "") ∨
      g.prompts[issued % g.prompts.length]? = some (g.prompt issued) := by
  by_cases hnone : g.prompts = []
  · exact .inl ⟨hnone, by simp [prompt, hnone]⟩
  · have hlt : issued % g.prompts.length < g.prompts.length :=
      Nat.mod_lt _ (List.length_pos_iff.mpr hnone)
    exact .inr (by simp [prompt, List.getElem?_eq_getElem hlt])

lemma Model.exists_goal_of_hasGoal {m : Model} {id : String} (h : m.hasGoal id = true) :
    ∃ g, m.goal? id = some g := by
  rw [hasGoal, List.any_eq_true] at h
  exact Option.isSome_iff_exists.mp (List.find?_isSome.mpr h)

namespace Engine

variable {σ τ : Type} {e : Engine σ τ} {s : Session} {o : Occasion σ}

/-! ## One turn -/

/-- The goals of which a turn asks the one on top for a prompt: those that the handler left if the
turn commits, and those of the session if nothing was understood. -/
def promptingGoals? (e : Engine σ τ) (s : Session) (o : Occasion σ) : Option GoalStack :=
  match (e.answered s o).turn with
  | none => some s.goals
  | some t => if (e.answered s o).outcome.updated then some t.goals else none

/-- The prompt that a turn selects of the goal at a place of the stack. -/
def promptAt? (e : Engine σ τ) (place : ℕ) (s : Session) (o : Occasion σ) : Option String :=
  match e.promptingGoals? s o with
  | none => none
  | some goals => if goals.entries.length = place + 1 then some (e.currentPrompt goals) else none

lemma promptingGoals?_of_error {error : NoMatch}
    (h : e.model.resolve s.activeGoal? o.utterance = .error error) :
    e.promptingGoals? s o = some s.goals := by
  rw [promptingGoals?, answered_of_error h]
  rfl

lemma promptingGoals?_of_fails {r : Resolution} {error : TurnError} (h : e.Fails s o r error) :
    e.promptingGoals? s o = none := by
  obtain ⟨t, _, _, hanswer⟩ := answered_of_resolve h.1
  rw [promptingGoals?, hanswer, h.2]
  rfl

lemma promptingGoals?_of_commits {r : Resolution} (h : e.Commits s o r) :
    ∃ goals, e.promptingGoals? s o = some goals ∧
      goals.entries = r.scope.remaining s.goals.entries ++
        (addedGoals (e.trace s o r)).map GoalInstance.fresh ∧
      (e.answered s o).outcome.spoken = " ".intercalate (spokenFragments (e.trace s o r) ++
        if (e.currentPrompt goals).isEmpty then [] else [e.currentPrompt goals]) := by
  obtain ⟨t, hgoals, hspeech, hanswer⟩ := answered_of_resolve h.1
  replace hanswer : e.answered s o = e.succeeded s r.scope t := hanswer.trans (by rw [h.2])
  refine ⟨t.goals, ?_, hgoals, ?_⟩
  · rw [promptingGoals?, hanswer]
    rfl
  · rw [hanswer, succeeded, ← hspeech]
    by_cases hnone : (e.currentPrompt t.goals).isEmpty = true <;> simp [hnone]

/-- The goals of which a turn asks the one on top are those of the session, or those that the
handler of a turn that commits left. -/
lemma eq_or_commits_of_promptingGoals? {goals : GoalStack}
    (h : e.promptingGoals? s o = some goals) :
    goals = s.goals ∨ ∃ r, e.Commits s o r ∧ goals.entries =
      r.scope.remaining s.goals.entries ++ (addedGoals (e.trace s o r)).map GoalInstance.fresh := by
  rcases turn_cases e s o with ⟨error, herror⟩ | ⟨r, hcommits⟩ | ⟨r, error, hfails⟩
  · rw [promptingGoals?_of_error herror] at h
    exact .inl (Option.some.inj h).symm
  · obtain ⟨goals', hgoals', hentries, _⟩ := promptingGoals?_of_commits hcommits
    obtain rfl : goals' = goals := Option.some.inj (hgoals'.symm.trans h)
    exact .inr ⟨r, hcommits, hentries⟩
  · rw [promptingGoals?_of_fails hfails] at h
    cases h

/-- The goal that is asked for a prompt has given one more afterwards. -/
lemma entries_next_of_promptingGoals? {goals : GoalStack}
    (h : e.promptingGoals? s o = some goals) :
    (e.next s o).goals.entries = goals.entries.modifyLast GoalInstance.prompted := by
  rcases turn_cases e s o with ⟨error, herror⟩ | ⟨r, hcommits⟩ | ⟨r, error, hfails⟩
  · rw [promptingGoals?_of_error herror] at h
    obtain rfl := Option.some.inj h
    rw [next, answered_of_error herror, ← GoalStack.entries_issue]
    rfl
  · obtain ⟨goals', hgoals', hentries, _⟩ := promptingGoals?_of_commits hcommits
    obtain rfl : goals' = goals := Option.some.inj (hgoals'.symm.trans h)
    rw [hcommits.answered.2.2, hentries]
  · rw [promptingGoals?_of_fails hfails] at h
    cases h

lemma goals_next_of_promptingGoals?_eq_none (h : e.promptingGoals? s o = none) :
    (∃ r error, e.Fails s o r error) ∧ (e.next s o).goals = s.goals := by
  rcases turn_cases e s o with ⟨error, herror⟩ | ⟨r, hcommits⟩ | ⟨r, error, hfails⟩
  · rw [promptingGoals?_of_error herror] at h
    cases h
  · obtain ⟨goals, hgoals, _⟩ := promptingGoals?_of_commits hcommits
    rw [hgoals] at h
    cases h
  · refine ⟨⟨r, error, hfails⟩, ?_⟩
    rw [next, hfails.answered.1]
    rfl

/-- **Which turns select a prompt of the goal at a place**: those that end with it on top and commit
or find nothing to understand. -/
lemma exists_promptAt?_iff {place : ℕ} :
    (∃ prompt, e.promptAt? place s o = some prompt) ↔
      (∀ r error, ¬ e.Fails s o r error) ∧ (e.next s o).goals.entries.length = place + 1 := by
  cases hgoals : e.promptingGoals? s o with
  | none =>
      obtain ⟨⟨r, error, hfails⟩, _⟩ := goals_next_of_promptingGoals?_eq_none hgoals
      simp only [promptAt?, hgoals]
      constructor
      · rintro ⟨_, ⟨⟩⟩
      · exact fun h => absurd hfails (h.1 r error)
  | some goals =>
      have hnot : ∀ r error, ¬ e.Fails s o r error := by
        intro r error hfails
        rw [promptingGoals?_of_fails hfails] at hgoals
        cases hgoals
      rw [entries_next_of_promptingGoals? hgoals, length_prompted, promptAt?, hgoals]
      simp [hnot]

/-- **The prompt is the last thing said**, unless it is empty. -/
lemma spoken_of_promptAt? {place : ℕ} {prompt : String} (h : e.promptAt? place s o = some prompt) :
    (∀ error, e.model.resolve s.activeGoal? o.utterance = .error error →
      (e.answered s o).outcome.spoken =
        if prompt = "" then e.fallback.notUnderstood
        else e.fallback.repromptPrefix ++ " " ++ prompt) ∧
    ∀ r, e.Commits s o r → (e.answered s o).outcome.spoken =
      " ".intercalate (spokenFragments (e.trace s o r) ++
        if prompt = "" then [] else [prompt]) := by
  have hasked : ∀ goals, e.promptingGoals? s o = some goals → e.currentPrompt goals = prompt := by
    intro goals hgoals
    simp only [promptAt?, hgoals] at h
    split at h
    · exact Option.some.inj h
    · cases h
  constructor
  · intro error herror
    have hprompt := hasked s.goals (promptingGoals?_of_error herror)
    rw [answered_of_error herror, notUnderstood, repromptSpeech, hprompt]
    simp
  · intro r hcommits
    obtain ⟨goals, hgoals, _, hspoken⟩ := promptingGoals?_of_commits hcommits
    rw [hspoken, hasked goals hgoals]
    simp

/-- A turn treats the goal at a place by its rotation: either it selects the prompt that is due
after `issued` others and counts it, or it selects none and the number stays. -/
def Advances (e : Engine σ τ) (place : ℕ) (id : String) (g : Goal) (issued : ℕ) (s : Session)
    (o : Occasion σ) : Prop :=
  (e.promptAt? place s o = some (g.prompt issued) ∧
    (e.next s o).goals.entries[place]? = some ⟨id, issued + 1⟩) ∨
  (e.promptAt? place s o = none ∧ (e.next s o).goals.entries[place]? = some ⟨id, issued⟩)

/-- **One turn and one goal**: among the goals of which the top is asked, each is treated by its
rotation. -/
lemma advances_of_promptingGoals? {goals : GoalStack} (h : e.promptingGoals? s o = some goals)
    {place issued : ℕ} {id : String} {g : Goal}
    (hentry : goals.entries[place]? = some ⟨id, issued⟩) (hg : e.model.goal? id = some g) :
    e.Advances place id g issued s o := by
  rw [Advances, entries_next_of_promptingGoals? h]
  simp only [promptAt?, h]
  by_cases htop : goals.entries.length = place + 1
  · left
    obtain ⟨below, top, hentries⟩ : ∃ below top, goals.entries = below ++ [top] :=
      List.eq_nil_or_concat' goals.entries |>.resolve_left (by rintro hnil; simp [hnil] at htop)
    have hplace : place = below.length := by simpa [hentries] using htop.symm
    obtain rfl : top = ⟨id, issued⟩ := by simpa [hentries, hplace] using hentry
    have hcurrent : e.currentPrompt goals = g.prompt issued := by
      simp [currentPrompt, GoalStack.top?, hentries, hg]
    rw [if_pos htop, hentries, List.modifyLast_concat, hplace, hcurrent]
    simp [GoalInstance.prompted]
  · right
    have hlt : place < goals.entries.length := (List.getElem?_eq_some_iff.mp hentry).1
    rw [if_neg htop, getElem?_prompted (by omega), hentry]
    exact ⟨rfl, rfl⟩

/-- **A goal that a turn puts on the stack** starts its rotation in this turn. -/
lemma advances_of_added {r : Resolution} (hcommits : e.Commits s o r) {place : ℕ} {id : String}
    (habove : (r.scope.remaining s.goals.entries).length ≤ place)
    (hid : (e.next s o).goals.ids[place]? = some id) :
    ∃ g, e.model.goal? id = some g ∧ e.Advances place id g 0 s o := by
  obtain ⟨goals, hgoals, hentries, _⟩ := promptingGoals?_of_commits hcommits
  rw [ids_next_of_commits hcommits, List.getElem?_append_right (by simpa using habove),
    List.length_map] at hid
  have hentry : goals.entries[place]? = some ⟨id, 0⟩ := by
    rw [hentries, List.getElem?_append_right habove, List.getElem?_map, hid]
    rfl
  have hknown : e.model.hasGoal id = true :=
    knows_of_mem_addedGoals e.setting _ _ _ (List.mem_of_getElem? hid)
  obtain ⟨g, hg⟩ := Model.exists_goal_of_hasGoal hknown
  exact ⟨g, hg, advances_of_promptingGoals? hgoals hentry hg⟩

/-! ## The stay of a goal on the stack -/

/-- The turn takes the goal at a place off the stack: it is on top, and the turn commits by a
binding of it. -/
def TakesOff (e : Engine σ τ) (place : ℕ) (s : Session) (o : Occasion σ) : Prop :=
  s.goals.entries.length = place + 1 ∧ ∃ r id, e.Commits s o r ∧ r.scope = .goal id

/-- No turn of a run takes the goal at a place off the stack. -/
def Keeps (e : Engine σ τ) (place : ℕ) : Session → List (Occasion σ) → Prop
  | _, [] => True
  | s, o :: os => ¬ e.TakesOff place s o ∧ e.Keeps place (e.next s o) os

/-- The prompts that a run of turns selects of the goal at a place, in order. -/
def promptsAt (e : Engine σ τ) (place : ℕ) : Session → List (Occasion σ) → List String
  | _, [] => []
  | s, o :: os => (e.promptAt? place s o).toList ++ e.promptsAt place (e.next s o) os

/-- A goal that a turn does not take off is on the stack that is asked for a prompt, if one is. -/
lemma getElem?_of_not_takesOff {place : ℕ} {g : GoalInstance}
    (hentry : s.goals.entries[place]? = some g) (hkeeps : ¬ e.TakesOff place s o)
    {goals : GoalStack} (h : e.promptingGoals? s o = some goals) :
    goals.entries[place]? = some g := by
  have hlt : place < s.goals.entries.length := (List.getElem?_eq_some_iff.mp hentry).1
  rcases eq_or_commits_of_promptingGoals? h with rfl | ⟨r, hcommits, hentries⟩
  · exact hentry
  · have hremaining : (r.scope.remaining s.goals.entries)[place]? = some g := by
      cases hscope : r.scope with
      | global => exact hentry
      | goal id =>
          have hbeneath : place + 1 ≠ s.goals.entries.length := fun htop =>
            hkeeps ⟨htop.symm, r, id, hcommits, hscope⟩
          rw [Scope.remaining, List.getElem?_dropLast, if_pos (by omega), hentry]
    rw [hentries, List.getElem?_append_left (List.getElem?_eq_some_iff.mp hremaining).1, hremaining]

/-- **A turn that keeps a goal** treats it by its rotation. -/
lemma advances_of_not_takesOff {place issued : ℕ} {id : String} {g : Goal}
    (hentry : s.goals.entries[place]? = some ⟨id, issued⟩) (hg : e.model.goal? id = some g)
    (hkeeps : ¬ e.TakesOff place s o) : e.Advances place id g issued s o := by
  cases hgoals : e.promptingGoals? s o with
  | some goals =>
      exact advances_of_promptingGoals? hgoals (getElem?_of_not_takesOff hentry hkeeps hgoals) hg
  | none =>
      right
      rw [(goals_next_of_promptingGoals?_eq_none hgoals).2, promptAt?, hgoals]
      exact ⟨rfl, hentry⟩

/-- A run of turns gives the goal at a place the prompts that are due after `issued` others, one
after the other, and its number counts them. -/
def Rotates (e : Engine σ τ) (place : ℕ) (id : String) (g : Goal) (issued : ℕ) (s : Session)
    (os : List (Occasion σ)) : Prop :=
  (e.nexts s os).goals.entries[place]? = some ⟨id, issued + (e.promptsAt place s os).length⟩ ∧
  ∀ k prompt, (e.promptsAt place s os)[k]? = some prompt → prompt = g.prompt (issued + k)

/-- One more turn in front of a run. -/
lemma Advances.rotates_cons {place issued : ℕ} {id : String} {g : Goal} {os : List (Occasion σ)}
    (hturn : e.Advances place id g issued s o)
    (hrest : ∀ issued', (e.next s o).goals.entries[place]? = some ⟨id, issued'⟩ →
      e.Rotates place id g issued' (e.next s o) os) :
    e.Rotates place id g issued s (o :: os) := by
  rw [Rotates, promptsAt, nexts, List.foldl_cons, ← nexts]
  rcases hturn with ⟨hprompt, hnext⟩ | ⟨hprompt, hnext⟩
  · obtain ⟨hentries, hprompts⟩ := hrest (issued + 1) hnext
    rw [hprompt, Option.toList_some, List.singleton_append]
    refine ⟨by rw [hentries, List.length_cons, Nat.add_right_comm, Nat.add_assoc], ?_⟩
    rintro (_ | k) prompt hk
    · exact (Option.some.inj hk).symm
    · rw [hprompts k prompt hk, Nat.add_right_comm, Nat.add_assoc]
  · rw [hprompt]
    exact hrest issued hnext

/-- **A run that keeps a goal** gives it its prompts in rotation. -/
lemma rotates_of_keeps {place : ℕ} {id : String} {g : Goal} (hg : e.model.goal? id = some g)
    {os : List (Occasion σ)} {s : Session} {issued : ℕ}
    (hentry : s.goals.entries[place]? = some ⟨id, issued⟩) (hkeeps : e.Keeps place s os) :
    e.Rotates place id g issued s os := by
  induction os generalizing s issued with
  | nil => simpa [Rotates, promptsAt, nexts] using hentry
  | cons o os ih =>
      obtain ⟨hstays, hrest⟩ := hkeeps
      exact (advances_of_not_takesOff hentry hg hstays).rotates_cons fun issued' hnext =>
        ih hnext hrest

/-! ## The rotation -/

/-- **Prompts are given in rotation.**  A turn with a store around it is a step of the session.  A
step selects a prompt of the goal at a place if it ends with this goal on top and its handler did
not fail, and only then; if the prompt is not empty, it is said last.  From the turn that puts a
goal on the stack, as long as none takes it off, the prompts that the turns select of it are its
prompts in order, and again from the first after the last, or empty ones if it has none; and the
number on the stack counts them. -/
theorem prompts_rotate (e : Engine σ τ) :
    (∀ now id utterance (w : World σ τ) found, e.store.get w.sessions id = .ok found →
      e.Settles w (e.handleUtterance now id utterance w)
        (e.next (metBy id now found) ⟨now, utterance, w.source⟩)
        (e.answered (metBy id now found) ⟨now, utterance, w.source⟩).outcome) ∧
    (∀ s o place, (∃ prompt, e.promptAt? place s o = some prompt) ↔
      (∀ r error, ¬ e.Fails s o r error) ∧ (e.next s o).goals.entries.length = place + 1) ∧
    (∀ s o place prompt, e.promptAt? place s o = some prompt →
      (∀ error, e.model.resolve s.activeGoal? o.utterance = .error error →
        (e.answered s o).outcome.spoken =
          if prompt = "" then e.fallback.notUnderstood
          else e.fallback.repromptPrefix ++ " " ++ prompt) ∧
      ∀ r, e.Commits s o r → (e.answered s o).outcome.spoken =
        " ".intercalate (spokenFragments (e.trace s o r) ++
          if prompt = "" then [] else [prompt])) ∧
    (∀ s o r place id, e.Commits s o r →
      (r.scope.remaining s.goals.entries).length ≤ place →
      (e.next s o).goals.ids[place]? = some id →
      ∃ g, e.model.goal? id = some g ∧ ∀ os, e.Keeps place (e.next s o) os →
        (e.nexts s (o :: os)).goals.entries[place]? =
          some ⟨id, (e.promptsAt place s (o :: os)).length⟩ ∧
        ∀ k prompt, (e.promptsAt place s (o :: os))[k]? = some prompt →
          (g.prompts = [] ∧ prompt = "") ∨ g.prompts[k % g.prompts.length]? = some prompt) := by
  refine ⟨fun now id utterance w found => handleUtterance_settles,
    fun s o place => exists_promptAt?_iff, fun s o place prompt => spoken_of_promptAt?,
    fun s o r place id hcommits habove hid => ?_⟩
  obtain ⟨g, hg, hfirst⟩ := advances_of_added hcommits habove hid
  refine ⟨g, hg, fun os hkeeps => ?_⟩
  obtain ⟨hentry, hprompts⟩ : e.Rotates place id g 0 s (o :: os) :=
    hfirst.rotates_cons fun issued hnext => rotates_of_keeps hg hnext hkeeps
  refine ⟨by rw [hentry, Nat.zero_add], fun k prompt hk => ?_⟩
  rw [hprompts k prompt hk, Nat.zero_add]
  exact g.prompt_eq k

-- An order asks twice what is wanted, is suspended while the address is asked for, and then goes on
-- with its third prompt.
example :
    let binding (word : List Char) (goals : List String) : Binding :=
      ⟨⟨String.ofList word, [[Token.word word]]⟩, .immediate (goals.forM Act.addGoal)⟩
    let e := recordless
      { types := .empty
        globals := [binding "order".toList ["order"], binding "move".toList ["address"]]
        goals := [⟨"order", ["What?", "Tea?", "Coffee?"], [binding "tea".toList []]⟩,
          ⟨"address", ["Where?"], [binding "here".toList []]⟩] }
    let run : List (Occasion Unit) :=
      ["order", "what", "move", "there", "here", "well"].map (⟨.epoch, ·, ()⟩)
    e.promptsAt 0 (.new "s" .epoch) run = ["What?", "Tea?", "Coffee?", "What?"] ∧
      e.promptsAt 1 (.new "s" .epoch) run = ["Where?", "Where?"] := by
  decide

end Engine

end Dialogue
