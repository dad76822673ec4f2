import Dialogue.Desk
import Dialogue.Proofs.Dict
import Dialogue.Proofs.Engine.Prompts

/-!
# What every conversation keeps true

The engine takes whatever session is in the store, also one that it would never have put there: one
with goals that the model does not know, say.  This file is about the sessions that come about when
the store is empty in the beginning and the engine alone writes to it.  They stand under their own
ids, they hold only goals of the model, and the goal on top has been asked for a prompt.  So what
the engine does about an unknown goal is not needed as long as nobody else writes to the store.

* `Contact`, `Engine.meet`, `Engine.after` — the calls that reach the engine, one after the other.
* `Session.Sound` — the invariant of a session; `Session.Sound.next` says that a turn keeps it.
* `SoundStore` — the invariant of the store; `SoundStore.meet` and `soundStore_after` say that every
  call, and hence every run of calls, keeps it.
-/

namespace Dialogue

/-! ## Runs of calls -/

/-- A call on a session at some time. -/
structure Contact where
  now : Timestamp
  session : String
  call : Call

namespace Engine

variable {σ τ : Type}

/-- The engine serves a call. -/
def meet (e : Engine σ τ) (w : World σ τ) (c : Contact) : CallResult × World σ τ :=
  match c.call with
  | .utterance text =>
    let (report, w) := e.handleUtterance c.now c.session text w
    (.turn report, w)
  | .ending =>
    let (result, w) := e.endSession c.session w
    (.ended result, w)

/-- The world after calls, one after the other. -/
def after (e : Engine σ τ) (w : World σ τ) (cs : List Contact) : World σ τ :=
  cs.foldl (fun w c => (e.meet w c).2) w

/-- The engine with its sessions in memory. -/
def inMemory (e : Engine σ τ) : Engine σ (Dict Session) := { e with store := .inMemory }

end Engine

/-! ## One turn -/

/-- What is true of every session that only the engine has written. -/
structure Session.Sound (m : Model) (s : Session) : Prop where
  /-- The model has every goal on the stack. -/
  known : ∀ g ∈ s.goals.entries, m.hasGoal g.id = true
  /-- The active goal has been asked for a prompt. -/
  prompted : ∀ g, s.goals.top? = some g → 1 ≤ g.promptsIssued

lemma Session.sound_new (m : Model) (id : String) (now : Timestamp) :
    (Session.new id now).Sound m where
  known := fun g hg => absurd hg List.not_mem_nil
  prompted := fun g hg => by cases hg

section Turn

variable {σ τ : Type} {e : Engine σ τ} {s : Session}

/-- The goals of which a turn asks the one on top are those of the session and those that the
handler could add. -/
lemma Session.Sound.known_of_promptingGoals? (h : s.Sound e.model) {o : Occasion σ}
    {goals : GoalStack} (hgoals : e.promptingGoals? s o = some goals) {g : GoalInstance}
    (hg : g ∈ goals.entries) : e.model.hasGoal g.id = true := by
  rcases Engine.eq_or_commits_of_promptingGoals? hgoals with rfl | ⟨r, _, hentries⟩
  · exact h.known g hg
  · rw [hentries, List.mem_append] at hg
    rcases hg with hold | hnew
    · refine h.known g ?_
      cases hscope : r.scope with
      | global => rwa [hscope] at hold
      | goal id =>
          rw [hscope] at hold
          exact List.dropLast_subset _ hold
    · obtain ⟨id, hid, rfl⟩ := List.mem_map.mp hnew
      exact knows_of_mem_addedGoals e.setting _ _ _ hid

/-- **A turn keeps a session sound**, however it ends. -/
lemma Session.Sound.next (h : s.Sound e.model) (o : Occasion σ) :
    (e.next s o).Sound e.model := by
  cases hgoals : e.promptingGoals? s o with
  | none =>
      have hsame := (Engine.goals_next_of_promptingGoals?_eq_none hgoals).2
      exact ⟨by rw [hsame]; exact h.known, by rw [hsame]; exact h.prompted⟩
  | some goals =>
      have hentries := Engine.entries_next_of_promptingGoals? hgoals
      have hknown : ∀ g ∈ goals.entries, e.model.hasGoal g.id = true :=
        fun g hg => h.known_of_promptingGoals? hgoals hg
      rcases List.eq_nil_or_concat' goals.entries with hnil | ⟨below, top, hconcat⟩
      · have hnone : (e.next s o).goals.entries = [] := by rw [hentries, hnil]; rfl
        exact ⟨by simp [hnone], by simp [GoalStack.top?, hnone]⟩
      · rw [hconcat, List.modifyLast_concat] at hentries
        rw [hconcat] at hknown
        constructor
        · intro g hg
          rw [hentries] at hg
          rcases List.mem_append.mp hg with hbelow | htop
          · exact hknown g (List.mem_append_left _ hbelow)
          · rw [List.mem_singleton.mp htop]
            exact hknown top (by simp)
        · intro g hg
          rw [GoalStack.top?, hentries, List.getLast?_concat] at hg
          rw [← Option.some.inj hg]
          exact Nat.succ_pos _

end Turn

/-! ## Any number of calls -/

/-- Every session stands under its own id and is sound. -/
def SoundStore (m : Model) (sessions : Dict Session) : Prop :=
  ∀ id s, sessions.find? id = some s → s.id = id ∧ s.Sound m

section Run

variable {σ τ : Type} {m : Model} {sessions : Dict Session}

/-- The session that an utterance meets is sound, be it an old one or a new one. -/
lemma SoundStore.metBy (h : SoundStore m sessions) (id : String) (now : Timestamp) :
    (Engine.metBy id now (sessions.find? id)).id = id ∧
      (Engine.metBy id now (sessions.find? id)).Sound m := by
  cases hfound : sessions.find? id with
  | none => exact ⟨rfl, Session.sound_new m id now⟩
  | some s => exact h id s hfound

lemma SoundStore.insert (h : SoundStore m sessions) {s : Session} (hs : s.Sound m) :
    SoundStore m (sessions.insert s.id s) := by
  intro id s' hfind
  by_cases hid : id = s.id
  · subst hid
    rw [Dict.find?_insert_self] at hfind
    obtain rfl := Option.some.inj hfind
    exact ⟨rfl, hs⟩
  · rw [Dict.find?_insert_of_ne sessions s hid] at hfind
    exact h id s' hfind

/-- **A call keeps the store sound.** -/
lemma SoundStore.meet {e : Engine σ τ} {w : World σ (Dict Session)}
    (h : SoundStore e.model w.sessions) (c : Contact) :
    SoundStore e.model (e.inMemory.meet w c).2.sessions := by
  cases hcall : c.call with
  | utterance text =>
      let s := Engine.metBy c.session c.now (w.sessions.find? c.session)
      let o : Occasion σ := ⟨c.now, text, w.source⟩
      have hsettles : e.inMemory.Settles w (e.inMemory.handleUtterance c.now c.session text w)
          (e.inMemory.next s o) (e.inMemory.answered s o).outcome :=
        Engine.handleUtterance_settles rfl
      have hnext : (e.inMemory.next s o).Sound e.model :=
        Session.Sound.next (e := e.inMemory) (h.metBy c.session c.now).2 o
      rw [Engine.meet, hcall]
      exact hsettles.2 ▸ h.insert hnext
  | ending =>
      rw [Engine.meet, hcall]
      intro id s hfind
      exact h id s (Dict.find?_filter_eq_some_iff.mp hfind).1

/-- **A run of calls keeps the store sound.** -/
lemma soundStore_after {e : Engine σ τ} {w : World σ (Dict Session)}
    (h : SoundStore e.model w.sessions) (cs : List Contact) :
    SoundStore e.model (e.inMemory.after w cs).sessions := by
  induction cs generalizing w with
  | nil => exact h
  | cons c cs ih => exact ih (h.meet c)

/-- **What every conversation keeps true.**  Let calls reach the engine in any order, on any
sessions, from an empty store on.  Then every session stands under its own id, the model has all
its goals, and its active goal has been asked for a prompt.  And whatever utterance comes next, its
session is put back under the same id, the active goal in whose light it is understood is one of the
model, and so is the goal that is asked for a prompt afterwards. -/
theorem sessions_stay_sound (e : Engine σ τ) (source : σ) (cs : List Contact) :
    let w := e.inMemory.after ⟨source, .empty⟩ cs
    (∀ id s, w.sessions.find? id = some s → s.id = id ∧
      (∀ g ∈ s.goals.entries, e.model.hasGoal g.id = true) ∧
      ∀ g, s.goals.top? = some g → 1 ≤ g.promptsIssued) ∧
    ∀ now id utterance,
      let s := Engine.metBy id now (w.sessions.find? id)
      let o : Occasion σ := ⟨now, utterance, w.source⟩
      (e.inMemory.next s o).id = id ∧
      (∀ active, s.activeGoal? = some active → ∃ goal, e.model.goal? active = some goal) ∧
      ∀ goals top, e.inMemory.promptingGoals? s o = some goals → goals.top? = some top →
        ∃ goal, e.model.goal? top.id = some goal := by
  intro w
  have hsound : SoundStore e.model w.sessions :=
    soundStore_after (fun id s hfind => by cases hfind) cs
  refine ⟨fun id s hfind => ?_, fun now id utterance => ?_⟩
  · obtain ⟨hid, hs⟩ := hsound id s hfind
    exact ⟨hid, hs.known, hs.prompted⟩
  · obtain ⟨hid, hs⟩ := hsound.metBy id now
    refine ⟨(Engine.id_next e.inMemory _ _).trans hid, fun active hactive => ?_, ?_⟩
    · obtain ⟨below, g, hentries, rfl⟩ := Session.activeGoal?_eq_some hactive
      exact Model.exists_goal_of_hasGoal (hs.known g (by rw [hentries]; simp))
    · intro goals top hgoals htop
      have hknown : e.model.hasGoal top.id = true :=
        Session.Sound.known_of_promptingGoals? (e := e.inMemory) hs hgoals
          (List.mem_of_getLast? htop)
      exact Model.exists_goal_of_hasGoal hknown

end Run

end Dialogue
