import Dialogue.Proofs.Engine.Atomicity
import Dialogue.Proofs.Engine.Reachable
import Dialogue.Proofs.Engine.SlotFrame
import Dialogue.Proofs.Handler.Lists
import Dialogue.Proofs.Resolution.Values
import Mathlib.Logic.Function.Basic

/-!
# What a session remembers

A handler that announces a list relies on the session: turns later, another handler asks for the
second record and has to find the one that was announced as the second.  In between there may be
turns that commit and turns that do not, calls on other sessions, and failures of the store.  The
slot of the list survives all of them, because only a turn that commits changes values, and only
those that its handler set.

* `SessionStore.Faithful` — what is expected of a store; `Faithful.meet_cases` says what a call
  makes of the sessions in it.
* `Engine.Sets` — a call sets a slot of a session for good; `remembered_meet` says that every other
  call leaves the slot alone, and `remembered_after` that a run of such calls does.
* `Engine.Shows` — what the handlers of a session are shown.
* **`listed_records_stay`** — a list answers with the records that were announced last, in the same
  turn and in later ones.
-/

namespace Dialogue

/-! ## Stores -/

/-- A store is faithful to `held`, which says what session stands under an id: it fetches what
stands there, and an operation that succeeds changes what it is about and nothing else.  It may fail
whenever it likes. -/
structure SessionStore.Faithful {τ : Type} (store : SessionStore τ)
    (held : τ → String → Option Session) : Prop where
  get_eq : ∀ {sessions id found}, store.get sessions id = .ok found → found = held sessions id
  put_eq : ∀ {sessions s sessions'}, store.put sessions s = .ok sessions' →
    held sessions' = Function.update (held sessions) s.id (some s)
  delete_eq : ∀ {sessions id sessions'}, store.delete sessions id = .ok sessions' →
    held sessions' = Function.update (held sessions) id none

/-- Sessions in memory are such a store. -/
lemma SessionStore.faithful_inMemory : inMemory.Faithful Dict.find? where
  get_eq h := (Except.ok.inj h).symm
  put_eq {sessions s sessions'} h := by
    obtain rfl := Except.ok.inj h
    funext id
    by_cases hid : id = s.id
    · rw [hid, Dict.find?_insert_self, Function.update_self]
    · rw [Dict.find?_insert_of_ne _ _ hid, Function.update_of_ne hid]
  delete_eq {sessions id sessions'} h := by
    obtain rfl := Except.ok.inj h
    funext id'
    by_cases hid : id' = id
    · rw [hid, Function.update_self]
      exact Dict.find?_assign_self sessions id none
    · rw [Function.update_of_ne hid]
      exact Dict.find?_assign_of_ne sessions none hid

/-- Every session that is held has the id under which it is held. -/
def HeldByOwnId (held : String → Option Session) : Prop := ∀ id s, held id = some s → s.id = id

/-- Putting a session under its own id, or dropping one, keeps the sessions under their own ids. -/
lemma HeldByOwnId.update {held : String → Option Session} (hown : HeldByOwnId held) {id : String}
    {found : Option Session} (hfound : ∀ s, found = some s → s.id = id) :
    HeldByOwnId (Function.update held id found) := by
  intro id' s hs
  by_cases hid : id' = id
  · subst hid
    rw [Function.update_self] at hs
    exact hfound s hs
  · rw [Function.update_of_ne hid] at hs
    exact hown id' s hs

namespace Engine

variable {σ τ : Type} {e : Engine σ τ} {held : τ → String → Option Session} {w : World σ τ}

lemma id_metBy (hown : HeldByOwnId (held w.sessions)) (id : String) (now : Timestamp) :
    (metBy id now (held w.sessions id)).id = id := by
  cases hfound : held w.sessions id with
  | none => rfl
  | some s => exact hown id s hfound

/-! ## One call -/

lemma meet_utterance (e : Engine σ τ) (w : World σ τ) (now : Timestamp) (id text : String) :
    (e.meet w ⟨now, id, .utterance text⟩).2 = (e.handleUtterance now id text w).2 := by
  rw [meet]

/-- **What a call makes of the sessions**: nothing, or a turn of its own session is put back, or its
own session is dropped. -/
lemma meet_cases (hstore : e.store.Faithful held) (hown : HeldByOwnId (held w.sessions))
    (c : Contact) :
    held (e.meet w c).2.sessions = held w.sessions ∨
    (∃ text, c.call = .utterance text ∧ held (e.meet w c).2.sessions =
      Function.update (held w.sessions) c.session
        (some (e.next (metBy c.session c.now (held w.sessions c.session))
          ⟨c.now, text, w.source⟩))) ∨
    (c.call = .ending ∧
      held (e.meet w c).2.sessions = Function.update (held w.sessions) c.session none) := by
  obtain ⟨now, id, call⟩ := c
  cases call with
  | ending =>
      simp only [meet, endSession]
      cases hdelete : e.store.delete w.sessions id with
      | error error => exact .inl rfl
      | ok sessions => exact .inr (.inr ⟨trivial, hstore.delete_eq hdelete⟩)
  | utterance text =>
      cases hget : e.store.get w.sessions id with
      | error error =>
          simp only [meet, handleUtterance_of_get_error hget]
          exact .inl trivial
      | ok found =>
          obtain rfl := hstore.get_eq hget
          simp only [meet]
          rcases (handleUtterance_settles hget).cases with ⟨hput, _⟩ | ⟨error, _, _, hsame⟩
          · refine .inr (.inl ⟨text, rfl, ?_⟩)
            rw [hstore.put_eq hput, id_next, id_metBy hown]
          · exact .inl (congrArg held hsame)

/-- Every call leaves the sessions under their own ids. -/
lemma heldByOwnId_meet (hstore : e.store.Faithful held) (hown : HeldByOwnId (held w.sessions))
    (c : Contact) : HeldByOwnId (held (e.meet w c).2.sessions) := by
  rcases meet_cases hstore hown c with h | ⟨text, _, h⟩ | ⟨_, h⟩
  · rwa [h]
  · rw [h]
    refine hown.update fun s hs => ?_
    rw [← Option.some.inj hs, id_next, id_metBy hown]
  · rw [h]
    exact hown.update fun s hs => by cases hs

/-! ## One slot of one session -/

/-- The value of a slot of the session under an id, if there is one. -/
def remembered (held : τ → String → Option Session) (w : World σ τ) (id slot : String) :
    Option Json :=
  (held w.sessions id).bind (·.slots.find? slot)

/-- The call is a turn of the session that commits, and its handler sets the slot. -/
def Sets (e : Engine σ τ) (held : τ → String → Option Session) (id slot : String) (w : World σ τ)
    (c : Contact) : Prop :=
  c.session = id ∧ ∃ text r, c.call = .utterance text ∧
    let s := metBy id c.now (held w.sessions id)
    let o : Occasion σ := ⟨c.now, text, w.source⟩
    e.Commits s o r ∧ slot ∈ (writes (e.trace s o r)).map (·.1)

/-- A new session remembers nothing. -/
lemma find?_slots_metBy (w : World σ τ) (id slot : String) (now : Timestamp) :
    (metBy id now (held w.sessions id)).slots.find? slot = remembered held w id slot := by
  rw [remembered]
  cases held w.sessions id with
  | none => rfl
  | some s => rfl

/-- A turn that does not commit leaves every slot alone, and one that commits leaves those alone
that its handler did not set. -/
lemma find?_slots_next {s : Session} {o : Occasion σ} {slot : String}
    (h : ∀ r, e.Commits s o r → slot ∉ (writes (e.trace s o r)).map (·.1)) :
    (e.next s o).slots.find? slot = s.slots.find? slot := by
  rcases turn_cases e s o with ⟨error, herror⟩ | ⟨r, hcommits⟩ | ⟨r, error, hfails⟩
  · rw [next_of_error herror]
  · rw [hcommits.slots_next, Dict.find?_overwrite,
      Dict.lastValue?_eq_none_iff.mpr (h r hcommits), Option.none_or]
  · rw [next_of_fails hfails]

/-- **A call that does not set a slot leaves it alone**, unless it ends the session. -/
lemma remembered_meet (hstore : e.store.Faithful held) (hown : HeldByOwnId (held w.sessions))
    {c : Contact} {id slot : String} (hsets : ¬ e.Sets held id slot w c) :
    remembered held (e.meet w c).2 id slot = remembered held w id slot ∨
    (c.session = id ∧ c.call = .ending ∧ remembered held (e.meet w c).2 id slot = none) := by
  by_cases hid : c.session = id
  · rcases meet_cases hstore hown c with h | ⟨text, hcall, h⟩ | ⟨hcall, h⟩
    · left
      rw [remembered, h, remembered]
    · left
      subst hid
      have hslot : ∀ r, e.Commits (metBy c.session c.now (held w.sessions c.session))
          ⟨c.now, text, w.source⟩ r → slot ∉ (writes (e.trace _ ⟨c.now, text, w.source⟩ r)).map
            (·.1) :=
        fun r hcommits hmem => hsets ⟨rfl, text, r, hcall, hcommits, hmem⟩
      rw [remembered, h, Function.update_self, Option.bind_some, find?_slots_next hslot,
        find?_slots_metBy]
    · right
      refine ⟨hid, hcall, ?_⟩
      rw [remembered, h, hid, Function.update_self, Option.bind_none]
  · left
    rcases meet_cases hstore hown c with h | ⟨text, _, h⟩ | ⟨_, h⟩
    · rw [remembered, h, remembered]
    · rw [remembered, h, Function.update_of_ne (Ne.symm hid), remembered]
    · rw [remembered, h, Function.update_of_ne (Ne.symm hid), remembered]

/-! ## Any number of calls -/

/-- None of the calls, each in the world that it finds, is of a certain kind. -/
def Never (e : Engine σ τ) (p : World σ τ → Contact → Prop) (w : World σ τ)
    (cs : List Contact) : Prop :=
  ∀ before c later, cs = before ++ c :: later → ¬ p (e.after w before) c

lemma Never.cons {p : World σ τ → Contact → Prop} {c : Contact} {cs : List Contact}
    (h : e.Never p w (c :: cs)) : ¬ p w c ∧ e.Never p (e.meet w c).2 cs := by
  refine ⟨h [] c cs rfl, fun before c' later hcs => ?_⟩
  exact h (c :: before) c' later (by rw [hcs, List.cons_append])

variable {id slot : String} {cs : List Contact}

/-- A run of calls that neither set a slot nor end the session leaves the slot alone. -/
lemma remembered_after (hstore : e.store.Faithful held) (hown : HeldByOwnId (held w.sessions))
    (hsets : e.Never (e.Sets held id slot) w cs)
    (hends : ∀ c ∈ cs, c.session = id → c.call ≠ .ending) :
    remembered held (e.after w cs) id slot = remembered held w id slot := by
  induction cs generalizing w with
  | nil => rfl
  | cons c cs ih =>
      obtain ⟨hc, hcs⟩ := hsets.cons
      have hlater := ih (heldByOwnId_meet hstore hown c) hcs
        (fun c' hc' => hends c' (List.mem_cons_of_mem c hc'))
      rcases remembered_meet hstore hown hc with hsame | ⟨hid, hcall, _⟩
      · exact hlater.trans hsame
      · exact absurd hcall (hends c List.mem_cons_self hid)

/-- A slot without a value gets none, also when the session is ended and begun again. -/
lemma remembered_after_eq_none (hstore : e.store.Faithful held)
    (hown : HeldByOwnId (held w.sessions)) (hsets : e.Never (e.Sets held id slot) w cs)
    (hnone : remembered held w id slot = none) :
    remembered held (e.after w cs) id slot = none := by
  induction cs generalizing w with
  | nil => exact hnone
  | cons c cs ih =>
      obtain ⟨hc, hcs⟩ := hsets.cons
      refine ih (heldByOwnId_meet hstore hown c) hcs ?_
      rcases remembered_meet hstore hown hc with hsame | ⟨_, _, hnone'⟩
      · rw [hsame, hnone]
      · exact hnone'

/-! ## What handlers are shown -/

/-- An utterance of the session would be understood, and its handler, which has not set the slot
before, would be shown the turn. -/
def Shows (e : Engine σ τ) (held : τ → String → Option Session) (w : World σ τ)
    (id slot : String) (shown : Turn) : Prop :=
  ∃ now text r,
    let s := metBy id now (held w.sessions id)
    e.model.resolve s.activeGoal? text = .ok r ∧
      Looks (e.trace s ⟨now, text, w.source⟩ r) slot shown

/-- A handler that has not set a slot is shown what the utterance gave it, or else what the session
remembers; and what an utterance gives is never a list. -/
lemma Shows.get? {shown : Turn} (h : e.Shows held w id slot shown) :
    shown.get? slot = (shown.extracted.find? slot <|> remembered held w id slot) ∧
    ∀ value, shown.extracted.find? slot = some value → value.asItems? = none := by
  obtain ⟨now, text, r, hresolve, hlooks⟩ := h
  have hget := get?_of_looks hlooks
  rw [(values_startTurn _ _).1, find?_slots_metBy] at hget
  obtain ⟨before, x, later, htrace, hx, _⟩ := hlooks
  obtain ⟨hextracted, _⟩ := slots_of_seen? e.setting _ _ _ htrace hx
  rw [(values_startTurn _ _).2] at hextracted
  refine ⟨hget, fun value hvalue => ?_⟩
  rw [hextracted] at hvalue
  exact asItems?_of_resolve hresolve hvalue

/-- The handler announces records as a list, and `later` is what it does from then on. -/
def Announces (e : Engine σ τ) (s : Session) (o : Occasion σ) (r : Resolution) (l : ResultsList)
    (records : List Record) (later : List Event) : Prop :=
  ∃ before t source, e.trace s o r =
    before ++ Script.trace e.setting (l.respondWithItems records).run t source ++ later

/-- A turn that reports success after it announced a list has put the records into the session. -/
lemma Announces.remembered (hstore : e.store.Faithful held) (hown : HeldByOwnId (held w.sessions))
    {now : Timestamp} {text : String} {r : Resolution} {l : ResultsList} {records : List Record}
    {later : List Event}
    (hresolve : e.model.resolve (metBy id now (held w.sessions id)).activeGoal? text = .ok r)
    (h : e.Announces (metBy id now (held w.sessions id)) ⟨now, text, w.source⟩ r l records later)
    (hslot : l.slot ∉ (writes later).map (·.1)) {outcome : Outcome}
    (houtcome : (e.handleUtterance now id text w).1.outcome = .ok outcome)
    (hupdated : outcome.updated = true) :
    HeldByOwnId (held (e.handleUtterance now id text w).2.sessions) ∧
    Engine.remembered held (e.handleUtterance now id text w).2 id l.slot =
      some (.arr (records.map Json.ofDict)) := by
  have hkept := heldByOwnId_meet hstore hown ⟨now, id, .utterance text⟩
  rw [meet_utterance] at hkept
  refine ⟨hkept, ?_⟩
  obtain ⟨found, r', hget, hcommits, _, hput⟩ := exists_commits_of_updated houtcome hupdated
  obtain rfl := hstore.get_eq hget
  obtain rfl : r' = r := Except.ok.inj (hcommits.1.symm.trans hresolve)
  obtain ⟨before, t, source, htrace⟩ := h
  have hid := (id_next e _ ⟨now, text, w.source⟩).trans (id_metBy hown id now)
  rw [Engine.remembered, hstore.put_eq hput, hid, Function.update_self, Option.bind_some,
    hcommits.slots_next, Dict.find?_overwrite, htrace, lastValue?_announced hslot, Option.some_or]

/-- **A list answers with the records that were announced last.**  Let the store be faithful, as
one in memory is, with every session under its own id, and let the model have the goal of the list.
Then announcing succeeds, and the handler that did it finds the records.  If its turn reports
success, so does every later handler of the session: it gets all of them, each of them under its
number, and an error with the number and the length for every other number, whatever calls there
were in between.  What must not happen is that a slot with the name of the list is set, by the
handler itself or in another turn that commits, that the utterance gives it a value, or that the
session is ended.  A session in which the slot has never been set says that nothing was listed. -/
theorem listed_records_stay :
    SessionStore.inMemory.Faithful Dict.find? ∧
    ∀ (e : Engine σ τ) (held : τ → String → Option Session), e.store.Faithful held →
      ∀ l : ResultsList, e.model.hasGoal l.interactionGoal = true →
        (∀ records t source,
          (Script.run e.setting (l.respondWithItems records).run t source).1 = .ok ()) ∧
        ∀ (w : World σ τ) (id : String), HeldByOwnId (held w.sessions) →
          (∀ now text r records later,
            let s := metBy id now (held w.sessions id)
            let turn := e.handleUtterance now id text w
            e.model.resolve s.activeGoal? text = .ok r →
            e.Announces s ⟨now, text, w.source⟩ r l records later →
              (∀ shown, Looks later l.slot shown → shown.extracted.find? l.slot = none →
                l.Answers shown records) ∧
              ∀ outcome, turn.1.outcome = .ok outcome → outcome.updated = true →
                l.slot ∉ (writes later).map (·.1) →
                ∀ cs, e.Never (e.Sets held id l.slot) turn.2 cs →
                  (∀ c ∈ cs, c.session = id → c.call ≠ .ending) →
                    ∀ shown, e.Shows held (e.after turn.2 cs) id l.slot shown →
                      shown.extracted.find? l.slot = none → l.Answers shown records) ∧
          (remembered held w id l.slot = none →
            ∀ cs, e.Never (e.Sets held id l.slot) w cs →
              ∀ shown, e.Shows held (e.after w cs) id l.slot shown → l.Unlisted shown) := by
  refine ⟨SessionStore.faithful_inMemory, fun e held hstore l hgoal => ⟨fun records t source =>
    result_respondWithItems e.setting t source l records hgoal, fun w id hown => ⟨?_, ?_⟩⟩⟩
  · intro now text r records later s turn hresolve hannounces
    constructor
    · intro shown hlooks hextracted
      obtain ⟨before, t, source, htrace⟩ := hannounces
      exact answers_of_announced htrace hlooks hextracted
    · intro outcome houtcome hupdated hslot cs hsets hends shown hshows hextracted
      obtain ⟨hkept, hannounced⟩ :=
        hannounces.remembered hstore hown hresolve hslot houtcome hupdated
      refine ResultsList.answers_of_get? ?_
      rw [hshows.get?.1, hextracted, remembered_after hstore hkept hsets hends, hannounced]
      rfl
  · intro hnone cs hsets shown hshows
    refine ResultsList.unlisted_of_get? ?_
    obtain ⟨hget, hvalue⟩ := hshows.get?
    rw [hget, remembered_after_eq_none hstore hown hsets hnone]
    cases hextracted : shown.extracted.find? l.slot with
    | none => rfl
    | some value => exact hvalue value hextracted

/-- The list of leads. -/
def leadsList : ResultsList := ⟨"leads", "lead", "leads", "Name"⟩

/-- Ann and Bob. -/
def annAndBob : List Record :=
  [.ofList [("Name", .str "Ann")], .ofList [("Name", .str "Bob")]]

/-- Says who the second lead is. -/
def secondLead : Binding :=
  ⟨⟨"second", [[.word "second".toList]]⟩, .immediate (do
    let lead ← Act.listed (leadsList.item · 2)
    Act.say (lead.spokenField "Name"))⟩

/-- A desk that lists the leads and says who the second one is. -/
def listDesk : Engine Unit (Dict Session) where
  model :=
    { types := .empty
      globals :=
        [⟨⟨"list", [[.word "list".toList]]⟩, .immediate (leadsList.respondWithItems annAndBob)⟩,
          secondLead]
      goals := [⟨leadsList.interactionGoal, ["Which one?"], []⟩] }
  source := ⟨fun _ _ _ s => (⟨0, .ok []⟩, s), fun _ _ _ _ _ s => (⟨0, .ok []⟩, s),
    fun _ r _ s => (⟨0, .ok r⟩, s), "none"⟩
  store := .inMemory
  projection := ⟨'*', .empty⟩
  fallback := .default
  patience := 0

/-- The world after the leads were listed. -/
def listedWorld : World Unit (Dict Session) :=
  (listDesk.handleUtterance .epoch "s" "List!" ⟨(), .empty⟩).2

/-- The leads are listed, then comes something that is not understood; the handler of the next
utterance still finds Ann and Bob. -/
theorem leads_stay :
    let w := listDesk.after listedWorld [⟨.epoch, "s", .utterance "Hm."⟩]
    ∃ shown, listDesk.Shows Dict.find? w "s" "leads" shown ∧ leadsList.Answers shown annAndBob := by
  intro w
  obtain ⟨hfaithful, hlists⟩ := @listed_records_stay Unit (Dict Session)
  have hown : HeldByOwnId (Dict.find? (.empty : Dict Session)) := fun id s h => by cases h
  have hlist := (hlists listDesk _ hfaithful leadsList (by decide)).2 ⟨(), .empty⟩ "s" hown
  have hstay := (hlist.1 .epoch "List!" _ annAndBob [] rfl ⟨[], _, (), rfl⟩).2
  have hspares : listDesk.Never (listDesk.Sets Dict.find? "s" "leads") listedWorld
      [⟨.epoch, "s", .utterance "Hm."⟩] := by
    intro before c later hcs
    rcases List.append_eq_singleton_iff.mp hcs.symm with ⟨rfl, hc⟩ | ⟨_, hc⟩
    · obtain ⟨rfl, _⟩ := List.cons.inj hc
      rintro ⟨_, text, r, hcall, ⟨hresolve, _⟩, _⟩
      obtain rfl := Call.utterance.inj hcall
      have hunknown : (listDesk.model.resolve
          (metBy "s" .epoch (listedWorld.sessions.find? "s")).activeGoal? "Hm.").isOk = false := by
        decide +kernel
      exact Bool.noConfusion (hunknown.symm.trans (congrArg Except.isOk hresolve))
    · cases hc
  have hactive : (metBy "s" .epoch (w.sessions.find? "s")).activeGoal? =
      some "interactionWithleads" := by decide +kernel
  obtain ⟨shown, hshows, hextracted⟩ : ∃ shown, listDesk.Shows Dict.find? w "s" "leads" shown ∧
      shown.extracted.find? "leads" = none := by
    refine ⟨_, ⟨.epoch, "Second?", ⟨secondLead, .global, .empty⟩, ?_, [], ⟨_, .observe, _⟩, _, rfl,
      rfl, List.not_mem_nil⟩, ?_⟩
    · rw [hactive]
      rfl
    · rfl
  refine ⟨shown, hshows, hstay _ rfl rfl List.not_mem_nil _ hspares (fun c hc => ?_) shown hshows
    hextracted⟩
  obtain rfl := List.mem_singleton.mp hc
  exact fun _ => Call.noConfusion

end Engine

end Dialogue
