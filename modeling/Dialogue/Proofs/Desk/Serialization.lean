import Dialogue.Proofs.Desk.Locks
import Dialogue.Proofs.Engine.Isolation
import Dialogue.Proofs.Engine.Retention

/-!
# Turns of one session, one after the other

A turn reads its session from the store, works for a while, and writes it back.  If another call on
the session came in between, what it wrote would be lost.  This file follows what the store is
asked about each session, whatever the order in which the calls get on, and shows that a turn's
reading and writing always stand next to each other.

* `Desk.Touch`, `Desk.touches` — what calls read from the store and leave in it during a run.
* `Desk.Serial` — the touches of one session, as if its calls had been served one by one.
* `Desk.Serialized` — the invariant: a turn that has read its session was the last to touch it.
  `serialized_step` and `serialized_run` say that steps and runs keep it.
* **`turns_are_serialized`** — calls on one session share a lock and are served one at a time, no
  update is lost, and no lock stays behind.
-/

namespace Dialogue

variable {σ τ : Type}

/-! ## How far a turn has got -/

/-- A turn that read `s` has it still before it, or has worked on it. -/
def Phase.Follows (e : Engine σ τ) (id text : String) (s : Option Session) : Phase → Prop
  | .fetched found => found = s
  | .answered a => ∃ now source, a = (e.answer (Engine.metBy id now s) text source).1
  | _ => False

/-- Whether a turn has read its session and has not written it back. -/
def Phase.underway : Phase → Bool
  | .fetched _ | .answered _ => true
  | _ => false

lemma Phase.holdsLock_of_underway {phase : Phase} (h : phase.underway = true) :
    phase.holdsLock = true := by
  cases phase <;> first | rfl | cases h

namespace Desk

/-! ## What calls do to sessions -/

/-- A call reads a session from the store, or leaves one there or none. -/
inductive Access where
  | found (session : Option Session)
  | left (session : Option Session)

/-- The call with a number, on a session, has access to it. -/
structure Touch where
  ticket : ℕ
  session : String
  call : Call
  access : Access

/-- What a step reads from the store or leaves in it.  When the store fails, that is nothing. -/
def touch? (e : Engine σ τ) (d : Desk σ τ) : Step → Option Touch
  | .fetch n => do
    let t ← d.ticket? n
    match t.phase, t.call with
    | .holding, .utterance _ =>
      match e.store.get d.world.sessions t.session with
      | .ok found => some ⟨n, t.session, t.call, .found found⟩
      | .error _ => none
    | _, _ => none
  | .commit now n => do
    let t ← d.ticket? n
    match t.phase, t.call with
    | .answered answered, .utterance _ =>
      match e.store.put d.world.sessions (answered.session.finishTurn now) with
      | .ok _ => some ⟨n, t.session, t.call, .left (some (answered.session.finishTurn now))⟩
      | .error _ => none
    | .fetched _, .ending =>
      match e.store.delete d.world.sessions t.session with
      | .ok _ => some ⟨n, t.session, t.call, .left none⟩
      | .error _ => none
    | _, _ => none
  | .arrive _ _ | .acquire _ | .work _ _ | .leave _ | .abandon _ => none

/-- What the steps of a run read from the store and leave in it. -/
def touches (e : Engine σ τ) (d : Desk σ τ) : List Step → List Touch
  | [] => []
  | s :: ss => (d.touch? e s).toList ++ ((d.step e s).map fun d => touches e d ss).getD []

/-- The touches of one session that lead from one state of it to another while no two calls on it
are mixed up: a turn reads what was left last, and what it leaves comes of what it read and follows
at once.  A turn that has only read may be under way, or the store has not taken its session. -/
inductive Serial (e : Engine σ τ) (id : String) (start : Option Session) :
    List Touch → Option Session → Prop
  | nil : Serial e id start [] start
  | read {before : List Touch} {s : Option Session} (n : ℕ) (text : String) :
      Serial e id start before s →
      Serial e id start (before ++ [⟨n, id, .utterance text, .found s⟩]) s
  | turn {before : List Touch} {s : Option Session} (n : ℕ) (text : String) (source : σ)
      (now later : Timestamp) {s' : Session} :
      Serial e id start before s →
      s' = (e.answer (Engine.metBy id now s) text source).1.session.finishTurn later →
      Serial e id start (before ++ [⟨n, id, .utterance text, .found s⟩] ++
        [⟨n, id, .utterance text, .left (some s')⟩]) (some s')
  | ended {before : List Touch} {s : Option Session} (n : ℕ) :
      Serial e id start before s → Serial e id start (before ++ [⟨n, id, .ending, .left none⟩]) none

/-- The touches of one session. -/
def Touch.on (id : String) (ts : List Touch) : List Touch := ts.filter (·.session == id)

lemma Touch.on_append_self {id : String} {t : Touch} (ts : List Touch) (h : t.session = id) :
    Touch.on id (ts ++ [t]) = Touch.on id ts ++ [t] := by
  simp [on, h]

lemma Touch.on_append_of_ne {id : String} {t : Touch} (ts : List Touch) (h : t.session ≠ id) :
    Touch.on id (ts ++ [t]) = Touch.on id ts := by
  simp [on, h]

/-! ## The invariant -/

/-- The turn with a number was the last to touch its session, and goes on from what it read. -/
def Ongoing (e : Engine σ τ) (start : String → Option Session) (ts : List Touch) (n : ℕ)
    (t : Ticket) (text : String) (s : Option Session) : Prop :=
  t.phase.Follows e t.session text s ∧
    ∃ before, Touch.on t.session ts = before ++ [⟨n, t.session, .utterance text, .found s⟩] ∧
      Serial e t.session (start t.session) before s

/-- After touches, beginning with the sessions `start`: the touches of every session lead to what
the store holds, and a turn that is under way was the last to touch its session. -/
structure Serialized (e : Engine σ τ) (held : τ → String → Option Session)
    (start : String → Option Session) (ts : List Touch) (d : Desk σ τ) : Prop where
  own : HeldByOwnId (held d.world.sessions)
  serial : ∀ id, Serial e id (start id) (Touch.on id ts) (held d.world.sessions id)
  ongoing : ∀ n t text, (n, t) ∈ d.tickets → t.call = .utterance text →
    t.phase.underway = true → Ongoing e start ts n t text (held d.world.sessions t.session)

variable {e : Engine σ τ} {held : τ → String → Option Session} {start : String → Option Session}
  {ts : List Touch} {d d' : Desk σ τ}

lemma serialized_idle {w : World σ τ} (hown : HeldByOwnId (held w.sessions)) :
    Serialized e held (held w.sessions) [] (idle w) where
  own := hown
  serial _ := .nil
  ongoing _ _ _ hmem := absurd hmem List.not_mem_nil

/-- Steps that touch no session keep the invariant if turns under way only get on. -/
lemma Serialized.untouched (h : Serialized e held start ts d)
    (hworld : held d'.world.sessions = held d.world.sessions)
    (hon : ∀ n t text, (n, t) ∈ d'.tickets → t.call = .utterance text →
      t.phase.underway = true → ∃ phase, (n, { t with phase }) ∈ d.tickets ∧
        phase.underway = true ∧
        ∀ s, phase.Follows e t.session text s → t.phase.Follows e t.session text s) :
    Serialized e held start ts d' := by
  refine ⟨hworld ▸ h.own, hworld ▸ h.serial, fun n t text hmem hcall hunderway => ?_⟩
  obtain ⟨phase, hold, hunderway', hfollows⟩ := hon n t text hmem hcall hunderway
  obtain ⟨hread, hlast⟩ := h.ongoing n { t with phase } text hold hcall hunderway'
  rw [hworld]
  exact ⟨hfollows _ hread, hlast⟩

/-- A step by which the only call that is served on a session touches it keeps the invariant, if it
does for this session. -/
lemma Serialized.touched (h : Serialized e held start ts d) {n : ℕ} {t : Ticket} {phase : Phase}
    {world : World σ τ} {found : Option Session} {access : Access} (horderly : d.Orderly)
    (ht : (n, t) ∈ d.tickets) (hholds : t.phase.holdsLock = true)
    (hheld : held world.sessions = Function.update (held d.world.sessions) t.session found)
    (hfound : ∀ s, found = some s → s.id = t.session)
    (hserial : Serial e t.session (start t.session)
      (Touch.on t.session ts ++ [⟨n, t.session, t.call, access⟩]) found)
    (hon : phase.underway = true → ∀ text, t.call = .utterance text →
      Ongoing e start (ts ++ [⟨n, t.session, t.call, access⟩]) n { t with phase } text found) :
    Serialized e held start (ts ++ [⟨n, t.session, t.call, access⟩])
      { d.advance n phase with world } := by
  refine ⟨?_, fun id => ?_, fun m u text hu hcall hunderway => ?_⟩
  · rw [hheld]
    exact h.own.update hfound
  · dsimp only
    rw [hheld]
    by_cases hid : t.session = id
    · subst hid
      rw [Function.update_self, Touch.on_append_self ts (t := ⟨n, t.session, t.call, access⟩) rfl]
      exact hserial
    · rw [Function.update_of_ne (Ne.symm hid), Touch.on_append_of_ne ts hid]
      exact h.serial id
  · dsimp only
    rw [hheld]
    obtain ⟨u', hu', rfl⟩ := mem_advance.mp hu
    by_cases hm : m = n
    · subst hm
      obtain rfl := horderly.eq_of_mem hu' ht
      rw [if_pos rfl] at hcall hunderway ⊢
      rw [Function.update_self]
      exact hon hunderway text hcall
    · rw [if_neg hm] at hcall hunderway ⊢
      -- No other call on the session is under way.
      have hne : u'.session ≠ t.session := fun hsession =>
        hm (horderly.exclusive (m, u') hu' (n, t) ht hsession
          (Phase.holdsLock_of_underway hunderway) hholds)
      obtain ⟨hread, hlast⟩ := h.ongoing m u' text hu' hcall hunderway
      rw [Function.update_of_ne hne]
      refine ⟨hread, ?_⟩
      rwa [Touch.on_append_of_ne ts hne.symm]

/-- A call that has gone, or that has not come so far, leaves the invariant as it is. -/
lemma Serialized.of_subset (h : Serialized e held start ts d)
    (hworld : held d'.world.sessions = held d.world.sessions)
    (hsub : ∀ x ∈ d'.tickets, x ∈ d.tickets ∨ x.2.phase.underway = false) :
    Serialized e held start ts d' := by
  refine h.untouched hworld fun n t text hmem hcall hunderway => ?_
  rcases hsub (n, t) hmem with hold | hidle
  · exact ⟨t.phase, hold, hunderway, fun s hs => hs⟩
  · rw [hunderway] at hidle
    cases hidle

/-- So does a call that gets on without touching its session. -/
lemma Serialized.advance (h : Serialized e held start ts d) {n : ℕ} {phase : Phase}
    {world : World σ τ} (hworld : world.sessions = d.world.sessions)
    (hon : ∀ t text, (n, t) ∈ d.tickets → t.call = .utterance text → phase.underway = true →
      t.phase.underway = true ∧
        ∀ s, t.phase.Follows e t.session text s → phase.Follows e t.session text s) :
    Serialized e held start ts { d.advance n phase with world } := by
  refine h.untouched (congrArg held hworld) fun m u text hu hcall hunderway => ?_
  obtain ⟨u', hu', rfl⟩ := mem_advance.mp hu
  by_cases hm : m = n
  · subst hm
    rw [if_pos rfl] at hcall hunderway ⊢
    obtain ⟨hunderway', hfollows⟩ := hon u' text hu' hcall hunderway
    exact ⟨u'.phase, hu', hunderway', hfollows⟩
  · rw [if_neg hm] at hcall hunderway ⊢
    exact ⟨u'.phase, hu', hunderway, fun s hs => hs⟩

/-- A call that is not in the middle of a turn afterwards has nothing to keep. -/
lemma Serialized.advance_of_idle (h : Serialized e held start ts d) {n : ℕ} {phase : Phase}
    {world : World σ τ} (hworld : world.sessions = d.world.sessions)
    (hidle : phase.underway = false) :
    Serialized e held start ts { d.advance n phase with world } :=
  h.advance hworld fun _ _ _ _ hunderway => absurd (hidle.symm.trans hunderway) Bool.false_ne_true

/-! ## Steps and runs -/

/-- What was fetched is what stands there, and the turn is the last to have touched it. -/
lemma serialized_fetch (hstore : e.store.Faithful held) (horderly : d.Orderly)
    (h : Serialized e held start ts d) {n : ℕ} (hstep : d.step e (.fetch n) = some d') :
    Serialized e held start (ts ++ (d.touch? e (.fetch n)).toList) d' := by
  obtain ⟨t, hticket, hphase, hcases⟩ := fetch_eq_some hstep
  have ht := mem_of_ticket? hticket
  rw [touch?, hticket]
  obtain ⟨session, call, lock, phase⟩ := t
  cases hphase
  rcases hcases with ⟨text, found, rfl, hget, rfl⟩ | ⟨text, error, rfl, hget, rfl⟩ | ⟨rfl, rfl⟩
  · obtain rfl := hstore.get_eq hget
    simp only [Option.bind_eq_bind, Option.bind_some, hget, Option.toList_some]
    refine h.touched horderly ht rfl (Function.update_eq_self _ _).symm (h.own session)
      (.read n text (h.serial session)) fun _ text' htext => ?_
    cases htext
    exact ⟨rfl, _, Touch.on_append_self ts rfl, h.serial session⟩
  · simp only [Option.bind_eq_bind, Option.bind_some, hget, Option.toList_none, List.append_nil]
    exact h.advance_of_idle rfl rfl
  · simp only [Option.bind_eq_bind, Option.bind_some, Option.toList_none, List.append_nil]
    refine h.advance rfl fun t text hmem hcall _ => ?_
    obtain rfl := horderly.eq_of_mem hmem ht
    cases hcall

/-- A turn works on the session that it has read. -/
lemma serialized_work (horderly : d.Orderly) (h : Serialized e held start ts d) {now : Timestamp}
    {n : ℕ} (hstep : d.step e (.work now n) = some d') :
    Serialized e held start (ts ++ (d.touch? e (.work now n)).toList) d' := by
  rw [step] at hstep
  obtain ⟨t, found, text, hticket, hphase, hcall, world, hworld, rfl⟩ := work_eq_some hstep
  rw [touch?, Option.toList_none, List.append_nil]
  refine h.advance hworld fun t' text' hmem htext _ => ?_
  obtain rfl := horderly.eq_of_mem hmem (mem_of_ticket? hticket)
  cases htext.symm.trans hcall
  rw [hphase]
  exact ⟨rfl, fun s hs => ⟨now, d.world.source, by rw [Engine.metBy, ← hs]⟩⟩

/-- What a turn writes back comes of what stands there, and nothing was left since it was read. -/
lemma serialized_commit (hstore : e.store.Faithful held) (horderly : d.Orderly)
    (h : Serialized e held start ts d) {now : Timestamp} {n : ℕ}
    (hstep : d.step e (.commit now n) = some d') :
    Serialized e held start (ts ++ (d.touch? e (.commit now n)).toList) d' := by
  obtain ⟨t, result, hticket, hcases⟩ := commit_eq_some hstep
  have ht := mem_of_ticket? hticket
  rw [touch?, hticket]
  obtain ⟨session, call, lock, phase⟩ := t
  rcases hcases with ⟨answered, text, sessions, hphase, hcall, hput, rfl⟩ |
    ⟨answered, text, error, hphase, hcall, hput, rfl⟩ |
    ⟨found, sessions, hphase, hcall, hdelete, rfl⟩ |
    ⟨found, error, hphase, hcall, hdelete, rfl⟩ <;> cases hphase <;> cases hcall
  · obtain ⟨hfollows, before, hbefore, hserial⟩ := h.ongoing n _ text ht rfl rfl
    dsimp only at hfollows hbefore hserial hput
    obtain ⟨now', source, hanswered⟩ := hfollows
    have hid : (answered.session.finishTurn now).id = session := by
      rw [Session.id_finishTurn, hanswered]
      exact Engine.id_answer e (h.own session) now' text source
    simp only [Option.bind_eq_bind, Option.bind_some, hput, Option.toList_some]
    refine h.touched horderly ht rfl ?_ (fun s hs => Option.some.inj hs ▸ hid) ?_
      fun hunderway => by cases hunderway
    · dsimp only
      rw [hstore.put_eq hput, hid]
    · dsimp only
      rw [hbefore]
      exact .turn n text source now' now hserial (by rw [hanswered])
  · simp only [Option.bind_eq_bind, Option.bind_some, hput, Option.toList_none, List.append_nil]
    exact h.advance_of_idle rfl rfl
  · simp only [Option.bind_eq_bind, Option.bind_some, hdelete, Option.toList_some]
    exact h.touched horderly ht rfl (hstore.delete_eq hdelete) (fun s hs => by cases hs)
      (.ended n (h.serial session)) fun hunderway => by cases hunderway
  · simp only [Option.bind_eq_bind, Option.bind_some, hdelete, Option.toList_none,
      List.append_nil]
    exact h.advance_of_idle rfl rfl

/-- **Every step keeps the touches of every session serial.** -/
theorem serialized_step (hstore : e.store.Faithful held) (horderly : d.Orderly)
    (h : Serialized e held start ts d) {s : Step} (hstep : d.step e s = some d') :
    Serialized e held start (ts ++ (d.touch? e s).toList) d' := by
  cases s with
  | fetch n => exact serialized_fetch hstore horderly h hstep
  | work now n => exact serialized_work horderly h hstep
  | commit now n => exact serialized_commit hstore horderly h hstep
  | arrive session call =>
      rw [touch?, Option.toList_none, List.append_nil]
      obtain rfl := Option.some.inj hstep
      refine h.of_subset (congrArg held (sessions_arrive d session call)) fun x hx => ?_
      rcases mem_arrive.mp hx with hold | rfl
      · exact .inl hold
      · exact .inr rfl
  | acquire n =>
      rw [touch?, Option.toList_none, List.append_nil]
      obtain ⟨t, -, -, -, rfl⟩ := acquire_eq_some hstep
      exact h.advance_of_idle rfl rfl
  | leave n =>
      rw [touch?, Option.toList_none, List.append_nil]
      obtain ⟨⟨result, d₁⟩, hleave, rfl⟩ := Option.map_eq_some_iff.mp hstep
      obtain ⟨t, -, ⟨-, -, rfl⟩ | ⟨-, rfl⟩⟩ := leave_eq_some hleave <;>
        exact h.of_subset rfl fun x hx => .inl (mem_remove.mp hx).1
  | abandon n =>
      rw [touch?, Option.toList_none, List.append_nil]
      obtain ⟨t, -, -, rfl⟩ := abandon_eq_some hstep
      exact h.of_subset rfl fun x hx => .inl (mem_remove.mp hx).1

/-- **Every run keeps the touches of every session serial.** -/
theorem serialized_run (hstore : e.store.Faithful held) (horderly : d.Orderly)
    (h : Serialized e held start ts d) {ss : List Step} (hrun : d.run e ss = some d') :
    Serialized e held start (ts ++ d.touches e ss) d' := by
  induction ss generalizing d ts with
  | nil =>
      obtain rfl := Option.some.inj hrun
      rwa [touches, List.append_nil]
  | cons s ss ih =>
      obtain ⟨d₁, hstep, hrest⟩ := run_cons hrun
      rw [touches, hstep, Option.map_some, Option.getD_some, ← List.append_assoc]
      exact ih (orderly_step horderly hstep) (serialized_step hstore horderly h hstep) hrest

/-- **Calls on one session are served one at a time**, in whatever order the calls come, get on, and
are given up.  All of them refer to the lock that the map has for the session, so at most one is
being served, and one that waits can begin as soon as none is.  The store is asked about each
session as if its calls had come one by one: a turn works on what the call before it has left, and
nothing that a call left is lost.  When all calls are over and none was given up, no lock is kept. -/
theorem turns_are_serialized {w : World σ τ} {ss : List Step} {d : Desk σ τ}
    (hstore : e.store.Faithful held) (hown : HeldByOwnId (held w.sessions))
    (hrun : (idle w).run e ss = some d) :
    (∀ x ∈ d.tickets, d.locks.find? x.2.session = some x.2.lock) ∧
    (∀ x ∈ d.tickets, ∀ y ∈ d.tickets, x.2.session = y.2.session →
      x.2.phase.holdsLock = true → y.2.phase.holdsLock = true → x.1 = y.1) ∧
    (∀ n t, d.ticket? n = some t → t.phase = .waiting →
      ((d.acquire n).isSome = true ↔
        ∀ x ∈ d.tickets, x.2.session = t.session → x.2.phase.holdsLock = false)) ∧
    (∀ id, Serial e id (held w.sessions id) (Touch.on id ((idle w).touches e ss))
      (held d.world.sessions id)) ∧
    ((∀ n, Step.abandon n ∉ ss) → d.tickets = [] → d.locks = .empty) := by
  have horderly := orderly_run (orderly_idle w) hrun
  have hserialized := serialized_run hstore (orderly_idle w) (serialized_idle hown) hrun
  refine ⟨horderly.refers, horderly.exclusive, fun n t hticket hphase => ?_, hserialized.serial,
    fun hss => ?_⟩
  · rw [← horderly.isHeld_eq_false_iff (mem_of_ticket? hticket), acquire_of_waiting hticket hphase]
    cases d.isHeld t.lock <;> simp
  · have hneeded : (idle w).Needed := fun id l hfind => by cases hfind
    exact (needed_run (orderly_idle w) hneeded hrun hss).locks_eq_empty

/-- Ann says something, and ends her session while that is still worked on; Bob comes in between. -/
theorem ann_is_served_one_by_one :
    let w : World Records (Dict Session) := ⟨.empty, .empty⟩
    let steps : List Step :=
      [.arrive "ann" (.utterance "Count!"), .acquire 0, .fetch 0, .arrive "ann" .ending,
        .arrive "bob" (.utterance "Count."), .acquire 2, .work .epoch 0, .fetch 2, .commit .epoch 0,
        .leave 0, .acquire 1, .fetch 1, .work .epoch 2, .commit .epoch 1, .leave 1,
        .commit .epoch 2, .leave 2]
    ∃ d, (idle w).run Engine.leadDesk steps = some d ∧ d.locks = .empty ∧
      Serial Engine.leadDesk "ann" none (Touch.on "ann" ((idle w).touches Engine.leadDesk steps))
        (d.world.sessions.find? "ann") := by
  intro w steps
  have hdone : ((idle w).run Engine.leadDesk steps).map (·.tickets.length) = some 0 := by decide
  obtain ⟨d, hrun, hidle⟩ := Option.map_eq_some_iff.mp hdone
  have hown : HeldByOwnId (Dict.find? w.sessions) := fun id s hfind => by cases hfind
  obtain ⟨-, -, -, hserial, hlocks⟩ :=
    turns_are_serialized SessionStore.faithful_inMemory hown hrun
  exact ⟨d, hrun, hlocks (by simp [steps]) (List.length_eq_zero_iff.mp hidle), hserial "ann"⟩

end Desk

end Dialogue
