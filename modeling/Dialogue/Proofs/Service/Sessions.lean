import Dialogue.Proofs.Demo.Model
import Dialogue.Proofs.Engine.Retention
import Dialogue.Proofs.Service.TimeLimit

/-!
# What clients see of the sessions

A client knows the sessions only by its own requests.  What the service tells of a session must
follow from them: it is there if something was said in it since it was last dropped, and then it has
had as many turns as that.  The turns may have ended in whatever way, and any number of other
sessions may have been served in between.

* `postsSinceDrop` — how often something was said in a session since it was last dropped, by the
  requests alone.
* `Http.Content.TellsOfSession` — what a response tells of a session.
* `Service.after`, `Service.InTime` — the state after visits, all of which are answered in time.
* `Service.serve_cases` — what one request makes of the sessions.
* `Service.Kept` — the sessions are those that the requests call for; `Kept.serve` says that every
  request keeps it so, and `Kept.after` that a run of them does.
* **`sessions_over_http`** — what the service tells, then, of a session and of its health.
-/

namespace Dialogue

open Http (Response Content)

/-! ## What requests amount to -/

namespace Http.Request

/-- Something is said in a session: its id is not blank, and the body holds an utterance. -/
def posts (r : Http.Request) (id : String) : Bool :=
  r.ask? == some (.post id) && !id.toList.all Text.isBlank && r.utterance.isOk

/-- A session is dropped. -/
def drops (r : Http.Request) (id : String) : Bool := r.ask? == some (.delete id)

variable {r : Http.Request} {id : String}

lemma posts_iff : r.posts id = true ↔ r.ask? = some (.post id) ∧
    id.toList.all Text.isBlank = false ∧ ∃ text, r.utterance = .ok text := by
  have hok : r.utterance.isOk = true ↔ ∃ text, r.utterance = .ok text := by
    cases r.utterance <;> simp [Except.isOk, Except.toBool]
  rw [posts, Bool.and_eq_true, Bool.and_eq_true, beq_iff_eq, Bool.not_eq_true', hok, and_assoc]

lemma drops_iff : r.drops id = true ↔ r.ask? = some (.delete id) := beq_iff_eq

/-- A request that asks for something else says nothing in a session. -/
lemma posts_eq_false (h : r.ask? ≠ some (.post id)) : r.posts id = false := by
  rw [posts, beq_false_of_ne h]
  rfl

/-- A request that asks for something else does not drop a session. -/
lemma drops_eq_false (h : r.ask? ≠ some (.delete id)) : r.drops id = false := beq_false_of_ne h

/-- A request that asks for neither is about no session. -/
lemma idle_of_ne (h : ∀ id, r.ask? ≠ some (.post id) ∧ r.ask? ≠ some (.delete id)) (id : String) :
    r.posts id = false ∧ r.drops id = false :=
  ⟨posts_eq_false (h id).1, drops_eq_false (h id).2⟩

end Http.Request

/-- How often something was said in a session since it was last dropped. -/
def postsSinceDrop (id : String) (rs : List Http.Request) : ℕ :=
  (rs.reverse.takeWhile fun r => !r.drops id).countP (·.posts id)

/-- One more request counts, or it starts the count anew. -/
lemma postsSinceDrop_concat (id : String) (rs : List Http.Request) (r : Http.Request) :
    postsSinceDrop id (rs ++ [r]) =
      if r.drops id then 0 else postsSinceDrop id rs + if r.posts id then 1 else 0 := by
  rw [postsSinceDrop, List.reverse_append, List.reverse_singleton, List.singleton_append,
    List.takeWhile_cons]
  cases r.drops id with
  | true => rfl
  | false =>
      rw [Bool.not_false, if_pos rfl, List.countP_cons]
      rfl

/-- A request that is not about a session does not count for it. -/
lemma postsSinceDrop_of_idle {id : String} (rs : List Http.Request) {r : Http.Request}
    (hposts : r.posts id = false) (hdrops : r.drops id = false) :
    postsSinceDrop id (rs ++ [r]) = postsSinceDrop id rs := by
  rw [postsSinceDrop_concat, hposts, hdrops]
  rfl

/-- The content tells of a session that has had some turns: its goals, the last of which is active,
and the names of its slots in order, none of them twice. -/
def Http.Content.TellsOfSession (content : Content) (id : String) (turns : ℕ) : Prop :=
  ∃ (members : Dict Json) (goals slots : List String), content = .data (.ofDict members) ∧
    members.find? "session_id" = some (.str id) ∧
    members.find? "turn_count" = some (.int turns) ∧
    members.find? "goals" = some (.arr (goals.map .str)) ∧
    members.find? "active_goal" = some ((goals.getLast?.map .str).getD .null) ∧
    members.find? "slots" = some (.arr (slots.map .str)) ∧ slots.Pairwise (· < ·)

/-! ## Visits -/

/-- A request that reaches the service at some time. -/
structure Visit where
  now : Timestamp
  request : Http.Request

namespace Service

section Runs

variable {σ τ : Type}

/-- The state after visits, one after the other. -/
def after (s : Service σ τ) (w : World σ τ) (visits : List Visit) : World σ τ :=
  visits.foldl (fun w v => (s.serve v.now v.request w).2) w

/-- The responses to visits, one after the other. -/
def responses (s : Service σ τ) : World σ τ → List Visit → List Response
  | _, [] => []
  | w, v :: visits =>
    (s.serve v.now v.request w).1 :: s.responses (s.serve v.now v.request w).2 visits

/-- No visit takes longer than the service allows. -/
def InTime (s : Service σ τ) (w : World σ τ) (visits : List Visit) : Prop :=
  ∀ response ∈ s.responses w visits, response.status ≠ 408

end Runs

/-! ## One request -/

variable {σ : Type} {s : Service σ (Dict Session)} {w : World σ (Dict Session)} {now : Timestamp}
  {r : Http.Request} {id : String}

/-- How many turns a session has had that may not be there. -/
def turnsOf (found : Option Session) : ℕ := found.elim 0 Session.turns

/-- Over sessions in memory, every utterance puts its session back with one more turn, whether or
not it is understood and its handler succeeds. -/
lemma held_handleUtterance {e : Engine σ (Dict Session)} (hmemory : e.store = .inMemory)
    (hown : HeldByOwnId w.sessions.find?) (now : Timestamp) (id text : String) :
    ∃ left : Session, left.id = id ∧ left.turns = turnsOf (w.sessions.find? id) + 1 ∧
      (e.handleUtterance now id text w).2.sessions.find? =
        Function.update w.sessions.find? id (some left) := by
  have hget : e.store.get w.sessions id = .ok (w.sessions.find? id) := by
    rw [hmemory]
    rfl
  have hsettles : e.Settles w (e.handleUtterance now id text w) _ _ :=
    Engine.handleUtterance_settles hget
  rw [Engine.Settles, hmemory] at hsettles
  have hid : (e.next (Engine.metBy id now (w.sessions.find? id)) ⟨now, text, w.source⟩).id = id :=
    (Engine.id_next e _ _).trans (Engine.id_metBy hown id now)
  refine ⟨_, hid, ?_, ?_⟩
  · rw [Engine.turns_next]
    cases w.sessions.find? id <;> rfl
  · rw [hsettles.2, SessionStore.faithful_inMemory.put_eq rfl, hid]

/-- Posting says something in the session, or it changes nothing. -/
lemma say_of_posts (s : Service σ (Dict Session)) (now : Timestamp) (w : World σ (Dict Session))
    (h : r.posts id = true) :
    ∃ text, (s.say now id r w).2.2 = (s.engine.handleUtterance now id text w).2 := by
  obtain ⟨-, hblank, text, htext⟩ := Http.Request.posts_iff.mp h
  refine ⟨text, ?_⟩
  rw [say, htext]
  simp [hblank]

lemma say_of_not_posts (hask : r.ask? = some (.post id)) (h : r.posts id = false) :
    (s.say now id r w).2.2 = w := by
  rw [say]
  cases htext : r.utterance with
  | error fault => rfl
  | ok text =>
      have hblank : id.toList.all Text.isBlank = true := by
        by_contra hblank
        have hposts := Http.Request.posts_iff.mpr ⟨hask, Bool.not_eq_true _ ▸ hblank, text, htext⟩
        exact Bool.false_ne_true (h ▸ hposts)
      simp [hblank]

/-- Dropping a session in memory succeeds, be it there or not. -/
lemma drop_of_inMemory (hmemory : s.engine.store = .inMemory) :
    (s.drop id w).1 = .bare 204 ∧
      (s.drop id w).2.sessions.find? = Function.update w.sessions.find? id none := by
  have hdrop : s.drop id w = (.bare 204, { w with sessions := w.sessions.erase id }) := by
    rw [drop, Engine.endSession, hmemory]
    rfl
  rw [hdrop]
  exact ⟨rfl, SessionStore.faithful_inMemory.delete_eq rfl⟩

/-- **What a request makes of the sessions** in memory: it says something in one, it drops one, or
everything stays as it was. -/
lemma serve_cases (hmemory : s.engine.store = .inMemory) (hown : HeldByOwnId w.sessions.find?)
    (htime : (s.serve now r w).1.status ≠ 408) :
    (∃ id left, r.posts id = true ∧ left.id = id ∧
      left.turns = turnsOf (w.sessions.find? id) + 1 ∧
      (s.serve now r w).2.sessions.find? = Function.update w.sessions.find? id (some left)) ∨
    (∃ id, r.drops id = true ∧
      (s.serve now r w).2.sessions.find? = Function.update w.sessions.find? id none) ∨
    (∀ id, r.posts id = false ∧ r.drops id = false) ∧ (s.serve now r w).2 = w := by
  cases hask : r.ask? with
  | none =>
      exact .inr (.inr ⟨Http.Request.idle_of_ne (by simp [hask]), serve_of_no_ask hask⟩)
  | some ask =>
      obtain ⟨-, -, hserve⟩ := serve_of_ask hask htime
      cases ask with
      | post id =>
          cases hposts : r.posts id with
          | true =>
              obtain ⟨text, hsay⟩ := say_of_posts s now w hposts
              obtain ⟨left, hid, hturns, hheld⟩ := held_handleUtterance hmemory hown now id text
              exact .inl ⟨id, left, hposts, hid, hturns, by rw [hserve, fulfil, hsay, hheld]⟩
          | false =>
              refine .inr (.inr ⟨fun other => ⟨?_, ?_⟩, ?_⟩)
              · by_cases hother : other = id
                · rw [hother, hposts]
                · exact Http.Request.posts_eq_false (by simp [hask, Ne.symm hother])
              · exact Http.Request.drops_eq_false (by simp [hask])
              · rw [hserve, fulfil, say_of_not_posts hask hposts]
      | delete id =>
          exact .inr (.inl ⟨id, Http.Request.drops_iff.mpr hask,
            by rw [hserve, fulfil, (drop_of_inMemory hmemory).2]⟩)
      | get id =>
          exact .inr (.inr ⟨Http.Request.idle_of_ne (by simp [hask]), hserve⟩)
      | health =>
          exact .inr (.inr ⟨Http.Request.idle_of_ne (by simp [hask]), hserve⟩)

/-! ## Any number of requests -/

/-- The sessions that are held are those that the requests call for, with as many turns. -/
structure Kept (held : String → Option Session) (rs : List Http.Request) : Prop where
  own : HeldByOwnId held
  turns : ∀ id, turnsOf (held id) = postsSinceDrop id rs
  begun : ∀ id s, held id = some s → 0 < s.turns

variable {held : String → Option Session} {rs : List Http.Request}

/-- Before the first request there are no sessions. -/
lemma kept_empty : Kept (Dict.empty : Dict Session).find? [] where
  own := fun id s hs => by cases hs
  turns := fun id => rfl
  begun := fun id s hs => by cases hs

/-- A session is held exactly if something was said in it. -/
lemma Kept.eq_none_iff (h : Kept held rs) : held id = none ↔ postsSinceDrop id rs = 0 := by
  rw [← h.turns id]
  cases hheld : held id with
  | none => simp [turnsOf]
  | some s => simp [turnsOf, (h.begun id s hheld).ne']

/-- One session changes as the request calls for, and the others stay as they are. -/
lemma Kept.update (h : Kept held rs) {found : Option Session}
    (hfound : ∀ s, found = some s → s.id = id ∧ 0 < s.turns)
    (hturns : turnsOf found = postsSinceDrop id (rs ++ [r]))
    (hothers : ∀ other, other ≠ id → r.posts other = false ∧ r.drops other = false) :
    Kept (Function.update held id found) (rs ++ [r]) where
  own := h.own.update fun s hs => (hfound s hs).1
  turns other := by
    by_cases hother : other = id
    · rw [hother, Function.update_self, hturns]
    · obtain ⟨hposts, hdrops⟩ := hothers other hother
      rw [Function.update_of_ne hother, h.turns, postsSinceDrop_of_idle rs hposts hdrops]
  begun other s hs := by
    by_cases hother : other = id
    · rw [hother, Function.update_self] at hs
      exact (hfound s hs).2
    · rw [Function.update_of_ne hother] at hs
      exact h.begun other s hs

/-- **A request keeps the sessions those that are called for.** -/
lemma Kept.serve (h : Kept w.sessions.find? rs) (hmemory : s.engine.store = .inMemory)
    (htime : (s.serve now r w).1.status ≠ 408) :
    Kept (s.serve now r w).2.sessions.find? (rs ++ [r]) := by
  rcases serve_cases hmemory h.own htime with
    ⟨id, left, hposts, hid, hturns, hheld⟩ | ⟨id, hdrops, hheld⟩ | ⟨hidle, hheld⟩
  · have hask := (Http.Request.posts_iff.mp hposts).1
    have hdrops (other : String) : r.drops other = false :=
      Http.Request.drops_eq_false (by simp [hask])
    rw [hheld]
    refine h.update (fun s hs => ?_) ?_ fun other hother => ⟨?_, hdrops other⟩
    · obtain rfl := Option.some.inj hs
      exact ⟨hid, by omega⟩
    · rw [postsSinceDrop_concat, hdrops, hposts, ← h.turns]
      exact hturns
    · exact Http.Request.posts_eq_false (by simp [hask, hother.symm])
  · have hask := Http.Request.drops_iff.mp hdrops
    rw [hheld]
    refine h.update (fun s hs => by cases hs) ?_ fun other hother => ⟨?_, ?_⟩
    · rw [postsSinceDrop_concat, hdrops]
      rfl
    · exact Http.Request.posts_eq_false (by simp [hask])
    · exact Http.Request.drops_eq_false (by simp [hask, hother.symm])
  · rw [hheld]
    refine ⟨h.own, fun id => ?_, h.begun⟩
    rw [postsSinceDrop_of_idle rs (hidle id).1 (hidle id).2]
    exact h.turns id

/-- **A run of requests does.** -/
lemma Kept.after (h : Kept w.sessions.find? rs) (hmemory : s.engine.store = .inMemory)
    {visits : List Visit} (htime : s.InTime w visits) :
    Kept (s.after w visits).sessions.find? (rs ++ visits.map Visit.request) := by
  -- The induction takes the first visit off, so it has to hold for every history before them.
  induction visits generalizing w rs with
  | nil => simpa [Service.after] using h
  | cons v visits ih =>
      obtain ⟨hfirst, hrest⟩ := List.forall_mem_cons.mp htime
      have hafter := ih (h.serve hmemory hfirst) hrest
      rwa [List.append_assoc] at hafter

/-! ## What is told -/

lemma tellsOfSession_summary (session : Session) :
    Content.TellsOfSession (.data (summary session)) session.id session.turns := by
  refine ⟨_, session.goals.ids, session.slots.names, rfl, ?_, ?_, ?_, ?_, ?_,
    session.slots.pairwise_names⟩
  · simp [Dict.find?_ofList, Dict.lastValue?_cons]
  · simp [Dict.find?_ofList, Dict.lastValue?_cons]
  · simp [Dict.find?_ofList, Dict.lastValue?_cons]
  · have hactive : session.activeGoal? = session.goals.ids.getLast? := by
      rw [GoalStack.ids, List.getLast?_map]
      rfl
    simp [Dict.find?_ofList, Dict.lastValue?_cons, hactive]
  · simp [Dict.find?_ofList, Dict.lastValue?_cons]

/-- What is told of a session in memory. -/
lemma showSession_of_kept (hmemory : s.engine.store = .inMemory) (h : Kept w.sessions.find? rs)
    (id : String) :
    ((s.showSession id w).status = 200 ↔ 0 < postsSinceDrop id rs) ∧
    ((s.showSession id w).status = 404 ↔ postsSinceDrop id rs = 0) ∧
    (0 < postsSinceDrop id rs →
      (s.showSession id w).content.TellsOfSession id (postsSinceDrop id rs)) := by
  have hget : s.engine.store.get w.sessions id = .ok (w.sessions.find? id) := by
    rw [hmemory]
    rfl
  rw [showSession, hget, ← h.turns id]
  cases hfind : w.sessions.find? id with
  | none => simp [turnsOf]
  | some session =>
      obtain rfl := h.own id session hfind
      have hbegun := h.begun _ session hfind
      simp [turnsOf, hbegun, hbegun.ne', tellsOfSession_summary]

/-- What is told of the health over sessions in memory. -/
lemma health_of_kept (hmemory : s.engine.store = .inMemory) (h : Kept w.sessions.find? rs) :
    (s.health w).status = 200 ∧
    ∃ (members : Dict Json) (ids : List String), (s.health w).content = .data (.ofDict members) ∧
      members.find? "sessions" = some (.int ids.length) ∧
      ids.Nodup ∧ ∀ id, id ∈ ids ↔ 0 < postsSinceDrop id rs := by
  refine ⟨rfl, _, w.sessions.names, rfl, ?_, w.sessions.nodup_names, fun id => ?_⟩
  · simp [Dict.find?_ofList, Dict.lastValue?_cons, hmemory, SessionStore.inMemory]
  · rw [Dict.mem_names, Nat.pos_iff_ne_zero, Ne, h.eq_none_iff]

/-! ## Everything in memory -/

lemma start_eq_ok {τ : Type} {patterns : PatternBuilder} {settings : Settings}
    {source : RecordSource σ} {store : SessionStore τ} {s : Service σ τ}
    (h : start patterns settings source store = .ok s) :
    s.engine.source = source ∧ s.engine.store = store ∧
      s.timeLimit = settings.server.requestTimeout := by
  rw [start] at h
  cases hmodel : Demo.model patterns settings.engine with
  | error error =>
      rw [hmodel] at h
      cases h
  | ok model =>
      rw [hmodel] at h
      dsimp only at h
      cases hcors : Http.CorsPolicy.ofSettings? settings.server with
      | none =>
          rw [hcors] at h
          cases h
      | some cors =>
          rw [hcors] at h
          obtain rfl := Except.ok.inj h
          exact ⟨rfl, rfl, rfl⟩

lemma server_withDemoInterest (settings : Settings) :
    settings.withDemoInterest.server = settings.server := by
  rw [Settings.withDemoInterest]
  split <;> rfl

/-- A service with everything in memory begins without sessions. -/
lemma startAlone_eq_ok {patterns : PatternBuilder} {settings : Settings}
    {fixtures : Option String} {newId : ℕ → String} {began : Timestamp}
    {s : Service Records (Dict Session)} {fresh : World Records (Dict Session)}
    (h : startAlone patterns settings fixtures newId began = .ok (s, fresh)) :
    s.engine.source = Records.source ⟨0, none, newId⟩ ∧ s.engine.store = .inMemory ∧
      s.timeLimit = settings.server.requestTimeout ∧ fresh.sessions = .empty := by
  rw [startAlone] at h
  cases hrecords : ownRecords settings fixtures began with
  | error error =>
      rw [hrecords] at h
      cases h
  | ok records =>
      rw [hrecords] at h
      dsimp only at h
      cases hstart : start patterns settings.withDemoInterest (Records.source ⟨0, none, newId⟩)
          SessionStore.inMemory with
      | error error =>
          rw [hstart] at h
          cases h
      | ok service =>
          rw [hstart] at h
          cases Except.ok.inj h
          obtain ⟨hsource, hstore, hlimit⟩ := start_eq_ok hstart
          exact ⟨hsource, hstore, hlimit.trans (by rw [server_withDemoInterest]), rfl⟩

/-- In memory, every visit is in time if the service allows any. -/
lemma inTime_of_instant {τ : Type} {s : Service σ τ} (hlimit : 0 < s.timeLimit)
    (h : s.engine.source.Instant) (w : World σ τ) (visits : List Visit) : s.InTime w visits := by
  induction visits generalizing w with
  | nil => exact List.forall_mem_nil _
  | cons v visits ih => exact List.forall_mem_cons.mpr ⟨serve_of_instant hlimit h v.request, ih _⟩

end Service

/-- **What clients see of the sessions.**  Let a service be started with everything in memory, let
any requests reach it, and let each of them be answered in time.  A client that looks at a session
then finds it exactly if something was said in it since it was last dropped; otherwise it is told
that there is none.  It is told as many turns as utterances were posted since then, with the last of
the goals as the active one and with the slots in order.  The health counts the sessions that would
be found.  Dropping a session succeeds, be it there or not.  And a request that posts no utterance
and drops no session changes nothing at all. -/
theorem sessions_over_http {patterns : PatternBuilder} {settings : Settings}
    {fixtures : Option String} {newId : ℕ → String} {began : Timestamp}
    {s : Service Records (Dict Session)} {fresh : World Records (Dict Session)}
    (hstart : Service.startAlone patterns settings fixtures newId began = .ok (s, fresh))
    (visits : List Visit) (htime : s.InTime fresh visits) (now : Timestamp) (r : Http.Request)
    (hlast : (s.serve now r (s.after fresh visits)).1.status ≠ 408) :
    let w := s.after fresh visits
    let response := (s.serve now r w).1
    let posted id := postsSinceDrop id (visits.map Visit.request)
    (∀ id, r.ask? = some (.get id) →
      (response.status = 200 ↔ 0 < posted id) ∧
      (response.status = 404 ↔ posted id = 0) ∧
      (0 < posted id → response.content.TellsOfSession id (posted id))) ∧
    (r.ask? = some .health → response.status = 200 ∧
      ∃ (members : Dict Json) (ids : List String), response.content = .data (.ofDict members) ∧
        members.find? "sessions" = some (.int ids.length) ∧
        ids.Nodup ∧ ∀ id, id ∈ ids ↔ 0 < posted id) ∧
    (∀ id, r.ask? = some (.delete id) → response.status = 204) ∧
    ((∀ id, r.posts id = false ∧ r.drops id = false) → (s.serve now r w).2 = w) := by
  obtain ⟨-, hmemory, -, hfresh⟩ := Service.startAlone_eq_ok hstart
  have hbegin : Service.Kept fresh.sessions.find? [] := hfresh ▸ Service.kept_empty
  intro w response posted
  have hkept : Service.Kept w.sessions.find? (visits.map Visit.request) :=
    hbegin.after hmemory htime
  refine ⟨fun id hask => ?_, fun hask => ?_, fun id hask => ?_, fun hidle => ?_⟩
  · obtain ⟨hstatus, hcontent, -⟩ := Service.serve_of_ask hask hlast
    have htold := Service.showSession_of_kept hmemory hkept id
    simp only [response, w, hstatus, hcontent]
    exact htold
  · obtain ⟨hstatus, hcontent, -⟩ := Service.serve_of_ask hask hlast
    have htold := Service.health_of_kept hmemory hkept
    simp only [response, w, hstatus, hcontent]
    exact htold
  · obtain ⟨hstatus, -, -⟩ := Service.serve_of_ask hask hlast
    simp only [response, w, hstatus, Service.fulfil, Service.drop_of_inMemory hmemory]
    rfl
  · rcases Service.serve_cases hmemory hkept.own hlast with
      ⟨id, left, hposts, -⟩ | ⟨id, hdrops, -⟩ | ⟨-, hsame⟩
    · exact absurd ((hidle id).1.symm.trans hposts) Bool.false_ne_true
    · exact absurd ((hidle id).2.symm.trans hdrops) Bool.false_ne_true
    · exact hsame

/-- The demo conversations start with everything in memory. -/
lemma Service.exists_startAlone (newId : ℕ → String) (began : Timestamp) :
    ∃ s fresh, startAlone .unlimited .default none newId began = .ok (s, fresh) := by
  have hmodel : Demo.model .unlimited Settings.default.withDemoInterest.engine =
      .ok Demo.compiled :=
    Demo.model_default
  obtain ⟨cors, hcors⟩ : ∃ cors,
      Http.CorsPolicy.ofSettings? Settings.default.withDemoInterest.server = some cors := ⟨_, rfl⟩
  obtain ⟨s, hs⟩ : ∃ s, start .unlimited Settings.default.withDemoInterest
      (Records.source ⟨0, none, newId⟩) SessionStore.inMemory = .ok s := by
    rw [start, hmodel, hcors]
    exact ⟨_, rfl⟩
  refine ⟨s, ⟨Demo.samples began, .empty⟩, ?_⟩
  have hrecords : ownRecords .default none began = .ok (Demo.samples began) := rfl
  rw [startAlone, hrecords]
  dsimp only
  rw [hs]
  rfl

/-- Somebody whose id is written in some way asks for help. -/
def askingForHelp (rawId : String) : Http.Request where
  method := "POST"
  target := "/api/sessions/" ++ rawId ++ "/utterances"
  fields := .ofList [("content-type", "application/json")]
  body := "\x7b\"text\": \"Help!\"\x7d"

/-- Something is done with Ann's session. -/
def onAnn (method : String) : Http.Request := ⟨method, "/api/sessions/ann?now", .empty, ""⟩

/-- Ann asks for help, leaves, and asks for help twice more, so two turns are told of. -/
theorem ann_is_counted : ∃ s fresh,
    Service.startAlone .unlimited .default none (fun _ => "0") .epoch = .ok (s, fresh) ∧
    let visits := [askingForHelp "ann", onAnn "DELETE", askingForHelp "ann", onAnn "GET",
      askingForHelp "%61nn"].map (⟨.epoch, ·⟩)
    let response := (s.serve .epoch (onAnn "GET") (s.after fresh visits)).1
    response.status = 200 ∧ response.content.TellsOfSession "ann" 2 := by
  obtain ⟨s, fresh, hstart⟩ := Service.exists_startAlone (fun _ => "0") .epoch
  refine ⟨s, fresh, hstart, ?_⟩
  obtain ⟨hsource, -, hlimit, -⟩ := Service.startAlone_eq_ok hstart
  have hinstant : s.engine.source.Instant := hsource ▸ Records.instant_source rfl
  have hallows : 0 < s.timeLimit := hlimit ▸ by decide
  intro visits response
  have hid : Http.unescape? "ann".toList = some "ann" := Http.unescape?_eq_some (by decide)
  have hid' : Http.unescape? "%61nn".toList = some "ann" := Http.unescape?_eq_some (by decide)
  have hasks : (onAnn "GET").ask? = some (.get "ann") := congrArg (Option.map Ask.get) hid
  have hdrops : (onAnn "DELETE").ask? = some (.delete "ann") := congrArg (Option.map Ask.delete) hid
  have hposts : (askingForHelp "ann").ask? = some (.post "ann") :=
    congrArg (Option.map Ask.post) hid
  have hposts' : (askingForHelp "%61nn").ask? = some (.post "ann") :=
    congrArg (Option.map Ask.post) hid'
  have hposted : postsSinceDrop "ann" (visits.map Visit.request) = 2 := by
    have hsaid := Http.Request.posts_iff.mpr ⟨hposts, by decide, "Help!", rfl⟩
    have hsaid' := Http.Request.posts_iff.mpr ⟨hposts', by decide, "Help!", rfl⟩
    have hother : (onAnn "GET").posts "ann" = false := Http.Request.posts_eq_false (by simp [hasks])
    simp [visits, postsSinceDrop, hsaid, hsaid', hother, Http.Request.drops, hasks, hposts, hposts',
      hdrops]
  have hseen := (sessions_over_http hstart visits (Service.inTime_of_instant hallows hinstant _ _)
    .epoch (onAnn "GET") (Service.serve_of_instant hallows hinstant _)).1 "ann" hasks
  dsimp only at hseen
  rw [hposted] at hseen
  exact ⟨hseen.1.mpr (by decide), hseen.2.2 (by decide)⟩

end Dialogue
