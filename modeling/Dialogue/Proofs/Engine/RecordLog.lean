import Dialogue.Proofs.Engine.Reachable
import Dialogue.Proofs.Handler.Lockstep

/-!
# The records of a source in memory are a log

Handlers of all sessions share one record source, and any of their calls on it may fail.  Nobody has
to guess afterwards what is in it: a source in memory only ever appends, and only what it reports as
stored.  So the records of an entity are those from the beginning and then, in order, what the
successful calls to store gave back; and whoever looks something up finds it in this log.

* `Course` — requests carried out one after the other, by whomever; a script is one (`course_run`),
  and so is all that an engine does (`Engine.course_after`).
* `Record.StoredAs` — what becomes of a record when it is stored.
* `Records.perform_store` — what a call to store can do; every other call leaves the source alone.
* `storedRecords`, `ofEntity_course` — the log, from what one request appends.
* **`records_are_a_log`** — all of this, for every source in memory.
-/

namespace Dialogue

/-! ## Courses of requests -/

/-- Requests that are carried out one after the other, each on some turn: the events, between the
states of the source before and after. -/
inductive Course {σ : Type} (setting : Setting σ) : σ → List Event → σ → Prop where
  | nil (s : σ) : Course setting s [] s
  | cons (t : Turn) (r : Request) {s s' : σ} {events : List Event}
      (later : Course setting (r.perform setting t s).2.2 events s') :
      Course setting s (⟨t, r, (r.perform setting t s).1⟩ :: events) s'

section Course

variable {σ : Type} {setting : Setting σ} {s s' s'' : σ} {events events' : List Event}

lemma Course.append (h : Course setting s events s') (h' : Course setting s' events' s'') :
    Course setting s (events ++ events') s'' := by
  induction h with
  | nil s => exact h'
  | cons t r later ih => exact .cons t r (ih h')

/-- At every point of a course, the source is in some state. -/
lemma Course.exists_between (h : Course setting s (events ++ events') s'') :
    ∃ s', Course setting s events s' ∧ Course setting s' events' s'' := by
  induction events generalizing s with
  | nil => exact ⟨s, .nil s, h⟩
  | cons x events ih =>
      rw [List.cons_append] at h
      cases h with
      | cons t r later =>
          obtain ⟨s', hbefore, hafter⟩ := ih later
          exact ⟨s', .cons t r hbefore, hafter⟩

/-- Any requests on any turns can be carried out. -/
lemma exists_course (setting : Setting σ) (calls : List (Turn × Request)) (s : σ) :
    ∃ events s', events.map (fun x => (x.before, x.request)) = calls ∧
      Course setting s events s' := by
  induction calls generalizing s with
  | nil => exact ⟨[], s, rfl, .nil s⟩
  | cons call calls ih =>
      obtain ⟨t, r⟩ := call
      obtain ⟨events, s', rfl, hcourse⟩ := ih (r.perform setting t s).2.2
      exact ⟨_, s', rfl, .cons t r hcourse⟩

/-- What a script does is a course. -/
lemma course_run {α : Type} (setting : Setting σ) (script : Script α) (t : Turn) (s : σ) :
    Course setting s (script.trace setting t s) (script.run setting t s).2.2 := by
  induction script generalizing t s with
  | done a => exact .nil s
  | ask r k ih => exact .cons t r (ih _ _ _)

end Course

namespace Engine

variable {σ τ : Type} (e : Engine σ τ)

/-- What a turn does to the record source is a course. -/
lemma course_answer (session : Session) (utterance : String) (s : σ) :
    ∃ events, Course e.setting s events (e.answer session utterance s).2 := by
  rw [answer]
  cases e.model.resolve session.activeGoal? utterance with
  | error error => exact ⟨[], .nil s⟩
  | ok r =>
      have hcourse := course_run e.setting r.binding.handler.body.run (startTurn session r) s
      rw [← Handler.run] at hcourse
      dsimp only
      generalize r.binding.handler.run e.setting (startTurn session r) s = run at hcourse ⊢
      obtain ⟨result, t, s'⟩ := run
      cases result with
      | ok => exact ⟨_, hcourse⟩
      | error error => exact ⟨_, hcourse⟩

/-- What a call does to the record source is a course, also if the store of sessions fails. -/
lemma course_meet (w : World σ τ) (c : Contact) :
    ∃ events, Course e.setting w.source events (e.meet w c).2.source := by
  obtain ⟨now, id, call⟩ := c
  cases call with
  | ending =>
      simp only [meet, endSession]
      cases e.store.delete w.sessions id with
      | error error => exact ⟨[], .nil _⟩
      | ok sessions => exact ⟨[], .nil _⟩
  | utterance text =>
      simp only [meet, handleUtterance]
      cases e.store.get w.sessions id with
      | error error => exact ⟨[], .nil _⟩
      | ok found =>
          have hcourse := e.course_answer (found.getD (Session.new id now)) text w.source
          dsimp only
          split <;> exact hcourse

/-- **What an engine does to the record source is a course**, whoever calls. -/
lemma course_after (w : World σ τ) (cs : List Contact) :
    ∃ events, Course e.setting w.source events (e.after w cs).source := by
  induction cs generalizing w with
  | nil => exact ⟨[], .nil _⟩
  | cons c cs ih =>
      obtain ⟨events, hcall⟩ := e.course_meet w c
      obtain ⟨later, hlater⟩ := ih (e.meet w c).2
      exact ⟨events ++ later, hcall.append hlater⟩

end Engine

/-! ## Storing a record -/

/-- A record is stored as it is given, under the id it is given, or else under a new one, which is a
text. -/
structure Record.StoredAs (given stored : Record) : Prop where
  given_id : ∀ id, given.find? "Id" = some id → stored.find? "Id" = some id
  new_id : given.find? "Id" = none → ∃ id, stored.find? "Id" = some (.str id)
  fields : ∀ name, name ≠ "Id" → stored.find? name = given.find? name

namespace Records

lemma storedAs_withId (newId : ℕ → String) (r : Records) (record : Record) :
    Record.StoredAs record (r.withId newId record).1 := by
  rw [withId, Dict.contains]
  cases hid : record.find? "Id" with
  | some id =>
      refine ⟨fun _ h => h, fun h => ?_, fun _ _ => rfl⟩
      rw [hid] at h
      cases h
  | none =>
      refine ⟨fun id h => ?_, fun _ => ⟨_, Dict.find?_insert_self _ _ _⟩, fun name hname => ?_⟩
      · rw [hid] at h
        cases h
      · exact Dict.find?_insert_of_ne _ _ hname

/-- The record is appended to its entity, and the other entities stay. -/
lemma ofEntity_add (newId : ℕ → String) (r : Records) (name entity : String) (record : Record) :
    (r.add newId name record).2.ofEntity entity =
      r.ofEntity entity ++ if name = entity then [(r.add newId name record).1] else [] := by
  have hsame : (r.withId newId record).2.entities = r.entities := by
    rw [withId]
    split <;> rfl
  by_cases hname : name = entity
  · subst hname
    simp only [add, withEntity, ofEntity, Dict.find?_insert_self, hsame, if_true, Option.getD_some]
  · simp only [add, withEntity, ofEntity, Dict.find?_insert_of_ne _ _ (Ne.symm hname), hsame,
      if_neg hname, List.append_nil]

lemma select_sublist (records : List Record) (field value : Option String) :
    (select records field value).Sublist records := by
  cases field with
  | none => exact List.Sublist.refl _
  | some field =>
      cases value with
      | none => exact List.Sublist.refl _
      | some value => exact List.filter_sublist

/-! ## One call -/

/-- A call meets an obstacle and changes nothing, or it does to the records what it is there for. -/
lemma call_cases {α : Type} (b : Behaviour) (entity : String) (patience : ℕ)
    (action : Records → Except SourceError α × Records) (r : Records) :
    (∃ waited error, call b entity patience action r = (⟨waited, .error error⟩, r)) ∨
    ∃ waited, call b entity patience action r = (⟨waited, (action r).1⟩, (action r).2) := by
  rw [call]
  cases b.obstacle? r entity patience with
  | some error => exact .inl ⟨_, error, rfl⟩
  | none => exact .inr ⟨_, rfl⟩

lemma store_cases (b : Behaviour) (entity : String) (given : Record) (patience : ℕ) (r : Records) :
    (∃ waited error, (source b).store entity given patience r = (⟨waited, .error error⟩, r)) ∨
    ∃ waited, (source b).store entity given patience r =
      (⟨waited, .ok (r.add b.newId entity given).1⟩, (r.add b.newId entity given).2) := by
  simp only [source]
  exact call_cases b entity patience _ r

/-- What handlers run in if the source is in memory. -/
def setting (b : Behaviour) (knows : String → Bool) (p : Projection) (patience : ℕ) :
    Setting Records :=
  ⟨knows, source b, p, patience⟩

variable {b : Behaviour} {knows : String → Bool} {p : Projection} {patience : ℕ}
variable {t : Turn} {r : Records}

/-- A call that stores nothing leaves the source as it is. -/
lemma perform_of_lookup {request : Request} (h : request.isStore = false) :
    (request.perform (setting b knows p patience) t r).2.2 = r := by
  have hsteady : (setting b knows p patience).source.Steady (· = r) := steady_source b r
  exact (perform_of_steady hsteady rfl rfl t request h).2.2

/-- **A call to store** fails and leaves the source as it is, or it gives back the record and
appends it. -/
lemma perform_store (b : Behaviour) (knows : String → Bool) (p : Projection) (patience : ℕ)
    (t : Turn) (r : Records) (entity : String) (fields : Record) :
    let called := (Request.store entity fields).perform (setting b knows p patience) t r
    (∃ error, called.1 = .error error ∧ called.2.2 = r) ∨
    ∃ record, called.1 = .ok record ∧ (p.stripFields fields).StoredAs record ∧
      ∀ name, called.2.2.ofEntity name =
        r.ofEntity name ++ if p.strip entity = name then [record] else [] := by
  rcases store_cases b (p.strip entity) (p.stripFields fields) patience r with
    ⟨waited, error, h⟩ | ⟨waited, h⟩
  · simp only [Request.perform, setting, source] at h ⊢
    rw [h]
    exact .inl ⟨_, rfl, rfl⟩
  · simp only [Request.perform, setting, source] at h ⊢
    rw [h]
    exact .inr ⟨_, rfl, storedAs_withId b.newId r _, fun name =>
      ofEntity_add b.newId r (p.strip entity) name (p.stripFields fields)⟩

/-- What a search finds are the records that mention the text. -/
lemma perform_search {entity term : String} {found : List Record}
    (h : ((Request.search entity term).perform (setting b knows p patience) t r).1 = .ok found) :
    found = ((r.ofEntity (p.strip entity)).filter (mentions · term)).map (p.project entity) := by
  simp only [Request.perform, setting, source] at h
  rcases call_cases b (p.strip entity) patience
    (fun r => (.ok ((r.ofEntity (p.strip entity)).filter (mentions · term)), r)) r with
    ⟨waited, error, hcall⟩ | ⟨waited, hcall⟩
  · rw [hcall] at h
    cases h
  · rw [hcall] at h
    exact (Except.ok.inj h).symm

/-- What a load without raw filter finds are the records that it selects. -/
lemma perform_load {entity : String} {field value : Option String} {found : List Record}
    (h : ((Request.load entity field value none).perform (setting b knows p patience) t r).1 =
      .ok found) :
    found = (select (r.ofEntity (p.strip entity)) (field.map p.strip) value).map
      (p.project entity) := by
  simp only [Request.perform, setting, source] at h
  rcases call_cases b (p.strip entity) patience
    (fun r => (.ok (select (r.ofEntity (p.strip entity)) (field.map p.strip) value), r)) r with
    ⟨waited, error, hcall⟩ | ⟨waited, hcall⟩
  · rw [hcall] at h
    cases h
  · rw [hcall] at h
    exact (Except.ok.inj h).symm

end Records

/-! ## The log -/

/-- The record that an event stored in an entity, as it was given back. -/
def Event.stored? (p : Projection) (entity : String) : Event → Option Record
  | ⟨_, .store name _, .ok record⟩ => if p.strip name = entity then some record else none
  | _ => none

/-- The records that events stored in an entity, in order. -/
def storedRecords (p : Projection) (entity : String) (events : List Event) : List Record :=
  events.filterMap (Event.stored? p entity)

section Log

variable {b : Records.Behaviour} {knows : String → Bool} {p : Projection} {patience : ℕ}

/-- **One request and the records**: an entity has one more record if one was stored in it. -/
lemma ofEntity_perform (t : Turn) (r : Records) (request : Request) (entity : String) :
    (request.perform (Records.setting b knows p patience) t r).2.2.ofEntity entity =
      r.ofEntity entity ++ (Event.stored? p entity
        ⟨t, request, (request.perform (Records.setting b knows p patience) t r).1⟩).toList := by
  cases request with
  | store name fields =>
      rcases Records.perform_store b knows p patience t r name fields with
        ⟨error, hanswer, hsame⟩ | ⟨record, hanswer, _, hrecords⟩
      · rw [hsame, hanswer]
        exact (List.append_nil _).symm
      · rw [hrecords, hanswer, Event.stored?]
        split <;> rfl
  | observe => exact (List.append_nil _).symm
  | say text => exact (List.append_nil _).symm
  | set slot value => exact (List.append_nil _).symm
  | addGoal goal => exact (List.append_nil _).symm
  | search name term =>
      rw [Records.perform_of_lookup rfl]
      exact (List.append_nil _).symm
  | load name field value raw =>
      rw [Records.perform_of_lookup rfl]
      exact (List.append_nil _).symm

/-- **The records after a course** are those from before it and then those that were stored. -/
lemma ofEntity_course {r r' : Records} {events : List Event}
    (h : Course (Records.setting b knows p patience) r events r') (entity : String) :
    r'.ofEntity entity = r.ofEntity entity ++ storedRecords p entity events := by
  induction h with
  | nil r => exact (List.append_nil _).symm
  | cons t request later ih =>
      rw [ih, ofEntity_perform, storedRecords, storedRecords, List.append_assoc]
      congr 1
      cases hstored : Event.stored? p entity _ with
      | none => rw [List.filterMap_cons_none hstored]; rfl
      | some record => rw [List.filterMap_cons_some hstored]; rfl

/-- **The records of a source in memory are a log.**  Let any requests be carried out, one after the
other and each on any turn: those of a script, say, or all that an engine comes to do while it
serves calls.  At every point, the records of an entity are those from the beginning, and then, in
order, those that the successful calls to store on it gave back.  A call that fails and a call that
looks something up leave the source as it is.  A record that is stored has an id, its own or a new
one, and otherwise the fields it was given, their names stripped.  And what is found in an entity
comes from the records that it has by then, in their order: a search finds all that mention the
text, and a load without a filter finds all. -/
theorem records_are_a_log {τ : Type} (b : Records.Behaviour) (knows : String → Bool)
    (p : Projection) (patience : ℕ) :
    let setting := Records.setting b knows p patience
    (∀ calls r, ∃ events r', events.map (fun x => (x.before, x.request)) = calls ∧
      Course setting r events r') ∧
    (∀ (script : Script (Except TurnError Unit)) t r,
      Course setting r (script.trace setting t r) (script.run setting t r).2.2) ∧
    (∀ (e : Engine Records τ) w cs, ∃ events,
      Course (Records.setting b e.model.hasGoal e.projection e.patience) w.source events
        (Engine.after { e with source := Records.source b } w cs).source) ∧
    (∀ r events later r'', Course setting r (events ++ later) r'' →
      ∃ r', Course setting r events r' ∧ Course setting r' later r'') ∧
    ∀ r events r', Course setting r events r' →
      (∀ entity, r'.ofEntity entity = r.ofEntity entity ++ storedRecords p entity events) ∧
      ∀ t,
        (∀ request : Request, request.isStore = false →
          (request.perform setting t r').2.2 = r') ∧
        (∀ entity fields,
          let called := (Request.store entity fields).perform setting t r'
          (∀ error, called.1 = .error error → called.2.2 = r') ∧
          ∀ record, called.1 = .ok record → (p.stripFields fields).StoredAs record) ∧
        (∀ entity term found,
          ((Request.search entity term).perform setting t r').1 = .ok found →
            ∃ seen : List Record, seen.Sublist (r'.ofEntity (p.strip entity)) ∧
              found = seen.map (p.project entity) ∧
              ∀ record ∈ r'.ofEntity (p.strip entity), Records.mentions record term = true →
                record ∈ seen) ∧
        ∀ entity field value found,
          ((Request.load entity field value none).perform setting t r').1 = .ok found →
            ∃ seen : List Record, seen.Sublist (r'.ofEntity (p.strip entity)) ∧
              found = seen.map (p.project entity) ∧
              (field = none ∨ value = none → seen = r'.ofEntity (p.strip entity)) := by
  refine ⟨exists_course _, fun script t r => course_run _ script t r,
    fun e w cs => Engine.course_after { e with source := Records.source b } w cs,
    fun r events later r'' h => h.exists_between, fun r events r' hcourse =>
      ⟨ofEntity_course hcourse, fun t => ?_⟩⟩
  refine ⟨fun request h => Records.perform_of_lookup h, ?_, ?_, ?_⟩
  · intro entity fields
    rcases Records.perform_store b knows p patience t r' entity fields with
      ⟨error, hanswer, hsame⟩ | ⟨record, hanswer, hstored, _⟩
    · refine ⟨fun _ _ => hsame, fun record h => ?_⟩
      cases hanswer.symm.trans h
    · refine ⟨fun error h => ?_, fun record' h => ?_⟩
      · cases hanswer.symm.trans h
      · rwa [← Except.ok.inj (hanswer.symm.trans h)]
  · intro entity term found h
    refine ⟨_, List.filter_sublist, Records.perform_search h, fun record hmem hmentions => ?_⟩
    exact List.mem_filter.mpr ⟨hmem, hmentions⟩
  · intro entity field value found h
    refine ⟨_, Records.select_sublist _ _ _, Records.perform_load h, ?_⟩
    rintro (rfl | rfl)
    · rfl
    · cases field <;> rfl

/-- Bob is there, the case is of no known entity, and Ann is appended. -/
theorem ann_behind_bob :
    let bob : Record := .ofList [("Id", .int 1), ("Name", .str "Bob")]
    let script : Script (Except TurnError Unit) := ExceptT.run (do
      let _ ← Act.ask (.store "Case*" .empty)
      let _ ← Act.store "Lead*" (.ofList [("Name*", .str "Ann")]))
    let setting := Records.setting ⟨5, none, fun _ => "new"⟩ (fun _ => false) ⟨'*', .empty⟩ 10
    let t := Turn.start (Session.new "s" .epoch) .empty
    (script.run setting t ⟨.ofList [("Lead", [bob])], [], 0⟩).2.2.ofEntity "Lead" =
      [bob] ++ [.ofList [("Id", .str "new"), ("Name", .str "Ann")]] := by
  intro bob script setting t
  obtain ⟨_, hscript, _, _, hlog⟩ := @records_are_a_log Unit ⟨5, none, fun _ => "new"⟩
    (fun _ => false) ⟨'*', .empty⟩ 10
  exact (hlog _ _ _ (hscript script t _)).1 "Lead"

end Log

end Dialogue
