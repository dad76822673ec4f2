import Dialogue.Proofs.Engine.Reachable
import Dialogue.Proofs.Handler.Lockstep

/-!
# Sessions do not interfere

All sessions of an engine share its model, its record source and its store.  Still nobody can find
out from a session what goes on in the others, as long as handlers only read records.  The proof has
two parts.

**Confinement.**  A call meets the session that is stored under its id, and it changes what is
stored under its id; the rest of the store is neither read nor written.  `Engine.meetAlone` is the
call without the rest of the store, and `meet_eq_meetAlone` says that nothing is missing in it.

**What a call depends on.**  A call that finds the same session at another time, or with the record
source in another state, comes to the same (`meetAlone_congr`).  Only the dates of the session
differ, so they are left aside (`Session.undated`).

* `served_undisturbed` — a session is served as if it were the only one.
* `served_swap` — two calls on different sessions may come in either order.
* **`sessions_do_not_interfere`** — both.
-/

namespace Dialogue

/-! ## Dates aside -/

/-- The session without the times of its beginning and its last turn. -/
def Session.undated (s : Session) : Session := { s with createdAt := .epoch, updatedAt := .epoch }

/-- The turn that is over, without the dates of its session. -/
def Answered.undated (a : Answered) : Answered := { a with session := a.session.undated }

/-- The call without the time at which it comes. -/
def Contact.undated (c : Contact) : Contact := { c with now := .epoch }

lemma Session.id_finishTurn (s : Session) (now : Timestamp) : (s.finishTurn now).id = s.id := rfl

/-- No turn looks at the dates of its session. -/
lemma Engine.answer_undated {σ τ : Type} (e : Engine σ τ) (s : Session) (utterance : String)
    (source : σ) :
    e.answer s.undated utterance source =
      ((e.answer s utterance source).1.undated, (e.answer s utterance source).2) := by
  have hactive : s.undated.activeGoal? = s.activeGoal? := rfl
  rw [answer, answer, hactive]
  cases e.model.resolve s.activeGoal? utterance with
  | error error => rfl
  | ok r =>
      have hstart : startTurn s.undated r = startTurn s r := rfl
      dsimp only
      rw [hstart]
      obtain ⟨result, t, source⟩ := r.binding.handler.run e.setting (startTurn s r) source
      cases result with
      | ok => rfl
      | error error => rfl

/-- Every session stands under its own id, as it does in a store that only `put` has filled. -/
def OwnIds (sessions : Dict Session) : Prop := ∀ id s, sessions.find? id = some s → s.id = id

namespace Engine

variable {σ τ : Type}

/-! ## Confinement -/

/-- A call without the rest of the store: what it comes to, what it leaves of the session that it
found, and the state of the record source. -/
def meetAlone (e : Engine σ τ) (c : Contact) (source : σ) (found : Option Session) :
    CallResult × Option Session × σ :=
  match c.call with
  | .utterance text =>
    let (answered, source) := e.answer (metBy c.session c.now found) text source
    (.turn ⟨.ok answered.outcome, answered.turn⟩, some (answered.session.finishTurn c.now), source)
  | .ending => (.ended (.ok ()), none, source)

lemma answer_inMemory (e : Engine σ τ) : e.inMemory.answer = e.answer := by
  funext s utterance source
  simp only [answer, setting, inMemory]
  cases e.model.resolve s.activeGoal? utterance with
  | error error => rfl
  | ok r => rfl

/-- What a turn leaves of the session under an id stands under the same id. -/
lemma id_answer (e : Engine σ τ) {id : String} {found : Option Session}
    (hfound : ∀ s, found = some s → s.id = id) (now : Timestamp) (text : String) (source : σ) :
    (e.answer (metBy id now found) text source).1.session.id = id := by
  have hmet : (metBy id now found).id = id := by
    cases found with
    | none => rfl
    | some s => exact hfound s rfl
  have hnext := id_next e (metBy id now found) ⟨now, text, source⟩
  rw [next, answered, Session.id_finishTurn, hmet] at hnext
  dsimp only at hnext
  exact hnext

variable {e : Engine σ τ} {w : World σ (Dict Session)}

/-- **Confinement**: a call reads and writes the store under its id only. -/
lemma meet_eq_meetAlone (hown : OwnIds w.sessions) (c : Contact) :
    e.inMemory.meet w c =
      ((e.meetAlone c w.source (w.sessions.find? c.session)).1,
        ⟨(e.meetAlone c w.source (w.sessions.find? c.session)).2.2,
          w.sessions.assign c.session
            (e.meetAlone c w.source (w.sessions.find? c.session)).2.1⟩) := by
  obtain ⟨now, id, call⟩ := c
  cases call with
  | ending => rfl
  | utterance text =>
      have hid := id_answer e (hown id) now text w.source
      have hget : e.inMemory.store.get w.sessions id = .ok (w.sessions.find? id) := rfl
      rw [metBy] at hid
      simp only [meet, handleUtterance, meetAlone, metBy, hget, answer_inMemory]
      generalize e.answer ((w.sessions.find? id).getD (Session.new id now)) text w.source = answered
        at hid ⊢
      rw [Dict.assign, ← hid]
      rfl

lemma ownIds_meet (hown : OwnIds w.sessions) (c : Contact) :
    OwnIds (e.inMemory.meet w c).2.sessions := by
  intro id s hfind
  rw [meet_eq_meetAlone hown] at hfind
  by_cases hid : id = c.session
  · subst hid
    rw [Dict.find?_assign_self] at hfind
    obtain ⟨now, id, call⟩ := c
    cases call with
    | ending => cases hfind
    | utterance text =>
        rw [meetAlone] at hfind
        rw [← Option.some.inj hfind, Session.id_finishTurn]
        dsimp only
        exact id_answer e (hown id) now text w.source
  · rw [Dict.find?_assign_of_ne _ _ hid] at hfind
    exact hown id s hfind

/-! ## What a call depends on -/

/-- The handlers of the model only read records while the source is in certain states, in which it
answers look-ups alike. -/
structure ReadsOnly (e : Engine σ τ) (states : σ → Prop) : Prop where
  steady : e.source.Steady states
  handlers : ∀ b, (b ∈ e.model.globals ∨ ∃ g ∈ e.model.goals, b ∈ g.bindings) →
    b.handler.ReadsOnly e.setting states

variable {states : σ → Prop} {s s' : σ}

/-- A turn is the same in two of the states of the source. -/
lemma ReadsOnly.answer (h : e.ReadsOnly states) (hs : states s) (hs' : states s')
    (session : Session) (utterance : String) :
    (e.answer session utterance s).1 = (e.answer session utterance s').1 ∧
      states (e.answer session utterance s).2 := by
  rw [Engine.answer, Engine.answer]
  cases hresolve : e.model.resolve session.activeGoal? utterance with
  | error error => exact ⟨rfl, hs⟩
  | ok r =>
      have hbinding := binding_mem_of_resolve hresolve
      have hstore := h.handlers r.binding hbinding (startTurn session r) s hs
      obtain ⟨hresult, hturn, hstays⟩ := run_of_steady h.steady hs hs' _ _ hstore
      dsimp only [Handler.run]
      rw [hresult, hturn]
      cases hend : (Script.run e.setting r.binding.handler.body.run (startTurn session r) s').1 with
      | ok => exact ⟨rfl, hstays⟩
      | error error => exact ⟨rfl, hstays⟩

/-- A call on the same session is the same in two of the states of the source. -/
lemma ReadsOnly.meetAlone (h : e.ReadsOnly states) (hs : states s) (hs' : states s')
    (c : Contact) (found : Option Session) :
    (e.meetAlone c s found).1 = (e.meetAlone c s' found).1 ∧
    (e.meetAlone c s found).2.1 = (e.meetAlone c s' found).2.1 ∧
    states (e.meetAlone c s found).2.2 := by
  rw [Engine.meetAlone, Engine.meetAlone]
  cases hcall : c.call with
  | ending => exact ⟨rfl, rfl, hs⟩
  | utterance text =>
      obtain ⟨hanswer, hstays⟩ := h.answer hs hs' (metBy c.session c.now found) text
      dsimp only
      rw [hanswer]
      exact ⟨rfl, rfl, hstays⟩

/-- A call comes to the same at another time and on a session with other dates. -/
lemma meetAlone_undated (e : Engine σ τ) (c : Contact) (source : σ) (found : Option Session) :
    (e.meetAlone c.undated source (found.map Session.undated)).1 = (e.meetAlone c source found).1 ∧
    (e.meetAlone c.undated source (found.map Session.undated)).2.1.map Session.undated =
      (e.meetAlone c source found).2.1.map Session.undated ∧
    (e.meetAlone c.undated source (found.map Session.undated)).2.2 =
      (e.meetAlone c source found).2.2 := by
  obtain ⟨now, id, call⟩ := c
  cases call with
  | ending => exact ⟨rfl, rfl, rfl⟩
  | utterance text =>
      have hmet : metBy id .epoch (found.map Session.undated) = (metBy id now found).undated := by
        cases found <;> rfl
      simp only [Contact.undated, Engine.meetAlone, hmet, answer_undated]
      generalize e.answer (metBy id now found) text source = answered
      exact ⟨rfl, rfl, trivial⟩

/-- **What a call depends on**: with the source in any of the states, at any time, and whatever the
dates of the session are, it comes to the same and leaves the same. -/
lemma ReadsOnly.meetAlone_congr (h : e.ReadsOnly states) (hs : states s) (hs' : states s')
    {c c' : Contact} (hc : c.undated = c'.undated) {found found' : Option Session}
    (hfound : found.map Session.undated = found'.map Session.undated) :
    (e.meetAlone c s found).1 = (e.meetAlone c' s' found').1 ∧
    (e.meetAlone c s found).2.1.map Session.undated =
      (e.meetAlone c' s' found').2.1.map Session.undated := by
  obtain ⟨hresult, hleft, -⟩ := meetAlone_undated e c s found
  obtain ⟨hresult', hleft', -⟩ := meetAlone_undated e c' s' found'
  obtain ⟨hanswer, hsession, -⟩ :=
    h.meetAlone hs hs' c'.undated (found'.map Session.undated)
  rw [← hresult, ← hresult', ← hleft, ← hleft', hc, hfound, hanswer, hsession]
  exact ⟨rfl, rfl⟩

/-! ## Runs -/

/-- Calls with what they come to, one after the other. -/
def served (e : Engine σ τ) : World σ τ → List Contact → List (Contact × CallResult)
  | _, [] => []
  | w, c :: cs => (c, (e.meet w c).1) :: e.served (e.meet w c).2 cs

/-- What the calls on a session come to. -/
def resultsOf (id : String) (served : List (Contact × CallResult)) : List CallResult :=
  (served.filter (·.1.session == id)).map (·.2)

/-- The source is in one of the states, and every session stands under its own id. -/
structure Calm (states : σ → Prop) (w : World σ (Dict Session)) : Prop where
  source : states w.source
  own : OwnIds w.sessions

/-- Two worlds look the same to a session, dates aside. -/
def LookAlike (id : String) (w w' : World σ (Dict Session)) : Prop :=
  (w.sessions.find? id).map Session.undated = (w'.sessions.find? id).map Session.undated

variable {w' : World σ (Dict Session)} {id : String}

lemma Calm.meet (hw : Calm states w) (h : e.ReadsOnly states) (c : Contact) :
    Calm states (e.inMemory.meet w c).2 where
  source := by
    rw [meet_eq_meetAlone hw.own]
    exact (h.meetAlone hw.source hw.source c _).2.2
  own := ownIds_meet hw.own c

/-- A call on another session changes nothing for a session. -/
lemma Calm.find?_meet_of_ne (hw : Calm states w) {c : Contact} (hc : c.session ≠ id) :
    (e.inMemory.meet w c).2.sessions.find? id = w.sessions.find? id := by
  rw [meet_eq_meetAlone hw.own]
  exact Dict.find?_assign_of_ne _ _ hc.symm

/-- A call on a session comes to the same in worlds that look alike to it, and they still do so
afterwards. -/
lemma Calm.meet_congr (hw : Calm states w) (hw' : Calm states w') (h : e.ReadsOnly states)
    {c c' : Contact} (hc : c.undated = c'.undated) (halike : LookAlike c.session w w') :
    (e.inMemory.meet w c).1 = (e.inMemory.meet w' c').1 ∧
      LookAlike c.session (e.inMemory.meet w c).2 (e.inMemory.meet w' c').2 := by
  have hid : c'.session = c.session := (congrArg Contact.session hc).symm
  obtain ⟨hresult, hleft⟩ := h.meetAlone_congr hw.source hw'.source hc halike
  rw [meet_eq_meetAlone hw.own, meet_eq_meetAlone hw'.own, hid, LookAlike, Dict.find?_assign_self,
    Dict.find?_assign_self]
  exact ⟨hresult, hleft⟩

/-- A call comes to exactly the same, dates included, in a world with the same sessions. -/
lemma Calm.meet_eq (hw : Calm states w) (hw' : Calm states w') (h : e.ReadsOnly states)
    (c : Contact) (hc : w.sessions.find? c.session = w'.sessions.find? c.session) :
    (e.inMemory.meet w c).1 = (e.inMemory.meet w' c).1 ∧
      ∃ left, (e.inMemory.meet w c).2.sessions = w.sessions.assign c.session left ∧
        (e.inMemory.meet w' c).2.sessions = w'.sessions.assign c.session left := by
  obtain ⟨hresult, hleft, -⟩ := h.meetAlone hw.source hw'.source c (w.sessions.find? c.session)
  rw [meet_eq_meetAlone hw.own, meet_eq_meetAlone hw'.own, ← hc]
  refine ⟨hresult, _, rfl, ?_⟩
  rw [hleft]

/-- **Two calls on different sessions may come in either order.** -/
lemma Calm.meet_swap (hw : Calm states w) (h : e.ReadsOnly states) {c d : Contact}
    (hne : c.session ≠ d.session) :
    (e.inMemory.meet (e.inMemory.meet w d).2 c).1 = (e.inMemory.meet w c).1 ∧
    (e.inMemory.meet (e.inMemory.meet w c).2 d).1 = (e.inMemory.meet w d).1 ∧
    (e.inMemory.meet (e.inMemory.meet w c).2 d).2.sessions =
      (e.inMemory.meet (e.inMemory.meet w d).2 c).2.sessions := by
  obtain ⟨hc, leftC, hfirstC, hsecondC⟩ :=
    hw.meet_eq (hw.meet h d) h c (hw.find?_meet_of_ne hne.symm).symm
  obtain ⟨hd, leftD, hfirstD, hsecondD⟩ :=
    hw.meet_eq (hw.meet h c) h d (hw.find?_meet_of_ne hne).symm
  refine ⟨hc.symm, hd.symm, ?_⟩
  rw [hsecondC, hsecondD, hfirstC, hfirstD]
  exact Dict.assign_comm _ hne.symm leftC leftD

lemma served_append (w : World σ τ) (cs cs' : List Contact) :
    e.served w (cs ++ cs') = e.served w cs ++ e.served (e.after w cs) cs' := by
  induction cs generalizing w with
  | nil => rfl
  | cons c cs ih => exact congrArg _ (ih _)

lemma Calm.after (hw : Calm states w) (h : e.ReadsOnly states) (cs : List Contact) :
    Calm states (e.inMemory.after w cs) := by
  induction cs generalizing w with
  | nil => exact hw
  | cons c cs ih => exact ih (hw.meet h c)

/-- Runs of the same calls from the same sessions are the same. -/
lemma Calm.served_congr (hw : Calm states w) (hw' : Calm states w') (h : e.ReadsOnly states)
    (hsessions : w.sessions = w'.sessions) (cs : List Contact) :
    e.inMemory.served w cs = e.inMemory.served w' cs ∧
      (e.inMemory.after w cs).sessions = (e.inMemory.after w' cs).sessions := by
  induction cs generalizing w w' with
  | nil => exact ⟨rfl, hsessions⟩
  | cons c cs ih =>
      obtain ⟨hresult, left, hleft, hleft'⟩ := hw.meet_eq hw' h c (by rw [hsessions])
      obtain ⟨hserved, hafter⟩ := ih (hw.meet h c) (hw'.meet h c) (by rw [hleft, hleft', hsessions])
      exact ⟨by rw [served, served, hresult, hserved], hafter⟩

/-- **A session is served as if it were the only one**, from worlds that look alike to it. -/
lemma Calm.served_undisturbed (hw : Calm states w) (hw' : Calm states w') (h : e.ReadsOnly states)
    (halike : LookAlike id w w') {cs own : List Contact}
    (hown : own.map Contact.undated = (cs.filter (·.session == id)).map Contact.undated) :
    resultsOf id (e.inMemory.served w cs) = (e.inMemory.served w' own).map (·.2) ∧
      LookAlike id (e.inMemory.after w cs) (e.inMemory.after w' own) := by
  induction cs generalizing w w' own with
  | nil =>
      obtain rfl := List.map_eq_nil_iff.mp hown
      exact ⟨rfl, halike⟩
  | cons c cs ih =>
      by_cases hc : c.session = id
      · subst hc
        rw [List.filter_cons, if_pos (beq_self_eq_true c.session), List.map_cons] at hown
        obtain ⟨c', own', rfl, hdates, hrest⟩ := List.map_eq_cons_iff.mp hown
        obtain ⟨hresult, halike'⟩ := hw.meet_congr hw' h hdates.symm halike
        obtain ⟨hresults, hafter⟩ := ih (hw.meet h c) (hw'.meet h c') halike' hrest
        refine ⟨?_, hafter⟩
        rw [served, resultsOf, List.filter_cons, if_pos (beq_self_eq_true c.session), List.map_cons]
        exact List.cons_eq_cons.mpr ⟨hresult, hresults⟩
      · rw [List.filter_cons, if_neg (by simpa using hc)] at hown
        have halike' : LookAlike id (e.inMemory.meet w c).2 w' := by
          rw [LookAlike, hw.find?_meet_of_ne hc]
          exact halike
        obtain ⟨hresults, hafter⟩ := ih (hw.meet h c) hw' halike' hown
        refine ⟨?_, hafter⟩
        rw [served, resultsOf, List.filter_cons, if_neg (by simpa using hc)]
        exact hresults

/-- Exchanging two calls on different sessions exchanges what they come to, and changes nothing
else. -/
lemma Calm.served_swap (hw : Calm states w) (h : e.ReadsOnly states) (before later : List Contact)
    {c d : Contact} (hne : c.session ≠ d.session) :
    (∃ x y xs zs, e.inMemory.served w (before ++ c :: d :: later) = xs ++ (c, x) :: (d, y) :: zs ∧
      e.inMemory.served w (before ++ d :: c :: later) = xs ++ (d, y) :: (c, x) :: zs) ∧
    (e.inMemory.after w (before ++ c :: d :: later)).sessions =
      (e.inMemory.after w (before ++ d :: c :: later)).sessions := by
  have hbefore := hw.after h before
  obtain ⟨hc, hd, hsessions⟩ := hbefore.meet_swap h hne
  obtain ⟨hserved, hafter⟩ :=
    ((hbefore.meet h c).meet h d).served_congr ((hbefore.meet h d).meet h c) h hsessions later
  constructor
  · refine ⟨_, _, e.inMemory.served w before, _, served_append w before _, ?_⟩
    rw [served_append, served, served, hc, ← hserved, hd]
  · rw [Engine.after, Engine.after, List.foldl_append, List.foldl_append]
    exact hafter

/-- **Sessions do not interfere.**  Let the sessions be in memory, each under its own id, and let
the handlers only read records, which are in a state of a kind in which look-ups are answered alike;
for a source in memory, any state is such a kind.  Let calls come on any sessions and in any order.
Then the calls on one of them come to the same as if they had come alone, at whatever times, and the
session that is there in the end is the same up to its dates.  If two calls that follow each other
are on different sessions, nothing changes when they change places. -/
theorem sessions_do_not_interfere :
    (∀ b records, (Records.source b).Steady (· = records)) ∧
    ∀ (e : Engine σ τ) (states : σ → Prop), e.ReadsOnly states →
      ∀ w : World σ (Dict Session), states w.source → OwnIds w.sessions →
        (∀ id cs own,
          own.map Contact.undated = (cs.filter (·.session == id)).map Contact.undated →
            resultsOf id (e.inMemory.served w cs) = (e.inMemory.served w own).map (·.2) ∧
            ((e.inMemory.after w cs).sessions.find? id).map Session.undated =
              ((e.inMemory.after w own).sessions.find? id).map Session.undated) ∧
        ∀ before c d later, c.session ≠ d.session →
          (∃ x y xs zs,
            e.inMemory.served w (before ++ c :: d :: later) = xs ++ (c, x) :: (d, y) :: zs ∧
            e.inMemory.served w (before ++ d :: c :: later) = xs ++ (d, y) :: (c, x) :: zs) ∧
          (e.inMemory.after w (before ++ c :: d :: later)).sessions =
            (e.inMemory.after w (before ++ d :: c :: later)).sessions := by
  refine ⟨Records.steady_source, fun e states h w hsource hown => ?_⟩
  have hw : Calm states w := ⟨hsource, hown⟩
  constructor
  · intro id cs own hsame
    exact hw.served_undisturbed hw h rfl hsame
  · intro before c d later hne
    exact hw.served_swap h before later hne

/-- A desk that counts the leads with Bob in them. -/
def leadDesk : Engine Records (Dict Session) where
  model :=
    { types := .empty
      globals :=
        [⟨⟨"count", [[.word "count".toList]]⟩,
          .suspending (do Act.set "leads" (.int (← Act.search "Lead" "bob").length))⟩]
      goals := [] }
  source := Records.source ⟨5, none, fun _ => "0"⟩
  store := .inMemory
  projection := ⟨'*', .empty⟩
  fallback := .default
  patience := 10

lemma readsOnly_leadDesk (states : Records → Prop)
    (h : leadDesk.source.Steady states) : leadDesk.ReadsOnly states where
  steady := h
  handlers := by
    rintro b (hb | ⟨g, hg, _⟩)
    · obtain rfl := List.mem_singleton.mp hb
      refine Handler.readsOnly_of_storeless ⟨rfl, fun answer => ?_⟩
      cases answer with
      | ok records => exact ⟨rfl, fun _ => trivial⟩
      | error error => exact trivial
    · cases hg

/-- Ann counts, Bob counts, and Ann leaves: to Ann it is as if Bob had not been there. -/
theorem ann_undisturbed :
    let w : World Records (Dict Session) := ⟨.empty, .empty⟩
    let ann : Contact := ⟨.epoch, "ann", .utterance "Count!"⟩
    let bob : Contact := ⟨.epoch, "bob", .utterance "Count."⟩
    let bye : Contact := ⟨.epoch, "ann", .ending⟩
    resultsOf "ann" (leadDesk.inMemory.served w [ann, bob, bye]) =
      (leadDesk.inMemory.served w [ann, bye]).map (·.2) := by
  intro w ann bob bye
  have hown : OwnIds w.sessions := fun id s hfind => by cases hfind
  have h := (@sessions_do_not_interfere Records (Dict Session)).2 leadDesk (· = .empty)
    (readsOnly_leadDesk _ (Records.steady_source _ _)) w rfl hown
  exact (h.1 "ann" [ann, bob, bye] [ann, bye] rfl).1

end Engine

end Dialogue
