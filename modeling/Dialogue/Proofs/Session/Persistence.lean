import Dialogue.Proofs.Engine.Isolation
import Dialogue.Proofs.Timestamp

/-!
# A stored session goes on where it was

Between turns a session may be stored as a value, and read back by another process.  Writing and
reading are separate pieces of code, with defaults for parts that are missing, and the conversation
is only as good as their agreement.  Every session whose counters the format can hold is read back
as it was, and nothing that is read has counters that it cannot.

* `Json.fields?_ofDict` — an object made from a dictionary has the fields of the dictionary.
* `GoalStack.decode?_encode` — the stack comes back in its order, with the prompts it has given.
* `Session.Storable` — the counters fit the format; `storable_of_decode?` says that those of a
  session that was read do.
* `Session.decode?_encode` — reading is the inverse of writing.
* **`stored_sessions_resume`** — and so a turn of the session that was read back comes to the same.
-/

namespace Dialogue

/-! ## Fields -/

namespace Json

/-- No name occurs twice in a dictionary. -/
lemma repeats_entries (names : List String) (d : Dict Json) : repeats names d.entries = false := by
  refine List.any_eq_false.mpr fun name _ => ?_
  have hpairwise := d.ascending.filter (·.1 == name)
  have hnamed : ∀ m ∈ d.entries.filter (·.1 == name), m.1 = name := fun m hm =>
    beq_iff_eq.mp (List.mem_filter.mp hm).2
  cases hfilter : d.entries.filter (·.1 == name) with
  | nil => simp
  | cons m ms =>
      cases ms with
      | nil => simp
      | cons m' ms =>
          rw [hfilter] at hpairwise hnamed
          have hlt := (List.pairwise_cons.mp hpairwise).1 m' List.mem_cons_self
          rw [hnamed m List.mem_cons_self,
            hnamed m' (List.mem_cons_of_mem _ List.mem_cons_self)] at hlt
          exact absurd hlt (String.lt_irrefl name)

@[simp] lemma fields?_ofDict (names : List String) (d : Dict Json) :
    fields? names (.ofDict d) = some d := by
  rw [ofDict, fields?, repeats_entries, Dict.ofList_entries]
  rfl

lemma natUpTo?_int {bound n : ℕ} (h : n ≤ bound) : natUpTo? bound (.int n) = some n := by
  simp [natUpTo?, h]

lemma le_of_natUpTo? {bound n : ℕ} {v : Json} (h : natUpTo? bound v = some n) : n ≤ bound := by
  cases v with
  | int m =>
      rw [natUpTo?] at h
      split at h
      · rename_i hm
        have hm' : 0 ≤ m ∧ m ≤ bound := by simpa using hm
        have hn : m.toNat = n := Option.some.inj h
        omega
      · cases h
  | _ => cases h

/-- Every item that was decoded comes from a value. -/
lemma exists_of_mem_list? {α : Type} {decode? : Json → Option α} {v : Json} {as : List α}
    (h : list? decode? v = some as) : ∀ a ∈ as, ∃ x, decode? x = some a := by
  have hitems : ∀ {xs : List Json} {as : List α}, xs.mapM decode? = some as →
      ∀ a ∈ as, ∃ x, decode? x = some a := by
    intro xs
    induction xs with
    | nil =>
        intro as has a ha
        rw [List.mapM_nil] at has
        rw [← Option.some.inj has] at ha
        cases ha
    | cons x xs ih =>
        intro as has a ha
        rw [List.mapM_cons] at has
        obtain ⟨b, hb, has⟩ := Option.bind_eq_some_iff.mp has
        obtain ⟨bs, hbs, has⟩ := Option.bind_eq_some_iff.mp has
        rw [← Option.some.inj has] at ha
        rcases List.mem_cons.mp ha with rfl | ha
        · exact ⟨x, hb⟩
        · exact ih hbs a ha
  cases v with
  | arr xs => exact hitems h
  | _ => cases h

/-- What holds of the default and of whatever is decoded holds of an optional field. -/
lemma of_optional? {α : Type} {p : α → Prop} {members : Dict Json} {name : String} {default a : α}
    {decode? : Json → Option α} (hdefault : p default) (hdecode : ∀ v a, decode? v = some a → p a)
    (h : optional? members name default decode? = some a) : p a := by
  rw [optional?] at h
  cases hfind : members.find? name with
  | some v =>
      rw [hfind] at h
      exact hdecode v a h
  | none =>
      rw [hfind] at h
      exact Option.some.inj h ▸ hdefault

end Json

open Json

/-! ## Goals -/

lemma GoalInstance.decode?_encode {g : GoalInstance} (h : g.promptsIssued ≤ uint64Max) :
    GoalInstance.decode? g.encode = some g := by
  rw [GoalInstance.encode, GoalInstance.decode?, fields?_ofDict]
  simp [required?, optional?, Dict.find?_ofList, Dict.lastValue?_cons, asText?, natUpTo?_int h]

/-- **The stack comes back in its order**, with the prompts that its goals have given. -/
lemma GoalStack.decode?_encode {goals : GoalStack}
    (h : ∀ g ∈ goals.entries, g.promptsIssued ≤ uint64Max) :
    GoalStack.decode? goals.encode = some goals := by
  have hentries : ∀ gs : List GoalInstance, (∀ g ∈ gs, g.promptsIssued ≤ uint64Max) →
      (gs.map GoalInstance.encode).mapM GoalInstance.decode? = some gs := by
    intro gs hgs
    induction gs with
    | nil => rfl
    | cons g gs ih =>
        rw [List.map_cons, List.mapM_cons, GoalInstance.decode?_encode (hgs g List.mem_cons_self),
          ih fun g hg => hgs g (List.mem_cons_of_mem _ hg)]
        rfl
  rw [GoalStack.encode, GoalStack.decode?, fields?_ofDict]
  simp [required?, Dict.find?_ofList, Dict.lastValue?_cons, list?, hentries goals.entries h]

/-- The prompts of goals that were read fit the format. -/
lemma GoalInstance.le_of_decode? {g : GoalInstance} {v : Json}
    (h : GoalInstance.decode? v = some g) : g.promptsIssued ≤ uint64Max := by
  simp only [GoalInstance.decode?, Option.bind_eq_bind, Option.bind_eq_some_iff] at h
  obtain ⟨members, -, id, -, prompts, hprompts, hg⟩ := h
  obtain rfl := Option.some.inj hg
  exact of_optional? (p := (· ≤ uint64Max)) (Nat.zero_le _) (fun _ _ => le_of_natUpTo?) hprompts

lemma GoalStack.le_of_decode? {goals : GoalStack} {v : Json} (h : GoalStack.decode? v = some goals) :
    ∀ g ∈ goals.entries, g.promptsIssued ≤ uint64Max := by
  simp only [GoalStack.decode?, Option.bind_eq_bind, Option.bind_eq_some_iff] at h
  obtain ⟨members, -, entries, hentries, hgoals⟩ := h
  obtain rfl := Option.some.inj hgoals
  obtain ⟨w, -, hw⟩ := Option.bind_eq_some_iff.mp hentries
  intro g hg
  obtain ⟨x, hx⟩ := exists_of_mem_list? hw g hg
  exact GoalInstance.le_of_decode? hx

/-! ## Sessions -/

/-- The counters of the session fit the format. -/
structure Session.Storable (s : Session) : Prop where
  turns : s.turns ≤ uint64Max
  prompts : ∀ g ∈ s.goals.entries, g.promptsIssued ≤ uint64Max

lemma Session.timestamp?_text (t : Timestamp) : timestamp? (.str t.text) = some t := by
  rw [timestamp?, asText?, Option.bind_some, Timestamp.read?_text]

/-- **Reading is the inverse of writing.** -/
theorem Session.decode?_encode {s : Session} (h : s.Storable) : decode? s.encode = some s := by
  have hgoals := GoalStack.decode?_encode h.prompts
  have hturns : natUpTo? uint64Max (.int s.turns) = some s.turns := natUpTo?_int h.turns
  rw [encode, decode?, fields?_ofDict]
  simp [required?, optional?, Dict.find?_ofList, Dict.lastValue?_cons, asText?, hgoals, hturns,
    timestamp?_text]

/-- What was read can be written. -/
lemma Session.storable_of_decode? {s : Session} {v : Json} (h : decode? v = some s) :
    s.Storable := by
  simp only [decode?, Option.bind_eq_bind, Option.bind_eq_some_iff] at h
  obtain ⟨_, -, _, -, _, -, goals, hgoals, turns, hturns, _, -, _, -, hs⟩ := h
  obtain rfl := Option.some.inj hs
  constructor
  · exact of_optional? (p := (· ≤ uint64Max)) (Nat.zero_le _) (fun _ _ => le_of_natUpTo?) hturns
  · refine of_optional? (p := fun goals => ∀ g ∈ goals.entries, g.promptsIssued ≤ uint64Max) ?_
      (fun _ _ => GoalStack.le_of_decode?) hgoals
    exact List.forall_mem_nil _

/-- **A stored session goes on where it was.**  A session whose counters fit the format is read back
from its value as it was, the order of its goals and every counter included; and whatever can be
read is such a session, so it is the same after writing and reading it again.  Let such a session
stand in one store, and what was read back from its value in another.  Then the same call on it, at
whatever times, comes to the same with both, leaves the record source in the same state, and leaves
the same session, its dates aside. -/
theorem stored_sessions_resume {σ τ : Type} :
    (∀ s : Session, s.Storable → Session.decode? s.encode = some s) ∧
    (∀ v s, Session.decode? v = some s → s.Storable ∧ Session.decode? s.encode = some s) ∧
    ∀ (e : Engine σ τ) (s : Session), s.Storable →
      ∀ (source : σ) (sessions copies : Dict Session), OwnIds sessions → OwnIds copies →
        sessions.find? s.id = some s → copies.find? s.id = Session.decode? s.encode →
        ∀ (call : Call) (now later : Timestamp),
          let turn := e.inMemory.meet ⟨source, sessions⟩ ⟨now, s.id, call⟩
          let resumed := e.inMemory.meet ⟨source, copies⟩ ⟨later, s.id, call⟩
          resumed.1 = turn.1 ∧ resumed.2.source = turn.2.source ∧
          (resumed.2.sessions.find? s.id).map Session.undated =
            (turn.2.sessions.find? s.id).map Session.undated := by
  refine ⟨fun s => Session.decode?_encode, fun v s h => ?_, fun e s hs source sessions copies hown
    hown' hfind hfind' call now later => ?_⟩
  · have hs := Session.storable_of_decode? h
    exact ⟨hs, Session.decode?_encode hs⟩
  · rw [Session.decode?_encode hs] at hfind'
    -- Both calls are the one that comes at no particular time to the session without its dates.
    obtain ⟨hresult, hleft, hsource⟩ :=
      Engine.meetAlone_undated e ⟨now, s.id, call⟩ source (some s)
    obtain ⟨hresult', hleft', hsource'⟩ :=
      Engine.meetAlone_undated e ⟨later, s.id, call⟩ source (some s)
    have hcontact : Contact.undated ⟨later, s.id, call⟩ = Contact.undated ⟨now, s.id, call⟩ := rfl
    rw [hcontact] at hresult' hleft' hsource'
    intro turn resumed
    simp only [turn, resumed]
    rw [Engine.meet_eq_meetAlone (w := ⟨source, sessions⟩) hown,
      Engine.meet_eq_meetAlone (w := ⟨source, copies⟩) hown']
    dsimp only
    rw [hfind, hfind', Dict.find?_assign_self, Dict.find?_assign_self]
    exact ⟨hresult'.symm.trans hresult, hsource'.symm.trans hsource, hleft'.symm.trans hleft⟩

/-- A session in the middle of a conversation, begun in a leap second: Ann wants something for a
company, and has been asked for it three times. -/
def annWaiting : Session where
  id := "ann"
  slots := .ofList [("who", .obj [("name", .str "Bob"), ("seen", .arr [.null, .int (-7)])])]
  goals := ⟨[⟨"createLeadName", 1⟩, ⟨"createLeadCompany", 3⟩]⟩
  turns := 41
  createdAt := ⟨⟨2016, 12, 31, 23, 59, 60, 120000000⟩, by decide⟩
  updatedAt := ⟨⟨12017, 1, 1, 0, 0, 0, 45⟩, by decide⟩

/-- Ann's session is read back, and the next call comes to what it would have come to. -/
theorem ann_resumes :
    Session.decode? annWaiting.encode = some annWaiting ∧
    ∃ copy, Session.decode? annWaiting.encode = some copy ∧ copy.Storable ∧
      (Engine.leadDesk.inMemory.meet ⟨.empty, .ofList [("ann", copy)]⟩
        ⟨.epoch, "ann", .utterance "Count!"⟩).1 =
      (Engine.leadDesk.inMemory.meet ⟨.empty, .ofList [("ann", annWaiting)]⟩
        ⟨annWaiting.updatedAt, "ann", .utterance "Count!"⟩).1 := by
  obtain ⟨hdecode, hstorable, hturn⟩ := @stored_sessions_resume Records (Dict Session)
  have hs : annWaiting.Storable := ⟨by decide, by decide⟩
  have hown : OwnIds (.ofList [("ann", annWaiting)]) := by
    intro id s hfind
    cases Dict.mem_of_find?_ofList hfind with
    | head => rfl
    | tail _ hnone => cases hnone
  have hfind : (Dict.ofList [("ann", annWaiting)]).find? "ann" = some annWaiting := rfl
  refine ⟨hdecode _ hs, annWaiting, hdecode _ hs, (hstorable _ _ (hdecode _ hs)).1, ?_⟩
  exact (hturn Engine.leadDesk annWaiting hs .empty _ _ hown hown hfind
    (hfind.trans (hdecode _ hs).symm) (.utterance "Count!") annWaiting.updatedAt .epoch).1

end Dialogue
