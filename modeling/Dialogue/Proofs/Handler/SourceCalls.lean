import Dialogue.Service
import Dialogue.Proofs.Handler.Trace
import Dialogue.Proofs.Projection

/-!
# What reaches the record source

Handlers write the names of entities and fields with markers, or without; the record source is
called with names that have none.  To say so about the calls themselves, the source is replaced by
one that writes them down before it answers.  A handler cannot tell the difference.

* `RecordSource.recording`, `Setting.recording` — a source that writes down how it is called.
* `Projection.Reaches` — a request of a handler against the call that reaches the source.
* `run_recording` — what a script does, and the calls that are written down meanwhile.
* **`marked_names_are_cleaned`** — stripping undoes marking under every configuration that is
  accepted, unless its marker is the dot.
-/

namespace Dialogue

variable {σ τ α : Type}

/-! ## Writing calls down -/

/-- How the source is called. -/
inductive SourceCall where
  | search (entity term : String)
  | load (entity : String) (field value raw : Option String)
  | store (entity : String) (fields : Record)

/-- The source, together with the calls that it got. -/
def RecordSource.recording (source : RecordSource σ) : RecordSource (σ × List SourceCall) where
  search entity term patience s :=
    let (reply, s') := source.search entity term patience s.1
    (reply, s', s.2 ++ [.search entity term])
  load entity field value raw patience s :=
    let (reply, s') := source.load entity field value raw patience s.1
    (reply, s', s.2 ++ [.load entity field value raw])
  store entity fields patience s :=
    let (reply, s') := source.store entity fields patience s.1
    (reply, s', s.2 ++ [.store entity fields])
  name := source.name

/-- What handlers run in, except that the calls on the source are written down. -/
def Setting.recording (setting : Setting σ) : Setting (σ × List SourceCall) :=
  ⟨setting.knows, setting.source.recording, setting.projection, setting.patience⟩

/-- Whether a request is one for the record source. -/
def Request.asksSource : Request → Bool
  | .search _ _ | .load _ _ _ _ | .store _ _ => true
  | .observe | .say _ | .set _ _ | .addGoal _ => false

/-- The requests for the record source in a trace. -/
def sourceRequests (trace : List Event) : List Request :=
  (trace.map (·.request)).filter Request.asksSource

/-- A request reaches the source as a call in which the entity, the field and the names of the
record's fields are cleaned, and everything else is as it was. -/
inductive Projection.Reaches (p : Projection) : Request → SourceCall → Prop
  | search {entity name : String} (term : String) (hname : p.Cleans entity name) :
      Reaches p (.search entity term) (.search name term)
  | load {entity name : String} {field field' : Option String} (value raw : Option String)
      (hname : p.Cleans entity name) (hfield : Option.Rel p.Cleans field field') :
      Reaches p (.load entity field value raw) (.load name field' value raw)
  | store {entity name : String} {fields fields' : Record} (hname : p.Cleans entity name)
      (hfields : p.CleansFields fields fields') :
      Reaches p (.store entity fields) (.store name fields')

variable (setting : Setting σ)

/-- One request: nothing changes but that the call is written down, if there is one. -/
lemma perform_recording (hdot : setting.projection.marker ≠ '.') (r : Request) (t : Turn) (s : σ)
    (calls : List SourceCall) :
    ∃ new, r.perform setting.recording t (s, calls) =
        ((r.perform setting t s).1, (r.perform setting t s).2.1, (r.perform setting t s).2.2,
          calls ++ new) ∧
      List.Forall₂ setting.projection.Reaches ([r].filter Request.asksSource) new := by
  cases r with
  | search entity term =>
      exact ⟨_, rfl, .cons (.search term (setting.projection.cleans_strip hdot entity)) .nil⟩
  | load entity field value raw =>
      refine ⟨_, rfl, .cons (.load value raw (setting.projection.cleans_strip hdot entity) ?_) .nil⟩
      cases field with
      | none => exact .none
      | some field => exact .some (setting.projection.cleans_strip hdot field)
  | store entity fields =>
      exact ⟨_, rfl, .cons (.store (setting.projection.cleans_strip hdot entity)
        (setting.projection.cleansFields_stripFields hdot fields)) .nil⟩
  | _ => exact ⟨[], by rw [List.append_nil]; rfl, .nil⟩

/-- **A whole script**: the calls that are written down are its requests, cleaned. -/
lemma run_recording (hdot : setting.projection.marker ≠ '.') (script : Script α) (t : Turn) (s : σ)
    (calls : List SourceCall) :
    ∃ new, script.run setting.recording t (s, calls) =
        ((script.run setting t s).1, (script.run setting t s).2.1, (script.run setting t s).2.2,
          calls ++ new) ∧
      List.Forall₂ setting.projection.Reaches (sourceRequests (script.trace setting t s)) new := by
  induction script generalizing t s calls with
  | done a => exact ⟨[], by rw [List.append_nil]; rfl, .nil⟩
  | ask r k ih =>
      obtain ⟨first, hfirst, hreaches⟩ := perform_recording setting hdot r t s calls
      obtain ⟨later, hlater, hrest⟩ := ih (r.perform setting t s).1 (r.perform setting t s).2.1
        (r.perform setting t s).2.2 (calls ++ first)
      refine ⟨first ++ later, ?_, ?_⟩
      · rw [Script.run, hfirst, ← List.append_assoc]
        exact hlater
      · rw [Script.trace, sourceRequests, List.map_cons, ← List.singleton_append, List.filter_append]
        exact List.rel_append hreaches hrest

/-! ## Configurations -/

/-- The marker of a configuration that is accepted is no letter, digit or blank. -/
lemma Settings.isMarker_of_validate {s s' : Settings} (h : s.validate = .ok s') :
    isMarker s.source.marker = true := by
  cases hmarker : isMarker s.source.marker with
  | true => rfl
  | false =>
      rw [validate, hmarker] at h
      split at h <;> try cases h
      split at h <;> try cases h
      split at h <;> cases h

/-- **Marking undoes under every configuration that is accepted**, if its marker, which is no letter,
digit or blank, is not the dot.  Stripping a name twice is stripping it once.  Stripping a name of
which some segments were marked gives the name back; with a dot as the marker it does so only if
nothing was marked after all.  And unless the marker is a dot, whatever a handler does on an engine
of this configuration, the record source gets its requests, in order, with every name cleaned: no
segment ends with the marker, and in place of a marked name it gets the name that was meant. -/
theorem marked_names_are_cleaned {s : Settings} (h : s.validate = .ok s) :
    let p := s.source.projection
    isMarker p.marker = true ∧
    (∀ name, p.strip (p.strip name) = p.strip name) ∧
    (∀ meant given, p.Unmarked meant → p.Marks meant given →
      (p.strip given = meant ↔ (p.marker = '.' → given = meant))) ∧
    (p.marker ≠ '.' → ∀ (model : Model) (source : RecordSource σ) (store : SessionStore τ)
      (handler : Handler) (t : Turn) (state : σ),
      let setting := (Engine.ofSettings model source store s.engine s.source).setting
      ∃ calls, handler.run setting.recording t (state, []) =
          ((handler.run setting t state).1, (handler.run setting t state).2.1,
            (handler.run setting t state).2.2, calls) ∧
        List.Forall₂ p.Reaches (sourceRequests (handler.trace setting t state)) calls) := by
  intro p
  refine ⟨Settings.isMarker_of_validate h, p.strip_strip, fun _ _ => p.strip_eq_iff_of_marks,
    fun hdot model source store handler t state => ?_⟩
  exact run_recording _ hdot handler.body.run t state []

/-- With the usual marker, `Who.Name` comes out of `Who*.Name*`, and `Lead` is what is searched if a
handler searches `Lead*`. -/
theorem lead_is_searched :
    let handler : Handler := .suspending (do let _ ← Act.search "Lead*" "bob")
    let source := Records.source ⟨5, none, fun _ => "0"⟩
    let setting := (Engine.ofSettings ⟨.empty, [], []⟩ source .inMemory
      Settings.default.engine Settings.default.source).setting
    Settings.default.source.projection.strip "Who*.Name*" = "Who.Name" ∧
    ∀ t, (handler.run setting.recording t (.empty, [])).2.2.2 = [.search "Lead" "bob"] := by
  intro handler source setting
  have h := @marked_names_are_cleaned Records (Dict Session) Settings.default rfl
  obtain ⟨-, -, hstrip, hcalls⟩ := h
  have hwho : Settings.default.source.projection.Unmarked "Who.Name" := by decide
  have hlead : Settings.default.source.projection.Unmarked "Lead" := by decide
  refine ⟨?_, fun t => ?_⟩
  · refine (hstrip "Who.Name" "Who*.Name*" hwho ?_).mpr (by decide)
    exact ⟨["Who*".toList, "Name*".toList], by decide, .cons (.inr rfl) (.cons (.inr rfl) .nil)⟩
  · obtain ⟨calls, hrun, hreaches⟩ :=
      hcalls (by decide) ⟨.empty, [], []⟩ source .inMemory handler t .empty
    have hrequests : sourceRequests (handler.trace setting t .empty) =
        [.search "Lead*" "bob"] := rfl
    rw [hrequests] at hreaches
    rw [hrun]
    cases hreaches with
    | cons hsearch hrest =>
        cases hrest
        cases hsearch with
        | search term hname =>
            rw [hname.2 "Lead" hlead ⟨["Lead*".toList], by decide, .cons (.inr rfl) .nil⟩]

/-- The dot is accepted as a marker, and then `Lead.`, which is `Lead` with the marker behind it,
stays as it is, also on its way to the record source. -/
theorem dotted_lead_is_searched :
    let s : Settings :=
      { Settings.default with source := { SourceSettings.default with marker := '.' } }
    let p := s.source.projection
    let source := Records.source ⟨5, none, fun _ => "0"⟩
    let setting := (Engine.ofSettings ⟨.empty, [], []⟩ source .inMemory s.engine s.source).setting
    let handler : Handler := .suspending (do let _ ← Act.search "Lead." "bob")
    s.validate = .ok s ∧ p.Unmarked "Lead" ∧ p.Marks "Lead" "Lead." ∧ p.strip "Lead." ≠ "Lead" ∧
    ∀ t, (handler.run setting.recording t (.empty, [])).2.2.2 = [.search "Lead." "bob"] := by
  refine ⟨rfl, by decide, ⟨["Lead.".toList], by decide, ?_⟩, by decide, fun t => rfl⟩
  exact .cons (.inr rfl) .nil

end Dialogue
