import Dialogue.Engine
import Dialogue.Settings.File
import Dialogue.Demo.Samples
import Dialogue.Http.Body
import Dialogue.Http.Cors
import Dialogue.Http.Route

/-! # The service

The demo conversations behind an HTTP interface: a session takes utterances, can be looked at and
dropped, and the service tells of its health.  A request that takes too long is given up, and then
nothing has changed.

* `ServiceError` — what can go wrong, with wording and status.
* `Service.start` — a service with given collaborators; `Service.startAlone` has everything in
  memory.
* `Service.serve` — the response to a request, and the state after it.
-/

namespace Dialogue

open Http (Response Route CorsPolicy unescape? pathOf)

/-! ## Errors -/

/-- What can go wrong in a service. -/
inductive ServiceError where
  | session (reason : String)
  | invalidRequest (reason : String)
  | script (error : ModelError)
  | configuration (error : ConfigError)
  | internal (reason : String)
deriving DecidableEq, Repr

namespace ServiceError

/-- A failure of the session store. -/
def ofStore (e : StoreError) : ServiceError := .session ("Session store error: " ++ e.message)

/-- The wording of an error. -/
def message : ServiceError → String
  | .session reason => s!"Session error: {reason}"
  | .invalidRequest reason => s!"Invalid request: {reason}"
  | .script e => "Script error: " ++ e.message
  | .configuration e => "Configuration error: " ++ e.message
  | .internal reason => s!"Internal error: {reason}"

/-- The status that tells of an error: that of the client, of a collaborator, or its own. -/
def status : ServiceError → Nat
  | .session _ => 503
  | .invalidRequest _ => 400
  | .script _ | .configuration _ | .internal _ => 500

end ServiceError

/-- An object that only tells of an error. -/
def errorData (message : String) : Json := .ofDict (.ofList [("error", .str message)])

/-- The response that tells of an error. -/
def ServiceError.response (e : ServiceError) : Response :=
  .of e.status (.data (errorData e.message))

/-! ## Starting -/

/-- An engine behind an interface, with the time in seconds that a request may take. -/
structure Service (σ τ : Type) where
  engine : Engine σ τ
  deployment : Deployment
  cors : CorsPolicy
  timeLimit : Nat

/-- Why a service does not start.  A wildcard among the listed origins is a fault of the operator
that no response can tell of. -/
inductive StartError where
  | error (error : ServiceError)
  | wildcardOrigin
deriving DecidableEq, Repr

/-- The version that the service tells of. -/
def serviceVersion : String := "0.1.0"

/-- The settings with the fields that the demo conversations read, if no others are of interest. -/
def Settings.withDemoInterest (s : Settings) : Settings :=
  if s.source.interest.isEmpty then { s with source := { s.source with interest := Demo.interest } }
  else s

/-- An engine for a model, with collaborators and settings. -/
def Engine.ofSettings {σ τ : Type} (model : Model) (source : RecordSource σ)
    (store : SessionStore τ) (engine : EngineSettings) (data : SourceSettings) : Engine σ τ :=
  { model, source, store, projection := data.projection, fallback := engine.fallback
    patience := data.patience }

namespace Service

variable {σ τ : Type}

/-- The demo conversations over given collaborators. -/
def start (patterns : PatternBuilder) (s : Settings) (source : RecordSource σ)
    (store : SessionStore τ) : Except StartError (Service σ τ) :=
  match Demo.model patterns s.engine with
  | .error e => .error (.error (.script e))
  | .ok model =>
    match CorsPolicy.ofSettings? s.server with
    | none => .error .wildcardOrigin
    | some cors =>
      .ok ⟨.ofSettings model source store s.engine s.source, s.deployment, cors,
        s.server.requestTimeout⟩

/-- The records of a service that has everything in memory: those of the fixtures file if there is
one, given its text if it exists, and otherwise the samples. -/
def ownRecords (s : Settings) (fixturesText : Option String) (now : Timestamp) :
    Except ConfigError Records :=
  match s.source.fixturesPath with
  | some path => (Fixtures.ofFile path fixturesText).map Fixtures.records
  | none => .ok (Demo.samples now)

/-- The demo conversations with everything in memory, and the state to begin with. -/
def startAlone (patterns : PatternBuilder) (s : Settings) (fixturesText : Option String)
    (newId : Nat → String) (now : Timestamp) :
    Except StartError (Service Records (Dict Session) × World Records (Dict Session)) :=
  match ownRecords s fixturesText now with
  | .error e => .error (.error (.configuration e))
  | .ok records => do
    let service ← start patterns s.withDemoInterest (Records.source ⟨0, none, newId⟩)
      SessionStore.inMemory
    return (service, ⟨records, .empty⟩)

/-! ## What can be asked for -/

/-- How the service is. -/
def health (s : Service σ τ) (w : World σ τ) : Response :=
  let count :=
    match s.engine.store.ids w.sessions with
    | .ok ids => ids.length
    | .error _ => 0
  .of 200 (.data (.ofDict (.ofList [("status", .str "healthy"), ("version", .str serviceVersion),
    ("environment", .str s.deployment.name), ("sessions", .int count)])))

/-- What can be seen of a session: of its values only the names. -/
def summary (session : Session) : Json :=
  .ofDict (.ofList [
    ("session_id", .str session.id),
    ("active_goal", (session.activeGoal?.map .str).getD .null),
    ("goals", .arr (session.goals.ids.map .str)),
    ("slots", .arr (session.slots.names.map .str)),
    ("turn_count", .int session.turns),
    ("updated_at", .str session.updatedAt.text)])

/-- A session. -/
def showSession (s : Service σ τ) (id : String) (w : World σ τ) : Response :=
  match s.engine.store.get w.sessions id with
  | .error e => (ServiceError.ofStore e).response
  | .ok none => .of 404 (.data (errorData s!"session `{id}` not found"))
  | .ok (some session) => .of 200 (.data (summary session))

/-- Drops a session. -/
def drop (s : Service σ τ) (id : String) (w : World σ τ) : Response × World σ τ :=
  match s.engine.endSession id w with
  | (.ok (), w) => (.bare 204, w)
  | (.error e, w) => ((ServiceError.ofStore e).response, w)

/-- One utterance of a session: the response, how many milliseconds it took, and the state after
it. -/
def say (s : Service σ τ) (now : Timestamp) (id : String) (r : Http.Request) (w : World σ τ) :
    Response × Nat × World σ τ :=
  match r.utterance with
  | .error fault => (.of fault.status .explanation, 0, w)
  | .ok text =>
    if id.toList.all Text.isBlank then
      ((ServiceError.invalidRequest "session id is empty").response, 0, w)
    else
      let (report, after) := s.engine.handleUtterance now id text w
      let response : Response :=
        match report.outcome with
        | .ok outcome =>
          .of 200 (.data (.ofDict (.ofList [("spoken_output", .str outcome.spoken),
            ("session_updated", .bool outcome.updated)])))
        | .error e => (ServiceError.ofStore e).response
      (response, report.waited, after)

/-! ## Requests -/

/-- Does what is asked for at a route.  An id that is no text is a fault of the client. -/
def perform (s : Service σ τ) (now : Timestamp) (route : Route) (r : Http.Request) (w : World σ τ) :
    Response × Nat × World σ τ :=
  let withId (rawId : List Char) (action : String → Response × Nat × World σ τ) :
      Response × Nat × World σ τ :=
    match unescape? rawId with
    | some id => action id
    | none => (.of 400 .explanation, 0, w)
  match route with
  | .health => (s.health w, 0, w)
  | .session rawId =>
    withId rawId fun id =>
      if r.method == "DELETE" then
        let (response, w) := s.drop id w
        (response, 0, w)
      else (s.showSession id w, 0, w)
  | .utterances rawId => withId rawId fun id => s.say now id r w

/-- The response with what a browser has to know; the question of a browser is answered at once. -/
def forBrowser (s : Service σ τ) (r : Http.Request) (response : Response) : Response :=
  let origin := r.fields.find? "origin"
  if r.method == "OPTIONS" then s.cors.preflight origin else s.cors.letIn origin response

/-- The response, unless it took too long: then the request is given up and the state is as it
was. -/
def withinLimit (s : Service σ τ) (before : World σ τ) (response : Response) (waited : Nat)
    (after : World σ τ) : Response × World σ τ :=
  if 1000 * s.timeLimit ≤ waited then (.bare 408, before) else (response, after)

/-- The response to a request, and the state after it. -/
def serve (s : Service σ τ) (now : Timestamp) (r : Http.Request) (w : World σ τ) :
    Response × World σ τ :=
  match Route.ofPath? (pathOf r.target) with
  | none => s.withinLimit w (s.forBrowser r (.bare 404)) 0 w
  | some route =>
    if route.methods.contains r.method then
      let (response, waited, after) := s.perform now route r w
      let (response, w) := s.withinLimit w (s.forBrowser r response) waited after
      (if r.method == "HEAD" then response.withoutContent else response, w)
    else
      let (response, w) := s.withinLimit w (s.forBrowser r (.bare 405)) 0 w
      (response.withField "allow" (",".intercalate route.methods), w)

end Service

end Dialogue
