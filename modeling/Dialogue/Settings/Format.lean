import Dialogue.Settings.Basic

/-! # Settings as values

Each group of settings is written as an object.  A group or a field that is missing has its default,
but a null has not.

* `Settings.decode?` — reads scalars as strictly as the given `Reader` says.
* `Settings.encode` — writes every field.
-/

namespace Dialogue

open Json

/-! ## Deployments -/

/-- The name of a deployment. -/
def Deployment.name : Deployment → String
  | .development => "development"
  | .staging => "staging"
  | .production => "production"

/-- All deployments. -/
def Deployment.all : List Deployment := [.development, .staging, .production]

/-- The deployment with a name. -/
def Deployment.ofName? (name : String) : Option Deployment := all.find? (·.name == name)

theorem Deployment.ofName?_name (d : Deployment) : ofName? d.name = some d := by
  cases d <;> rfl

/-- A deployment is known by its name. -/
def Deployment.decode? (r : Reader) (v : Json) : Option Deployment :=
  (r.name? (all.map Deployment.name) v).bind ofName?

/-! ## Reading the groups -/

/-- Where the service listens, and so on. -/
def ServerSettings.decode? (r : Reader) (v : Json) : Option ServerSettings := do
  let members ←
    fields? ["host", "port", "request_timeout_seconds", "cors_enabled", "cors_origins"] v
  let host ← optional? members "host" default.host r.text?
  let port ← optional? members "port" default.port (r.nat? 65535)
  let timeout ←
    optional? members "request_timeout_seconds" default.requestTimeout (r.nat? uint64Max)
  let enabled ← optional? members "cors_enabled" default.corsEnabled r.bool?
  let origins ← optional? members "cors_origins" default.corsOrigins (list? r.text?)
  return ⟨host, port, timeout, enabled, origins⟩

/-- The speech for what goes wrong. -/
def Fallback.decode? (r : Reader) (v : Json) : Option Fallback := do
  let members ← fields? ["not_understood", "reprompt_prefix", "data_source_failure",
    "item_not_found", "nothing_listed", "technical_issue"] v
  let notUnderstood ← optional? members "not_understood" default.notUnderstood r.text?
  let repromptPrefix ← optional? members "reprompt_prefix" default.repromptPrefix r.text?
  let sourceFailure ← optional? members "data_source_failure" default.sourceFailure r.text?
  let itemNotFound ← optional? members "item_not_found" default.itemNotFound r.text?
  let nothingListed ← optional? members "nothing_listed" default.nothingListed r.text?
  let technicalIssue ← optional? members "technical_issue" default.technicalIssue r.text?
  return ⟨notUnderstood, repromptPrefix, sourceFailure, itemNotFound, nothingListed, technicalIssue⟩

/-- The limit on phrasings and the speech. -/
def EngineSettings.decode? (r : Reader) (v : Json) : Option EngineSettings := do
  let members ← fields? ["max_template_expansions", "fallback"] v
  let limit ←
    optional? members "max_template_expansions" default.maxExpansions (r.nat? uint64Max)
  let fallback ← optional? members "fallback" default.fallback (Fallback.decode? r)
  return ⟨limit, fallback⟩

/-- How the record source is used. -/
def SourceSettings.decode? (r : Reader) (v : Json) : Option SourceSettings := do
  let members ← fields? ["timeout_ms", "field_marker", "fields_of_interest", "fixtures_path"] v
  let patience ← optional? members "timeout_ms" default.patience (r.nat? uint64Max)
  let marker ← optional? members "field_marker" default.marker r.char?
  let interest ← optional? members "fields_of_interest" default.interest (dict? (list? r.text?))
  let path ← optional? members "fixtures_path" default.fixturesPath (nullable? r.text?)
  return ⟨patience, marker, interest, path⟩

/-- How much is logged. -/
def LogSettings.decode? (r : Reader) (v : Json) : Option LogSettings := do
  let members ← fields? ["log_level", "log_json"] v
  let level ← optional? members "log_level" default.level r.text?
  let asData ← optional? members "log_json" default.asData r.bool?
  return ⟨level, asData⟩

/-- All settings. -/
def Settings.decode? (r : Reader) (v : Json) : Option Settings := do
  let members ← fields? ["environment", "server", "engine", "data_source", "observability"] v
  let deployment ←
    optional? members "environment" default.deployment (Deployment.decode? r)
  let server ← optional? members "server" default.server (ServerSettings.decode? r)
  let engine ← optional? members "engine" default.engine (EngineSettings.decode? r)
  let source ← optional? members "data_source" default.source (SourceSettings.decode? r)
  let log ← optional? members "observability" default.log (LogSettings.decode? r)
  return ⟨deployment, server, engine, source, log⟩

/-! ## Writing -/

/-- A dictionary of lists of texts. -/
def encodeInterest (interest : Dict (List String)) : Json :=
  .ofDict (interest.map fun fields => .arr (fields.map .str))

/-- Every field of the server's settings. -/
def ServerSettings.encode (s : ServerSettings) : Json :=
  .ofDict (.ofList [("host", .str s.host), ("port", .int s.port),
    ("request_timeout_seconds", .int s.requestTimeout), ("cors_enabled", .bool s.corsEnabled),
    ("cors_origins", .arr (s.corsOrigins.map .str))])

/-- Every text. -/
def Fallback.encode (f : Fallback) : Json :=
  .ofDict (.ofList [("not_understood", .str f.notUnderstood),
    ("reprompt_prefix", .str f.repromptPrefix), ("data_source_failure", .str f.sourceFailure),
    ("item_not_found", .str f.itemNotFound), ("nothing_listed", .str f.nothingListed),
    ("technical_issue", .str f.technicalIssue)])

/-- Every field of the engine's settings. -/
def EngineSettings.encode (s : EngineSettings) : Json :=
  .ofDict (.ofList [("max_template_expansions", .int s.maxExpansions),
    ("fallback", s.fallback.encode)])

/-- Every field of the record source's settings. -/
def SourceSettings.encode (s : SourceSettings) : Json :=
  .ofDict (.ofList [("timeout_ms", .int s.patience), ("field_marker", .str s.marker.toString),
    ("fields_of_interest", encodeInterest s.interest),
    ("fixtures_path", (s.fixturesPath.map .str).getD .null)])

/-- Every field of the log's settings. -/
def LogSettings.encode (s : LogSettings) : Json :=
  .ofDict (.ofList [("log_level", .str s.level), ("log_json", .bool s.asData)])

/-- Every field of all settings. -/
def Settings.encode (s : Settings) : Json :=
  .ofDict (.ofList [("environment", .str s.deployment.name), ("server", s.server.encode),
    ("engine", s.engine.encode), ("data_source", s.source.encode),
    ("observability", s.log.encode)])

end Dialogue
