import Dialogue.Fallback
import Dialogue.Projection
import Dialogue.Text.Alphabetic
import Dialogue.Template.Matcher

/-! # Settings

What the operator of a conversation service decides: where it listens and whom it answers, how many
phrasings a template may have, what is said when something goes wrong, how long the record source
may take and which fields are of interest, and how much is logged.  Everything has a default.

* `Settings` — the five groups, with their defaults.
* `Settings.validate` — the checks that no type expresses; the first one that fails is reported.
* `ConfigError` — what can be wrong with a configuration.
-/

namespace Dialogue

/-! ## The groups -/

/-- What an installation is for. -/
inductive Deployment where
  | development
  | staging
  | production
deriving DecidableEq, Repr

/-- Where the service listens, how many seconds a request may take, and which origins it answers. -/
structure ServerSettings where
  host : String
  port : Nat
  requestTimeout : Nat
  corsEnabled : Bool
  corsOrigins : List String
deriving DecidableEq, Repr

/-- All interfaces, port 8080, half a minute, every origin. -/
def ServerSettings.default : ServerSettings := ⟨"0.0.0.0", 8080, 30, false, []⟩

/-- How many phrasings a template may have, and the speech for what goes wrong. -/
structure EngineSettings where
  maxExpansions : Nat
  fallback : Fallback
deriving DecidableEq, Repr

/-- The defaults of the engine. -/
def EngineSettings.default : EngineSettings := ⟨Matcher.defaultLimit, Fallback.default⟩

/-- How many milliseconds the record source may take, the marker behind names, the fields of
interest by entity, and a file with records. -/
structure SourceSettings where
  patience : Nat
  marker : Char
  interest : Dict (List String)
  fixturesPath : Option String
deriving DecidableEq, Repr

/-- Five seconds, and all fields. -/
def SourceSettings.default : SourceSettings := ⟨5000, Projection.defaultMarker, .empty, none⟩

/-- The projection that the settings describe. -/
def SourceSettings.projection (s : SourceSettings) : Projection := ⟨s.marker, s.interest⟩

/-- How much is logged, and whether as data. -/
structure LogSettings where
  level : String
  asData : Bool
deriving DecidableEq, Repr

/-- Information and worse, as text. -/
def LogSettings.default : LogSettings := ⟨"info", false⟩

/-- All settings. -/
structure Settings where
  deployment : Deployment
  server : ServerSettings
  engine : EngineSettings
  source : SourceSettings
  log : LogSettings
deriving DecidableEq, Repr

/-- The settings of an installation that decides nothing. -/
def Settings.default : Settings := ⟨.development, .default, .default, .default, .default⟩

/-- Whether the installation serves real users. -/
def Settings.isProduction (s : Settings) : Bool := s.deployment == .production

/-! ## Validation -/

/-- What can be wrong with a configuration.  A text that could not be read is not described. -/
inductive ConfigError where
  | fileNotFound (path : String)
  | unreadable
  | invalidValue (field reason : String)
deriving DecidableEq, Repr

/-- The wording of a configuration error. -/
def ConfigError.message : ConfigError → String
  | .fileNotFound path => s!"Configuration file not found: {path}"
  | .unreadable => "Failed to parse configuration"
  | .invalidValue field reason => s!"Invalid value for {field}: {reason}"

/-- Whether a character can mark names: it must not be confused with a part of them. -/
def isMarker (c : Char) : Bool := !Text.isAlphanumeric c && !Text.isBlank c

/-- The settings, unless something is wrong with them. -/
def Settings.validate (s : Settings) : Except ConfigError Settings :=
  if s.server.port == 0 then .error (.invalidValue "server.port" "Port must be non-zero")
  else if s.engine.maxExpansions == 0 then
    .error (.invalidValue "engine.max_template_expansions"
      "At least one expansion per template is required")
  else if s.source.patience == 0 then
    .error (.invalidValue "data_source.timeout_ms" "Timeout must be positive")
  else if !isMarker s.source.marker then
    .error (.invalidValue "data_source.field_marker"
      ("Marker must be punctuation, got `" ++ s.source.marker.toString ++ "`"))
  else .ok s

end Dialogue
