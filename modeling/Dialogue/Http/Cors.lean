import Dialogue.Http.Message
import Dialogue.Settings.Basic

/-! # Cross-origin requests

A browser asks whether a page of another origin may use the service.  Either every page may, or only
those of listed origins.

* `CorsPolicy.ofSettings?` — the policy of the settings; a wildcard cannot be listed.
* `CorsPolicy.letIn` — an ordinary response with the header field that lets the page in.
* `CorsPolicy.preflight` — the response to the question itself.
-/

namespace Dialogue.Http

/-- Who may use the service from other pages. -/
inductive CorsPolicy where
  | everyone
  | listed (origins : List String)
deriving DecidableEq, Repr

namespace CorsPolicy

/-- Whether a text can be the value of a header field. -/
def isFieldValue (text : String) : Bool :=
  text.toList.all fun c => (c.toNat ≥ 32 && c.toNat != 127) || c == '\t'

/-- The policy of the settings.  Origins that can be no field value are left out; if a wildcard is
among the others there is no policy. -/
def ofSettings? (s : ServerSettings) : Option CorsPolicy :=
  if s.corsEnabled then
    let origins := s.corsOrigins.filter isFieldValue
    if origins.contains "*" then none else some (.listed origins)
  else some .everyone

/-- The origin that a response admits, given the one that asks. -/
def admitted? : CorsPolicy → Option String → Option String
  | .everyone, _ => some "*"
  | .listed origins, origin => origin.filter origins.contains

/-- A response with the header field for the page that asks. -/
def letIn (p : CorsPolicy) (origin : Option String) (r : Response) : Response :=
  match p.admitted? origin with
  | some admitted => r.withField "access-control-allow-origin" admitted
  | none => r

/-- The methods that pages may use. -/
def methods : CorsPolicy → String
  | .everyone => "*"
  | .listed _ => "GET,POST,DELETE,OPTIONS"

/-- The response to the question whether a page may use the service. -/
def preflight (p : CorsPolicy) (origin : Option String) : Response :=
  ((p.letIn origin (.bare 200)).withField "access-control-allow-methods" p.methods).withField
    "access-control-allow-headers" "*"

end CorsPolicy

end Dialogue.Http
