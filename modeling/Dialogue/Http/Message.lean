import Dialogue.Json.Decode

/-! # Requests and responses

The part of HTTP messages that the service looks at or decides.

* `Http.Request` — method, target, header fields and body.
* `Http.Response` — status, header fields and content.
* `Http.pathOf` — the path of a target, without what follows it.
-/

namespace Dialogue.Http

/-- A request.  The names of header fields are in lower case. -/
structure Request where
  method : String
  target : String
  fields : Dict String
  body : String

/-- What a response carries: nothing, an explanation for people whose wording is left open, or a
value. -/
inductive Content where
  | empty
  | explanation
  | data (value : Json)
deriving DecidableEq

/-- The media type of a content. -/
def Content.mediaType? : Content → Option String
  | .empty => none
  | .explanation => some "text/plain; charset=utf-8"
  | .data _ => some "application/json"

/-- A response. -/
structure Response where
  status : Nat
  fields : Dict String
  content : Content
deriving DecidableEq

namespace Response

/-- A response with a content, and the field that names its media type. -/
def of (status : Nat) (content : Content) : Response :=
  let fields : Dict String :=
    match content.mediaType? with
    | some mediaType => .ofList [("content-type", mediaType)]
    | none => .empty
  ⟨status, fields, content⟩

/-- A response without content. -/
def bare (status : Nat) : Response := .of status .empty

/-- The response with a header field. -/
def withField (r : Response) (name value : String) : Response :=
  { r with fields := r.fields.insert name value }

/-- The response without its content, as it answers a request for the header alone. -/
def withoutContent (r : Response) : Response := { r with content := .empty }

end Response

/-- The path of a target: what stands before a question mark or a number sign. -/
def pathOf (target : String) : List Char := target.toList.takeWhile fun c => c != '?' && c != '#'

end Dialogue.Http
