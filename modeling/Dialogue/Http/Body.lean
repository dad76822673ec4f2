import Dialogue.Json.Parser
import Dialogue.Http.Message
import Dialogue.Http.MediaType

/-! # The body of an utterance request

An utterance comes as an object with a text, or as a list that holds only the text.  The body is
read from front to back and the first fault decides: it may not be well formed, or be something else
than an utterance.  What follows the object or list is not looked at.  A body that is too large is
not read at all.

* `utteranceOf` — the text, or the `BodyFault`.
* `Http.Request.utterance` — the same for a request, whose media type and size are looked
  at first.
-/

namespace Dialogue.Http

open Json

/-- Why a body holds no utterance. -/
inductive BodyFault where
  | wrongMediaType
  | tooLarge
  | malformed
  | wrongShape
deriving DecidableEq, Repr

/-- The status that tells of a fault. -/
def BodyFault.status : BodyFault → Nat
  | .wrongMediaType => 415
  | .tooLarge => 413
  | .malformed => 400
  | .wrongShape => 422

/-- The fault of what stands where something else is wanted.  Of an object or a list only the first
character has been looked at. -/
def faultAt (cs : List Char) : BodyFault :=
  match skipGaps cs with
  | '[' :: _ | '{' :: _ => .wrongShape
  | cs => if (value? 1 0 cs).isSome then .wrongShape else .malformed

/-- The text at the front of a body, and what follows it. -/
def textAtFront (cs : List Char) : Except BodyFault (String × List Char) :=
  match skipGaps cs with
  | '"' :: rest =>
    match string? rest with
    | some found => .ok found
    | none => .error .malformed
  | cs => .error (faultAt cs)

/-- The only item of a list, after its bracket. -/
def onlyItem (cs : List Char) : Except BodyFault String :=
  match skipGaps cs with
  | ']' :: _ => .error .wrongShape
  | cs =>
    match textAtFront cs with
    | .error e => .error e
    | .ok (text, rest) =>
      match skipGaps rest with
      | ']' :: _ => .ok text
      | _ => .error .malformed

/-- The value of a member: that of the text is kept, any other is passed over, whatever it stands
for. -/
def memberValue (name : String) (found : Option String) (cs : List Char) :
    Except BodyFault (Option String × List Char) :=
  if name == "text" then (textAtFront cs).map fun (text, rest) => (some text, rest)
  else
    match skip? (2 * cs.length + 2) cs with
    | some rest => .ok (found, rest)
    | none => .error .malformed

/-- The text among the members of an object, from the first member or a later one on.  The count
bounds their number. -/
def textMember : Nat → Option String → List Char → Except BodyFault String
  | 0, _, _ => .error .malformed
  | count + 1, found, cs =>
    match skipGaps cs with
    | '"' :: rest =>
      match string? rest with
      | none => .error .malformed
      | some (name, rest) =>
        if name == "text" && found.isSome then .error .wrongShape
        else
          match skipGaps rest with
          | ':' :: rest =>
            match memberValue name found rest with
            | .error e => .error e
            | .ok (found, rest) =>
              match skipGaps rest with
              | ',' :: rest => textMember count found rest
              | '}' :: _ =>
                match found with
                | some text => .ok text
                | none => .error .wrongShape
              | _ => .error .malformed
          | _ => .error .malformed
    | _ => .error .malformed

/-- The utterance of a body. -/
def utteranceOf (body : String) : Except BodyFault String :=
  let cs := body.toList
  match skipGaps cs with
  | '[' :: rest => onlyItem rest
  | '{' :: rest =>
    match skipGaps rest with
    | '}' :: _ => .error .wrongShape
    | rest => textMember rest.length none rest
  | cs => .error (faultAt cs)

/-- How many bytes a body may have. -/
def bodyLimit : Nat := 2097152

/-- The utterance of a request. -/
def Request.utterance (r : Request) : Except BodyFault String :=
  match (r.fields.find? "content-type").bind MediaType.read? with
  | some mediaType =>
    if !mediaType.isJson then .error .wrongMediaType
    else if r.body.utf8ByteSize > bodyLimit then .error .tooLarge
    else utteranceOf r.body
  | none => .error .wrongMediaType

end Dialogue.Http
