import Dialogue.Json.Parser
import Dialogue.Projection

/-! # Routes

The service has three kinds of path: its health, a session, and the utterances of a session.  A path
is recognized as it is written; the session's id in it may hold escaped bytes.

* `Route.ofPath?` — the route of a path.
* `Route.methods` — what can be done there.
* `unescape?` — the text of an escaped segment.
-/

namespace Dialogue.Http

/-- A route; ids are as they are written in the path. -/
inductive Route where
  | health
  | session (rawId : List Char)
  | utterances (rawId : List Char)
deriving DecidableEq, Repr

namespace Route

/-- The route of a path.  A path that ends in the id of a session has to have one. -/
def ofPath? (path : List Char) : Option Route :=
  match (splitAt '/' path).map String.ofList with
  | ["", "health"] => some .health
  | ["", "api", "sessions", id] => if id.isEmpty then none else some (.session id.toList)
  | ["", "api", "sessions", id, "utterances"] => some (.utterances id.toList)
  | _ => none

/-- The methods of a route.  Where something can be fetched, its header can be. -/
def methods : Route → List String
  | .health => ["GET", "HEAD"]
  | .session _ => ["GET", "HEAD", "DELETE"]
  | .utterances _ => ["POST"]

end Route

/-! ## Escaped bytes -/

/-- The value of a byte that is a hexadecimal digit. -/
def hexByte? (b : UInt8) : Option Nat := Json.hexValue? (Char.ofNat b.toNat)

/-- The bytes with every escape, a percent sign and two hexadecimal digits, replaced by its byte. -/
def unescapeBytes : List UInt8 → List UInt8
  | 37 :: a :: b :: rest =>
    match hexByte? a, hexByte? b with
    | some m, some n => UInt8.ofNat (16 * m + n) :: unescapeBytes rest
    | _, _ => 37 :: unescapeBytes (a :: b :: rest)
  | b :: rest => b :: unescapeBytes rest
  | [] => []

/-- The text of an escaped segment, if its bytes are one. -/
def unescape? (segment : List Char) : Option String :=
  String.fromUTF8? (ByteArray.mk (unescapeBytes (String.ofList segment).toUTF8.toList).toArray)

end Dialogue.Http
