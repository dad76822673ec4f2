import Dialogue.Json.Decode
import Dialogue.Text.Spacing

/-! # Projection of records

Scripts write the names of entities and fields with a marker behind them (`Lead*`, `Who*.Name*`);
the record source knows the names without it.  A script may also declare which fields of an entity
it is interested in, and then sees only those.

* `Projection.strip` — the name without markers: each dotted segment loses those at its end.
* `Projection.stripFields` — the same for the fields of a record.
* `Projection.kept?` — the top-level fields of interest of an entity, if any were declared.
* `Projection.project` — a record cut down to them.  The record's `Id` always stays.
-/

namespace Dialogue

/-- The marker behind names, and the fields of interest by entity, both written with or without
markers. -/
structure Projection where
  marker : Char
  interest : Dict (List String)
deriving DecidableEq, Repr

/-! ## Dotted names -/

/-- The pieces of a text between occurrences of a separator; always at least one. -/
def splitAt (separator : Char) : List Char → List (List Char)
  | [] => [[]]
  | c :: cs =>
    match splitAt separator cs with
    | [] => [[c]]
    | w :: ws => if c == separator then [] :: w :: ws else (c :: w) :: ws

/-- The pieces put together with the separator between neighbours. -/
def joinWith (separator : Char) : List (List Char) → List Char
  | [] => []
  | [w] => w
  | w :: ws => w ++ separator :: joinWith separator ws

namespace Projection

/-- A projection without fields of interest. -/
def ofMarker (marker : Char) : Projection := ⟨marker, .empty⟩

/-- The marker that is used if none is chosen. -/
def defaultMarker : Char := '*'

/-- The name without markers at the ends of its dotted segments. -/
def strip (p : Projection) (name : String) : String :=
  if name.toList.contains p.marker then
    String.ofList
      (joinWith '.' ((splitAt '.' name.toList).map (Text.trimEndWhile (· == p.marker))))
  else name

/-- Declares the fields of interest of an entity. -/
def withFields (p : Projection) (entity : String) (fields : List String) : Projection :=
  { p with interest := p.interest.insert (p.strip entity) fields }

/-- The record with its field names stripped.  Of several fields that strip to one name the last
stays. -/
def stripFields (p : Projection) (record : Record) : Record :=
  .ofList (record.entries.map fun e => (p.strip e.1, e.2))

/-- The first dotted segment of a name. -/
def topSegment (name : String) : String := String.ofList (name.toList.takeWhile (· != '.'))

/-- The top-level fields of interest of an entity, each once. -/
def kept? (p : Projection) (entity : String) : Option (List String) :=
  let entity := p.strip entity
  (p.interest.entries.find? fun e => p.strip e.1 == entity).map fun e =>
    (e.2.map fun f => topSegment (p.strip f)).foldl
      (fun kept f => if kept.contains f then kept else kept ++ [f]) []

/-- The record cut down to the fields of interest of its entity and its `Id`. -/
def project (p : Projection) (entity : String) (record : Record) : Record :=
  match p.kept? entity with
  | some kept => record.filter fun name _ => kept.contains name || name == "Id"
  | none => record

/-! ## As a value -/

open Json in
/-- A projection has a marker and fields of interest, both with defaults. -/
def decode? (v : Json) : Option Projection := do
  let members ← fields? ["marker", "fields_of_interest"] v
  let marker ← optional? members "marker" defaultMarker Reader.strict.char?
  let interest ← optional? members "fields_of_interest" .empty (dict? (list? asText?))
  return ⟨marker, interest⟩

/-- A projection as a value. -/
def encode (p : Projection) : Json :=
  .ofDict (.ofList [
    ("marker", .str (String.singleton p.marker)),
    ("fields_of_interest", .ofDict (p.interest.map fun fs => .arr (fs.map .str)))])

end Projection

end Dialogue
