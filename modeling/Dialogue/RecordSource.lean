import Dialogue.Json.Decode
import Dialogue.Spoken
import Dialogue.Text.Spacing
import Dialogue.Text.Case

/-! # Record sources

Handlers look things up and store things in a record source, such as a system for customer records.
A source takes its time and may fail; a call says how long it is prepared to wait.  Like that of a
session store, the type of a source's state is a parameter.

* `RecordSource` — the three calls.
* `Reply` — what a call gave, and how long it took.
* `Records` — the state of a source in memory; `Records.source` makes it a source, with a latency
  and possibly a failure that every call suffers.
* `Fixtures` — the records to begin with.
-/

namespace Dialogue

/-- Failure of a record source. -/
inductive SourceError where
  | timeout (milliseconds : Nat)
  | unknownEntity (entity : String)
  | unavailable (reason : String)
  | rejected (reason : String)
deriving DecidableEq, Repr

/-- The wording of a source failure. -/
def SourceError.message : SourceError → String
  | .timeout ms => "data source timed out after " ++ naturalText ms ++ "ms"
  | .unknownEntity entity => s!"unknown entity type: {entity}"
  | .unavailable reason => s!"data source unavailable: {reason}"
  | .rejected reason => s!"data source rejected the request: {reason}"

/-- What a call gave, and after how many milliseconds. -/
structure Reply (α : Type) where
  waited : Nat
  result : Except SourceError α

/-- A source whose state is a `σ`.  Each call is given the number of milliseconds the caller waits
at most; entities and fields are named without markers. -/
structure RecordSource (σ : Type) where
  /-- The records of an entity that contain a text, best match first. -/
  search : (entity term : String) → (patience : Nat) → σ → Reply (List Record) × σ
  /-- The records of an entity, or those that have a value in a field, or those that a filter in the
  source's own language selects. -/
  load : (entity : String) → (field value raw : Option String) → (patience : Nat) → σ →
    Reply (List Record) × σ
  /-- Adds a record, and gives it back as it is stored. -/
  store : (entity : String) → Record → (patience : Nat) → σ → Reply Record × σ
  name : String

/-! ## Records in memory -/

/-- Records by entity; the answers to raw filters, by entity and by filter in lower case; and the
number of ids given out. -/
structure Records where
  entities : Dict (List Record)
  views : List ((String × String) × List Record)
  idsGiven : Nat

namespace Records

/-- No entities. -/
def empty : Records := ⟨.empty, [], 0⟩

/-- The records of an entity. -/
def ofEntity (r : Records) (entity : String) : List Record := (r.entities.find? entity).getD []

/-- Makes the given records those of an entity. -/
def withEntity (r : Records) (entity : String) (records : List Record) : Records :=
  { r with entities := r.entities.insert entity records }

/-- How a raw filter is compared with those that are known. -/
def filterKey (filter : String) : String := Text.lower (Text.trimBlanks filter)

/-- Registers the answer to a raw filter on an entity, which exists from then on. -/
def withView (r : Records) (entity filter : String) (records : List Record) : Records :=
  let r := if r.entities.contains entity then r else r.withEntity entity []
  { r with views := ((entity, filterKey filter), records) :: r.views }

/-- Whether a list of characters occurs within another. -/
def occursIn (needle : List Char) : List Char → Bool
  | [] => needle.isEmpty
  | c :: cs => needle.isPrefixOf (c :: cs) || occursIn needle cs

/-- Whether some text among the fields of a record contains a text, ignoring case. -/
def mentions (record : Record) (term : String) : Bool :=
  let needle := (Text.lower term).toList
  record.values.any fun v =>
    match v with
    | .str s => occursIn needle (Text.lower s).toList
    | _ => false

/-- The records that a load without raw filter selects. -/
def select (records : List Record) : (field value : Option String) → List Record
  | some field, some value =>
    records.filter fun r => Text.sameIgnoringCase (r.spokenField field) value
  | _, _ => records

/-- The record under an id: its own, or a new one. -/
def withId (newId : Nat → String) (r : Records) (record : Record) : Record × Records :=
  if record.contains "Id" then (record, r)
  else (record.insert "Id" (.str (newId r.idsGiven)), { r with idsGiven := r.idsGiven + 1 })

/-- How a source in memory behaves: how long every call takes, whether every call fails, and which
ids it gives to records without one. -/
structure Behaviour where
  latency : Nat
  failure : Option SourceError
  newId : Nat → String

/-- Why a call on an entity does not get as far as the records, if it does not. -/
def Behaviour.obstacle? (b : Behaviour) (r : Records) (entity : String) (patience : Nat) :
    Option SourceError :=
  if b.latency > patience then some (.timeout patience)
  else
    match b.failure with
    | some e => some e
    | none => if r.entities.contains entity then none else some (.unknownEntity entity)

/-- A call on an entity: the obstacle if there is one, and then nothing changes; otherwise what
`action` does to the records. -/
def call {α : Type} (b : Behaviour) (entity : String) (patience : Nat)
    (action : Records → Except SourceError α × Records) (r : Records) : Reply α × Records :=
  match b.obstacle? r entity patience with
  | some e => (⟨min b.latency patience, .error e⟩, r)
  | none => (⟨b.latency, (action r).1⟩, (action r).2)

/-- The answer to a raw filter. -/
def view (r : Records) (entity filter : String) : Except SourceError (List Record) :=
  match r.views.lookup (entity, filterKey filter) with
  | some records => .ok records
  | none => .error (.rejected s!"no view for `{filter}` on {entity}")

/-- Adds a record to an entity. -/
def add (newId : Nat → String) (r : Records) (entity : String) (record : Record) :
    Record × Records :=
  let (record, r) := r.withId newId record
  (record, r.withEntity entity (r.ofEntity entity ++ [record]))

/-- A source in memory. -/
def source (b : Behaviour) : RecordSource Records where
  search entity term patience :=
    call b entity patience fun r => (.ok ((r.ofEntity entity).filter (mentions · term)), r)
  load entity field value raw patience :=
    call b entity patience fun r =>
      match raw with
      | some filter => (r.view entity filter, r)
      | none => (.ok (select (r.ofEntity entity) field value), r)
  store entity record patience :=
    call b entity patience fun r =>
      let (record, r) := r.add b.newId entity record
      (.ok record, r)
  name := "in-memory"

end Records

/-! ## Fixtures -/

/-- The answer to one raw filter on one entity. -/
structure FixtureView where
  entity : String
  filter : String
  records : List Record
deriving DecidableEq

/-- The records of a source to begin with. -/
structure Fixtures where
  entities : Dict (List Record)
  views : List FixtureView
deriving DecidableEq

namespace Fixtures

open Json

/-- A view has an entity and a filter; its records are none if missing. -/
def view? (r : Reader) (v : Json) : Option FixtureView := do
  let members ← fields? ["entity", "filter", "records"] v
  let entity ← required? members "entity" r.text?
  let filter ← required? members "filter" r.text?
  let records ← optional? members "records" [] (list? record?)
  return ⟨entity, filter, records⟩

/-- Fixtures have entities and views, none if missing. -/
def decode? (r : Reader) (v : Json) : Option Fixtures := do
  let members ← fields? ["entities", "views"] v
  let entities ← optional? members "entities" .empty (dict? (list? record?))
  let views ← optional? members "views" [] (list? (view? r))
  return ⟨entities, views⟩

/-- The records of a source that begins with the fixtures. -/
def records (f : Fixtures) : Records :=
  f.views.foldl (fun r v => r.withView v.entity v.filter v.records) ⟨f.entities, [], 0⟩

end Fixtures

end Dialogue
