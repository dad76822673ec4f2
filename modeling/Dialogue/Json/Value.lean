import Dialogue.Dict
import Dialogue.Number.Binary64
import Dialogue.Number.Reading

/-! # Values

What a slot holds and what a record consists of: null, truth values, numbers, strings, lists and
objects.  Whole numbers and numbers with a fraction are kept apart, because they are spoken
differently and because an integer may have more digits than a binary64 number can tell.

* `Json` — the values.  The members of an object come in a list; `Json.ofDict` and `Json.asDict?`
  connect it to dictionaries, where each name occurs once.
* `Record` — an object at the top level, as a record source stores it.
* `Json.canonical` — every object in ascending order of names, of several members with one name the
  last.
-/

namespace Dialogue

/-- A value. -/
inductive Json where
  | null
  | bool (value : Bool)
  | int (value : Int)
  | float (value : Binary64)
  | str (value : String)
  | arr (items : List Json)
  | obj (members : List (String × Json))
deriving Repr, Inhabited

/-- A record: field names and their values. -/
abbrev Record := Dict Json

namespace Json

/-! ## Equality is decidable -/

mutual

/-- Decides whether two values are equal. -/
def decEq : (a b : Json) → Decidable (a = b)
  | .null, .null => .isTrue rfl
  | .bool a, .bool b =>
    if h : a = b then .isTrue (h ▸ rfl) else .isFalse fun e => h (by cases e; rfl)
  | .int a, .int b => if h : a = b then .isTrue (h ▸ rfl) else .isFalse fun e => h (by cases e; rfl)
  | .float a, .float b =>
    if h : a = b then .isTrue (h ▸ rfl) else .isFalse fun e => h (by cases e; rfl)
  | .str a, .str b => if h : a = b then .isTrue (h ▸ rfl) else .isFalse fun e => h (by cases e; rfl)
  | .arr a, .arr b =>
    match decEqItems a b with
    | .isTrue h => .isTrue (h ▸ rfl)
    | .isFalse h => .isFalse fun e => h (by cases e; rfl)
  | .obj a, .obj b =>
    match decEqMembers a b with
    | .isTrue h => .isTrue (h ▸ rfl)
    | .isFalse h => .isFalse fun e => h (by cases e; rfl)
  | .null, .bool _ | .null, .int _ | .null, .float _ | .null, .str _ | .null, .arr _ | .null, .obj _
  | .bool _, .null | .bool _, .int _ | .bool _, .float _ | .bool _, .str _ | .bool _, .arr _
  | .bool _, .obj _ | .int _, .null | .int _, .bool _ | .int _, .float _ | .int _, .str _
  | .int _, .arr _ | .int _, .obj _ | .float _, .null | .float _, .bool _ | .float _, .int _
  | .float _, .str _ | .float _, .arr _ | .float _, .obj _ | .str _, .null | .str _, .bool _
  | .str _, .int _ | .str _, .float _ | .str _, .arr _ | .str _, .obj _ | .arr _, .null
  | .arr _, .bool _ | .arr _, .int _ | .arr _, .float _ | .arr _, .str _ | .arr _, .obj _
  | .obj _, .null | .obj _, .bool _ | .obj _, .int _ | .obj _, .float _ | .obj _, .str _
  | .obj _, .arr _ => .isFalse fun e => nomatch e

/-- Decides whether two lists of values are equal. -/
def decEqItems : (a b : List Json) → Decidable (a = b)
  | [], [] => .isTrue rfl
  | x :: xs, y :: ys =>
    match decEq x y, decEqItems xs ys with
    | .isTrue h, .isTrue h' => .isTrue (h ▸ h' ▸ rfl)
    | .isFalse h, _ => .isFalse fun e => h (by cases e; rfl)
    | _, .isFalse h => .isFalse fun e => h (by cases e; rfl)
  | [], _ :: _ | _ :: _, [] => .isFalse fun e => nomatch e

/-- Decides whether two lists of members are equal. -/
def decEqMembers : (a b : List (String × Json)) → Decidable (a = b)
  | [], [] => .isTrue rfl
  | (m, x) :: xs, (n, y) :: ys =>
    if hn : m = n then
      match decEq x y, decEqMembers xs ys with
      | .isTrue h, .isTrue h' => .isTrue (hn ▸ h ▸ h' ▸ rfl)
      | .isFalse h, _ => .isFalse fun e => h (by cases e; rfl)
      | _, .isFalse h => .isFalse fun e => h (by cases e; rfl)
    else .isFalse fun e => hn (by cases e; rfl)
  | [], _ :: _ | _ :: _, [] => .isFalse fun e => nomatch e

end

instance : DecidableEq Json := decEq

/-! ## Objects and dictionaries -/

/-- The object with the entries of a dictionary. -/
def ofDict (d : Dict Json) : Json := .obj d.entries

/-- The dictionary of an object; of several members with one name the last counts. -/
def asDict? : Json → Option (Dict Json)
  | .obj ms => some (.ofList ms)
  | _ => none

/-- The items of a list. -/
def asItems? : Json → Option (List Json)
  | .arr xs => some xs
  | _ => none

/-- The text of a string. -/
def asText? : Json → Option String
  | .str s => some s
  | _ => none

/-- The member of an object with a name. -/
def member? (v : Json) (name : String) : Option Json := v.asDict?.bind (·.find? name)

@[simp] theorem asDict?_ofDict (d : Dict Json) : (ofDict d).asDict? = some d := by
  simp [ofDict, asDict?]

/-- The value of a numeral. -/
def ofNumeral : Numeral → Json
  | .integer n => .int n
  | .fraction x => .float x

/-! ## Canonical form -/

mutual

/-- The value with every object in ascending order of names and without repetitions. -/
def canonical : Json → Json
  | .arr xs => .arr (canonicalItems xs)
  | .obj ms => ofDict (.ofList (canonicalMembers ms))
  | v => v

/-- The canonical forms of a list of values. -/
def canonicalItems : List Json → List Json
  | [] => []
  | x :: xs => canonical x :: canonicalItems xs

/-- The canonical forms of the values of members. -/
def canonicalMembers : List (String × Json) → List (String × Json)
  | [] => []
  | (n, x) :: ms => (n, canonical x) :: canonicalMembers ms

end

end Json

end Dialogue
