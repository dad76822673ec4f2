import Dialogue.Json.Value

/-! # Values from text

Reads the usual text format of values.  Integers between the least 64-bit signed and the greatest
64-bit unsigned integer stay integers, except that `-0` is the negative zero; every other number is
a binary64 number, and one too large for that is an error.  Text may nest at most 127 levels deep.

* `Json.parse?` — the value of a text that holds one and nothing else.  Members keep the order and
  the repetitions of the text, so that a reader of fixed fields can refuse a repeated one.
* `Json.skip?` — passes over a value whose content does not matter: how it is written is looked at,
  but not what its numbers and strings stand for, nor how deep it nests.
-/

namespace Dialogue.Json

/-! ## Numbers -/

/-- Digits taken in while the value fits 64 bits: the value, and how many digits were not taken. -/
def boundedDigits : Nat → List Char → Nat × Nat
  | n, [] => (n, 0)
  | n, c :: cs =>
    let m := 10 * n + digitValue c
    if m > uint64Max then (n, cs.length + 1) else boundedDigits m cs

/-- The value of a number given by sign, digits before and after the point, and exponent.  Digits
that do not fit 64 bits count as zeros before the point and are dropped after it. -/
def scaledNumber? (negative : Bool) (whole fraction : List Char) (exponent : Int) : Option Json :=
  let (n, missed) := boundedDigits 0 whole
  let (m, dropped) := if missed > 0 then (n, fraction.length) else boundedDigits n fraction
  let power := exponent + missed - (fraction.length - dropped)
  (Binary64.ofScaled? negative m power).map .float

/-- The value of a number without point and exponent. -/
def integerOrFloat? (negative : Bool) (digits : List Char) : Option Json :=
  let n := digitsValue digits
  if negative then
    if n == 0 then some (.float (.zero true))
    else if -(n : Int) ≥ int64Min then some (.int (-n))
    else scaledNumber? true digits [] 0
  else if n ≤ uint64Max then some (.int n)
  else scaledNumber? false digits [] 0

/-- An exponent at the front of a text: its value and the rest, or nothing if there is none or it is
incomplete. -/
def exponent? (cs : List Char) : Option (Int × List Char) :=
  let (negative, cs) := splitSign cs
  (readDigits? (cs.takeWhile Char.isDigit)).map fun n =>
    (if negative then -(n : Int) else n, cs.dropWhile Char.isDigit)

/-- A number as it is written: the sign, the digits before and after the point, and the exponent if
there is one. -/
structure Numeral where
  negative : Bool
  whole : List Char
  fraction : List Char
  exponent : Option Int

/-- The value of a written number, unless it is too large. -/
def Numeral.value? (n : Numeral) : Option Json :=
  match n.fraction, n.exponent with
  | [], none => integerOrFloat? n.negative n.whole
  | fraction, exponent => scaledNumber? n.negative n.whole fraction (exponent.getD 0)

/-- A written number at the front of a text. -/
def numeral? (cs : List Char) : Option (Numeral × List Char) :=
  let (negative, cs) :=
    match cs with
    | '-' :: cs => (true, cs)
    | cs => (false, cs)
  let whole := cs.takeWhile Char.isDigit
  let cs := cs.dropWhile Char.isDigit
  if whole.isEmpty || (whole.length > 1 && whole.head? == some '0') then none
  else
    let exponentPart (fraction cs : List Char) : Option (Numeral × List Char) :=
      match cs with
      | c :: rest =>
        if c == 'e' || c == 'E' then
          (exponent? rest).map fun (e, rest) => (⟨negative, whole, fraction, some e⟩, rest)
        else some (⟨negative, whole, fraction, none⟩, cs)
      | [] => some (⟨negative, whole, fraction, none⟩, [])
    match cs with
    | '.' :: rest =>
      let fraction := rest.takeWhile Char.isDigit
      if fraction.isEmpty then none else exponentPart fraction (rest.dropWhile Char.isDigit)
    | _ => exponentPart [] cs

/-- A number at the front of a text. -/
def number? (cs : List Char) : Option (Json × List Char) := do
  let (n, rest) ← numeral? cs
  return (← n.value?, rest)

/-! ## Strings -/

/-- The value of a hexadecimal digit. -/
def hexValue? (c : Char) : Option Nat :=
  if c.isDigit then some (c.toNat - '0'.toNat)
  else if 'a' ≤ c && c ≤ 'f' then some (c.toNat - 'a'.toNat + 10)
  else if 'A' ≤ c && c ≤ 'F' then some (c.toNat - 'A'.toNat + 10)
  else none

/-- The value of four hexadecimal digits. -/
def hexUnit? (a b c d : Char) : Option Nat := do
  return 4096 * (← hexValue? a) + 256 * (← hexValue? b) + 16 * (← hexValue? c) + (← hexValue? d)

/-- The character of an escape letter. -/
def escapeLetter? (c : Char) : Option Char :=
  [('"', '"'), ('\\', '\\'), ('/', '/'), ('b', '\x08'), ('f', '\x0c'), ('n', '\n'), ('r', '\r'),
    ('t', '\t')].lookup c

/-- The rest of a string after its opening quotation mark: the characters, last first, and what
follows the closing one.  A pair of 16-bit units that stands for one character has to be
complete. -/
def stringBody? : List Char → List Char → Option (List Char × List Char)
  | done, '"' :: cs => some (done, cs)
  | done, '\\' :: 'u' :: a :: b :: c :: d :: cs =>
    match hexUnit? a b c d with
    | none => none
    | some unit =>
      if 0xD800 ≤ unit && unit < 0xDC00 then
        match cs with
        | '\\' :: 'u' :: a :: b :: c :: d :: cs =>
          match hexUnit? a b c d with
          | none => none
          | some low =>
            if 0xDC00 ≤ low && low < 0xE000 then
              let code := 0x10000 + (unit - 0xD800) * 1024 + (low - 0xDC00)
              stringBody? (Char.ofNat code :: done) cs
            else none
        | _ => none
      else if 0xDC00 ≤ unit && unit < 0xE000 then none
      else stringBody? (Char.ofNat unit :: done) cs
  | done, '\\' :: e :: cs =>
    match escapeLetter? e with
    | none => none
    | some c => stringBody? (c :: done) cs
  | done, c :: cs => if c.toNat < 0x20 then none else stringBody? (c :: done) cs
  | _, [] => none

/-- A string at the front of a text, its opening quotation mark already taken. -/
def string? (cs : List Char) : Option (String × List Char) :=
  (stringBody? [] cs).map fun (done, rest) => (String.ofList done.reverse, rest)

/-- What follows a string that is passed over, its opening quotation mark already taken. -/
def skipString? : List Char → Option (List Char)
  | '"' :: cs => some cs
  | '\\' :: 'u' :: a :: b :: c :: d :: cs =>
    if (hexUnit? a b c d).isSome then skipString? cs else none
  | '\\' :: e :: cs => if (escapeLetter? e).isSome then skipString? cs else none
  | c :: cs => if c.toNat < 0x20 then none else skipString? cs
  | [] => none

/-! ## Values -/

/-- The blanks that may stand between the parts of a value. -/
def isGap (c : Char) : Bool := c == ' ' || c == '\n' || c == '\t' || c == '\r'

/-- The text without gaps at its front. -/
def skipGaps (cs : List Char) : List Char := cs.dropWhile isGap

/-- How deep a text may nest. -/
def maxDepth : Nat := 127

mutual

/-- A value at the front of a text, which may nest `depth` levels deep.  The first argument bounds
the number of steps; the length of the text suffices. -/
def value? : Nat → Nat → List Char → Option (Json × List Char)
  | 0, _, _ => none
  | fuel + 1, depth, cs =>
    match skipGaps cs with
    | 'n' :: 'u' :: 'l' :: 'l' :: rest => some (.null, rest)
    | 't' :: 'r' :: 'u' :: 'e' :: rest => some (.bool true, rest)
    | 'f' :: 'a' :: 'l' :: 's' :: 'e' :: rest => some (.bool false, rest)
    | '"' :: rest => (string? rest).map fun (s, rest) => (.str s, rest)
    | '[' :: rest =>
      if depth == 0 then none
      else
        match skipGaps rest with
        | ']' :: rest => some (.arr [], rest)
        | rest => (items? fuel (depth - 1) rest).map fun (xs, rest) => (.arr xs, rest)
    | '{' :: rest =>
      if depth == 0 then none
      else
        match skipGaps rest with
        | '}' :: rest => some (.obj [], rest)
        | rest => (members? fuel (depth - 1) rest).map fun (ms, rest) => (.obj ms, rest)
    | rest => number? rest

/-- One or more values separated by commas, and the bracket that ends them. -/
def items? : Nat → Nat → List Char → Option (List Json × List Char)
  | 0, _, _ => none
  | fuel + 1, depth, cs =>
    match value? fuel depth cs with
    | none => none
    | some (x, rest) =>
      match skipGaps rest with
      | ']' :: rest => some ([x], rest)
      | ',' :: rest => (items? fuel depth rest).map fun (xs, rest) => (x :: xs, rest)
      | _ => none

/-- One or more members separated by commas, and the brace that ends them. -/
def members? : Nat → Nat → List Char → Option (List (String × Json) × List Char)
  | 0, _, _ => none
  | fuel + 1, depth, cs =>
    match skipGaps cs with
    | '"' :: rest =>
      match string? rest with
      | none => none
      | some (name, rest) =>
        match skipGaps rest with
        | ':' :: rest =>
          match value? fuel depth rest with
          | none => none
          | some (x, rest) =>
            match skipGaps rest with
            | '}' :: rest => some ([(name, x)], rest)
            | ',' :: rest =>
              (members? fuel depth rest).map fun (ms, rest) => ((name, x) :: ms, rest)
            | _ => none
        | _ => none
    | _ => none

end

/-! ## Passing over values -/

mutual

/-- What follows a value at the front of a text.  As for `value?`, the number bounds the steps. -/
def skip? : Nat → List Char → Option (List Char)
  | 0, _ => none
  | fuel + 1, cs =>
    match skipGaps cs with
    | 'n' :: 'u' :: 'l' :: 'l' :: rest => some rest
    | 't' :: 'r' :: 'u' :: 'e' :: rest => some rest
    | 'f' :: 'a' :: 'l' :: 's' :: 'e' :: rest => some rest
    | '"' :: rest => skipString? rest
    | '[' :: rest =>
      match skipGaps rest with
      | ']' :: rest => some rest
      | rest => skipItems? fuel rest
    | '{' :: rest =>
      match skipGaps rest with
      | '}' :: rest => some rest
      | rest => skipMembers? fuel rest
    | rest => (numeral? rest).map Prod.snd

/-- What follows one or more values separated by commas, and the bracket that ends them. -/
def skipItems? : Nat → List Char → Option (List Char)
  | 0, _ => none
  | fuel + 1, cs =>
    match skip? fuel cs with
    | none => none
    | some rest =>
      match skipGaps rest with
      | ']' :: rest => some rest
      | ',' :: rest => skipItems? fuel rest
      | _ => none

/-- What follows one or more members separated by commas, and the brace that ends them. -/
def skipMembers? : Nat → List Char → Option (List Char)
  | 0, _ => none
  | fuel + 1, cs =>
    match skipGaps cs with
    | '"' :: rest =>
      match skipString? rest with
      | none => none
      | some rest =>
        match skipGaps rest with
        | ':' :: rest =>
          match skip? fuel rest with
          | none => none
          | some rest =>
            match skipGaps rest with
            | '}' :: rest => some rest
            | ',' :: rest => skipMembers? fuel rest
            | _ => none
        | _ => none
    | _ => none

end

/-! ## Whole texts -/

/-- The value of a text. -/
def parse? (text : String) : Option Json :=
  let cs := text.toList
  match value? (2 * cs.length + 2) maxDepth cs with
  | some (v, rest) => if (skipGaps rest).isEmpty then some v else none
  | none => none

end Dialogue.Json
