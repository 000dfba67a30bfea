import ClusterOperator.Json.Basic
import ClusterOperator.Json.Magnitude
import ClusterOperator.Text.Hexadecimal

/-!
# Reading JSON text

* `maxDepth` : how many brackets a value that is read may stand in;
* `readString`, `readNumber` : the two scalars that need a scanner;
* `readValue` : one value, with the text after it;
* `parse?` : a text that holds one value and blanks around it.

Blanks are space, tab, line feed and carriage return. A number has no leading zeros. What only
has to be skipped is checked more loosely than what is read, so a value that can be skipped but
not read becomes `Json.unreadable`.
-/

namespace ClusterOperator.Json

open Text.Decimal (digitValue? value)

/-- The most brackets that a value which is read may stand in. -/
def maxDepth : Nat := 127

def skipBlank (s : List Char) : List Char :=
  s.dropWhile fun c => c = ' ' || c = '\t' || c = '\n' || c = '\r'

/-! ## Strings -/

/-- The code unit of four hexadecimal digits. -/
def hexUnit? (a b c d : Char) : Option Nat :=
  Text.Hexadecimal.value? [a, b, c, d]

/-- The character that an escape of one letter stands for. -/
def shortEscape? (c : Char) : Option Char :=
  if c = '"' || c = '\\' || c = '/' then some c
  else if c = 'b' then some '\x08'
  else if c = 'f' then some '\x0c'
  else if c = 'n' then some '\n'
  else if c = 'r' then some '\r'
  else if c = 't' then some '\t'
  else none

/-- What a string scanner has read: the characters, last first; the first half of a surrogate
pair that waits for the second; and whether a half stood alone. -/
structure StringScan where
  chars : List Char := []
  half : Option Nat := none
  broken : Bool := false

namespace StringScan

/-- A character follows; a half that waited stood alone. -/
def push (s : StringScan) (c : Char) : StringScan :=
  { chars := c :: s.chars, half := none, broken := s.broken || s.half.isSome }

def pushUnit (s : StringScan) (u : Nat) : StringScan :=
  if 0xd800 ≤ u ∧ u < 0xdc00 then
    { s with half := some u, broken := s.broken || s.half.isSome }
  else if 0xdc00 ≤ u ∧ u < 0xe000 then
    match s.half with
    | some h =>
      { s with
        chars := Char.ofNat (0x10000 + (h - 0xd800) * 0x400 + (u - 0xdc00)) :: s.chars
        half := none }
    | none => { s with broken := true }
  else s.push (Char.ofNat u)

/-- The text of a string that ends here; none if half of a pair stood alone. -/
def finish (s : StringScan) : Option String :=
  if s.broken || s.half.isSome then none else some (String.ofList s.chars.reverse)

end StringScan

/-- The string whose opening quote has been read, and the text after its closing quote. -/
def readString (scan : StringScan) : List Char → Option (Option String × List Char)
  | [] => none
  | '"' :: rest => some (scan.finish, rest)
  | '\\' :: 'u' :: a :: b :: c :: d :: rest =>
    match hexUnit? a b c d with
    | some u => readString (scan.pushUnit u) rest
    | none => none
  | '\\' :: c :: rest =>
    match shortEscape? c with
    | some x => readString (scan.push x) rest
    | none => none
  | c :: rest => if c.toNat < 0x20 then none else readString (scan.push c) rest

/-! ## Numbers -/

def spanDigits (s : List Char) : List Char × List Char :=
  s.span fun c => (digitValue? c).isSome

/-- An exponent at the head of a text: its sign and digits. -/
def readExponent : List Char → Option ((Bool × List Char) × List Char)
  | s =>
    let (negative, s) := match s with
      | '-' :: r => (true, r)
      | '+' :: r => (false, r)
      | s => (false, s)
    match spanDigits s with
    | ([], _) => none
    | (ds, rest) => some ((negative, ds), rest)

/-- The value of a whole number: a double when it fits no word of 64 bits, as the text `-0`. -/
def wholeNumber (negative : Bool) (ds : List Char) : Json :=
  let n := value ds
  let text := String.ofList (if negative then '-' :: ds else ds)
  if negative then
    if n = 0 then .real text
    else if n ≤ 9223372036854775808 then .int (-(n : Int))
    else if isTooLarge ds [] 0 then .unreadable else .real text
  else if n < 18446744073709551616 then .int n
  else if isTooLarge ds [] 0 then .unreadable else .real text

/-- The number at the head of a text that starts with a digit, behind its sign. -/
def readNumber (negative : Bool) (s : List Char) : Option (Json × List Char) :=
  match spanDigits s with
  | ([], _) => none
  | (ds, rest) =>
    if ds.length > 1 ∧ ds.head? = some '0' then none
    else
      let sign := if negative then ['-'] else []
      let fraction : Option (List Char × List Char) := match rest with
        | '.' :: r => match spanDigits r with
          | ([], _) => none
          | (fs, r) => some (fs, r)
        | r => some ([], r)
      match fraction with
      | none => none
      | some (fs, rest) =>
        let point := if fs.isEmpty then [] else '.' :: fs
        let exponent : Option (Option (Bool × List Char) × List Char) := match rest with
          | 'e' :: r | 'E' :: r => (readExponent r).map fun (x, r) => (some x, r)
          | r => some (none, r)
        match exponent with
        | none => none
        | some (none, rest) =>
          if fs.isEmpty then some (wholeNumber negative ds, rest)
          else if isTooLarge ds fs 0 then some (.unreadable, rest)
          else some (.real (String.ofList (sign ++ ds ++ point)), rest)
        | some (some (minus, es), rest) =>
          let exponent : Int := if minus then -value es else value es
          if isTooLarge ds fs exponent then some (.unreadable, rest)
          else
            let mark := if minus then ['e', '-'] else ['e']
            some (.real (String.ofList (sign ++ ds ++ point ++ mark ++ es)), rest)

/-! ## Values -/

/-- The value in so many brackets, if it may still be read. -/
def within (depth : Nat) (j : Json) : Json :=
  if depth < maxDepth then j else .unreadable

mutual

/-- The value at the head of a text, which stands in `depth` brackets, and the rest. -/
def readValue : Nat → Nat → List Char → Option (Json × List Char)
  | 0, _, _ => none
  | fuel + 1, depth, s =>
    match skipBlank s with
    | 'n' :: 'u' :: 'l' :: 'l' :: rest => some (.null, rest)
    | 't' :: 'r' :: 'u' :: 'e' :: rest => some (.bool true, rest)
    | 'f' :: 'a' :: 'l' :: 's' :: 'e' :: rest => some (.bool false, rest)
    | '"' :: rest => (readString {} rest).map fun (t, rest) =>
        (match t with | some t => .str t | none => .unreadable, rest)
    | '-' :: rest => readNumber true rest
    | '[' :: rest =>
      match skipBlank rest with
      | ']' :: rest => some (within depth (.arr []), rest)
      | rest => (readItems fuel (depth + 1) rest).map fun (xs, rest) =>
          (within depth (.arr xs), rest)
    | '{' :: rest =>
      match skipBlank rest with
      | '}' :: rest => some (within depth (.obj []), rest)
      | rest => (readMembers fuel (depth + 1) rest).map fun (ms, rest) =>
          (match ms with | some ms => within depth (.obj ms) | none => .unreadable, rest)
    | rest => readNumber false rest

/-- The items of an array up to its closing bracket; there is at least one. -/
def readItems : Nat → Nat → List Char → Option (List Json × List Char)
  | 0, _, _ => none
  | fuel + 1, depth, s =>
    match readValue fuel depth s with
    | none => none
    | some (x, rest) =>
      match skipBlank rest with
      | ']' :: rest => some ([x], rest)
      | ',' :: rest => (readItems fuel depth rest).map fun (xs, rest) => (x :: xs, rest)
      | _ => none

/-- The members of an object up to its closing brace; there is at least one. The list is absent
if a name cannot be read. -/
def readMembers : Nat → Nat → List Char → Option (Option (List (String × Json)) × List Char)
  | 0, _, _ => none
  | fuel + 1, depth, s =>
    match skipBlank s with
    | '"' :: rest =>
      match readString {} rest with
      | none => none
      | some (name, rest) =>
        match skipBlank rest with
        | ':' :: rest =>
          match readValue fuel depth rest with
          | none => none
          | some (x, rest) =>
            match skipBlank rest with
            | '}' :: rest => some (name.map fun k => [(k, x)], rest)
            | ',' :: rest => (readMembers fuel depth rest).map fun (ms, rest) =>
                (match name, ms with
                  | some k, some ms => some ((k, x) :: ms)
                  | _, _ => none, rest)
            | _ => none
        | _ => none
    | _ => none

end

/-- The value of a text that holds one value and nothing but blanks around it. -/
def parse? (s : List Char) : Option Json :=
  match readValue (2 * s.length + 2) 0 s with
  | some (j, rest) => if (skipBlank rest).isEmpty then some j else none
  | none => none

end ClusterOperator.Json
