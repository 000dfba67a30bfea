import ClusterOperator.Text.Hexadecimal
import ClusterOperator.Text.Word

/-!
# Patterns

A pattern describes texts: by characters, classes of characters in brackets, groups in parentheses,
alternatives, and repetitions. Here it is only told which texts are patterns.

A pattern holds no closing brace, so no repetition is counted and no class has a name in braces.
Edges of words are no part of it, and neither is a look ahead or behind.

* `Escape`, `readEscape?` : what stands behind a backslash;
* `readClass?` : a class in brackets, which may hold other classes;
* `readOpening?` : what a parenthesis opens, or which flags it sets;
* `isPattern` : the text is a pattern.
-/

namespace ClusterOperator.Text

namespace Pattern

/-! ## Escapes -/

inductive Escape where
  | char (c : Char)
  /-- A class of characters. -/
  | set
  /-- The start or the end of the text. -/
  | edge
  deriving DecidableEq, Repr

/-- The character of a code of so many hexadecimal digits. -/
def readCode? (digits : Nat) (s : List Char) : Option (Escape × List Char) := do
  let code ← Hexadecimal.value? (s.take digits)
  if digits ≤ s.length ∧ code.isValidChar then some (.char (Char.ofNat code), s.drop digits)
  else none

/-- The character that an escape of one character stands for: a letter one that is not printed, a
mark itself. -/
def ofShort? (c : Char) : Option Char :=
  if c = 'a' then some '\x07'
  else if c = 'f' then some '\x0c'
  else if c = 'n' then some '\n'
  else if c = 'r' then some '\r'
  else if c = 't' then some '\t'
  else if c = 'v' then some '\x0b'
  else if c.toNat < 0x80 ∧ !c.isAlphanum ∧ c ≠ '<' ∧ c ≠ '>' then some c
  else none

def readEscape? : List Char → Option (Escape × List Char)
  | [] => none
  | c :: rest =>
    if c = 'x' then readCode? 2 rest
    else if c = 'u' then readCode? 4 rest
    else if c = 'U' then readCode? 8 rest
    else if c = 'p' || c = 'P' then
      match rest with
      | category :: rest =>
        if "clmnpsz".toList.contains category.toLower then some (.set, rest) else none
      | [] => none
    else if "dswDSW".toList.contains c then some (.set, rest)
    else if c = 'A' || c = 'z' then some (.edge, rest)
    else (ofShort? c).map fun c => (.char c, rest)

/-! ## Classes -/

def classNames : List String :=
  ["alnum", "alpha", "ascii", "blank", "cntrl", "digit", "graph", "lower", "print", "punct",
    "space", "upper", "word", "xdigit"]

/-- The rest of a text behind the name of a class, which began with a bracket and a colon. -/
def skipClassName? (s : List Char) : Option (List Char) :=
  let s := match s with
    | '^' :: s => s
    | s => s
  let name := s.takeWhile (· ≠ ':')
  match s.drop name.length with
  | ':' :: ']' :: rest => if String.ofList name ∈ classNames then some rest else none
  | _ => none

/-- The rest of a text behind the opening of a class: hyphens there, or else a closing bracket,
stand for themselves. -/
def openClass (s : List Char) : List Char :=
  let s := match s with
    | '^' :: s => s
    | s => s
  match s with
  | '-' :: s => s.dropWhile (· = '-')
  | ']' :: s => s
  | s => s

/-- A character of a class, or a class in it. -/
def readMember? : List Char → Option (Escape × List Char)
  | [] => none
  | '\\' :: rest => readEscape? rest
  | c :: rest => some (.char c, rest)

/-- A member of a class or a range of characters, and the rest of the text. -/
def skipMember? (s : List Char) : Option (List Char) := do
  let (first, rest) ← readMember? s
  let isSingle := match rest with
    | '-' :: next :: _ => next = ']' || next = '-'
    | _ => true
  if isSingle then
    if first = .edge then none else some rest
  else
    let (last, rest) ← readMember? (rest.drop 1)
    match first, last with
    | .char a, .char b => if a ≤ b then some rest else none
    | _, _ => none

/-- The rest of a text behind so many open classes, in `n` steps at most. -/
def readClass? : Nat → Nat → List Char → Option (List Char)
  | _, 0, s => some s
  | 0, _ + 1, _ => none
  | n + 1, depth + 1, s =>
    match s with
    | [] => none
    | ']' :: rest => readClass? n depth rest
    | '[' :: rest =>
      match rest with
      | ':' :: name =>
        match skipClassName? name with
        | some rest => readClass? n (depth + 1) rest
        | none => readClass? n (depth + 2) (openClass rest)
      | _ => readClass? n (depth + 2) (openClass rest)
    | '&' :: '&' :: rest | '-' :: '-' :: rest | '~' :: '~' :: rest => readClass? n (depth + 1) rest
    | s => (skipMember? s).bind (readClass? n (depth + 1))

/-! ## Groups -/

inductive Opening where
  /-- A group, with a name if it has one. -/
  | group (name : Option (List Char) := none)
  /-- Flags for what follows. -/
  | flags

def isGroupName : List Char → Bool
  | [] => false
  | c :: rest =>
    (c = '_' || (isWordChar c && !c.isDigit)) &&
      rest.all fun c => isWordChar c || "_.[]".toList.contains c

/-- A group with a name, which ends with an angle bracket. -/
def readName? (s : List Char) : Option (Opening × List Char) :=
  let name := s.takeWhile (· ≠ '>')
  match s.drop name.length with
  | '>' :: rest => if isGroupName name then some (.group (some name), rest) else none
  | _ => none

/-- Letters of which each stands once, and a hyphen in front of those that are taken back. -/
def areFlags (s : List Char) : Bool :=
  s.all (fun c => "imsURux-".toList.contains c && s.count c = 1) && s.getLast? ≠ some '-'

def readOpening? : List Char → Option (Opening × List Char)
  | '?' :: 'P' :: '<' :: rest | '?' :: '<' :: rest => readName? rest
  | '?' :: rest =>
    let flags := rest.takeWhile fun c => c ≠ ':' && c ≠ ')'
    match rest.drop flags.length with
    | ':' :: rest => if areFlags flags then some (.group, rest) else none
    | ')' :: rest => if areFlags flags && !flags.isEmpty then some (.flags, rest) else none
    | _ => none
  | s => some (.group, s)

/-! ## Patterns -/

/-- What is known of a pattern from its start. -/
structure Progress where
  /-- The open groups. -/
  depth : Nat := 0
  /-- The names of the groups. -/
  names : List (List Char) := []
  /-- There is something in front that can be repeated. -/
  canRepeat : Bool := false
  deriving DecidableEq, Repr

/-- A part of a pattern that can be repeated. -/
def Progress.part (p : Progress) (rest : List Char) : Progress × List Char :=
  ({ p with canRepeat := true }, rest)

/-- The first part of a text, and the rest of it. -/
def Progress.next? (p : Progress) : List Char → Option (Progress × List Char)
  | [] => none
  | '\\' :: rest => (readEscape? rest).map fun (_, rest) => p.part rest
  | '[' :: rest => (readClass? (rest.length + 1) 1 (openClass rest)).map p.part
  | '(' :: rest => do
    match ← readOpening? rest with
    | (.flags, rest) => some ({ p with canRepeat := false }, rest)
    | (.group name, rest) =>
      if name.any (· ∈ p.names) then none
      else some (⟨p.depth + 1, name.toList ++ p.names, false⟩, rest)
  | ')' :: rest =>
    match p.depth with
    | 0 => none
    | depth + 1 => some ({ p with depth }.part rest)
  | '|' :: rest => some ({ p with canRepeat := false }, rest)
  | '{' :: _ => none
  | c :: rest =>
    if c = '*' || c = '+' || c = '?' then
      if p.canRepeat then
        match rest with
        | '?' :: rest => some (p, rest)
        | rest => some (p, rest)
      else none
    else some (p.part rest)

/-- The rest of a text completes a pattern, in `n` steps at most. -/
def Progress.isCompletedBy : Nat → Progress → List Char → Bool
  | _, p, [] => p.depth = 0
  | 0, _, _ :: _ => false
  | n + 1, p, s =>
    match p.next? s with
    | some (p, rest) => p.isCompletedBy n rest
    | none => false

end Pattern

open Pattern in
def isPattern (s : List Char) : Bool :=
  ({} : Progress).isCompletedBy s.length s

end ClusterOperator.Text
