import ClusterOperator.Text.Blank
import ClusterOperator.Text.Decimal
import ClusterOperator.Text.Pattern
import ClusterOperator.Text.Utf8
import ClusterOperator.Text.Word

/-!
# Log filters

A filter is a list of directives. Each names a level, and may name the start of a target and a
field that a record has to have. The most specific directive that matches a record decides.

The parts of a directive are found in its text without the blanks around it, and are cut out of its
whole text at the same bytes. So blanks in front move every part, and may leave a part to begin or
end inside a character; such a directive cannot be read at all.

* `LogLevel`, `LogLevel.read?` : levels by name or by number;
* `LogDirective`, `LogDirective.read?` : one directive, `target[{field}]=level` with all parts
  optional;
* `LogFilter.read?`, `LogFilter.add` : the directives of a text, and one more;
* `LogFilter.allows` : a record is written.
-/

namespace ClusterOperator

inductive LogLevel where
  | off
  | error
  | warn
  | info
  | debug
  | trace
  deriving DecidableEq, Repr

namespace LogLevel

/-- The place of a level among the levels, from nothing to everything. -/
def rank : LogLevel → Nat
  | .off => 0
  | .error => 1
  | .warn => 2
  | .info => 3
  | .debug => 4
  | .trace => 5

def name : LogLevel → String
  | .off => "off"
  | .error => "error"
  | .warn => "warn"
  | .info => "info"
  | .debug => "debug"
  | .trace => "trace"

def all : List LogLevel :=
  [.off, .error, .warn, .info, .debug, .trace]

/-- A level by its number, or by its name in any case. -/
def read? (s : List Char) : Option LogLevel :=
  match Text.Decimal.readUnsigned? 5 s with
  | some n => all.find? (·.rank = n)
  | none => all.find? fun l => l.name.toList = s.map Char.toLower

end LogLevel

/-- A level for the records that match. -/
structure LogDirective where
  /-- The start of the target; none matches every target. -/
  target : Option String := none
  /-- A field that a record has to have. -/
  field : Option String := none
  level : LogLevel
  deriving DecidableEq, Repr

namespace LogDirective

open Text.Utf8 (width cut? cutFrom?)

def isTargetStart (c : Char) : Bool :=
  c = '-' || c = ':' || c = '_' || Text.isWordChar c

/-- The level after an equals sign; none is the most verbose. -/
def readLevel? (s : List Char) : Option LogLevel :=
  if s.isEmpty then some .trace else LogLevel.read? s

/-- The level that begins at a byte of a whole text. -/
def cutLevel? (whole : List Char) (start : Nat) : Option (Option LogLevel) :=
  (cutFrom? start whole).map readLevel?

/-- What stands after the brackets, from a byte on: nothing, or a level. -/
def readEnd? (whole : List Char) (start : Nat) : List Char → Option (Option LogLevel)
  | [] => some (some .trace)
  | '=' :: _ => cutLevel? whole (start + 1)
  | _ => some none

/-- The value that a field is compared with, behind the first equals sign. -/
def fieldValue? (field : List Char) : Option (List Char) :=
  match field.dropWhile (· ≠ '=') with
  | '=' :: rest => some (rest.takeWhile (· ≠ '='))
  | _ => none

/-- A value is a number or a pattern. -/
def isValue (s : List Char) : Bool :=
  Text.Decimal.isReal s || Text.isPattern s

/-- The braces of a directive, the first of which ends before a byte. A field with a value speaks of
spans alone; no directive is read. Neither is one where a field is empty or compared with something
else, and its level is not looked at. -/
def readField? (whole : List Char) (target : Option String) (start : Nat) (s : List Char) :
    Option (Option LogDirective) :=
  let stop := start + width (s.takeWhile (· ≠ '}'))
  match s.dropWhile (· ≠ '}') with
  | '}' :: rest => do
    let field ← cut? start stop whole
    match field, rest with
    | [], _ => return none
    | _, ']' :: rest =>
      let value := fieldValue? field
      if !value.all isValue then return none
      let level ← readEnd? whole (stop + 2) rest
      if value.isSome then return none
      return level.map fun level => ⟨target, some (String.ofList field), level⟩
    | _, _ => return none
  | _ => some none

/-- The brackets of a directive, the first of which ends before a byte. A directive that names a
span speaks of spans alone; none is read. -/
def readBrackets? (whole : List Char) (target : Option String) (start : Nat) (s : List Char) :
    Option (Option LogDirective) :=
  let isMark : Char → Bool := fun c => c = ']' || c = '{'
  let stop := start + width (s.takeWhile fun c => !isMark c)
  match s.dropWhile fun c => !isMark c with
  | ']' :: rest => do
    let _ ← cut? start stop whole
    let _ ← readEnd? whole (stop + 1) rest
    return none
  | '{' :: rest => do
    let span ← cut? start stop whole
    let directive ← readField? whole target (stop + 1) rest
    return if span.isEmpty then directive else none
  | _ => some none

/-- What a text says that is no level with a target and has no brackets: a level when it names one,
and otherwise a target of which everything is logged. -/
def ofWord (s : List Char) : LogDirective :=
  match LogLevel.read? s with
  | some level => { level }
  | none => { target := some (String.ofList s), level := .trace }

/-- The directive of a text, if it is one; nothing at all when a part of it begins or ends inside a
character. -/
def read? (whole : List Char) : Option (Option LogDirective) :=
  let isMark : Char → Bool := fun c => c = '=' || c = '['
  let s := Text.trimChars whole
  let stop := width (s.takeWhile fun c => !isMark c)
  match s with
  | [] => some none
  | '[' :: rest => readBrackets? whole none 1 rest
  | c :: _ =>
    if isTargetStart c then
      match s.dropWhile fun c => !isMark c with
      | '=' :: _ => do
        let target ← cut? 0 stop whole
        let level ← cutLevel? whole (stop + 1)
        return level.map fun level => { target := some (String.ofList target), level }
      | '[' :: rest => do
        let target ← cut? 0 stop whole
        readBrackets? whole (some (String.ofList target)) (stop + 1) rest
      | _ => some (some (ofWord whole))
    else some none

def speaksOf (d : LogDirective) (target : String) (fields : List String) : Bool :=
  d.target.all (fun t => t.toList.isPrefixOf target.toList) && d.field.all (· ∈ fields)

/-- The directive is more specific than another one: by the length of its target, then by having a
field, then by the order of the names. -/
def isMoreSpecific (a b : LogDirective) : Bool :=
  let weight (d : LogDirective) : Nat :=
    match d.target with
    | none => 0
    | some t => t.utf8ByteSize + 1
  weight b < weight a || (weight a = weight b &&
    ((b.field.isNone && a.field.isSome) ||
      (b.field.isSome == a.field.isSome && b.field.getD "" < a.field.getD "")))

end LogDirective

/-- The directives of a filter, one at most for each target and field. -/
structure LogFilter where
  directives : List LogDirective := []
  deriving DecidableEq, Repr

namespace LogFilter

/-- A directive replaces the one with its target and its field. -/
def add (f : LogFilter) (d : LogDirective) : LogFilter :=
  ⟨f.directives.filter (fun e => ¬ (e.target = d.target ∧ e.field = d.field)) ++ [d]⟩

/-- The parts of a text between commas. -/
def parts : List Char → List (List Char)
  | [] => [[]]
  | c :: rest =>
    if c = ',' then [] :: parts rest
    else
      match parts rest with
      | [] => [[c]]
      | p :: ps => (c :: p) :: ps

/-- The filter of a text; parts that are no directive are left out. None when a part cannot be
read at all. -/
def read? (s : String) : Option LogFilter := do
  let directives ← (parts s.toList).mapM LogDirective.read?
  return (directives.filterMap id).foldl add {}

/-- The most specific directive that matches a record. -/
def decisive? (f : LogFilter) (target : String) (fields : List String) : Option LogDirective :=
  (f.directives.filter (·.speaksOf target fields)).foldl (fun best d =>
    match best with
    | none => some d
    | some b => if d.isMoreSpecific b then some d else some b) none

/-- A record of a level, with a target and fields, is written. -/
def allows (f : LogFilter) (target : String) (fields : List String) (level : LogLevel) : Bool :=
  (f.decisive? target fields).any fun d => level.rank ≤ d.level.rank

end LogFilter

end ClusterOperator
