import ClusterOperator.Text.Blank
import ClusterOperator.Text.Decimal
import ClusterOperator.Time.Calendar
import ClusterOperator.Time.Duration

/-!
# Instants and their text

* `Instant` : a point in universal time, to the nanosecond; a leap second is written as the
  second 59 of a minute with a billion nanoseconds more;
* `Instant.stamp` : the text in whole seconds that conditions and statuses carry;
* `Instant.text` : the text with as many of 0, 3, 6 or 9 fraction digits as hold the value;
* `Instant.read?` : the reader of times with an offset.
-/

namespace ClusterOperator

/-- The seconds of the first instant, in the year -262143. -/
def firstSecond : Int := -8334601228800

/-- The last second of the last minute, in the year 262142. -/
def lastSecond : Int := 8210266876799

/-- The seconds and nanoseconds name an instant: they are in range, and only the last second of a
minute may hold a leap second. -/
def IsInstant (secs : Int) (nanos : Nat) : Prop :=
  firstSecond ≤ secs ∧ secs ≤ lastSecond ∧
    (nanos < nanosPerSec ∨ nanos < 2 * nanosPerSec ∧ secs % 60 = 59)

instance (secs : Int) (nanos : Nat) : Decidable (IsInstant secs nanos) :=
  inferInstanceAs (Decidable (_ ∧ _ ∧ (_ ∨ _ ∧ _)))

/-- A point in universal time: seconds since 1970 and nanoseconds. -/
structure Instant where
  secs : Int
  nanos : Nat
  isInstant : IsInstant secs nanos := by decide
  deriving DecidableEq, Repr

namespace Instant

@[ext] theorem ext {a b : Instant} (hs : a.secs = b.secs) (hn : a.nanos = b.nanos) : a = b := by
  cases a
  cases b
  cases hs
  cases hn
  rfl

def epoch : Instant := { secs := 0, nanos := 0 }

instance : Inhabited Instant := ⟨epoch⟩

/-- The instant of these seconds and nanoseconds, if they name one. -/
def ofParts? (secs : Int) (nanos : Nat) : Option Instant :=
  if h : IsInstant secs nanos then some ⟨secs, nanos, h⟩ else none

/-! ## Writing -/

open Text.Decimal (padded digits digitValue? value)

/-- A year: four digits, and a sign with at least four digits outside 0 to 9999. -/
def yearText (year : Int) : List Char :=
  if 0 ≤ year ∧ year ≤ 9999 then padded 4 year.natAbs
  else (if year < 0 then '-' else '+') :: padded 4 year.natAbs

/-- Date and time up to the second; a leap second is the second 60. -/
def secondsText (t : Instant) : List Char :=
  let date := Date.ofDays (t.secs / 86400)
  let second := (t.secs % 86400).toNat
  let leap := if t.nanos ≥ nanosPerSec then 1 else 0
  yearText date.year ++ '-' :: padded 2 date.month ++ '-' :: padded 2 date.day ++
    'T' :: padded 2 (second / 3600) ++ ':' :: padded 2 (second / 60 % 60) ++
    ':' :: padded 2 (second % 60 + leap)

/-- The fraction of a second, in as few of 0, 3, 6 or 9 digits as hold it. -/
def fractionText (nanos : Nat) : List Char :=
  let n := nanos % nanosPerSec
  if n = 0 then []
  else if n % 1000000 = 0 then '.' :: padded 3 (n / 1000000)
  else if n % 1000 = 0 then '.' :: padded 6 (n / 1000)
  else '.' :: padded 9 n

/-- The text of an instant in whole seconds. -/
def stamp (t : Instant) : String :=
  String.ofList (t.secondsText ++ ['Z'])

def text (t : Instant) : String :=
  String.ofList (t.secondsText ++ fractionText t.nanos ++ ['Z'])

/-! ## Reading -/

/-- At most `width` digits at the head of a text, and the rest; there must be one. -/
def readDigits? (width : Nat) (s : List Char) : Option (Nat × List Char) :=
  let ds := (s.take width).takeWhile fun c => (digitValue? c).isSome
  if ds.isEmpty then none else some (value ds, s.drop ds.length)

/-- A number of at most two digits, with blanks in front, up to `max`. -/
def readPart? (max : Nat) (s : List Char) : Option (Nat × List Char) :=
  match readDigits? 2 (Text.dropBlank s) with
  | some (n, rest) => if n ≤ max then some (n, rest) else none
  | none => none

/-- A year, with blanks in front: four digits at most, or a sign and any number of them. -/
def readYear? (s : List Char) : Option (Int × List Char) :=
  match Text.dropBlank s with
  | '-' :: r => (readDigits? r.length r).map fun (n, rest) => (-(n : Int), rest)
  | '+' :: r => (readDigits? r.length r).map fun (n, rest) => ((n : Int), rest)
  | r => (readDigits? 4 r).map fun (n, rest) => ((n : Int), rest)

/-- The text after a mark that may have blanks in front. -/
def readMark? (mark : Char) (s : List Char) : Option (List Char) :=
  match Text.dropBlank s with
  | c :: rest => if c = mark then some rest else none
  | [] => none

def readDate? (s : List Char) : Option (Date × List Char) := do
  let (year, s) ← readYear? s
  let s ← readMark? '-' s
  let (month, s) ← readPart? 12 s
  let s ← readMark? '-' s
  let (day, s) ← readPart? 31 s
  return ({ year, month, day }, s)

/-- A fraction of a second in nanoseconds; digits beyond the ninth are dropped. -/
def readFraction? (s : List Char) : Option (Nat × List Char) :=
  match s with
  | '.' :: r =>
    let ds := r.takeWhile fun c => (digitValue? c).isSome
    if ds.isEmpty then none
    else
      let kept := ds.take 9
      some (value kept * Nat.pow 10 (9 - kept.length), r.drop ds.length)
  | s => some (0, s)

/-- Hours and minutes of an offset, with colons or blanks between them. -/
def readOffsetParts? (s : List Char) : Option (Nat × List Char) :=
  match s with
  | a :: b :: rest =>
    match rest.dropWhile (fun c => c = ':' || Text.isBlank c) with
    | c :: d :: rest =>
      match digitValue? a, digitValue? b, digitValue? c, digitValue? d with
      | some a, some b, some c, some d =>
        if c ≤ 5 then some ((a * 10 + b) * 3600 + (c * 10 + d) * 60, rest) else none
      | _, _, _, _ => none
    | _ => none
  | _ => none

/-- An offset from universal time in seconds: `Z`, `UTC`, or hours and minutes with a sign. -/
def readOffset? (s : List Char) : Option (Int × List Char) :=
  match s with
  | u :: t :: c :: rest =>
    if u.toUpper = 'U' ∧ t.toUpper = 'T' ∧ c.toUpper = 'C' then some (0, rest)
    else signedOffset? s
  | s => signedOffset? s
where
  /-- `Z`, or hours and minutes with a sign. -/
  signedOffset? (s : List Char) : Option (Int × List Char) :=
    match s with
    | [] => none
    | c :: rest =>
      if c = 'Z' ∨ c = 'z' then some (0, rest)
      else if c = '+' then (readOffsetParts? rest).map fun (n, rest) => ((n : Int), rest)
      else if c = '-' ∨ c = '−' then
        (readOffsetParts? rest).map fun (n, rest) => (-(n : Int), rest)
      else none

/-- The instant that a text names: a date, `T` or a blank, a time of day with seconds, and an
offset. The second 60 is the leap second after the second 59. -/
def read? (s : List Char) : Option Instant := do
  let (date, s) ← readDate? s
  let s ← match s with
    | c :: rest => if c = 'T' ∨ c = 't' ∨ c = ' ' then some rest else none
    | [] => none
  let (hour, s) ← readPart? 23 s
  let s ← readMark? ':' s
  let (minute, s) ← readPart? 59 s
  let s ← readMark? ':' s
  let (second, s) ← readPart? 60 s
  let (fraction, s) ← readFraction? s
  let (offset, s) ← readOffset? (Text.dropBlank s)
  if s.all Text.isBlank ∧ date.isValid ∧ offset.natAbs < 86400 then
    let leap := if second = 60 then nanosPerSec else 0
    let localSecs : Int := date.toDays * 86400 + (hour * 3600 + minute * 60 + min second 59 : Nat)
    if firstSecond ≤ localSecs ∧ localSecs ≤ lastSecond then
      ofParts? (localSecs - offset) (leap + fraction)
    else none
  else none

end Instant

end ClusterOperator
