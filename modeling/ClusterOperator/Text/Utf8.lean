/-!
# Reading UTF-8

* `Utf8.Sequence` : a character that has begun, with the range of its next byte;
* `Utf8.decodeWith` : the characters of a list of bytes, with a stand-in for every ill-formed
  sequence, which reaches as far as some character could have begun with it;
* `Utf8.lossy` : the replacement character as stand-in;
* `Utf8.width`, `Utf8.cut?` : a text measured and cut by bytes.
-/

namespace ClusterOperator.Text.Utf8

/-- A character of more than one byte that has begun. -/
structure Sequence where
  /-- The bytes that are still to come, one at least. -/
  owed : Nat
  /-- The least and the greatest byte that may come next. -/
  low : Nat
  high : Nat
  /-- The bits so far. -/
  bits : Nat
  deriving DecidableEq, Repr

/-- What the first byte of a character tells. -/
inductive Lead where
  | char (c : Char)
  | sequence (s : Sequence)
  | illFormed

/-- The first byte of a character. The ranges of the second byte leave out overlong forms,
surrogates and what lies above the last code point. -/
def lead (b : Nat) : Lead :=
  if b < 0x80 then .char (Char.ofNat b)
  else if b < 0xc2 then .illFormed
  else if b < 0xe0 then .sequence ⟨1, 0x80, 0xbf, b - 0xc0⟩
  else if b = 0xe0 then .sequence ⟨2, 0xa0, 0xbf, 0⟩
  else if b = 0xed then .sequence ⟨2, 0x80, 0x9f, 0xd⟩
  else if b < 0xf0 then .sequence ⟨2, 0x80, 0xbf, b - 0xe0⟩
  else if b = 0xf0 then .sequence ⟨3, 0x90, 0xbf, 0⟩
  else if b < 0xf4 then .sequence ⟨3, 0x80, 0xbf, b - 0xf0⟩
  else if b = 0xf4 then .sequence ⟨3, 0x80, 0x8f, 4⟩
  else .illFormed

/-- A byte where a character may begin: what is known by then, and what has begun. -/
def begin (standIn : List Char) (b : Nat) : List Char × Option Sequence :=
  match lead b with
  | .char c => ([c], none)
  | .sequence s => ([], some s)
  | .illFormed => (standIn, none)

/-- The characters of a list of bytes that goes on with what has begun. -/
def decode (standIn : List Char) : Option Sequence → List UInt8 → List Char
  | none, [] => []
  | some _, [] => standIn
  | none, b :: rest =>
    let (chars, s) := begin standIn b.toNat
    chars ++ decode standIn s rest
  | some s, b :: rest =>
    if s.low ≤ b.toNat ∧ b.toNat ≤ s.high then
      let bits := s.bits * 64 + (b.toNat - 0x80)
      if s.owed ≤ 1 then Char.ofNat bits :: decode standIn none rest
      else decode standIn (some ⟨s.owed - 1, 0x80, 0xbf, bits⟩) rest
    else
      let (chars, s) := begin standIn b.toNat
      standIn ++ chars ++ decode standIn s rest

/-- The characters of a list of bytes, with a stand-in for every ill-formed sequence. -/
def decodeWith (standIn : List Char) (bytes : List UInt8) : List Char :=
  decode standIn none bytes

/-- The characters of a list of bytes, with the replacement character for every ill-formed
sequence. -/
def lossy (bytes : List UInt8) : String :=
  String.ofList (decodeWith ['\ufffd'] bytes)

/-! ## Cutting by bytes -/

/-- The number of bytes that the characters take. -/
def width (s : List Char) : Nat :=
  s.foldl (fun n c => n + c.utf8Size) 0

/-- The first `n` bytes of a text, and the rest of it; none when `n` is past the end or inside a
character. -/
def split? : Nat → List Char → Option (List Char × List Char)
  | 0, s => some ([], s)
  | _ + 1, [] => none
  | n + 1, c :: rest =>
    if c.utf8Size ≤ n + 1 then
      (split? (n + 1 - c.utf8Size) rest).map fun (first, last) => (c :: first, last)
    else none
  termination_by _ s => s.length

/-- A text from byte `first` on; none when that is past the end or inside a character. -/
def cutFrom? (first : Nat) (s : List Char) : Option (List Char) :=
  (split? first s).map (·.2)

/-- The bytes of a text from `first` up to `last`; none when one of these is past the end or inside
a character. -/
def cut? (first last : Nat) (s : List Char) : Option (List Char) := do
  let rest ← cutFrom? first s
  return (← split? (last - first) rest).1

end ClusterOperator.Text.Utf8
