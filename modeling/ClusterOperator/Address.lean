/-!
# Addresses

* `Authority.isValid` : what stands between a scheme and a path names a host, maybe with a user in
  front and a port behind;
* `Address` : the path of a request, and its query;
* `Address.ofText?` : what the text of an address stands for. A scheme and an authority in front of
  the path are left out, and so is a fragment, from the mark `#` on. A text that breaks the rules
  stands for nothing.
-/

namespace ClusterOperator

/-! ## Authorities -/

namespace Authority

/-- A character that an authority may hold as it is. -/
def isPlainChar (c : Char) : Bool :=
  c.isAlphanum || "!$&'()*+,-.;=_~".toList.contains c

/-- What is known of an authority from its characters so far. -/
structure Scan where
  /-- The colons since the last user or bracket ended. -/
  colons : Nat := 0
  isOpened : Bool := false
  isClosed : Bool := false
  /-- There was a percent sign since the last user or bracket ended. -/
  hasPercent : Bool := false
  /-- The last character ended a user. -/
  endsUser : Bool := false
  deriving DecidableEq, Repr

/-- The most colons in a row of parts, as an address in brackets has them. -/
def maxColons : Nat := 8

/-- One more character. Brackets stand once at most, and not behind a percent sign. -/
def Scan.next? (s : Scan) (c : Char) : Option Scan :=
  let s : Scan := { s with endsUser := false }
  match c with
  | ':' => if s.colons < maxColons then some { s with colons := s.colons + 1 } else none
  | '[' => if s.hasPercent || s.isOpened then none else some { s with isOpened := true }
  | ']' =>
    if s.isOpened && !s.isClosed then
      some { s with isClosed := true, colons := 0, hasPercent := false }
    else none
  | '@' => some { s with colons := 0, hasPercent := false, endsUser := true }
  | '%' => some { s with hasPercent := true }
  | c => if isPlainChar c then some s else none

/-- An authority is complete: its bracket is closed, its host has one port at most and no percent
sign, and a user is not all there is. -/
def Scan.isComplete (s : Scan) : Bool :=
  s.isOpened == s.isClosed && s.colons ≤ 1 && !s.hasPercent && !s.endsUser

/-- A text that may stand between a scheme and a path. -/
def isValid (text : List Char) : Bool :=
  !text.isEmpty && (text.foldlM Scan.next? {}).any Scan.isComplete

end Authority

/-! ## Addresses -/

/-- The path of a request, and its query. -/
structure Address where
  path : String
  query : String := ""
  deriving DecidableEq, Repr

namespace Address

/-- A character that ends an authority. -/
def isMark (c : Char) : Bool :=
  c = '/' || c = '?' || c = '#'

def isSchemeChar (c : Char) : Bool :=
  c.isAlphanum || c = '+' || c = '-' || c = '.'

def maxSchemeLength : Nat := 64

/-- The text from the path on: all of it when it starts with a path, what stands behind scheme and
authority when it has a scheme, and nothing when it is an authority alone. -/
def pathOf? (s : List Char) : Option (List Char) :=
  let scheme := s.takeWhile isSchemeChar
  match s, s.drop scheme.length with
  | '/' :: _, _ => some s
  | _, ':' :: '/' :: '/' :: rest =>
    if scheme.length ≤ maxSchemeLength && Authority.isValid (rest.takeWhile fun c => !isMark c) then
      match rest.dropWhile fun c => !isMark c with
      | '/' :: path => some ('/' :: path)
      | rest => some ('/' :: rest)
    else none
  | _, _ => if Authority.isValid s then some [] else none

/-- The path and the query of a text without scheme, authority and fragment. -/
def split (s : List Char) : List Char × List Char :=
  let s := s.takeWhile (· ≠ '#')
  (s.takeWhile (· ≠ '?'), (s.dropWhile (· ≠ '?')).drop 1)

def isPathChar (c : Char) : Bool :=
  let n := c.toNat
  n = 0x21 || n = 0x22 || (0x24 ≤ n && n ≤ 0x3b) || n = 0x3d || (0x40 ≤ n && n ≤ 0x5f) ||
    (0x61 ≤ n && n ≠ 0x7f)

def isQueryChar (c : Char) : Bool :=
  let n := c.toNat
  n = 0x21 || (0x24 ≤ n && n ≤ 0x3b) || n = 0x3d || (0x3f ≤ n && n ≠ 0x7f)

/-- The most bytes that the text of an address may take. -/
def maxSize : Nat := 65534

/-- What the text of an address stands for. It is not too long, and its path and its query hold no
character that has to be encoded. The fragment may hold any. -/
def ofText? (text : String) : Option Address := do
  let (path, query) := split (← pathOf? text.toList)
  if text.utf8ByteSize ≤ maxSize && path.all isPathChar && query.all isQueryChar then
    some ⟨String.ofList path, String.ofList query⟩
  else none

end Address

end ClusterOperator
