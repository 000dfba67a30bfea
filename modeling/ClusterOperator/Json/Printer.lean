import ClusterOperator.Json.Basic
import ClusterOperator.Text.Decimal

/-!
# Writing JSON text

* `escape` : a character inside a string: quotes, backslashes and control characters are
  escaped, all else is written as it is;
* `print` : a value without blanks, members in their order.
-/

namespace ClusterOperator.Json

open Text.Decimal (signed)

/-- The lower-case hexadecimal digit of a value below sixteen. -/
def hexDigit (n : Nat) : Char :=
  if n < 10 then Char.ofNat (48 + n) else Char.ofNat (87 + n)

def escape (c : Char) : List Char :=
  if c = '"' then ['\\', '"']
  else if c = '\\' then ['\\', '\\']
  else if c = '\x08' then ['\\', 'b']
  else if c = '\t' then ['\\', 't']
  else if c = '\n' then ['\\', 'n']
  else if c = '\x0c' then ['\\', 'f']
  else if c = '\r' then ['\\', 'r']
  else if c.toNat < 0x20 then
    ['\\', 'u', '0', '0', hexDigit (c.toNat / 16), hexDigit (c.toNat % 16)]
  else [c]

def quote (s : String) : List Char :=
  '"' :: (s.toList.flatMap escape ++ ['"'])

mutual

/-- A value as JSON text without blanks. -/
def print : Json → List Char
  | .null => ['n', 'u', 'l', 'l']
  | .bool true => ['t', 'r', 'u', 'e']
  | .bool false => ['f', 'a', 'l', 's', 'e']
  | .int n => signed n
  | .real text => text.toList
  | .str s => quote s
  | .arr items => '[' :: (printItems items ++ [']'])
  | .obj members => '{' :: (printMembers members ++ ['}'])
  | .unreadable => ['n', 'u', 'l', 'l']

def printItems : List Json → List Char
  | [] => []
  | [x] => print x
  | x :: rest => print x ++ ',' :: printItems rest

def printMembers : List (String × Json) → List Char
  | [] => []
  | [(k, x)] => quote k ++ ':' :: print x
  | (k, x) :: rest => quote k ++ ':' :: (print x ++ ',' :: printMembers rest)

end

def text (j : Json) : String :=
  String.ofList (print j)

end ClusterOperator.Json
