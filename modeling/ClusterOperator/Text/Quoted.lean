import ClusterOperator.Text.Hidden

/-!
# Quoted texts

* `Quoted.escape` : a character inside quotes: quotes, backslashes and the common control
  characters with a backslash, other hidden characters by their number;
* `Quoted.encode` : a text in quotes.
-/

namespace ClusterOperator.Text.Quoted

/-- The lower-case hexadecimal digits of a number, the most significant first. -/
def hexDigits (n : Nat) : List Char :=
  let digit := if n % 16 < 10 then Char.ofNat (48 + n % 16) else Char.ofNat (87 + n % 16)
  if n < 16 then [digit] else hexDigits (n / 16) ++ [digit]
  termination_by n

def escape (c : Char) : List Char :=
  if c = '"' then ['\\', '"']
  else if c = '\\' then ['\\', '\\']
  else if c = '\x00' then ['\\', '0']
  else if c = '\t' then ['\\', 't']
  else if c = '\n' then ['\\', 'n']
  else if c = '\r' then ['\\', 'r']
  else if isHidden c then '\\' :: 'u' :: '{' :: (hexDigits c.toNat ++ ['}'])
  else [c]

def encode (s : String) : String :=
  String.ofList ('"' :: (s.toList.flatMap escape ++ ['"']))

end ClusterOperator.Text.Quoted
