import ClusterOperator.Json.Printer

/-!
# Writing YAML

* `Yaml.scalar` : a text, in quotes where it would not read back as itself;
* `Yaml.lines` : a value in block style, two blanks to a level, lists on the level of their key;
* `Yaml.text` : the document.
-/

namespace ClusterOperator.Yaml

/-- The words that read as a truth value or as nothing. -/
def reservedWords : List String :=
  ["null", "Null", "NULL", "~", "true", "True", "TRUE", "false", "False", "FALSE", "y", "Y", "yes",
    "Yes", "YES", "n", "N", "no", "No", "NO", "on", "On", "ON", "off", "Off", "OFF"]

/-- The characters that may not start a text without quotes. -/
def indicators : List Char :=
  ['-', '?', ':', ',', '[', ']', '{', '}', '#', '&', '*', '!', '|', '>', '\'', '"', '%', '@',
    '\x60']

/-- A colon before a blank or the end, or a hash sign after a blank, stands in the text. -/
def hasSeparator : List Char → Bool
  | [] => false
  | [':'] => true
  | ':' :: ' ' :: _ => true
  | ' ' :: '#' :: _ => true
  | _ :: rest => hasSeparator rest

def looksNumeric : List Char → Bool
  | [] => false
  | c :: rest =>
    c.isDigit || ((c = '+' || c = '.') && (rest.head?.any fun d => d.isDigit || d = '.'))

def needsQuotes (s : String) : Bool :=
  let cs := s.toList
  cs.isEmpty || s ∈ reservedWords || hasSeparator cs || looksNumeric cs ||
    cs.head?.any (fun c => c ∈ indicators || c = ' ') || cs.getLast?.any (· = ' ') ||
    cs.any fun c => c.toNat < 0x20

/-- A text as a scalar; inside quotes a quote is written twice. -/
def scalar (s : String) : List Char :=
  if needsQuotes s then
    '\'' :: (s.toList.flatMap (fun c => if c = '\'' then ['\'', '\''] else [c]) ++ ['\''])
  else s.toList

/-- The lines behind a mark of two characters that stands on the first line only. -/
def hang (mark : List Char) : List (List Char) → List (List Char)
  | [] => []
  | l :: rest => (mark ++ l) :: rest.map ([' ', ' '] ++ ·)

/-- The value on one line, if it has no parts. -/
def inline? : Json → Option (List Char)
  | .arr [] => some ['[', ']']
  | .obj [] => some ['{', '}']
  | .arr _ | .obj _ => none
  | .str s => some (scalar s)
  | j => some (Json.print j)

mutual

/-- A value in block style. -/
def lines (j : Json) : List (List Char) :=
  match j with
  | .obj [] => [['{', '}']]
  | .arr [] => [['[', ']']]
  | .obj members => memberLines members
  | .arr items => itemLines items
  | .str s => [scalar s]
  | j => [Json.print j]

def memberLines : List (String × Json) → List (List Char)
  | [] => []
  | (k, j) :: rest =>
    let name := scalar k ++ [':']
    let body := lines j
    (match inline? j, j with
      | some v, _ => [name ++ ' ' :: v]
      | none, .arr _ => name :: body
      | none, _ => name :: body.map ([' ', ' '] ++ ·)) ++ memberLines rest

def itemLines : List Json → List (List Char)
  | [] => []
  | j :: rest => hang ['-', ' '] (lines j) ++ itemLines rest

end

/-- A value as a document: each line ends with a line feed. -/
def text (j : Json) : String :=
  String.ofList ((lines j).flatMap (· ++ ['\n']))

end ClusterOperator.Yaml
