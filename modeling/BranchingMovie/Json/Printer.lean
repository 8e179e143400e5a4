import BranchingMovie.Json.Value

/-!
# Writing JSON

Documents are written with one item or member per line, indented by two blanks for each level.  Only
quotes, backslashes and control characters are escaped.
-/

namespace BranchingMovie.Json

/-! ## Strings -/

/-- A hexadecimal digit in small letters. -/
def hexDigit (n : Nat) : Char :=
  Char.ofNat (if n < 10 then '0'.toNat + n else 'a'.toNat + (n - 10))

/-- A character inside a written string. -/
def escapeChar (c : Char) : List Char :=
  if c = '"' then ['\\', '"']
  else if c = '\\' then ['\\', '\\']
  else if c = '\n' then ['\\', 'n']
  else if c = '\r' then ['\\', 'r']
  else if c = '\t' then ['\\', 't']
  else if c = '\x08' then ['\\', 'b']
  else if c = '\x0c' then ['\\', 'f']
  else if c.toNat < 0x20 then
    ['\\', 'u', '0', '0', hexDigit (c.toNat / 16), hexDigit (c.toNat % 16)]
  else [c]

/-- A string with its quotes. -/
def quote (s : String) : String :=
  String.ofList ('"' :: s.toList.flatMap escapeChar ++ ['"'])

/-! ## Documents -/

/-- The blanks in front of a line. -/
def indent (level : Nat) : String :=
  String.ofList (List.replicate (2 * level) ' ')

/-- Lines between an opening and a closing bracket, with commas between them. -/
def block (level : Nat) (opening closing : String) (lines : List String) : String :=
  if lines.isEmpty then opening ++ closing
  else
    opening ++ "\n" ++ ",\n".intercalate (lines.map (indent (level + 1) ++ ·)) ++ "\n" ++
      indent level ++ closing

mutual

/-- A document whose first line stands at an indentation level. -/
def print (level : Nat) : Json → String
  | null => "null"
  | bool value => if value then "true" else "false"
  | number text => text
  | string text => quote (text.getD "")
  | array items => block level "[" "]" (printItems (level + 1) items)
  | object members => block level "\x7b" "\x7d" (printMembers (level + 1) members)

/-- The items of an array. -/
def printItems (level : Nat) : List Json → List String
  | [] => []
  | item :: items => print level item :: printItems level items

/-- The members of an object. -/
def printMembers (level : Nat) : List (Option String × Json) → List String
  | [] => []
  | (name, value) :: members =>
    (quote (name.getD "") ++ ": " ++ print level value) :: printMembers level members

end

/-- The text of a document. -/
def pretty (document : Json) : String :=
  print 0 document

end BranchingMovie.Json
