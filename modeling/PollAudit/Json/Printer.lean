import PollAudit.Json.Value

namespace PollAudit.Json

/-- The last digit of a number in base 16. -/
def hexDigit (n : Nat) : Char :=
  (Nat.digitChar (n % 16))

/-- A character as it stands inside a string. Only the quote, the backslash and the characters
under a blank are escaped. -/
def escaped (c : Char) : List Char :=
  if c = '"' then ['\\', '"']
  else if c = '\\' then ['\\', '\\']
  else if c.toNat = 8 then ['\\', 'b']
  else if c.toNat = 12 then ['\\', 'f']
  else if c = '\n' then ['\\', 'n']
  else if c = '\r' then ['\\', 'r']
  else if c = '\t' then ['\\', 't']
  else if c.toNat < 32 then ['\\', 'u', '0', '0', hexDigit (c.toNat / 16), hexDigit c.toNat]
  else [c]

/-- A string with its quotes. -/
def quoted (s : String) : List Char :=
  '"' :: (s.toList.flatMap escaped ++ ['"'])

def Number.print : Number → List Char
  | .integer n => (toString n).toList
  | .real x => x.text.toList

/-- The text between items. -/
def separated : List (List Char) → List Char
  | [] => []
  | [last] => last
  | first :: rest => first ++ ',' :: separated rest

mutual

/-- The characters of a value, without any blanks. -/
def Value.print : Value → List Char
  | .null => "null".toList
  | .boolean true => "true".toList
  | .boolean false => "false".toList
  | .number n => n.print
  | .text s => quoted s
  | .list items => '[' :: (separated (printItems items) ++ [']'])
  | .object members => '{' :: (separated (printMembers members) ++ ['}'])

/-- The characters of each item. -/
def printItems : List Value → List (List Char)
  | [] => []
  | item :: rest => item.print :: printItems rest

/-- The characters of each member. -/
def printMembers : List (String × Value) → List (List Char)
  | [] => []
  | (key, value) :: rest => (quoted key ++ ':' :: value.print) :: printMembers rest

end

/-- A value as text. -/
def Value.render (value : Value) : String :=
  String.ofList value.print

end PollAudit.Json
