import PollAudit.Text.Utf8

namespace PollAudit.Url

/-- The characters that must be written as percent escapes somewhere. Characters beyond ASCII are
in every such set. -/
abbrev EscapeSet := Char → Bool

namespace EscapeSet

def controls : EscapeSet := fun c => c.toNat < 0x20 || 0x7e < c.toNat

def fragment : EscapeSet := fun c => controls c || [' ', '"', '<', '>', '\x60'].contains c

def query : EscapeSet := fun c => controls c || [' ', '"', '#', '<', '>'].contains c

/-- The set for queries of schemes such as `http`. -/
def specialQuery : EscapeSet := fun c => query c || c == '\x27'

def path : EscapeSet := fun c => fragment c || ['#', '?', '\x7b', '\x7d'].contains c

/-- The set for text that becomes one segment of a path. -/
def segment : EscapeSet := fun c => path c || ['/', '%'].contains c

/-- The set for segments of schemes that take a backslash for a slash. -/
def specialSegment : EscapeSet := fun c => segment c || c == '\\'

def userInfo : EscapeSet := fun c =>
  path c || ['/', ':', ';', '=', '@', '[', '\\', ']', '^', '|'].contains c

end EscapeSet

/-- A digit of base 16 in upper case. -/
def upperHex (n : Nat) : Char :=
  if n < 10 then Char.ofNat ('0'.toNat + n) else Char.ofNat ('A'.toNat + (n - 10))

/-- A byte as a percent escape. -/
def escapeByte (b : UInt8) : List Char :=
  ['%', upperHex (b.toNat / 16), upperHex (b.toNat % 16)]

/-- A character, escaped byte by byte if the set holds it. -/
def escapeChar (set : EscapeSet) (c : Char) : List Char :=
  if set c then (String.utf8EncodeChar c).flatMap escapeByte else [c]

/-- A text with the characters of a set escaped. -/
def escape (set : EscapeSet) (text : List Char) : List Char :=
  text.flatMap (escapeChar set)

/-- Tabs and line ends do not count in a URL. -/
def isIgnored (c : Char) : Bool := c == '\t' || c == '\n' || c == '\r'

/-- The characters of a text that count. -/
def significant (text : List Char) : List Char := text.filter (!isIgnored ·)

/-- The value of a digit of base 16. -/
def hexValue? (c : Char) : Option Nat :=
  if c.isDigit then some (c.toNat - '0'.toNat)
  else if 'a' ≤ c ∧ c ≤ 'f' then some (c.toNat - 'a'.toNat + 10)
  else if 'A' ≤ c ∧ c ≤ 'F' then some (c.toNat - 'A'.toNat + 10)
  else none

/-- The byte that an escape stands for, read from behind its percent sign. -/
def escapedByte? : List Char → Option UInt8
  | a :: b :: _ =>
    match hexValue? a, hexValue? b with
    | some a, some b => some (UInt8.ofNat (16 * a + b))
    | _, _ => none
  | _ => none

/-- The bytes of a text in which percent escapes stand for bytes. A percent sign that begins no
escape stands for itself. The first number of characters was already used. -/
def unescapeFrom : (used : Nat) → List Char → List UInt8
  | _, [] => []
  | used + 1, _ :: rest => unescapeFrom used rest
  | 0, c :: rest =>
    match if c = '%' then escapedByte? rest else none with
    | some b => b :: unescapeFrom 2 rest
    | none => String.utf8EncodeChar c ++ unescapeFrom 0 rest

def unescape (text : List Char) : List UInt8 := unescapeFrom 0 text

end PollAudit.Url
