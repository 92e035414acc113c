import PollAudit.Idna.Mapping
import PollAudit.Idna.Punycode
import PollAudit.Text.Joining
import PollAudit.Text.Mark
import PollAudit.Text.Normal

namespace PollAudit.Idna

open Text

/-- The characters of ASCII that no host name holds. -/
def isForbidden (c : Char) : Bool :=
  c.toNat ≤ 0x20 || c.toNat == 0x7f ||
    ['%', '#', '/', ':', '<', '>', '?', '@', '[', '\\', ']', '^', '|'].contains c

def nonJoiner : Char := Char.ofNat 0x200c

def joiner : Char := Char.ofNat 0x200d

/-- The joiners of a label stand where a script needs them: behind a sign that silences a vowel,
or, when they keep letters apart, between two that would connect. The characters in front are
given the last one first. -/
def joinersFit (front : List Char) : List Char → Bool
  | [] => true
  | c :: rest =>
    let silenced :=
      match front with
      | [] => false
      | d :: _ => combiningClass d == virama
    let between :=
      (match front.dropWhile isJoiningThrough with
      | [] => false
      | d :: _ => isJoiningOnward d) &&
      (match rest.dropWhile isJoiningThrough with
      | [] => false
      | d :: _ => isJoiningBack d)
    (if c = nonJoiner then silenced || between
      else if c = joiner then silenced
      else true) && joinersFit (c :: front) rest

/-- A text of allowed characters is a label if it begins with no mark and its joiners fit. -/
def isLabel (text : List Char) : Bool :=
  !(text.head?.any isMark) && joinersFit [] text

/-- A part of a name between dots, as it is read and as it is written in ASCII. -/
structure Label where
  read : List Char
  written : List Char

namespace Label

/-- What stands in front of an encoded label. -/
def sign : List Char := ['x', 'n', '-', '-']

/-- The length of the longest code that is decoded. -/
def longestCode : Nat := 2000

/-- The length of the longest label, as it is read. -/
def longest : Nat := 1000

/-- Reads what stands behind the sign of an encoded label. Only a text that would be encoded is
accepted. -/
def ofEncoded? (code : List Char) : Option Label :=
  if code.isEmpty || code.getLast? == some '-' || longestCode < code.length then none
  else
    match Punycode.decode? code with
    | none => none
    | some read =>
      if read.length ≤ longest && read.all isAllowed && normal read == read && isLabel read then
        some ⟨read, sign ++ code⟩
      else none

/-- Reads a label in normal form. -/
def ofText? (text : List Char) : Option Label :=
  if text.any isForbidden then none
  else if sign.isPrefixOf text then ofEncoded? (text.drop sign.length)
  else if text.all Punycode.isBasic then some ⟨text, text⟩
  else if text.length ≤ longest && isLabel text then
    some ⟨text, sign ++ Punycode.encode text⟩
  else none

end Label

end PollAudit.Idna
