import PollAudit.Json.Reader

namespace PollAudit.Json

/-- What a JSON text says, with the members of an object as they stand there, repeated or not. A
number out of reach and a string with half of a surrogate pair are well written, but they stand for
nothing. -/
inductive Document
  | null
  | boolean (b : Bool)
  | number (n : Option Number)
  | text (s : Option String)
  | list (items : List Document)
  | object (members : List (Option String × Document))

/-- Blanks lead from one place of a text to another. -/
inductive Gap : List Char → List Char → Prop
  | none (text : List Char) : Gap text text
  | blank {c : Char} {text rest : List Char} (hblank : isBlank c = true) (h : Gap text rest) :
    Gap (c :: text) rest

/-- Four hexadecimal digits that name a unit of 16 bits. -/
inductive Quad : List Char → Nat → List Char → Prop
  | mk {a b c d : Char} {i j k l : Nat} {rest : List Char} (ha : hexValue? a = some i)
    (hb : hexValue? b = some j) (hc : hexValue? c = some k) (hd : hexValue? d = some l) :
    Quad (a :: b :: c :: d :: rest) (((i * 16 + j) * 16 + k) * 16 + l) rest

/-- A unit that is the first half of a character. -/
def IsLeading (n : Nat) : Prop := 0xd800 ≤ n ∧ n ≤ 0xdbff

/-- A unit that is the second half of a character. -/
def IsTrailing (n : Nat) : Prop := 0xdc00 ≤ n ∧ n ≤ 0xdfff

/-- The character that two halves make. -/
def joined (n m : Nat) : Char := Char.ofNat (0x10000 + (n - 0xd800) * 0x400 + (m - 0xdc00))

/-- What an escape of two characters stands for. -/
def shortEscape? : Char → Option Char
  | '"' => some '"'
  | '\\' => some '\\'
  | '/' => some '/'
  | 'b' => some (Char.ofNat 8)
  | 'f' => some (Char.ofNat 12)
  | 'n' => some '\n'
  | 'r' => some '\r'
  | 't' => some '\t'
  | _ => none

/-- The characters of a string up to its closing quote, and what they stand for: nothing as soon as
half of a character is without the other. -/
inductive Letters : List Char → Option (List Char) → List Char → Prop
  | close {rest : List Char} : Letters ('"' :: rest) (some []) rest
  | plain {c : Char} {text rest : List Char} {s : Option (List Char)} (hquote : c ≠ '"')
    (hescape : c ≠ '\\') (hcontrol : 32 ≤ c.toNat) (h : Letters text s rest) :
    Letters (c :: text) (s.map (c :: ·)) rest
  | short {c d : Char} {text rest : List Char} {s : Option (List Char)}
    (hshort : shortEscape? c = some d) (h : Letters text s rest) :
    Letters ('\\' :: c :: text) (s.map (d :: ·)) rest
  | unit {n : Nat} {text later rest : List Char} {s : Option (List Char)} (hquad : Quad text n later)
    (hleading : ¬ IsLeading n) (htrailing : ¬ IsTrailing n) (h : Letters later s rest) :
    Letters ('\\' :: 'u' :: text) (s.map (Char.ofNat n :: ·)) rest
  | pair {n m : Nat} {text second later rest : List Char} {s : Option (List Char)}
    (hquad : Quad text n ('\\' :: 'u' :: second)) (hleading : IsLeading n)
    (hquad' : Quad second m later) (htrailing : IsTrailing m) (h : Letters later s rest) :
    Letters ('\\' :: 'u' :: text) (s.map (joined n m :: ·)) rest
  | lone {n : Nat} {text later rest : List Char} {s : Option (List Char)} (hquad : Quad text n later)
    (hlone : IsTrailing n ∨ IsLeading n ∧
      ∀ second m behind, later = '\\' :: 'u' :: second → Quad second m behind → ¬ IsTrailing m)
    (h : Letters later s rest) : Letters ('\\' :: 'u' :: text) none rest

/-- One digit or more. -/
def IsDigits (digits : List Char) : Prop := digits ≠ [] ∧ ∀ c ∈ digits, c.isDigit = true

/-- The digits in front of the point, of which only a single one may be a leading zero. -/
inductive IsWhole : List Char → Prop
  | zero : IsWhole ['0']
  | digits {digits : List Char} (h : IsDigits digits) (hzero : digits.head? ≠ some '0') : IsWhole digits

/-- The point with the digits behind it, or nothing. -/
inductive IsFraction : List Char → Prop
  | none : IsFraction []
  | digits {digits : List Char} (h : IsDigits digits) : IsFraction ('.' :: digits)

/-- An exponent with its letter, or nothing. -/
inductive IsExponent : List Char → Prop
  | none : IsExponent []
  | digits {letter : Char} {sign digits : List Char} (hletter : letter = 'e' ∨ letter = 'E')
    (hsign : sign = [] ∨ sign = ['+'] ∨ sign = ['-']) (h : IsDigits digits) :
    IsExponent (letter :: (sign ++ digits))

/-- A number as it is written. -/
inductive IsNumeral : List Char → Prop
  | mk {sign whole fraction exponent : List Char} (hsign : sign = [] ∨ sign = ['-'])
    (hwhole : IsWhole whole) (hfraction : IsFraction fraction) (hexponent : IsExponent exponent) :
    IsNumeral (sign ++ (whole ++ (fraction ++ exponent)))

/-- Nothing follows that a number would go on with. -/
def EndsNumber (rest : List Char) : Prop :=
  ∀ c, rest.head? = some c → c.isDigit = false ∧ c ≠ '.' ∧ c ≠ 'e' ∧ c ≠ 'E'

/-- What a reader finds at the front of a text. -/
def Reader.found? {α : Type} (reader : Reader α) (text : List Char) : Option α :=
  match reader ⟨text, {}⟩ with
  | .ok (a, _) => some a
  | .error _ => none

/-- The number that a numeral stands for. -/
def numberOf? (numeral : List Char) : Option Number := Reader.number.found? numeral

section

variable {α : Type} (close : Char) (Item : List Char → α → List Char → Prop)

/-- What stands behind an item: the closing bracket, or a comma and more items. -/
inductive Later : List α → List Char → List Char → Prop
  | close {text rest : List Char} (h : Gap text (close :: rest)) : Later [] text rest
  | comma {text behind start next rest : List Char} {a : α} {items : List α}
    (hcomma : Gap text (',' :: behind)) (hgap : Gap behind start) (hitem : Item start a next)
    (h : Later items next rest) : Later (a :: items) text rest

/-- Items with commas between them and blanks around them, and the closing bracket. -/
inductive Sequence : List α → List Char → List Char → Prop
  | empty {text rest : List Char} (h : Gap text (close :: rest)) : Sequence [] text rest
  | items {text start next rest : List Char} {a : α} {items : List α} (hgap : Gap text start)
    (hitem : Item start a next) (h : Later close Item items next rest) :
    Sequence (a :: items) text rest

end

/-- A key, a colon and a value. -/
inductive Entry (Item : List Char → Document → List Char → Prop) :
    List Char → Option String × Document → List Char → Prop
  | mk {text behind colon start rest : List Char} {key : Option (List Char)} {document : Document}
    (hkey : Letters text key behind) (hcolon : Gap behind (':' :: colon)) (hgap : Gap colon start)
    (hvalue : Item start document rest) :
    Entry Item ('"' :: text) (key.map String.ofList, document) rest

/-- The front of a text, up to the rest, is a document by the grammar of JSON. -/
inductive Says : List Char → Document → List Char → Prop
  | null {rest : List Char} : Says ('n' :: 'u' :: 'l' :: 'l' :: rest) .null rest
  | yes {rest : List Char} : Says ('t' :: 'r' :: 'u' :: 'e' :: rest) (.boolean true) rest
  | no {rest : List Char} : Says ('f' :: 'a' :: 'l' :: 's' :: 'e' :: rest) (.boolean false) rest
  | number {numeral rest : List Char} (h : IsNumeral numeral) (hends : EndsNumber rest) :
    Says (numeral ++ rest) (.number (numberOf? numeral)) rest
  | text {text rest : List Char} {s : Option (List Char)} (h : Letters text s rest) :
    Says ('"' :: text) (.text (s.map String.ofList)) rest
  | list {text rest : List Char} {items : List Document} (h : Sequence ']' Says items text rest) :
    Says ('[' :: text) (.list items) rest
  | object {text rest : List Char} {members : List (Option String × Document)}
    (h : Sequence '\x7d' (Entry Says) members text rest) :
    Says ('\x7b' :: text) (.object members) rest

/-- A whole text is a document, with blanks around it. -/
def Document.IsSaidBy (document : Document) (text : String) : Prop :=
  ∃ start rest, Gap text.toList start ∧ Says start document rest ∧ Gap rest []

end PollAudit.Json
