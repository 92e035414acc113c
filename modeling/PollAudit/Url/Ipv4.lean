import PollAudit.Text.Split

namespace PollAudit.Url.Ipv4

/-- Cuts a text at every dot. -/
def labels (text : List Char) : List (List Char) := Text.split '.' text

/-- The value of a digit in bases up to 16. -/
def digit? (base : Nat) (c : Char) : Option Nat :=
  let n :=
    if c.isDigit then c.toNat - '0'.toNat
    else if 'a' ≤ c ∧ c ≤ 'f' then c.toNat - 'a'.toNat + 10
    else if 'A' ≤ c ∧ c ≤ 'F' then c.toNat - 'A'.toNat + 10
    else base
  if n < base then some n else none

/-- The value of digits, none when one is no digit of the base. -/
def value? (base : Nat) (text : List Char) : Option Nat :=
  text.foldlM (fun n c => (digit? base c).map (base * n + ·)) 0

/-- Reads a number of an address: hexadecimal behind `0x`, octal behind `0`, else decimal. No
digits behind `0x` stand for zero. -/
def number? : List Char → Option Nat
  | [] => none
  | '0' :: 'x' :: digits => value? 16 digits
  | '0' :: 'X' :: digits => value? 16 digits
  | '0' :: d :: digits => value? 8 (d :: digits)
  | digits => value? 10 digits

/-- The labels of a name, less an empty last one. -/
def parts (text : List Char) : List (List Char) :=
  let found := labels text
  if found.getLast? = some [] then found.dropLast else found

/-- A name whose last label is a number can only be an address. -/
def isNumeric (text : List Char) : Bool :=
  match (parts text).getLast? with
  | none => false
  | some last => (!last.isEmpty && last.all Char.isDigit) || (number? last).isSome

/-- Joins the numbers of an address: one byte each, and as many as are left for the last. -/
def join? : (bytes : Nat) → List Nat → Option Nat
  | _, [] => none
  | bytes, [last] => if last < Nat.pow 256 bytes then some last else none
  | 0, _ => none
  | bytes + 1, n :: rest =>
    if n < 256 then (join? bytes rest).map (n * Nat.pow 256 bytes + ·) else none

/-- Reads an address of one to four numbers. -/
def parse? (text : List Char) : Option Nat := do
  let numbers ← (parts text).mapM number?
  if numbers.length ≤ 4 then join? 4 numbers else none

/-- The four bytes of an address in decimal, with dots between. -/
def text (n : Nat) : String :=
  ".".intercalate
    [toString (n / 16777216 % 256), toString (n / 65536 % 256), toString (n / 256 % 256),
     toString (n % 256)]

end PollAudit.Url.Ipv4
