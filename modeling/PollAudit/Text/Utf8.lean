namespace PollAudit.Text.Utf8

/-- The bytes of a text. -/
def encode (text : List Char) : List UInt8 :=
  text.flatMap String.utf8EncodeChar

/-- A byte that continues a character. -/
def isTail (b : UInt8) : Bool := 0x80 ≤ b && b ≤ 0xbf

/-- The bytes that may follow a first byte: how many, and the bounds of the first of them. None for
a byte that begins no character. -/
def continuation (b : UInt8) : Option (Nat × UInt8 × UInt8) :=
  if b ≤ 0x7f then some (0, 0, 0)
  else if 0xc2 ≤ b && b ≤ 0xdf then some (1, 0x80, 0xbf)
  else if b = 0xe0 then some (2, 0xa0, 0xbf)
  else if b = 0xed then some (2, 0x80, 0x9f)
  else if 0xe1 ≤ b && b ≤ 0xef then some (2, 0x80, 0xbf)
  else if b = 0xf0 then some (3, 0x90, 0xbf)
  else if 0xf1 ≤ b && b ≤ 0xf3 then some (3, 0x80, 0xbf)
  else if b = 0xf4 then some (3, 0x80, 0x8f)
  else none

/-- The value bits of a first byte with the given number of bytes behind it. -/
def leadBits (b : UInt8) : Nat → Nat
  | 0 => b.toNat
  | 1 => b.toNat % 32
  | 2 => b.toNat % 16
  | _ => b.toNat % 8

/-- Goes on with a character of value `n` so far that lacks `owed` bytes, the next one within
bounds. Gives the character, or none where the bytes break off, and the number of bytes used. -/
def complete (n : Nat) (used : Nat) : (owed : Nat) → (low high : UInt8) → List UInt8 →
    Option Char × Nat
  | 0, _, _, _ => (some (Char.ofNat n), used)
  | _ + 1, _, _, [] => (none, used)
  | owed + 1, low, high, b :: rest =>
    if low ≤ b && b ≤ high then
      complete (n * 64 + b.toNat % 64) (used + 1) owed 0x80 0xbf rest
    else (none, used)

/-- The first character of bytes, and the number of bytes behind the first that belong to it. -/
def first (b : UInt8) (rest : List UInt8) : Option Char × Nat :=
  match continuation b with
  | none => (none, 0)
  | some (owed, low, high) => complete (leadBits b owed) 0 owed low high rest

/-- The characters of bytes, none for every longest piece that begins no character or breaks one
off. The first number of bytes was already used. -/
def pieces : (used : Nat) → List UInt8 → List (Option Char)
  | _, [] => []
  | used + 1, _ :: rest => pieces used rest
  | 0, b :: rest =>
    let (c, used) := first b rest
    c :: pieces used rest

/-- The text of bytes, if it is one. -/
def decode? (bytes : List UInt8) : Option (List Char) :=
  (pieces 0 bytes).mapM id

/-- The text of bytes, with a replacement character for every piece that is none. -/
def decodeLossy (bytes : List UInt8) : List Char :=
  (pieces 0 bytes).map (·.getD (Char.ofNat 0xfffd))

end PollAudit.Text.Utf8
