namespace PollAudit

/-- A counter of 64 bits. -/
abbrev Count := UInt64

namespace Count

/-- The greatest count, at which sums stop. -/
def top : Count := 18446744073709551615

/-- The sum of two counts, held at `top` where it does not fit. -/
def plus (a b : Count) : Count :=
  if a.toNat + b.toNat < UInt64.size then a + b else top

/-- A signed counter as a count: a negative one is nothing, one too large is `top`. -/
def ofInt (i : Int) : Count :=
  if i.toNat < UInt64.size then UInt64.ofNat i.toNat else top

/-- A size as a count, held at `top`. -/
def ofNat (n : Nat) : Count :=
  if n < UInt64.size then UInt64.ofNat n else top

end Count

/-- A run length of 32 bits. -/
abbrev Streak := UInt32

namespace Streak

/-- The streak one longer, held at the greatest one. -/
def next (s : Streak) : Streak :=
  if s.toNat + 1 < UInt32.size then s + 1 else s

end Streak

end PollAudit
