/-!
Binary floating-point numbers of 64 bits as exact pairs of integers: rounding of a ratio to the
nearest one, and the shortest decimal digits that round back.
-/

namespace PollAudit.Json

/-- The finite number `mantissa * 2 ^ exponent`, or its opposite. The mantissa has at most 53 bits
and the exponent is the least that allows this, but not under -1074. -/
structure Binary64 where
  negative : Bool := false
  mantissa : Nat := 0
  exponent : Int := -1074
deriving DecidableEq, Repr

namespace Binary64

/-- The ratio `a / b` rounded to an integer, a half to the even neighbour. -/
def roundDiv (a b : Nat) : Nat :=
  let q := a / b
  let r := a % b
  if 2 * r < b then q
  else if b < 2 * r then q + 1
  else q + q % 2

/-- The ratio `a / b` in units of `2 ^ e`, again as a ratio. -/
def scale (a b : Nat) (e : Int) : Nat × Nat :=
  if 0 ≤ e then (a, b <<< e.toNat) else (a <<< (-e).toNat, b)

/-- The least exponent that leaves the ratio `a / b` fewer than 54 bits. -/
def exponentFor (a b : Nat) : Int :=
  let guess : Int := (Nat.log2 a : Int) - Nat.log2 b - 53
  let fits (e : Int) : Bool :=
    let (x, y) := scale a b e
    x < y <<< 53
  let least := if fits guess then guess else if fits (guess + 1) then guess + 1 else guess + 2
  max least (-1074)

/-- The number nearest to `a / b`, none when it would be infinite. -/
def ofRatio (negative : Bool) (a b : Nat) : Option Binary64 :=
  if a = 0 then some { negative := negative }
  else
    let e := exponentFor a b
    let (x, y) := scale a b e
    let m := roundDiv x y
    let (m, e) := if m = 1 <<< 53 then (1 <<< 52, e + 1) else (m, e)
    if e ≤ 971 then some ⟨negative, m, e⟩ else none

/-- The number as a ratio, without its sign. -/
def ratio (x : Binary64) : Nat × Nat :=
  if 0 ≤ x.exponent then (x.mantissa <<< x.exponent.toNat, 1)
  else (x.mantissa, 1 <<< (-x.exponent).toNat)

def isZero (x : Binary64) : Bool := x.mantissa == 0

def mul (x y : Binary64) : Option Binary64 :=
  let (a, b) := x.ratio
  let (c, d) := y.ratio
  ofRatio (x.negative != y.negative) (a * c) (b * d)

def div (x y : Binary64) : Option Binary64 :=
  let (a, b) := x.ratio
  let (c, d) := y.ratio
  ofRatio (x.negative != y.negative) (a * d) (b * c)

/-- Decimal digits of a natural number, most significant first. -/
def digits (n : Nat) : List Char := Nat.toDigits 10 n

/-- The decimal exponent of the leading digit of `a / b`. -/
def leading (a b : Nat) : Int :=
  if b ≤ a then ((digits (a / b)).length : Int) - 1
  else -((digits ((b - 1) / a)).length : Int)

/-- The ratio `a / b` in units of `10 ^ e`, again as a ratio. -/
def scaleTen (a b : Nat) (e : Int) : Nat × Nat :=
  if 0 ≤ e then (a, b * Nat.pow 10 e.toNat) else (a * Nat.pow 10 (-e).toNat, b)

/-- The first grid, from `count` digits to `n` more, with a decimal between `low` and `high`, ends
included when `closed` holds: the decimal nearest to `value` on that grid, as an integer and an
exponent. The last grid is taken as it is. -/
def search (value low high : Nat × Nat) (closed : Bool) (lead : Int) (count : Nat) :
    Nat → Nat × Int
  | 0 =>
    let e := lead - (count : Int) + 1
    let (x, y) := scaleTen value.1 value.2 e
    (roundDiv x y, e)
  | n + 1 =>
    let e := lead - (count : Int) + 1
    let (x, y) := scaleTen value.1 value.2 e
    let (lx, ly) := scaleTen low.1 low.2 e
    let (hx, hy) := scaleTen high.1 high.2 e
    let below := x / y
    let above := below + 1
    let belowFits := if closed then lx ≤ below * ly else lx < below * ly
    let aboveFits := if closed then above * hy ≤ hx else above * hy < hx
    if belowFits && aboveFits then (roundDiv x y, e)
    else if belowFits then (below, e)
    else if aboveFits then (above, e)
    else search value low high closed lead (count + 1) n

/-- The shortest decimal that rounds to the number, nearest to it among those: its digits as an
integer without trailing zeros, and its exponent. -/
def shortest (x : Binary64) : Nat × Int :=
  let m := x.mantissa
  let ratioOf (quarters : Nat) : Nat × Nat :=
    let e := x.exponent - 2
    if 0 ≤ e then (quarters <<< e.toNat, 1) else (quarters, 1 <<< (-e).toNat)
  let value := ratioOf (4 * m)
  let low := ratioOf (if m = 1 <<< 52 && x.exponent != -1074 then 4 * m - 1 else 4 * m - 2)
  let high := ratioOf (4 * m + 2)
  strip (search value low high (m % 2 == 0) (leading value.1 value.2) 1 17) 20
where
  /-- Takes at most `n` trailing zeros off. -/
  strip : Nat × Int → Nat → Nat × Int
    | (d, e), 0 => (d, e)
    | (d, e), n + 1 => if d % 10 = 0 && d != 0 then strip (d / 10, e + 1) n else (d, e)

/-- The shortest decimal as text. It is positional from 10⁻⁵ up to 10¹⁶, where it always has a
point; elsewhere it has an exponent with its sign and without padding. -/
def text (x : Binary64) : String :=
  let sign := if x.negative then "-" else ""
  if x.isZero then sign ++ "0.0"
  else
    let (d, e) := x.shortest
    let ds := digits d
    let point := (ds.length : Int) + e
    let body :=
      if 0 ≤ e && point ≤ 16 then
        String.ofList (ds ++ List.replicate e.toNat '0') ++ ".0"
      else if 0 < point && point ≤ 16 then
        String.ofList (ds.take point.toNat) ++ "." ++ String.ofList (ds.drop point.toNat)
      else if -5 < point && point ≤ 0 then
        "0." ++ String.ofList (List.replicate (-point).toNat '0' ++ ds)
      else
        let fraction := if ds.length = 1 then "" else "." ++ String.ofList (ds.drop 1)
        let plus := if 0 < point then "+" else ""
        String.ofList (ds.take 1) ++ fraction ++ "e" ++ plus ++ toString (point - 1)
    sign ++ body

end Binary64

end PollAudit.Json
