import PollAudit.Text.Combining
import PollAudit.Text.Composite

namespace PollAudit.Text

namespace Hangul

/-- The first syllable, and the first of each kind of letter. -/
def syllables : Nat := 0xac00

def leads : Nat := 0x1100

def vowels : Nat := 0x1161

/-- The place before the first closing letter. -/
def closings : Nat := 0x11a7

/-- The parts of a syllable: what is in front of its last letter, and that letter. -/
def parts? (n : Nat) : Option (Nat × Nat) :=
  let i := n - syllables
  if n < syllables || 19 * 21 * 28 ≤ i then none
  else if i % 28 = 0 then some (leads + i / (21 * 28), vowels + i / 28 % 21)
  else some (n - i % 28, closings + i % 28)

/-- The syllable made of a first part and a letter. -/
def compose? (a b : Nat) : Option Nat :=
  if leads ≤ a && a < leads + 19 && vowels ≤ b && b < vowels + 21 then
    some (syllables + ((a - leads) * 21 + (b - vowels)) * 28)
  else if syllables ≤ a && a < syllables + 19 * 21 * 28 && (a - syllables) % 28 == 0 &&
      closings < b && b < closings + 28 then
    some (a + (b - closings))
  else none

end Hangul

/-- The composites by their own code points, each with its two parts. -/
def composed : Table :=
  ((composites.toList.flatMap fun run =>
    run.values.map fun n => (n, [run.first / 0x100000, run.first % 0x100000])).mergeSort
      (fun a b => a.1 ≤ b.1)).map (fun (n, parts) => ⟨n, n, 1, parts⟩) |>.toArray

/-- The least code point that is made of others. -/
def leastComposite : Nat := 0xc0

/-- The least code points that others are made of, in the first and in the second place. -/
def leastBase : Nat := 0x3c

def leastMark : Nat := 0x300

/-- The two code points that one is made of. -/
def parts? (n : Nat) : Option (Nat × Nat) :=
  if n < leastComposite then none
  else
    match composed.find? n with
    | some ⟨_, _, _, [a, b]⟩ => some (a, b)
    | _ => Hangul.parts? n

/-- The code point made of two. -/
def compose? (a b : Nat) : Option Nat :=
  if a < leastBase || b < leastMark then none
  else
    match composites.find? (a * 0x100000 + b) with
    | some ⟨_, _, _, [n]⟩ => some n
    | _ => Hangul.compose? a b

/-- Takes a code point apart, `depth` times at most. -/
def decompose : (depth : Nat) → Nat → List Nat
  | 0, n => [n]
  | depth + 1, n =>
    match parts? n with
    | none => [n]
    | some (a, b) => decompose depth a ++ [b]

/-- The greatest number of times that a character can be taken apart. -/
def depth : Nat := 4

/-- Puts a mark behind the marks of lower class that follow it. -/
def sink (c : Char) : List Char → List Char
  | [] => [c]
  | d :: rest =>
    if 0 < combiningClass d && combiningClass d < combiningClass c then d :: sink c rest
    else c :: d :: rest

/-- The characters without parts that a text is made of, marks in the order of their classes. -/
def decomposed (text : List Char) : List Char :=
  (text.flatMap fun c => (decompose depth c.toNat).map Char.ofNat).foldr sink []

/-- Composes what follows a base character with it. The marks kept so far did not go into the
base, and one of the same or a higher class hides the base from a mark behind it. -/
def composeFrom (base : Char) (kept : List Char) : List Char → List Char
  | [] => base :: kept
  | c :: rest =>
    let hidden :=
      match kept.getLast? with
      | none => false
      | some last => combiningClass c ≤ combiningClass last
    match if hidden then none else compose? base.toNat c.toNat with
    | some n => composeFrom (Char.ofNat n) kept rest
    | none =>
      if combiningClass c = 0 then base :: kept ++ composeFrom c [] rest
      else composeFrom base (kept ++ [c]) rest

/-- Composes a text. Marks without a base stay as they are. -/
def compose : List Char → List Char
  | [] => []
  | c :: rest =>
    if combiningClass c = 0 then composeFrom c [] rest else c :: compose rest

/-- The form of a text in which every character is composed as far as it can be. -/
def normal (text : List Char) : List Char := compose (decomposed text)

end PollAudit.Text
