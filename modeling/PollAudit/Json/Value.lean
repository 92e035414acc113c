import PollAudit.Json.Binary64

namespace PollAudit.Json

/-- A number as JSON text holds it. Integers reach from -2⁶³ to 2⁶⁴ - 1. -/
inductive Number
  | integer (n : Int)
  | real (x : Binary64)
deriving DecidableEq, Repr

/-- A JSON value. The members of an object stand in the order in which they were first set, not in
that of their keys. No key occurs twice, so that sorting them would change their order and nothing
else. -/
inductive Value
  | null
  | boolean (b : Bool)
  | number (n : Number)
  | text (s : String)
  | list (items : List Value)
  | object (members : List (String × Value))
deriving Repr

/-- The members of an object, in the order in which they were first set and not in that of their
keys. -/
abbrev Members := List (String × Value)

namespace Value

mutual

/-- Whether two values are the same, and their members in the same order. -/
def same : Value → Value → Bool
  | null, null => true
  | boolean b, boolean b' => b == b'
  | number n, number n' => n == n'
  | text s, text s' => s == s'
  | list items, list items' => sameItems items items'
  | object members, object members' => sameMembers members members'
  | _, _ => false

def sameItems : List Value → List Value → Bool
  | [], [] => true
  | value :: rest, value' :: rest' => same value value' && sameItems rest rest'
  | _, _ => false

def sameMembers : Members → Members → Bool
  | [], [] => true
  | (key, value) :: rest, (key', value') :: rest' =>
    key == key' && same value value' && sameMembers rest rest'
  | _, _ => false

end

mutual

private theorem same_iff : (value value' : Value) → (same value value' = true ↔ value = value')
  | null, value' | boolean _, value' | number _, value' | text _, value' => by
    cases value' <;> simp [same]
  | list items, value' => by cases value' <;> simp [same, sameItems_iff items]
  | object members, value' => by cases value' <;> simp [same, sameMembers_iff members]

private theorem sameItems_iff :
    (items items' : List Value) → (sameItems items items' = true ↔ items = items')
  | [], items' => by cases items' <;> simp [sameItems]
  | value :: rest, items' => by
    cases items' <;> simp [sameItems, same_iff value, sameItems_iff rest]

private theorem sameMembers_iff :
    (members members' : Members) → (sameMembers members members' = true ↔ members = members')
  | [], members' => by cases members' <;> simp [sameMembers]
  | (key, value) :: rest, members' => by
    cases members' <;> simp [sameMembers, same_iff value, sameMembers_iff rest, Prod.ext_iff]

end

instance : DecidableEq Value := fun value value' => decidable_of_iff _ (same_iff value value')

end Value

namespace Members

/-- Sets a member, in its old place if there is one. -/
def set (key : String) (value : Value) : Members → Members
  | [] => [(key, value)]
  | (k, v) :: rest => if k = key then (k, value) :: rest else (k, v) :: set key value rest

/-- The value set under a key. -/
def get? (key : String) : Members → Option Value
  | [] => none
  | (k, v) :: rest => if k = key then some v else get? key rest

/-- What is set under a key is found there, and every other key is left alone. -/
theorem get?_set (key : String) (value : Value) (other : String) (members : Members) :
    get? other (set key value members) =
      if other = key then some value else get? other members := by
  induction members with
  | nil => simp [set, get?, eq_comm]
  | cons entry rest ih => grind [set, get?]

end Members

namespace Value

/-- A number of the wire or the domain as a value. -/
def ofInt (n : Int) : Value := number (.integer n)

def ofNat (n : Nat) : Value := number (.integer n)

/-- Null where there is nothing. -/
def ofOption {α : Type} (encode : α → Value) : Option α → Value
  | none => null
  | some a => encode a

def ofList {α : Type} (encode : α → Value) (items : List α) : Value :=
  list (items.map encode)

/-- The member of an object. -/
def member? (key : String) : Value → Option Value
  | object members => Members.get? key members
  | _ => none

end Value

end PollAudit.Json
