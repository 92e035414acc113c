import PollAudit.Proofs.Json.Printer
import PollAudit.Proofs.Json.Shape

namespace PollAudit.Json

variable {α β σ : Type}

/-- Some number in the value is no integer of 64 bits. -/
inductive Value.HasReal : Value → Prop
  | number (x : Binary64) : HasReal (.number (.real x))
  | list {items : List Value} {item : Value} (hmem : item ∈ items) (h : HasReal item) :
    HasReal (.list items)
  | object {members : Members} {member : String × Value} (hmem : member ∈ members)
    (h : HasReal member.2) : HasReal (.object members)

namespace Reader

/-- Whatever the reader finds, in whatever text, has the property. -/
def Yields (reader : Reader α) (p : α → Prop) : Prop :=
  ∀ cursor a cursor', reader cursor = .ok (a, cursor') → p a

namespace Yields

variable {reader : Reader α} {next : α → Reader β} {p : α → Prop} {q : β → Prop}

private theorem pure {a : α} (h : p a) : Yields (Pure.pure a) p := by
  rintro _ _ _ ⟨⟩
  exact h

private theorem failHere (reason : Reason) : Yields (Reader.failHere reason) p := fun _ _ _ => nofun

private theorem failNext (reason : Reason) : Yields (Reader.failNext reason) p := fun _ _ _ => nofun

/-- Of what is read nothing need be said. -/
theorem trivial (reader : Reader α) : reader.Yields fun _ => True := fun _ _ _ _ => True.intro

private theorem bind (h : reader.Yields p) (hnext : ∀ a, p a → (next a).Yields q) :
    (reader >>= next).Yields q := by
  intro cursor b cursor' hok
  simp only [Bind.bind, StateT.bind, Except.bind] at hok
  cases hread : reader cursor with
  | error fault =>
    rw [hread] at hok
    cases hok
  | ok found =>
    rw [hread] at hok
    exact hnext found.1 (h cursor found.1 found.2 hread) found.2 b cursor' hok

/-- What the first of two readers finds does not matter. -/
theorem after (hnext : ∀ a, (next a).Yields q) : (reader >>= next).Yields q :=
  (trivial reader).bind fun a _ => hnext a

private theorem map {f : α → β} (h : reader.Yields p) (hf : ∀ a, p a → q (f a)) :
    (f <$> reader).Yields q := by
  rw [map_eq_pure_bind]
  exact h.bind fun a ha => pure (hf a ha)

private theorem whole (h : reader.Yields p) : reader.whole.Yields p := by
  refine h.bind fun a ha => .after fun c => ?_
  split
  · exact .pure ha
  · exact .failNext _

/-- What holds of whatever a reader finds holds of what it makes of a whole text. -/
theorem run {text : String} {a : α} (h : reader.Yields p) (hrun : reader.run text = .ok a) : p a := by
  rw [run_eq_map] at hrun
  cases hfound : reader.whole (Cursor.ofText text) with
  | error fault =>
    rw [hfound] at hrun
    cases hrun
  | ok found =>
    rw [hfound] at hrun
    cases hrun
    exact h.whole _ found.1 found.2 hfound

end Yields

section Number

private theorem whole_value_lt {s : Significand} (h : s.value < 18446744073709551616)
    (digits : List Char) :
    (s.whole digits).value < 18446744073709551616 := by
  induction digits generalizing s with
  | nil => exact h
  | cons c digits ih =>
    rw [Significand.whole]
    split
    · exact ih ‹_›
    · exact h

/-- A number that is no integer of 64 bits is a floating-point number. -/
def IsReadable (n : Number) : Prop := ∀ i, n = .integer i → IsIntegral i

private theorem yields_real (negative : Bool) (s : Significand) :
    (real negative s).Yields IsReadable := by
  rw [real]
  cases s.toBinary64 negative with
  | none => exact .failHere _
  | some x =>
    refine .pure ?_
    rintro _ ⟨⟩

private theorem yields_behindSign (negative : Bool) (s : Significand) (down : Bool) :
    (behindSign negative s down).Yields IsReadable := by
  rw [behindSign]
  refine .after fun c => ?_
  split
  · exact .failHere _
  split
  · exact .failNext _
  refine .after fun start => .after fun found => ?_
  split
  · exact yields_real _ _
  split
  · exact .after fun _ => .failHere _
  · exact yields_real _ _

private theorem yields_exponent (negative : Bool) (s : Significand) :
    (exponent negative s).Yields IsReadable := by
  rw [exponent]
  refine .after fun _ => .after fun sign => ?_
  -- The branches of a `do` block meet again behind it, and each ends in what this is about.
  have hjoin (down : Bool) := yields_behindSign negative s down
  dsimp only
  split
  · exact .after fun _ => .after fun down => hjoin down
  · exact .after fun _ => .after fun down => hjoin down
  · exact .after fun down => hjoin down

private theorem yields_decimals (negative : Bool) (s : Significand) :
    (decimals negative s).Yields IsReadable := by
  rw [decimals]
  refine .after fun _ => .after fun found => ?_
  split
  · refine .after fun c => ?_
    split <;> exact .failNext _
  · refine .after fun c => ?_
    split
    · exact yields_exponent _ _
    · exact yields_exponent _ _
    · exact yields_real _ _

private theorem yields_integer (negative : Bool) {s : Significand}
    (h : s.value < 18446744073709551616) :
    (integer negative s).Yields IsReadable := by
  rw [integer]
  split
  · exact yields_real _ _
  split
  · refine .pure ?_
    rintro _ ⟨⟩
    exact ⟨by omega, by omega⟩
  split
  · exact yields_real _ _
  · rename_i hlimit
    simp only [Bool.or_eq_true, decide_eq_true_eq, not_or, Nat.not_lt] at hlimit
    have hvalue : s.value ≤ 9223372036854775808 := hlimit.2
    refine .pure ?_
    rintro _ ⟨⟩
    constructor <;> omega

private theorem yields_behindWhole (negative : Bool) {s : Significand}
    (h : s.value < 18446744073709551616) :
    (behindWhole negative s).Yields IsReadable := by
  rw [behindWhole]
  refine .after fun c => ?_
  split
  · exact yields_decimals _ _
  · exact yields_exponent _ _
  · exact yields_exponent _ _
  · exact yields_integer _ h

private theorem yields_unsigned (negative : Bool) : (unsigned negative).Yields IsReadable := by
  have hjoin (found : List Char) :=
    yields_behindWhole negative (whole_value_lt (s := {}) (by decide) found)
  rw [unsigned]
  refine .after fun c => ?_
  split
  · exact .failHere _
  split
  · exact .failNext _
  dsimp only
  split
  · refine .after fun _ => .after fun d => ?_
    split
    · split
      · exact .after fun found => hjoin found
      · exact .after fun found => hjoin found
    · exact .after fun found => hjoin found
  · exact .after fun found => hjoin found

private theorem yields_number : number.Yields IsReadable := by
  rw [number]
  refine .after fun c => ?_
  split
  · exact .after fun _ => yields_unsigned true
  · exact yields_unsigned false

end Number

section Sequence

private theorem Yields.itemsLoop {item : Reader α} {p : α → Prop} (h : item.Yields p) (fuel : Nat)
    {found : List α} (hfound : ∀ a ∈ found, p a) :
    (Reader.items.loop item found fuel).Yields fun found => ∀ a ∈ found, p a := by
  induction fuel generalizing found with
  | zero => exact .failHere _
  | succ fuel ih =>
    have hnext : (item >>= fun a => Reader.items.loop item (a :: found) fuel).Yields
        fun found => ∀ a ∈ found, p a :=
      h.bind fun a ha => ih (List.forall_mem_cons.mpr ⟨ha, hfound⟩)
    rw [Reader.items.loop]
    refine .after fun c => ?_
    split
    · exact .failNext _
    · exact .after fun _ => .pure fun a ha => hfound a (List.mem_reverse.mp ha)
    split
    · exact hnext
    split
    · refine .after fun _ => .after fun d => ?_
      split
      · exact .failNext _
      · exact .failNext _
      · exact hnext
    · exact .failNext _

/-- What holds of whatever is read as an item holds of all items of a list. -/
theorem Yields.items {item : Reader α} {p : α → Prop} (h : item.Yields p) :
    (Reader.items item).Yields fun found => ∀ a ∈ found, p a :=
  .after fun _ => h.itemsLoop _ nofun

private theorem Yields.membersLoop {member : String → σ → Reader σ} {p : σ → Prop}
    (h : ∀ key made, p made → (member key made).Yields p) (fuel : Nat) (first : Bool) {made : σ}
    (hmade : p made) : (Reader.members.loop member first made fuel).Yields p := by
  induction fuel generalizing first made with
  | zero => exact .failHere _
  | succ fuel ih =>
    have hentry : (Reader.members.entry member made).Yields p := by
      refine .after fun c => ?_
      split
      · exact .failNext _
      · exact .after fun key => h key made hmade
      · exact .failNext _
      · exact .failNext _
    have hnext : (Reader.members.entry member made >>=
        fun made => Reader.members.loop member false made fuel).Yields p :=
      hentry.bind fun made hmade => ih false hmade
    rw [Reader.members.loop]
    refine .after fun c => ?_
    split
    · exact .failNext _
    · exact .after fun _ => .pure hmade
    split
    · exact hnext
    split
    · exact .after fun _ => hnext
    · exact .failNext _

/-- What each member of an object keeps holds of the whole. -/
theorem Yields.members {member : String → σ → Reader σ} {p : σ → Prop}
    (h : ∀ key made, p made → (member key made).Yields p) {made : σ} (hmade : p made) :
    (Reader.members member made).Yields p :=
  .after fun _ => Yields.membersLoop h _ true hmade

end Sequence

end Reader

private theorem Members.mem_set {key : String} {value : Value} {members : Members}
    {member : String × Value} (h : member ∈ members.set key value) :
    member = (key, value) ∨ member ∈ members := by
  induction members with
  | nil => exact .inl (List.mem_singleton.mp h)
  | cons first members ih =>
    rw [set] at h
    split at h
    · subst_vars
      obtain rfl | hmem := List.mem_cons.mp h
      · exact .inl rfl
      · exact .inr (List.mem_cons_of_mem _ hmem)
    · obtain rfl | hmem := List.mem_cons.mp h
      · exact .inr List.mem_cons_self
      · exact (ih hmem).imp_right (List.mem_cons_of_mem _)

/-- Setting a member never repeats a key. -/
theorem Members.nodup_set {key : String} {value : Value} {members : Members}
    (h : (members.map Prod.fst).Nodup) : ((members.set key value).map Prod.fst).Nodup := by
  induction members with
  | nil => simp [set]
  | cons first members ih =>
    rw [List.map_cons, List.nodup_cons] at h
    rw [set]
    split
    · exact List.nodup_cons.mpr h
    · refine List.nodup_cons.mpr ⟨fun hmem => ?_, ih h.2⟩
      obtain ⟨member, hmember, heq⟩ := List.mem_map.mp hmem
      obtain rfl | hold := mem_set hmember
      · exact absurd heq.symm ‹_›
      · exact h.1 (heq ▸ List.mem_map_of_mem hold)

/-- A value that was read in its place: it fits there, and all its numbers are integers of 64 bits
if none is a floating-point number. -/
def Value.IsRead (room : Nat) (value : Value) : Prop :=
  value.Fits room ∧ (value.HasReal ∨ value.IsIntegral)

private theorem Value.isRead_list {room : Nat} {items : List Value} (hroom : room ≠ 0)
    (h : ∀ item ∈ items, item.IsRead room) : (list items).IsRead (room + 1) := by
  refine ⟨.list hroom fun item hitem => (h item hitem).1, ?_⟩
  by_cases hreal : ∃ item ∈ items, item.HasReal
  · obtain ⟨item, hitem, hreal⟩ := hreal
    exact .inl (.list hitem hreal)
  · exact .inr (.list fun item hitem =>
      (h item hitem).2.resolve_left fun hitemReal => hreal ⟨item, hitem, hitemReal⟩)

/-- Members that were read in their place, no key of them twice. -/
structure Members.AreRead (room : Nat) (members : Members) : Prop where
  keys : (members.map Prod.fst).Nodup
  values : ∀ member ∈ members, member.2.IsRead room

private theorem Members.AreRead.nil (room : Nat) : AreRead room [] :=
  ⟨List.nodup_nil, List.forall_mem_nil _⟩

private theorem Members.AreRead.set {room : Nat} {members : Members} (h : members.AreRead room)
    (key : String) {value : Value} (hvalue : value.IsRead room) :
    (members.set key value).AreRead room where
  keys := nodup_set h.keys
  values member hmember := by
    obtain rfl | hold := mem_set hmember
    · exact hvalue
    · exact h.values member hold

private theorem Value.isRead_object {room : Nat} {members : Members} (hroom : room ≠ 0)
    (h : members.AreRead room) : (object members).IsRead (room + 1) := by
  refine ⟨.object hroom h.keys fun member hmember => (h.values member hmember).1, ?_⟩
  by_cases hreal : ∃ member ∈ members, member.2.HasReal
  · obtain ⟨member, hmember, hreal⟩ := hreal
    exact .inl (.object hmember hreal)
  · exact .inr (.object fun member hmember =>
      (h.values member hmember).2.resolve_left fun hmemberReal =>
        hreal ⟨member, hmember, hmemberReal⟩)

namespace Reader

private theorem yields_value (room : Nat) : (value room).Yields fun found => found.IsRead room := by
  induction room with
  | zero => exact .failNext _
  | succ room ih =>
    rw [value]
    refine .after fun c => ?_
    split
    · exact .failNext _
    · exact .after fun _ => .after fun _ => .pure ⟨.null room, .inr .null⟩
    · exact .after fun _ => .after fun _ => .pure ⟨.boolean room true, .inr (.boolean true)⟩
    · exact .after fun _ => .after fun _ => .pure ⟨.boolean room false, .inr (.boolean false)⟩
    · exact .after fun s => .pure ⟨.text room s, .inr (.text s)⟩
    · split
      · exact .failNext _
      · exact .after fun _ => (Yields.items ih).bind fun found hfound =>
          .pure (Value.isRead_list ‹_› hfound)
    · split
      · exact .failNext _
      · refine .after fun _ => (Yields.members (p := Members.AreRead room) ?_ ?_).bind
          fun found hfound => .pure (Value.isRead_object ‹_› hfound)
        · exact fun key made hmade => .after fun _ => ih.bind fun value hvalue =>
            .pure (hmade.set key hvalue)
        · exact .nil room
    · split
      · refine yields_number.bind fun n hn => .pure ⟨.number room n, ?_⟩
        cases n with
        | integer i => exact .inr (.integer (hn i rfl))
        | real x => exact .inl (.number x)
      · exact .failNext _

end Reader

namespace Decoder

open Reader

private theorem yields_mismatch {type : String} {p : α → Prop} :
    (mismatch type : Reader α).Yields p := by
  refine .after fun c => ?_
  split
  · exact .failNext _
  · exact .failHere _
  · exact .failHere _
  · exact .after fun _ => .after fun _ => .failHere _
  · exact .after fun _ => .after fun _ => .failHere _
  · exact .after fun _ => .after fun _ => .failHere _
  · exact .after fun _ => .failHere _
  · split
    · exact .after fun _ => .failHere _
    · exact .failNext _

private theorem yields_integer (least greatest : Int) (type : String) (room : Nat) :
    (integer least greatest type room).Yields fun n => least ≤ n ∧ n ≤ greatest := by
  refine .after fun c => ?_
  split
  · refine .after fun n => ?_
    split
    · split
      · rename_i hbounds
        simp only [Bool.and_eq_true, decide_eq_true_eq] at hbounds
        exact .pure hbounds
      · exact .failHere _
    · exact .failHere _
  · exact yields_mismatch

/-- What is read as a number of 64 bits is one. -/
theorem yields_int64 (room : Nat) : (int64 room).Yields IsInt64 := yields_integer _ _ _ room

private theorem yields_descend {room : Nat} {inside : Nat → Reader α} {p : α → Prop}
    (h : (inside (room - 1)).Yields p) : (descend room inside).Yields p := by
  rw [descend]
  split
  · exact .failNext _
  · exact .after fun _ => h

/-- What holds of every item that is read holds of all items of a list. -/
theorem yields_list {decoder : Decoder α} {room : Nat} {p : α → Prop}
    (h : (decoder (room - 1)).Yields p) :
    (decoder.list room).Yields fun found => ∀ a ∈ found, p a := by
  refine .after fun c => ?_
  split
  · exact yields_descend (.items h)
  · exact yields_mismatch

end Decoder

namespace Shape

open Reader

variable {shape : Shape α} {keep : String → Value → α → α} {room : Nat} {p : α → Prop}

/-- What holds of the blank record, and is kept when a member is read or a foreign one is kept,
holds of whatever is read as a record. -/
theorem yields_decode (hsurplus : shape.surplus = .kept keep) (hblank : p shape.blank)
    (hmember : ∀ member ∈ shape.members,
      (member.read (room - 1)).Yields fun effect => ∀ made, p made → p (effect made))
    (hkeep : ∀ key value made, shape.models key = false → value.IsRead (room - 1) → p made →
      p (keep key value made)) : (shape.decode room).Yields p := by
  have hmembers (key : String) (made : α × List String) (hmade : p made.1) :
      (shape.member (room - 1) key made).Yields fun made => p made.1 := by
    rw [member]
    split
    · rename_i known hfind
      split
      · refine .after fun c => ?_
        split
        · exact .after fun _ => .failHere _
        · exact .failHere _
      · exact .after fun _ => (hmember known (List.mem_of_find?_eq_some hfind)).bind fun effect heffect =>
          .pure (heffect made.1 hmade)
    · rename_i hfind
      refine .after fun _ => ?_
      rw [hsurplus]
      exact (yields_value (room - 1)).bind fun value hvalue =>
        .pure (hkeep key value made.1 (find?_eq_none_iff.mp hfind) hvalue hmade)
  refine .after fun c => ?_
  split
  · refine Decoder.yields_descend ((Yields.members hmembers hblank).bind fun made hmade => ?_)
    obtain ⟨made, keys⟩ := made
    dsimp only
    split
    · exact .failHere _
    · exact .pure hmade
  · rw [hsurplus]
    split
    · cases ‹Surplus.kept keep = .dropped›
    · exact Decoder.yields_mismatch

/-- Members that a record does not have, read in their place. -/
structure HasKept (shape : Shape α) (room : Nat) (extra : Members) : Prop where
  read : extra.AreRead room
  foreign : ∀ member ∈ extra, shape.models member.1 = false

/-- A blank has kept nothing. -/
theorem HasKept.nil (shape : Shape α) (room : Nat) : shape.HasKept room [] :=
  ⟨.nil room, List.forall_mem_nil _⟩

/-- A foreign member whose value was read may be kept. -/
theorem HasKept.set {extra : Members} (h : shape.HasKept room extra) {key : String} {value : Value}
    (hforeign : shape.models key = false) (hvalue : value.IsRead room) :
    shape.HasKept room (extra.set key value) where
  read := h.read.set key hvalue
  foreign member hmember := by
    obtain rfl | hold := Members.mem_set hmember
    · exact hforeign
    · exact h.foreign member hold

/-- A member keeps what its decoder yields true of what is made. -/
theorem yields_of {β : Type} {q : β → Prop} {key : String} {absence : Absence} {decoder : Decoder β}
    {set : β → α → α} (h : (decoder room).Yields q) (hset : ∀ b, q b → ∀ made, p made → p (set b made)) :
    ((Member.of key absence decoder set).read room).Yields fun effect =>
      ∀ made, p made → p (effect made) :=
  h.map hset

end Shape

end PollAudit.Json
