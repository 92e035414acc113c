import PollAudit.Proofs.Json.Printer
import PollAudit.Proofs.Json.Shape

namespace PollAudit.Json

variable {α β : Type} {depth : Nat}

private theorem Value.Fits.succ {room : Nat} {value : Value} (h : value.Fits room) :
    value.Fits (room + 1) := by
  induction h with
  | null room => exact .null _
  | boolean room b => exact .boolean _ b
  | number room n => exact .number _ n
  | text room s => exact .text _ s
  | list _ _ ih => exact .list (Nat.succ_ne_zero _) ih
  | object _ hkeys _ ih => exact .object (Nat.succ_ne_zero _) hkeys ih

/-- With more room the value fits as well. -/
theorem Value.Fits.mono {room room' : Nat} {value : Value} (h : value.Fits room) (hroom : room ≤ room') :
    value.Fits room' := by
  induction hroom with
  | refl => exact h
  | step _ ih => exact ih.succ

namespace Decoder

open Reader

/-- The decoder makes `a` of the value of `a`, if there is room for more than `depth` lists and
objects to be open at once. -/
structure Restores (decoder : Decoder α) (encode : α → Value) (depth : Nat) (a : α) : Prop where
  integral : (encode a).IsIntegral
  gives : ∀ room, depth < room → decoder.Gives room (encode a).document (some a)

/-- A text is restored whatever characters it has. -/
theorem restores_text (s : String) : Decoder.text.Restores .text depth s :=
  ⟨.text s, fun room _ => text_gives room (some s)⟩

theorem restores_flag (b : Bool) : Decoder.flag.Restores .boolean depth b :=
  ⟨.boolean b, fun room _ => flag_gives room b⟩

/-- A number of 64 bits with a sign is restored. -/
theorem restores_int64 {n : Int} (h : IsInt64 n) : Decoder.int64.Restores .ofInt depth n := by
  obtain ⟨hleast, hgreatest⟩ := h
  exact ⟨.integer ⟨by omega, by omega⟩, fun _ _ => integer_gives _ _ _ hleast hgreatest⟩

private theorem count_eq (type : String) :
    Decoder.count type = fun room => Count.ofInt <$> integer 0 18446744073709551615 type room := rfl

theorem isSteady_count (type : String) : (Decoder.count type).IsSteady := by
  rw [count_eq]
  exact (isSteady_integer _ _ _).map Count.ofInt

/-- A count is restored, since it is written without a sign. -/
theorem restores_count (type : String) (n : Count) :
    (Decoder.count type).Restores (fun count => .ofNat count.toNat) depth n := by
  have hlt : n.toNat < 18446744073709551616 := n.toNat_lt
  have hcount : Count.ofInt n.toNat = n := by
    rw [Count.ofInt, Int.toNat_natCast, if_pos hlt, UInt64.ofNat_toNat]
  refine ⟨.integer ⟨by omega, by omega⟩, fun room _ => ?_⟩
  have hgives : (integer 0 18446744073709551615 type).Gives room (.number (some (.integer n.toNat)))
      (some (n.toNat : Int)) := integer_gives _ _ _ (by omega) (by omega)
  have hmap := hgives.map Count.ofInt
  rwa [Option.map_some, hcount] at hmap

/-- One of several names is read by that name. -/
theorem choice_gives (options : List (String × α)) (room : Nat) (s : Option String) :
    (choice options).Gives room (.text s)
      (s.bind fun name => (options.find? (·.1 == name)).map Prod.snd) := by
  rintro text start rest hgap ⟨⟩
  refine (Reads.peekWord hgap rfl).bind ?_
  refine (Letters.reads_text ‹_›).bind_option fun name _ => ?_
  cases options.find? (·.1 == name) with
  | none => exact .failHere _
  | some option => exact .pure option.2 rest

/-- Nothing is restored from null, so that no value may be encoded as null. -/
theorem restores_optional {decoder : Decoder α} {encode : α → Value} {a : Option α}
    (hnull : ∀ a, (encode a).document ≠ .null) (h : ∀ b, decoder.Restores encode depth b) :
    decoder.optional.Restores (.ofOption encode) depth a := by
  cases a with
  | none => exact ⟨.null, fun _ _ => optional_gives_null⟩
  | some a => exact ⟨(h a).integral, fun room hroom => optional_gives (hnull a) ((h a).gives room hroom)⟩

/-- A list is restored one level above its items. -/
theorem restores_list {decoder : Decoder α} {encode : α → Value} {items : List α}
    (hsteady : decoder.IsSteady) (h : ∀ a ∈ items, decoder.Restores encode depth a) :
    decoder.list.Restores (.ofList encode) (depth + 1) items := by
  constructor
  · refine .list fun item hitem => ?_
    obtain ⟨a, ha, rfl⟩ := List.mem_map.mp hitem
    exact (h a ha).integral
  · intro room hroom
    have hitems : (items.map fun a => (encode a).document).mapM (decoder.meaning (room - 1)) = some items :=
      mapM_map_eq fun a ha =>
        ((h a ha).gives (room - 1) (by omega)).meaning_eq (h a ha).integral.isSaidBy.isSayable
    have hgives : decoder.list.Gives room (.list (items.map fun a => (encode a).document))
        (if 1 < room then (items.map fun a => (encode a).document).mapM (decoder.meaning (room - 1))
          else none) := list_gives hsteady _
    rw [hitems, if_pos (by omega)] at hgives
    intro text start rest hgap hdoc
    rw [Value.ofList, Value.document, documents_eq_map, List.map_map] at hdoc
    exact hgives hgap hdoc

/-- A value can be read back from its text. -/
theorem Restores.run {decoder : Decoder α} {encode : α → Value} {a : α}
    (h : decoder.Restores encode depth a) (hdepth : depth < depthLimit) :
    decoder.run (encode a).render = .ok a :=
  eq_ok_of_toOption ((h.gives depthLimit hdepth).run h.integral.isSaidBy)

end Decoder

namespace Shape

open Decoder

variable {shape : Shape α} {members : List (Member α)} {fields : Members} {effects : α → α} {room : Nat}

/-- The members of a record each restore a value, one field after the other, and this is what they
make of a record. -/
inductive Fields (depth : Nat) : List (Member α) → Members → (α → α) → Prop
  | nil : Fields depth [] [] id
  | cons {β : Type} {key : String} {absence : Absence} {decoder : Decoder β} {encode : β → Value}
    {set : β → α → α} {b : β} {members : List (Member α)} {fields : Members} {effects : α → α}
    (h : decoder.Restores encode depth b) (hrest : Fields depth members fields effects) :
    Fields depth (.of key absence decoder set :: members) ((key, encode b) :: fields) (effects ∘ set b)

private theorem keysIn_entries (members : Members) :
    shape.keysIn (entries members) = (members.map Prod.fst).filter shape.models := by
  induction members with
  | nil => rfl
  | cons member members ih =>
    rw [entries, keysIn_some, List.map_cons, List.filter_cons, ih]

private theorem effect?_of_mem (hkeys : (shape.members.map Member.key).Nodup) {member : Member α}
    (hmem : member ∈ shape.members) (document : Document) :
    shape.effect? room (some member.key, document) = member.read.meaning room document := by
  have hmodels : shape.models member.key = true :=
    List.any_eq_true.mpr ⟨member, hmem, beq_self_eq_true member.key⟩
  obtain ⟨found, hfound, hkey, hfind⟩ := exists_known hmodels
  rw [effect?_of_known hfind, List.inj_on_of_nodup_map hkeys hfound hmem hkey]

/-- What is kept of a member that the record does not have. -/
theorem effect?_of_kept {keep : String → Value → α → α} (hsurplus : shape.surplus = .kept keep)
    {member : String × Value} (hforeign : shape.models member.1 = false) (hfits : member.2.Fits room) :
    shape.effect? room (some member.1, member.2.document) = some (keep member.1 member.2) := by
  simp only [effect?, Option.bind_some, find?_eq_none_iff.mpr hforeign, hsurplus, hfits.value?_document,
    Option.map_some]

namespace Fields

variable (h : Fields depth members fields effects)

include h

private theorem keys_eq : fields.map Prod.fst = members.map Member.key := by
  induction h with
  | nil => rfl
  | cons _ _ ih => rw [List.map_cons, List.map_cons, ih, Member.of]

private theorem integral : ∀ field ∈ fields, field.2.IsIntegral := by
  induction h with
  | nil => exact List.forall_mem_nil _
  | cons h _ ih => exact List.forall_mem_cons.mpr ⟨h.integral, ih⟩

/-- Reading the fields makes of a record what it should. -/
theorem effect (hkeys : (shape.members.map Member.key).Nodup) (hmembers : members ⊆ shape.members)
    (hroom : depth < room) :
    (∀ entry ∈ entries fields, shape.effect? room entry ≠ none) ∧
      ∀ made, (entries fields).foldl (fun made entry => shape.effect room entry made) made =
        effects made := by
  induction h with
  | nil => exact ⟨List.forall_mem_nil _, fun _ => rfl⟩
  | @cons _ key absence decoder encode set b _ _ _ h _ ih =>
    rw [List.cons_subset] at hmembers
    obtain ⟨hread, hfold⟩ := ih hmembers.2
    have hfirst : shape.effect? room (some key, (encode b).document) = some (set b) := by
      refine (effect?_of_mem hkeys hmembers.1 _).trans ?_
      exact ((h.gives room hroom).map set).meaning_eq h.integral.isSaidBy.isSayable
    rw [entries, List.forall_mem_cons, hfirst]
    refine ⟨⟨Option.some_ne_none _, hread⟩, fun made => ?_⟩
    rw [List.foldl_cons, Shape.effect, hfirst]
    exact hfold (set b made)

end Fields

/-- With foreign members behind the fields, the members of the record are found once each. -/
theorem Fields.keysIn_append (h : Fields depth shape.members fields effects) {extra : Members}
    (hextra : ∀ member ∈ extra, shape.models member.1 = false) :
    shape.keysIn (entries (fields ++ extra)) = shape.members.map Member.key := by
  have hfields : ∀ key ∈ shape.members.map Member.key, shape.models key = true := by
    rw [List.forall_mem_map]
    exact fun member hmember => List.any_eq_true.mpr ⟨member, hmember, beq_self_eq_true member.key⟩
  have hforeign : ∀ key ∈ extra.map Prod.fst, ¬ shape.models key = true := by
    rw [List.forall_mem_map]
    exact fun member hmember => by simp [hextra member hmember]
  rw [keysIn_entries, List.map_append, List.filter_append, h.keys_eq, List.filter_eq_self.mpr hfields,
    List.filter_eq_nil_iff.mpr hforeign, List.append_nil]

/-- An object of the fields of a record, with foreign members behind them. -/
theorem gives_object (hsteady : shape.IsSteady) (hkeys : (shape.members.map Member.key).Nodup)
    (h : Fields depth shape.members fields effects) {extra : Members} {kept : String × Value → α → α}
    (hextra : ∀ member ∈ extra, shape.models member.1 = false ∧
      shape.effect? (room - 1) (some member.1, member.2.document) = some (kept member))
    (hroom : depth + 1 < room) :
    shape.decode.Gives room (Value.object (fields ++ extra)).document
      (some (extra.foldl (fun made member => kept member made) (effects shape.blank))) := by
  have hroom' : depth < room - 1 := by omega
  obtain ⟨hread, hfold⟩ : (∀ entry ∈ entries fields, shape.effect? (room - 1) entry ≠ none) ∧
      ∀ made, (entries fields).foldl (fun made entry => shape.effect (room - 1) entry made) made =
        effects made := h.effect hkeys (List.Subset.refl _) hroom'
  -- All members of the record are there, so none that must be there is missing.
  have hmade : shape.IsMade (room - 1) (entries (fields ++ extra)) := by
    rw [IsMade, h.keysIn_append fun member hmember => (hextra member hmember).1]
    refine ⟨hkeys, ?_, ?_⟩
    · rw [missing?, List.find?_eq_none]
      intro member hmember
      simp [List.mem_map_of_mem hmember]
    · rw [entries_append, List.forall_mem_append, entries_eq_map extra, List.forall_mem_map]
      refine ⟨hread, fun member hmember => ?_⟩
      rw [(hextra member hmember).2]
      exact Option.some_ne_none _
  have hkept (made : α) : (entries extra).foldl
      (fun made entry => shape.effect (room - 1) entry made) made =
        extra.foldl (fun made member => kept member made) made := by
    rw [entries_eq_map, List.foldl_map]
    refine List.foldl_ext _ _ _ fun made member hmember => ?_
    rw [effect, (hextra member hmember).2, Option.getD_some]
  have hgives : shape.decode.Gives room (.object (entries (fields ++ extra)))
      (if 1 < room then shape.made? (room - 1) (entries (fields ++ extra)) else none) :=
    decode_gives_object hsteady _
  rw [if_pos (by omega), made?_eq_some hmade, entries_append, List.foldl_append, hfold, hkept] at hgives
  rw [Value.document, entries_append]
  exact hgives

section Restores

variable {encode : α → Value} {a : α} (hsteady : shape.IsSteady)
  (hkeys : (shape.members.map Member.key).Nodup) (h : Fields depth shape.members fields effects)

include hsteady hkeys h

/-- A record of fields that are each restored. -/
theorem restores_of_fields (hencode : encode a = .object fields) (ha : effects shape.blank = a) :
    shape.decode.Restores encode (depth + 1) a := by
  constructor
  · rw [hencode]
    exact .object h.integral
  · intro room hroom
    have hextra : ∀ member ∈ ([] : Members), shape.models member.1 = false ∧
        shape.effect? (room - 1) (some member.1, member.2.document) = some id := List.forall_mem_nil _
    have hgives := gives_object hsteady hkeys h hextra hroom
    rwa [List.append_nil, List.foldl_nil, ha, ← hencode] at hgives

/-- A record with foreign members that were kept behind its fields. -/
theorem restores_of_kept {keep : String → Value → α → α} {extra : Members}
    (hsurplus : shape.surplus = .kept keep)
    (hforeign : ∀ member ∈ extra, shape.models member.1 = false)
    (hextra : ∀ member ∈ extra, member.2.Fits (depth + 1) ∧ member.2.IsIntegral)
    (hencode : encode a = .object (fields ++ extra))
    (ha : extra.foldl (fun made member => keep member.1 member.2 made) (effects shape.blank) = a) :
    shape.decode.Restores encode (depth + 1) a := by
  constructor
  · rw [hencode]
    exact .object (List.forall_mem_append.mpr ⟨h.integral, fun member hmember => (hextra member hmember).2⟩)
  · intro room hroom
    have hkept : ∀ member ∈ extra, shape.models member.1 = false ∧
        shape.effect? (room - 1) (some member.1, member.2.document) = some (keep member.1 member.2) :=
      fun member hmember => ⟨hforeign member hmember, effect?_of_kept hsurplus (hforeign member hmember)
        ((hextra member hmember).1.mono (by omega))⟩
    have hgives := gives_object hsteady hkeys h hkept hroom
    rwa [ha, ← hencode] at hgives

end Restores

end Shape

end PollAudit.Json
