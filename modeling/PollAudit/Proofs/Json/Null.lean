import PollAudit.Proofs.Json.Alike

namespace PollAudit.Json.Shape

variable {α : Type} {shape : Shape α} {core : α → α} {room : Nat} {key : String}

/-- A member under the key may be missing, and null makes of it what it is when it is missing. -/
structure NullIsBlank (shape : Shape α) (key : String) (effect : α → α) : Prop where
  models : shape.models key = true
  absence : ∀ member ∈ shape.members, member.key = key → member.absence ≠ .refused
  gives : ∀ member ∈ shape.members, member.key = key →
    ∀ room, member.read.Gives room .null (some effect)
  blank : effect shape.blank = shape.blank

private theorem isSayable_null : Document.null.IsSayable := ⟨['n', 'u', 'l', 'l'], [], .null⟩

namespace NullIsBlank

variable {effect : α → α} (h : shape.NullIsBlank key effect)

include h

private theorem effect?_eq (room : Nat) : shape.effect? room (some key, .null) = some effect := by
  obtain ⟨member, hmem, hkey, hfind⟩ := exists_known h.models
  rw [effect?_of_known hfind]
  exact Decoder.Gives.meaning_eq (h.gives member hmem hkey room) isSayable_null

private theorem missing?_cons (keys : List String) :
    shape.missing? (key :: keys) = none ↔ shape.missing? keys = none := by
  rw [missing?, missing?, List.find?_eq_none, List.find?_eq_none]
  refine forall₂_congr fun member hmem => ?_
  by_cases hkey : member.key = key
  · simp [h.absence member hmem hkey]
  · simp [hkey]

private theorem isMade_iff (room : Nat) {before behind : Entries}
    (hkey : ∀ entry ∈ before ++ behind, entry.1 ≠ some key) :
    shape.IsMade room (before ++ (some key, .null) :: behind) ↔
      shape.IsMade room (before ++ behind) := by
  have hkeys : (shape.keysIn (before ++ (some key, .null) :: behind)).Perm
      (key :: shape.keysIn (before ++ behind)) := by
    rw [keysIn, keysIn, known, known, List.filterMap_append, List.filterMap_append, ← known, ← known,
      ← known, known_some, if_pos h.models]
    exact List.perm_middle.map Prod.fst
  have hnot : key ∉ shape.keysIn (before ++ behind) := by
    intro hmem
    obtain ⟨member, hmember, rfl⟩ := List.mem_map.mp hmem
    exact hkey _ (mem_known_iff.mp hmember).1 rfl
  have heffects : (∀ entry ∈ before ++ (some key, Document.null) :: behind,
      shape.effect? room entry ≠ none) ↔ ∀ entry ∈ before ++ behind, shape.effect? room entry ≠ none := by
    have hnull : shape.effect? room (some key, .null) ≠ none := by
      rw [h.effect?_eq]
      exact Option.some_ne_none _
    rw [List.forall_mem_append, List.forall_mem_append, List.forall_mem_cons, and_iff_right hnull]
  rw [IsMade, IsMade, hkeys.nodup_iff, List.nodup_cons, and_iff_right hnot, missing?_of_perm hkeys,
    h.missing?_cons, heffects]

variable (hcore : shape.HasCore core)

include hcore

/-- What null makes of a member, it makes before or after any other member. -/
theorem effect_comm {entry : Option String × Document} (hentry : entry.1 ≠ some key)
    (hsayable : entry.2.IsSayable) (made : α) :
    shape.effect room entry (effect made) = effect (shape.effect room entry made) := by
  obtain ⟨member, hmem, rfl, hfind⟩ := exists_known h.models
  have hnull := Member.hasEffect_of_gives (h.gives member hmem rfl 0) isSayable_null
  obtain ⟨_ | other, document⟩ := entry
  · rfl
  · cases hother : shape.models other with
    | true =>
      obtain ⟨member', hmem', rfl, hfind'⟩ := exists_known hother
      have hne : member' ≠ member := fun heq => hentry (by rw [heq])
      obtain heffect | hid := hcore.effect_cases room hfind' hsayable
      · exact hcore.commute.forall hmem' hmem hne _ _ heffect hnull made
      · rw [hid]
        rfl
    | false =>
      simp only [Shape.effect, effect?, Option.bind_some, find?_eq_none_iff.mpr hother]
      cases hsurplus : shape.surplus with
      | dropped => rfl
      | kept keep =>
        dsimp only
        cases document.value? room with
        | none => rfl
        | some value =>
          exact ((hcore.fits member hmem).effect_keep effect hnull keep hsurplus other value made).symm

private theorem foldl_effect {entries : Entries} (hentries : ∀ entry ∈ entries, entry.1 ≠ some key)
    (hsayable : ∀ entry ∈ entries, entry.2.IsSayable) (made : α) :
    entries.foldl (fun made entry => shape.effect room entry made) (effect made) =
      effect (entries.foldl (fun made entry => shape.effect room entry made) made) := by
  induction entries generalizing made with
  | nil => rfl
  | cons entry entries ih =>
    rw [List.forall_mem_cons] at hentries hsayable
    rw [List.foldl_cons, List.foldl_cons, h.effect_comm hcore hentries.1 hsayable.1,
      ih hentries.2 hsayable.2]

/-- A member that is null makes no difference to an object. -/
theorem made?_eq {before behind : Entries} (hkey : ∀ entry ∈ before ++ behind, entry.1 ≠ some key)
    (hsayable : ∀ entry ∈ before ++ behind, entry.2.IsSayable) :
    shape.made? room (before ++ (some key, .null) :: behind) = shape.made? room (before ++ behind) := by
  have hiff := h.isMade_iff room hkey
  by_cases hmade : shape.IsMade room (before ++ behind)
  · rw [made?_eq_some hmade, made?_eq_some (hiff.mpr hmade)]
    rw [List.forall_mem_append] at hkey hsayable
    have heffect : shape.effect room (some key, .null) = effect := by
      rw [Shape.effect, h.effect?_eq, Option.getD_some]
    rw [List.foldl_append, List.foldl_cons, heffect, ← h.foldl_effect hcore hkey.1 hsayable.1,
      h.blank, ← List.foldl_append]
  · rw [made?_eq_none hmade, made?_eq_none (mt hiff.mp hmade)]

end NullIsBlank

/-- Wherever an object stands, a member under the key that is null is read as if it were missing. -/
def IgnoresNull (shape : Shape α) (key : String) : Prop :=
  ∀ ⦃room : Nat⦄ ⦃before behind : Entries⦄ ⦃text text' rest rest' : List Char⦄,
    (∀ entry ∈ before ++ behind, entry.1 ≠ some key) →
    Says text (.object (before ++ (some key, .null) :: behind)) rest →
    Says text' (.object (before ++ behind)) rest' →
    (shape.decode room).found? text = (shape.decode room).found? text'

/-- A member that reads null as what a blank has there may as well be left out. -/
theorem HasCore.ignoresNull {effect : α → α} (hcore : shape.HasCore core)
    (h : shape.NullIsBlank key effect) : shape.IgnoresNull key := by
  intro room before behind text text' rest rest' hkey hdoc hdoc'
  rw [(decode_gives_object hcore.steady _ (.none text) hdoc).found?_eq,
    (decode_gives_object hcore.steady _ (.none text') hdoc').found?_eq,
    h.made?_eq hcore hkey (Document.IsSayable.of_object ⟨text', rest', hdoc'⟩)]

/-- An optional member may be null. -/
theorem NullIsBlank.of_optional {β : Type} {absence : Absence} {decoder : Decoder β}
    {set : Option β → α → α} (hkeys : (shape.members.map Member.key).Nodup)
    (hmem : .of key absence decoder.optional set ∈ shape.members) (habsence : absence ≠ .refused)
    (hblank : set none shape.blank = shape.blank) : shape.NullIsBlank key (set none) := by
  have honly : ∀ member ∈ shape.members, member.key = key →
      member = .of key absence decoder.optional set :=
    fun member hmember hkey => List.inj_on_of_nodup_map hkeys hmember hmem hkey
  refine ⟨?_, ?_, ?_, hblank⟩
  · exact List.any_eq_true.mpr ⟨_, hmem, beq_self_eq_true key⟩
  · intro member hmember hkey
    rw [honly member hmember hkey]
    exact habsence
  · intro member hmember hkey room
    rw [honly member hmember hkey]
    exact Decoder.optional_gives_null.map set

end PollAudit.Json.Shape
