import Mathlib.Data.List.Nodup
import PollAudit.Json.Shape
import PollAudit.Proofs.Json.Decoder
import PollAudit.Proofs.Json.Skip
import PollAudit.Proofs.Json.Value

namespace PollAudit.Json

/-- The members of an object as they stand there. -/
abbrev Entries := List (Option String × Document)

namespace Shape

open Reader

variable {α : Type} (shape : Shape α) (room : Nat)

/-- Every member is read by what its text says. -/
def IsSteady : Prop := ∀ member ∈ shape.members, member.read.IsSteady

/-- The key of a member that the record has. -/
def models (key : String) : Bool := shape.members.any (·.key == key)

/-- The members of an object that the record has, repeated or not. -/
def known (entries : Entries) : List (String × Document) :=
  entries.filterMap fun entry => (entry.1.filter shape.models).map (·, entry.2)

def keysIn (entries : Entries) : List String := (shape.known entries).map Prod.fst

/-- What a member of an object does to a record. -/
noncomputable def effect? (entry : Option String × Document) : Option (α → α) :=
  entry.1.bind fun key =>
    match shape.members.find? (·.key == key) with
    | some known => known.read.meaning room entry.2
    | none =>
      match shape.surplus with
      | .dropped => some id
      | .kept keep => (entry.2.value? room).map (keep key)

/-- The record that an object is, if it has every member that must be there and none twice. -/
noncomputable def made? (entries : Entries) : Option α :=
  if (shape.keysIn entries).Nodup ∧ (shape.missing? (shape.keysIn entries)).isNone then
    (entries.mapM (shape.effect? room)).map (·.foldl (fun made effect => effect made) shape.blank)
  else none

/-- The record that the values of the next members make of one. -/
noncomputable def listed? (made : α) : List (Member α) → List Document → Option α
  | members, [] => if members.all (·.absence == .anywhere) then some made else none
  | [], _ :: _ => none
  | next :: rest, document :: documents =>
    (next.read.meaning room document).bind fun effect => listed? (effect made) rest documents

/-- What a member of an object does to a record and to the keys that were met. -/
noncomputable def step? (made : α × List String) (entry : Option String × Document) :
    Option (α × List String) :=
  entry.1.bind fun key =>
    if shape.models key then
      if key ∈ made.2 then none
      else (shape.effect? room entry).map fun effect => (effect made.1, key :: made.2)
    else (shape.effect? room entry).map fun effect => (effect made.1, made.2)

variable {shape} {room}

/-- A key that no member has is not modelled. -/
theorem find?_eq_none_iff {key : String} :
    shape.members.find? (·.key == key) = none ↔ shape.models key = false := by
  simp [models]

private theorem models_of_find? {key : String} {known : Member α}
    (h : shape.members.find? (·.key == key) = some known) : shape.models key = true := by
  rw [← Bool.not_eq_false, ← find?_eq_none_iff, h]
  exact nofun

/-- An entry is known if its key is modelled. -/
theorem known_some (key : String) (document : Document) (entries : Entries) :
    shape.known ((some key, document) :: entries) =
      if shape.models key then (key, document) :: shape.known entries else shape.known entries := by
  cases h : shape.models key <;> simp [known, h]

/-- The known entries are those with a modelled key. -/
theorem mem_known_iff {entries : Entries} {member : String × Document} :
    member ∈ shape.known entries ↔
      (some member.1, member.2) ∈ entries ∧ shape.models member.1 = true := by
  obtain ⟨key, document⟩ := member
  constructor
  · intro h
    obtain ⟨⟨_ | other, _⟩, hmem, heq⟩ := List.mem_filterMap.mp h
    · cases heq
    · cases hmodels : shape.models other <;> simp [hmodels] at heq
      obtain ⟨rfl, rfl⟩ := heq
      exact ⟨hmem, hmodels⟩
  · rintro ⟨hmem, hmodels⟩
    exact List.mem_filterMap.mpr ⟨_, hmem, by simp [hmodels]⟩

/-- The keys are counted that are modelled. -/
theorem keysIn_some (key : String) (document : Document) (entries : Entries) :
    shape.keysIn ((some key, document) :: entries) =
      if shape.models key then key :: shape.keysIn entries else shape.keysIn entries := by
  rw [keysIn, known_some]
  split <;> rfl

private theorem step?_eq_none {made : α × List String} {entry : Option String × Document}
    (h : shape.effect? room entry = none) : shape.step? room made entry = none := by
  obtain ⟨key, document⟩ := entry
  cases key with
  | none => rfl
  | some key => simp [step?, h]

/-- Reading one member after the other comes down to the keys that were met and the effects of the
members. -/
theorem foldlM_step? (entries : Entries) (made : α) {keys : List String} (hkeys : keys.Nodup) :
    entries.foldlM (shape.step? room) (made, keys) =
      if ((shape.keysIn entries).reverse ++ keys).Nodup then
        (entries.mapM (shape.effect? room)).map fun effects =>
          (effects.foldl (fun made effect => effect made) made, (shape.keysIn entries).reverse ++ keys)
      else none := by
  induction entries generalizing made keys with
  | nil => simp [keysIn, known, hkeys]
  | cons entry entries ih =>
    rw [List.foldlM_cons]
    cases heffect : shape.effect? room entry with
    | none =>
      rw [step?_eq_none heffect, List.mapM_cons, heffect]
      exact (ite_self none).symm
    | some effect =>
      rw [mapM_cons_of_some heffect, Option.map_map]
      obtain ⟨_ | key, document⟩ := entry
      · cases heffect
      · simp only [step?, heffect, Option.bind_some, Option.map_some, keysIn_some]
        cases hmodels : shape.models key with
        | false => exact ih (effect made) hkeys
        | true =>
          simp only [if_true, List.reverse_cons, List.append_assoc, List.singleton_append]
          by_cases hmem : key ∈ keys
          -- A key that was met before is refused here, and the keys of the whole are no set.
          · have hnodup : ¬ ((shape.keysIn entries).reverse ++ key :: keys).Nodup := fun hnodup =>
              (List.nodup_cons.mp (List.nodup_append.mp hnodup).2.1).1 hmem
            rw [if_pos hmem, if_neg hnodup]
            rfl
          · rw [if_neg hmem]
            exact ih (effect made) (List.nodup_cons.mpr ⟨hmem, hkeys⟩)

private theorem missing?_reverse (keys : List String) :
    shape.missing? keys.reverse = shape.missing? keys := by
  simp [missing?]

private theorem made?_eq (entries : Entries) :
    shape.made? room entries =
      (entries.foldlM (shape.step? room) (shape.blank, [])).bind fun made =>
        if (shape.missing? made.2).isNone then some made.1 else none := by
  rw [foldlM_step? entries shape.blank List.nodup_nil, made?, List.append_nil]
  simp only [List.nodup_reverse]
  by_cases hnodup : (shape.keysIn entries).Nodup
  · simp only [hnodup, true_and, if_true]
    cases entries.mapM (shape.effect? room) with
    | none => exact ite_self none
    | some effects => simp [missing?_reverse]
  · simp [hnodup]

/-- What a member of an object does to a record, if it can be read. -/
noncomputable def effect (shape : Shape α) (room : Nat) (entry : Option String × Document) : α → α :=
  (shape.effect? room entry).getD id

/-- An entry with a modelled key has the effect that its member reads. -/
theorem effect?_of_known {key : String} {member : Member α}
    (h : shape.members.find? (·.key == key) = some member) (document : Document) :
    shape.effect? room (some key, document) = member.read.meaning room document := by
  simp only [effect?, Option.bind_some, h]

/-- A modelled key has a member, and that is the one that is found for it. -/
theorem exists_known {key : String} (h : shape.models key = true) :
    ∃ member ∈ shape.members, member.key = key ∧ shape.members.find? (·.key == key) = some member := by
  cases hfind : shape.members.find? (·.key == key) with
  | none =>
    rw [find?_eq_none_iff, h] at hfind
    cases hfind
  | some member =>
    refine ⟨member, List.mem_of_find?_eq_some hfind, ?_, rfl⟩
    simpa using List.find?_some hfind

/-- An object is a record if it has every member that must be there, none twice, and all can be
read. -/
def IsMade (shape : Shape α) (room : Nat) (entries : Entries) : Prop :=
  (shape.keysIn entries).Nodup ∧ shape.missing? (shape.keysIn entries) = none ∧
    ∀ entry ∈ entries, shape.effect? room entry ≠ none

/-- An object without faults is made by the effects of its entries, one after the other. -/
theorem made?_eq_some {entries : Entries} (h : shape.IsMade room entries) :
    shape.made? room entries =
      some (entries.foldl (fun made entry => shape.effect room entry made) shape.blank) := by
  obtain ⟨honce, hmissing, hall⟩ := h
  have heffects : entries.mapM (shape.effect? room) = some (entries.map (shape.effect room)) := by
    refine mapM_eq_map fun entry hentry => ?_
    obtain ⟨f, hf⟩ := Option.ne_none_iff_exists'.mp (hall entry hentry)
    rw [effect, hf, Option.getD_some]
  rw [made?, heffects, hmissing, if_pos ⟨honce, rfl⟩, Option.map_some, List.foldl_map]

/-- From an object with a fault nothing is made. -/
theorem made?_eq_none {entries : Entries} (h : ¬ shape.IsMade room entries) :
    shape.made? room entries = none := by
  rw [made?]
  split
  · obtain ⟨honce, hmissing⟩ := ‹_ ∧ _›
    rw [IsMade, and_iff_right honce, and_iff_right (Option.isNone_iff_eq_none.mp hmissing)] at h
    push Not at h
    obtain ⟨entry, hentry, hnone⟩ := h
    rw [mapM_eq_none hentry hnone, Option.map_none]
  · rfl

private theorem reads_failInObject {text start rest : List Char} {β : Type} {reason : Reason}
    {c : Char} (hgap : Gap text (c :: start)) (hblank : isBlank c = false) :
    (failInObject reason : Reader β).Reads text none rest := by
  refine (Reads.peekWord hgap hblank).bind ?_
  split
  · exact Reads.skip.bind (Reads.failHere reason)
  · exact fun place => .error _ rest

/-- A record that keeps foreign members is no list. -/
theorem decode_gives_none {keep : String → Value → α → α} (hsurplus : shape.surplus = .kept keep)
    (items : List Document) : shape.decode.Gives room (.list items) none := by
  intro text start rest hgap hdoc
  obtain ⟨c, later, rfl, hc⟩ := hdoc.exists_opening
  cases hc
  refine (Decoder.reads_start hgap rfl).bind ?_
  rw [if_neg (by decide), hsurplus]
  exact Decoder.reads_mismatch (.none _) hdoc

section Values

variable {members : List (Member α)} {documents : List Document} {text rest : List Char}

private theorem reads_end (read : Nat) (made : α) (members : List (Member α))
    (hgap : Gap text (']' :: rest)) :
    (shape.values room read made members).Reads text (listed? room made members []) rest := by
  cases members with
  | nil => exact (Reads.peekWord hgap rfl).bind (Reads.skip.bind (.pure made _))
  | cons next members =>
    rw [values, listed?]
    refine (Reads.peekWord hgap rfl).bind ?_
    split
    · cases ‹some ']' = none›
    · split
      · exact Reads.skip.bind (.pure made _)
      · exact Reads.skip.bind (.failHere _)
    · exact absurd (Option.some.inj ‹_›).symm ‹_›

/-- The values that follow others are read up to the end of the list. -/
theorem reads_later (hmembers : ∀ member ∈ members, member.read.IsSteady) (read : Nat) (made : α)
    (h : Later ']' Says documents text rest) :
    (shape.values room (read + 1) made members).Reads text
      (listed? room made members documents) rest := by
  induction h generalizing members read made with
  | close hgap => exact reads_end (read + 1) made members hgap
  | comma hcomma hgap hdoc _ ih =>
    obtain ⟨c, later, rfl, hopen⟩ := hdoc.exists_opening
    cases members with
    | nil =>
      refine (Reads.peekWord hcomma rfl).bind (Reads.skip.bind ?_)
      refine (Reads.peekWord hgap hopen.isBlank_eq).bind ?_
      split <;> exact .failNext _
    | cons next members =>
      rw [List.forall_mem_cons] at hmembers
      rw [values, listed?]
      refine (Reads.peekWord hcomma rfl).bind ?_
      split
      · cases ‹some ',' = none›
      · cases ‹some ',' = some ']'›
      · cases ‹some ',' = some _›
        rw [if_pos (by simp), if_pos rfl]
        refine Reads.skip.bind ((Reads.peekWord hgap hopen.isBlank_eq).bind ?_)
        split
        · cases ‹some c = none›
        · exact absurd (Option.some.inj ‹_›) hopen.ne_close.1
        · exact (hmembers.1.gives room _ (.none _) hdoc).bind_option fun effect _ =>
            ih hmembers.2 (read + 1) (effect made)

private theorem reads_values (hmembers : ∀ member ∈ members, member.read.IsSteady) (made : α)
    (h : Sequence ']' Says documents text rest) :
    (shape.values room 0 made members).Reads text (listed? room made members documents) rest := by
  cases h with
  | empty hgap => exact reads_end 0 made members hgap
  | items hgap hdoc hlater =>
    obtain ⟨c, later, rfl, hopen⟩ := hdoc.exists_opening
    cases members with
    | nil =>
      refine (Reads.peekWord hgap hopen.isBlank_eq).bind ?_
      split
      · cases ‹some c = none›
      · exact absurd (Option.some.inj ‹_›) hopen.ne_close.1
      · exact absurd (Option.some.inj ‹_›) hopen.ne_comma
      · exact .failNext _
    | cons next members =>
      rw [List.forall_mem_cons] at hmembers
      rw [values, listed?]
      refine (Reads.peekWord hgap hopen.isBlank_eq).bind ?_
      split
      · cases ‹some c = none›
      · exact absurd (Option.some.inj ‹_›) hopen.ne_close.1
      · rw [if_neg (by simp)]
        exact (hmembers.1.gives room _ (.none _) hdoc).bind_option fun effect _ =>
          reads_later hmembers.2 0 (effect made) hlater

end Values

variable (hsteady : shape.IsSteady)

include hsteady

private theorem reads_member {key : String} {made : α × List String}
    {text behind start rest : List Char} {document : Document} (hcolon : Gap text (':' :: behind))
    (hgap : Gap behind start) (h : Says start document rest) :
    (shape.member room key made).Reads text (shape.step? room made (some key, document)) rest := by
  rw [member, step?]
  simp only [Option.bind_some, effect?]
  cases hfind : shape.members.find? (·.key == key) with
  | some known =>
    have hmem := List.mem_of_find?_eq_some hfind
    simp only [models_of_find? hfind, if_true, List.contains_iff_mem]
    split
    · exact reads_failInObject hcolon rfl
    · refine (Reads.colon hcolon).bind ?_
      exact ((hsteady known hmem).gives room document hgap h).map fun effect =>
        (effect made.1, key :: made.2)
  | none =>
    simp only [find?_eq_none_iff.mp hfind, Bool.false_eq_true, if_false]
    refine (Reads.colon hcolon).bind ?_
    cases hsurplus : shape.surplus with
    | dropped => exact (reads_skipValue hgap h).bind (.pure made _)
    | kept keep =>
      rw [Option.map_map]
      exact (reads_value hgap h).map fun value => (keep key value made.1, made.2)

private theorem reads_object {entries : Entries} {text rest : List Char}
    (h : Sequence '\x7d' (Entry Says) entries text rest) :
    (shape.object room).Reads text (shape.made? room entries) rest := by
  have hmembers : (Reader.members (shape.member room) (shape.blank, [])).Reads text
      (entries.foldlM (shape.step? room) (shape.blank, [])) rest := by
    refine Reads.members Says.isItem ?_ ?_ h
    · exact fun _ _ => rfl
    · exact fun hcolon hgap hdoc => reads_member hsteady hcolon hgap hdoc
  rw [made?_eq, object]
  refine hmembers.bind_option fun made _ => ?_
  obtain ⟨made, keys⟩ := made
  dsimp only
  cases shape.missing? keys with
  | none => exact .pure made rest
  | some absent => exact .failHere _

/-- An object is decoded one level deeper than it stands. -/
theorem decode_gives_object (entries : Entries) :
    shape.decode.Gives room (.object entries)
      (if 1 < room then shape.made? (room - 1) entries else none) := by
  rintro text start rest hgap ⟨⟩
  refine (Decoder.reads_start hgap rfl).bind ?_
  rw [if_pos rfl]
  exact Decoder.reads_descend fun _ => reads_object hsteady ‹_›

/-- A list is decoded by the places of its items, where foreign members are dropped. -/
theorem decode_gives_list (hsurplus : shape.surplus = .dropped) (items : List Document) :
    shape.decode.Gives room (.list items)
      (if 1 < room then listed? (room - 1) shape.blank shape.members items else none) := by
  rintro text start rest hgap ⟨⟩
  refine (Decoder.reads_start hgap rfl).bind ?_
  rw [if_neg (by decide), hsurplus]
  exact Decoder.reads_descend fun _ => reads_values hsteady shape.blank ‹_›

/-- A shape is decoded steadily if its members are. -/
theorem isSteady_decode : shape.decode.IsSteady := by
  intro room document
  cases document with
  | object entries => exact ⟨_, decode_gives_object hsteady entries⟩
  | list items =>
    cases hsurplus : shape.surplus with
    | dropped => exact ⟨_, decode_gives_list hsteady hsurplus items⟩
    | kept keep => exact ⟨none, decode_gives_none hsurplus items⟩
  | _ =>
    refine ⟨none, fun _ _ _ hgap hdoc => ?_⟩
    obtain ⟨c, later, rfl, hc⟩ := hdoc.exists_opening
    refine (Decoder.reads_start hgap hc.isBlank_eq).bind ?_
    rw [if_neg]
    · split
      · simp [Document.IsOpenedBy] at hc
      · exact Decoder.reads_mismatch (.none _) hdoc
    · rintro rfl
      simp [Document.IsOpenedBy] at hc

end Shape

end PollAudit.Json
