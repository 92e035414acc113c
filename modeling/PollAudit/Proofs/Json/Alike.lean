import Mathlib.Data.List.Forall2
import Mathlib.Data.List.Pairwise
import PollAudit.Proofs.Json.Shape

namespace PollAudit.Json

/-- Two documents are the same, or lists whose items are alike in turn. -/
inductive Document.AlikeLists (alike : Document → Document → Prop) : Document → Document → Prop
  | same (document : Document) : AlikeLists alike document document
  | list {items items' : List Document} (h : List.Forall₂ alike items items') :
    AlikeLists alike (.list items) (.list items')

/-- A change that reading a member may make to a record. -/
def Member.HasEffect {α : Type} (member : Member α) (effect : α → α) : Prop :=
  ∃ room cursor cursor', member.read room cursor = .ok (effect, cursor')

/-- It makes no difference which of two members is read first. -/
def Member.Commutes {α : Type} (member member' : Member α) : Prop :=
  ∀ effect effect', member.HasEffect effect → member'.HasEffect effect' →
    ∀ made, effect (effect' made) = effect' (effect made)

instance {α : Type} : Std.Symm (@Member.Commutes α) where
  symm _ _ h effect effect' heffect heffect' made := (h effect' effect heffect' heffect made).symm

private theorem Member.exists_of_hasEffect {α β : Type} {key : String} {absence : Absence}
    {decoder : Decoder β} {set : β → α → α} {effect : α → α}
    (h : (Member.of key absence decoder set).HasEffect effect) : ∃ b, effect = set b := by
  obtain ⟨room, cursor, cursor', hread⟩ := h
  simp only [Member.of, Functor.map, StateT.map, Bind.bind, Except.bind] at hread
  cases hdecode : decoder room cursor with
  | error fault =>
    rw [hdecode] at hread
    cases hread
  | ok found =>
    rw [hdecode] at hread
    cases hread
    exact ⟨found.1, rfl⟩

/-- A member has the effect that its document gives, whatever its text. -/
theorem Member.hasEffect_of_gives {α : Type} {member : Member α} {room : Nat} {document : Document}
    {effect : α → α} (h : member.read.Gives room document (some effect))
    (hsayable : document.IsSayable) : member.HasEffect effect := by
  obtain ⟨text, rest, hdoc⟩ := hsayable
  obtain ⟨place, hok⟩ := (h (.none text) hdoc).exists_eq_ok {}
  exact ⟨room, _, _, hok⟩

/-- Documents with the same meaning make the same member. -/
theorem Member.meaning_congr {α β : Type} {key : String} {absence : Absence} {decoder : Decoder β}
    {set : β → α → α} {room : Nat} {document document' : Document} (hsteady : decoder.IsSteady)
    (hsayable : document.IsSayable) (hsayable' : document'.IsSayable)
    (h : decoder.meaning room document = decoder.meaning room document') :
    (Member.of key absence decoder set).read.meaning room document =
      (Member.of key absence decoder set).read.meaning room document' := by
  rw [Member.of, hsteady.meaning_map set hsayable, hsteady.meaning_map set hsayable', h]

/-- Members that set different parts of a record commute. -/
theorem Member.commutes_of {α β γ : Type} {key key' : String} {absence absence' : Absence}
    {decoder : Decoder β} {decoder' : Decoder γ} {set : β → α → α} {set' : γ → α → α}
    (h : ∀ b c made, set b (set' c made) = set' c (set b made)) :
    (Member.of key absence decoder set).Commutes (Member.of key' absence' decoder' set') := by
  intro effect effect' heffect heffect' made
  obtain ⟨b, rfl⟩ := exists_of_hasEffect heffect
  obtain ⟨c, rfl⟩ := exists_of_hasEffect heffect'
  exact h b c made

private theorem map_eq_map_of_forall₂ {β γ δ : Type} {f : β → δ} {g : γ → δ} {items : List β}
    {items' : List γ} (h : List.Forall₂ (fun b c => f b = g c) items items') :
    items.map f = items'.map g := by
  rw [← List.forall₂_eq_eq_eq, List.forall₂_map_left_iff, List.forall₂_map_right_iff]
  exact h

namespace Shape

variable {α : Type}

section Alike

variable (shape : Shape α) (acceptable : Option String × Document → Prop)
  (alike : String → Document → Document → Prop)

/-- A member of an object that the record does not have. -/
def IsForeign (entry : Option String × Document) : Prop :=
  ∀ key, entry.1 = some key → shape.models key = false

/-- Two objects have the members of the record once at most and, in some order, alike. Their other
members are acceptable, or in both. -/
structure AlikeEntries (entries entries' : Entries) : Prop where
  once : (shape.keysIn entries).Nodup
  once' : (shape.keysIn entries').Nodup
  agree : ∃ ordered, (shape.known entries).Perm ordered ∧
    List.Forall₂ (fun member member' => member.1 = member'.1 ∧ alike member.1 member.2 member'.2)
      ordered (shape.known entries')
  foreign : ∀ entry ∈ entries, shape.IsForeign entry → acceptable entry ∨ entry ∈ entries'
  foreign' : ∀ entry ∈ entries', shape.IsForeign entry → acceptable entry ∨ entry ∈ entries

/-- Two lists have values of the members in turn that are alike. -/
inductive AlikeValues : List (Member α) → List Document → List Document → Prop
  | nil (members : List (Member α)) : AlikeValues members [] []
  | cons {member : Member α} {members : List (Member α)} {document document' : Document}
    {documents documents' : List Document} (hfirst : alike member.key document document')
    (h : AlikeValues members documents documents') :
    AlikeValues (member :: members) (document :: documents) (document' :: documents')

/-- Two documents are the same, or they are alike as a record is read from them. -/
inductive Alike : Document → Document → Prop
  | same (document : Document) : Alike document document
  | object {entries entries' : Entries} (h : shape.AlikeEntries acceptable alike entries entries') :
    Alike (.object entries) (.object entries')
  | list {items items' : List Document} (h : AlikeValues alike shape.members items items') :
    Alike (.list items) (.list items')

end Alike

/-- What a member makes of a record does not hang on what is kept besides the core. -/
structure Fits (shape : Shape α) (core : α → α) (member : Member α) : Prop where
  steady : member.read.IsSteady
  core_effect : ∀ effect, member.HasEffect effect → ∀ made, core (effect made) = effect (core made)
  effect_keep : ∀ effect, member.HasEffect effect → ∀ keep, shape.surplus = .kept keep →
    ∀ key value made, effect (keep key value made) = keep key value (effect made)

/-- The members of a record can be read in any order, and what is kept besides them is no part of
the core of a record. -/
structure HasCore (shape : Shape α) (core : α → α) : Prop where
  fits : ∀ member ∈ shape.members, shape.Fits core member
  commute : shape.members.Pairwise Member.Commutes
  core_keep : ∀ keep, shape.surplus = .kept keep → ∀ key value made, core (keep key value made) = core made

/-- A shape with a core is steady. -/
theorem HasCore.steady {shape : Shape α} {core : α → α} (h : shape.HasCore core) : shape.IsSteady :=
  fun member hmember => (h.fits member hmember).steady

section Fits

variable {β : Type} {shape : Shape α} {core : α → α} {key : String} {absence : Absence}
  {decoder : Decoder β} {set : β → α → α} (hsteady : decoder.IsSteady)
  (hcore : ∀ b made, core (set b made) = set b (core made))

include hsteady hcore

/-- A member fits if what is kept of foreign ones does not touch what it sets. -/
theorem Fits.of_kept {keep : String → Value → α → α} (hsurplus : shape.surplus = .kept keep)
    (hkeep : ∀ b key value made, set b (keep key value made) = keep key value (set b made)) :
    shape.Fits core (.of key absence decoder set) where
  steady := hsteady.map set
  core_effect _ heffect := by
    obtain ⟨b, rfl⟩ := Member.exists_of_hasEffect heffect
    exact hcore b
  effect_keep _ heffect keep' hsurplus' := by
    obtain ⟨b, rfl⟩ := Member.exists_of_hasEffect heffect
    obtain rfl := Surplus.kept.inj (hsurplus.symm.trans hsurplus')
    exact hkeep b

/-- A member fits where foreign ones are dropped. -/
theorem Fits.of_dropped (hsurplus : shape.surplus = .dropped) :
    shape.Fits core (.of key absence decoder set) where
  steady := hsteady.map set
  core_effect _ heffect := by
    obtain ⟨b, rfl⟩ := Member.exists_of_hasEffect heffect
    exact hcore b
  effect_keep _ _ keep hsurplus' := by
    rw [hsurplus] at hsurplus'
    cases hsurplus'

end Fits

variable {shape : Shape α} {room : Nat}

/-- Which member is missing does not depend on the order of the others. -/
theorem missing?_of_perm {keys keys' : List String} (h : keys.Perm keys') :
    shape.missing? keys = shape.missing? keys' := by
  have hcontains (key : String) : keys.contains key = keys'.contains key := by
    rw [Bool.eq_iff_iff, List.contains_iff_mem, List.contains_iff_mem, h.mem_iff]
  simp only [missing?, hcontains]

namespace HasCore

variable {core : α → α} (hcore : shape.HasCore core)

include hcore

/-- Reading a member of a record has one of its effects, or none. -/
theorem effect_cases (room : Nat) {key : String} {document : Document} {member : Member α}
    (hfind : shape.members.find? (·.key == key) = some member) (hsayable : document.IsSayable) :
    member.HasEffect (shape.effect room (some key, document)) ∨
      shape.effect room (some key, document) = id := by
  rw [effect, effect?_of_known hfind]
  cases hmeaning : member.read.meaning room document with
  | none => exact .inr rfl
  | some f =>
    have hgives : member.read.Gives room document (member.read.meaning room document) :=
      (hcore.steady member (List.mem_of_find?_eq_some hfind)).gives room document
    exact .inl (Member.hasEffect_of_gives (hmeaning ▸ hgives) hsayable)

private theorem core_effect_of_known {key : String} {document : Document}
    (hkey : shape.models key = true) (hsayable : document.IsSayable) (made : α) :
    core (shape.effect room (some key, document) made) =
      shape.effect room (some key, document) (core made) := by
  obtain ⟨member, hmem, _, hfind⟩ := exists_known hkey
  obtain heffect | hid := hcore.effect_cases room hfind hsayable
  · exact (hcore.fits member hmem).core_effect _ heffect made
  · rw [hid]
    rfl

private theorem core_effect_of_foreign {entry : Option String × Document}
    (hforeign : shape.IsForeign entry) (made : α) :
    core (shape.effect room entry made) = core made := by
  obtain ⟨_ | key, document⟩ := entry
  · rfl
  · have hfind := find?_eq_none_iff.mpr (hforeign key rfl)
    simp only [effect, effect?, Option.bind_some, hfind]
    cases hsurplus : shape.surplus with
    | dropped => rfl
    | kept keep =>
      dsimp only
      cases document.value? room with
      | none => rfl
      | some value => exact hcore.core_keep keep hsurplus key value made

/-- The core of a record comes from the members that the record has. -/
theorem core_foldl (entries : Entries) (hsayable : ∀ entry ∈ entries, entry.2.IsSayable) (made : α) :
    core (entries.foldl (fun made entry => shape.effect room entry made) made) =
      (shape.known entries).foldl
        (fun made member => shape.effect room (some member.1, member.2) made) (core made) := by
  induction entries generalizing made with
  | nil => rfl
  | cons entry entries ih =>
    rw [List.forall_mem_cons] at hsayable
    rw [List.foldl_cons, ih hsayable.2]
    obtain ⟨_ | key, document⟩ := entry
    · rw [hcore.core_effect_of_foreign]
      · rfl
      · rintro _ ⟨⟩
    · rw [known_some]
      split
      · rw [hcore.core_effect_of_known ‹_› hsayable.1]
        rfl
      · rw [hcore.core_effect_of_foreign]
        rintro _ ⟨⟩
        simpa using ‹¬ shape.models key = true›

/-- Two members of one object can be read in any order. -/
theorem effect_comm {entries : Entries} (honce : (shape.keysIn entries).Nodup)
    (hsayable : ∀ entry ∈ entries, entry.2.IsSayable) {member member' : String × Document}
    (hmem : member ∈ shape.known entries) (hmem' : member' ∈ shape.known entries) (made : α) :
    shape.effect room (some member.1, member.2) (shape.effect room (some member'.1, member'.2) made) =
      shape.effect room (some member'.1, member'.2)
        (shape.effect room (some member.1, member.2) made) := by
  by_cases hkeys : member.1 = member'.1
  -- No key is repeated, so members with one key are one member.
  · rw [List.inj_on_of_nodup_map honce hmem hmem' hkeys]
  · obtain ⟨hentry, hmodels⟩ := mem_known_iff.mp hmem
    obtain ⟨hentry', hmodels'⟩ := mem_known_iff.mp hmem'
    obtain ⟨known, hknown, hkey, hfind⟩ := exists_known hmodels
    obtain ⟨known', hknown', hkey', hfind'⟩ := exists_known hmodels'
    have hne : known ≠ known' := fun heq => hkeys (by rw [← hkey, ← hkey', heq])
    have hcommute := hcore.commute.forall hknown hknown' hne
    obtain heffect | hid := hcore.effect_cases room hfind (hsayable _ hentry)
    · obtain heffect' | hid' := hcore.effect_cases room hfind' (hsayable _ hentry')
      · exact hcommute _ _ heffect heffect' made
      · rw [hid']
        rfl
    · rw [hid]
      rfl

private theorem foldl_eq_of_perm {entries entries' : Entries} (honce : (shape.keysIn entries).Nodup)
    (hsayable : ∀ entry ∈ entries, entry.2.IsSayable)
    (hperm : ((shape.known entries).map fun member => shape.effect? room (some member.1, member.2)).Perm
      ((shape.known entries').map fun member => shape.effect? room (some member.1, member.2)))
    (made : α) :
    (shape.known entries).foldl (fun made member => shape.effect room (some member.1, member.2) made) made =
      (shape.known entries').foldl
        (fun made member => shape.effect room (some member.1, member.2) made) made := by
  have hfoldl := hperm.foldl_eq' (f := fun made effect => effect.getD id made)
    (by
      intro effect heffect effect' heffect' made
      obtain ⟨member, hmember, rfl⟩ := List.mem_map.mp heffect
      obtain ⟨member', hmember', rfl⟩ := List.mem_map.mp heffect'
      exact hcore.effect_comm honce hsayable hmember' hmember made) made
  rwa [List.foldl_map, List.foldl_map] at hfoldl

end HasCore

/-- A member that has a name, and a value if it has to be kept. -/
def IsReadable (shape : Shape α) (room : Nat) (entry : Option String × Document) : Prop :=
  entry.1 ≠ none ∧ ∀ keep, shape.surplus = .kept keep → entry.2.value? room ≠ none

private theorem effect?_ne_none_of_foreign {entry : Option String × Document}
    (hforeign : shape.IsForeign entry) (h : shape.IsReadable room entry) :
    shape.effect? room entry ≠ none := by
  obtain ⟨_ | key, document⟩ := entry
  · exact absurd rfl h.1
  · have hfind := find?_eq_none_iff.mpr (hforeign key rfl)
    simp only [effect?, Option.bind_some, hfind]
    cases hsurplus : shape.surplus with
    | dropped => exact Option.some_ne_none _
    | kept keep =>
      obtain ⟨value, hvalue⟩ := Option.ne_none_iff_exists'.mp (h.2 keep hsurplus)
      simp [hvalue]

/-- If the members of one object can all be read, so can those of an object that is alike. -/
theorem effect?_ne_none_of_perm {acceptable : Option String × Document → Prop}
    (hacceptable : ∀ entry, acceptable entry → shape.IsReadable room entry) {entries entries' : Entries}
    (hperm : ((shape.known entries).map fun member => shape.effect? room (some member.1, member.2)).Perm
      ((shape.known entries').map fun member => shape.effect? room (some member.1, member.2)))
    (hforeign : ∀ entry ∈ entries', shape.IsForeign entry → acceptable entry ∨ entry ∈ entries)
    (h : ∀ entry ∈ entries, shape.effect? room entry ≠ none) :
    ∀ entry ∈ entries', shape.effect? room entry ≠ none := by
  intro entry hentry
  by_cases hknown : shape.IsForeign entry
  · obtain haccept | hmem := hforeign entry hentry hknown
    · exact effect?_ne_none_of_foreign hknown (hacceptable entry haccept)
    · exact h entry hmem
  · obtain ⟨_ | key, document⟩ := entry
    · exact absurd nofun hknown
    · have hmodels : shape.models key = true := by
        by_contra hnot
        exact hknown (by rintro _ ⟨⟩; simpa using hnot)
      have hmem := List.mem_map_of_mem (f := fun member => shape.effect? room (some member.1, member.2))
        (mem_known_iff.mpr ⟨hentry, hmodels⟩ : (key, document) ∈ shape.known entries')
      obtain ⟨member, hmember, heq⟩ := List.mem_map.mp (hperm.mem_iff.mpr hmem)
      dsimp only at heq
      rw [← heq]
      exact h _ (mem_known_iff.mp hmember).1

/-- An object in another order, with acceptable members that the record does not have. -/
theorem AlikeEntries.of_perm {acceptable : Option String × Document → Prop}
    {alike : String → Document → Document → Prop} {entries entries' extra : Entries}
    (hperm : entries.Perm (extra ++ entries')) (hextra : ∀ entry ∈ extra, shape.IsForeign entry)
    (haccept : ∀ entry ∈ extra, acceptable entry) (honce : (shape.keysIn entries').Nodup)
    (hrefl : ∀ key document, alike key document document) :
    shape.AlikeEntries acceptable alike entries entries' := by
  have hforeign : shape.known extra = [] := by
    rw [known, List.filterMap_eq_nil_iff]
    rintro ⟨_ | key, document⟩ hentry
    · rfl
    · simp [hextra _ hentry key rfl]
  have hknown : (shape.known entries).Perm (shape.known entries') := by
    have hmembers := hperm.filterMap fun entry => (entry.1.filter shape.models).map (·, entry.2)
    rwa [List.filterMap_append, ← known, ← known, ← known, hforeign, List.nil_append] at hmembers
  refine ⟨(hknown.map Prod.fst).nodup_iff.mpr honce, honce, ⟨_, hknown, ?_⟩, ?_, ?_⟩
  · exact List.forall₂_same.mpr fun member _ => ⟨rfl, hrefl member.1 member.2⟩
  · intro entry hentry _
    exact (List.mem_append.mp (hperm.mem_iff.mp hentry)).imp_left (haccept entry)
  · exact fun entry hentry _ => .inr (hperm.mem_iff.mpr (List.mem_append_right _ hentry))

namespace AlikeEntries

variable {acceptable : Option String × Document → Prop} {alike : String → Document → Document → Prop}
  {entries entries' : Entries} (h : shape.AlikeEntries acceptable alike entries entries')
  (hsayable : ∀ entry ∈ entries, entry.2.IsSayable) (hsayable' : ∀ entry ∈ entries', entry.2.IsSayable)
  (halike : ∀ member ∈ shape.members, ∀ {document document'}, document.IsSayable →
    document'.IsSayable → alike member.key document document' →
    member.read.meaning room document = member.read.meaning room document')

include h

private theorem keysIn_perm : (shape.keysIn entries).Perm (shape.keysIn entries') := by
  obtain ⟨ordered, hperm, hagree⟩ := h.agree
  have hkeys : ordered.map Prod.fst = (shape.known entries').map Prod.fst :=
    map_eq_map_of_forall₂ (hagree.imp fun _ _ hmember => hmember.1)
  rw [keysIn, keysIn, ← hkeys]
  exact hperm.map Prod.fst

include hsayable hsayable' halike

private theorem effects_perm :
    ((shape.known entries).map fun member => shape.effect? room (some member.1, member.2)).Perm
      ((shape.known entries').map fun member => shape.effect? room (some member.1, member.2)) := by
  obtain ⟨ordered, hperm, hagree⟩ := h.agree
  refine (hperm.map _).trans (.of_eq (map_eq_map_of_forall₂ ?_))
  have hknown : ∀ member ∈ ordered, member.2.IsSayable ∧ shape.models member.1 = true := by
    intro member hmember
    obtain ⟨hentry, hmodels⟩ := mem_known_iff.mp (hperm.mem_iff.mpr hmember)
    exact ⟨hsayable _ hentry, hmodels⟩
  have hknown' : ∀ member ∈ shape.known entries', member.2.IsSayable := fun member hmember =>
    hsayable' _ (mem_known_iff.mp hmember).1
  have hpairs := (List.forall₂_and_left _ _).mpr
    ⟨hknown', ((List.forall₂_and_left _ _).mpr ⟨hknown, hagree⟩).flip⟩
  refine hpairs.flip.imp ?_
  rintro ⟨key, document⟩ ⟨_, document'⟩ ⟨hsay', ⟨hsay, hmodels⟩, rfl, hdocuments⟩
  obtain ⟨known, hmem, rfl, hfind⟩ := exists_known hmodels
  dsimp only
  rw [effect?_of_known hfind, effect?_of_known hfind]
  exact halike known hmem hsay hsay' hdocuments

/-- Of objects that are alike, one is a record if the other is, with the same core. -/
theorem made?_eq {core : α → α} (hcore : shape.HasCore core)
    (hacceptable : ∀ entry, acceptable entry → shape.IsReadable room entry) :
    (shape.made? room entries).map core = (shape.made? room entries').map core := by
  have hkeys : shape.missing? (shape.keysIn entries) = shape.missing? (shape.keysIn entries') :=
    missing?_of_perm h.keysIn_perm
  have hperm := h.effects_perm hsayable hsayable' halike
  by_cases hmade : shape.IsMade room entries
  · have hmade' : shape.IsMade room entries' :=
      ⟨h.once', hkeys ▸ hmade.2.1, effect?_ne_none_of_perm hacceptable hperm h.foreign' hmade.2.2⟩
    rw [made?_eq_some hmade, made?_eq_some hmade', Option.map_some, Option.map_some,
      hcore.core_foldl entries hsayable, hcore.core_foldl entries' hsayable']
    exact congrArg some (hcore.foldl_eq_of_perm h.once hsayable hperm (core shape.blank))
  · have hmade' : ¬ shape.IsMade room entries' := fun hmade' =>
      hmade ⟨h.once, hkeys ▸ hmade'.2.1,
        effect?_ne_none_of_perm hacceptable hperm.symm h.foreign hmade'.2.2⟩
    rw [made?_eq_none hmade, made?_eq_none hmade']

end AlikeEntries

section Alike

variable {acceptable : Option String × Document → Prop} {alike : String → Document → Document → Prop}

private theorem AlikeValues.listed?_eq {members : List (Member α)}
    {documents documents' : List Document} (h : AlikeValues alike members documents documents')
    (halike : ∀ member ∈ members, ∀ {document document'}, document.IsSayable →
      document'.IsSayable → alike member.key document document' →
      member.read.meaning room document = member.read.meaning room document')
    (hsayable : ∀ document ∈ documents, document.IsSayable)
    (hsayable' : ∀ document ∈ documents', document.IsSayable) (made : α) :
    listed? room made members documents = listed? room made members documents' := by
  induction h generalizing made with
  | nil => rfl
  | cons hfirst _ ih =>
    rw [List.forall_mem_cons] at halike hsayable hsayable'
    rw [listed?, listed?, halike.1 hsayable.1 hsayable'.1 hfirst]
    exact Option.bind_congr fun effect _ => ih halike.2 hsayable.2 hsayable'.2 (effect made)

/-- Documents that are alike are read as records with the same core, if they are read at all. -/
theorem Alike.meaning_eq {core : α → α} {document document' : Document}
    (h : shape.Alike acceptable alike document document') (hcore : shape.HasCore core)
    (hacceptable : ∀ entry, acceptable entry → shape.IsReadable (room - 1) entry)
    (halike : ∀ room, ∀ member ∈ shape.members, ∀ {document document'}, document.IsSayable →
      document'.IsSayable → alike member.key document document' →
      member.read.meaning room document = member.read.meaning room document')
    (hsayable : document.IsSayable) (hsayable' : document'.IsSayable) :
    (shape.decode.meaning room document).map core = (shape.decode.meaning room document').map core := by
  cases h with
  | same => rfl
  | object hentries =>
    rw [Decoder.Gives.meaning_eq (decode_gives_object hcore.steady _) hsayable,
      Decoder.Gives.meaning_eq (decode_gives_object hcore.steady _) hsayable']
    split
    · exact hentries.made?_eq hsayable.of_object hsayable'.of_object (halike _) hcore hacceptable
    · rfl
  | list hvalues =>
    cases hsurplus : shape.surplus with
    | dropped =>
      rw [Decoder.Gives.meaning_eq (decode_gives_list hcore.steady hsurplus _) hsayable,
        Decoder.Gives.meaning_eq (decode_gives_list hcore.steady hsurplus _) hsayable',
        hvalues.listed?_eq (halike _) hsayable.of_list hsayable'.of_list]
    | kept keep =>
      rw [Decoder.Gives.meaning_eq (decode_gives_none hsurplus _) hsayable,
        Decoder.Gives.meaning_eq (decode_gives_none hsurplus _) hsayable']

end Alike

end Shape

private theorem map_map_mapM_cons {α β γ : Type} (f : α → Option β) (g : β → γ) (a : α)
    (rest : List α) :
    ((a :: rest).mapM f).map (List.map g) =
      ((f a).map g).bind fun c => ((rest.mapM f).map (List.map g)).map (c :: ·) := by
  rw [List.mapM_cons]
  cases f a <;> cases rest.mapM f <;> rfl

/-- Lists of documents that are alike are read item by item. -/
theorem Document.AlikeLists.meaning_eq {α β : Type} {decoder : Decoder α} {core : α → β} {room : Nat}
    {alike : Document → Document → Prop} {document document' : Document}
    (h : AlikeLists alike document document') (hsteady : decoder.IsSteady)
    (halike : ∀ {document document' : Document}, document.IsSayable → document'.IsSayable →
      alike document document' →
      (decoder.meaning (room - 1) document).map core = (decoder.meaning (room - 1) document').map core)
    (hsayable : document.IsSayable) (hsayable' : document'.IsSayable) :
    (decoder.list.meaning room document).map (List.map core) =
      (decoder.list.meaning room document').map (List.map core) := by
  cases h with
  | same => rfl
  | list hitems =>
    rw [Decoder.Gives.meaning_eq (Decoder.list_gives hsteady _) hsayable,
      Decoder.Gives.meaning_eq (Decoder.list_gives hsteady _) hsayable']
    split
    · replace hsayable := hsayable.of_list
      replace hsayable' := hsayable'.of_list
      induction hitems with
      | nil => rfl
      | @cons item item' items items' hfirst _ ih =>
        rw [List.forall_mem_cons] at hsayable hsayable'
        rw [map_map_mapM_cons, map_map_mapM_cons, halike hsayable.1 hsayable'.1 hfirst,
          ih hsayable.2 hsayable'.2]
    · rfl

/-- Lists of documents that mean the same item by item mean the same. -/
theorem Document.AlikeLists.meaning_congr {α : Type} {decoder : Decoder α} {room : Nat}
    {alike : Document → Document → Prop} {document document' : Document}
    (h : AlikeLists alike document document') (hsteady : decoder.IsSteady)
    (halike : ∀ {document document' : Document}, document.IsSayable → document'.IsSayable →
      alike document document' →
      decoder.meaning (room - 1) document = decoder.meaning (room - 1) document')
    (hsayable : document.IsSayable) (hsayable' : document'.IsSayable) :
    decoder.list.meaning room document = decoder.list.meaning room document' := by
  have hmap := h.meaning_eq hsteady
    (fun hitem hitem' hsame => congrArg (Option.map id) (halike hitem hitem' hsame)) hsayable hsayable'
  rwa [List.map_id_fun, Option.map_id_fun] at hmap

end PollAudit.Json
