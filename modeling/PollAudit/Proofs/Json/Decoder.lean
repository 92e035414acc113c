import PollAudit.Json.Decoder
import PollAudit.Proofs.Json.Sequence

namespace PollAudit.Json

variable {α β : Type} {text start rest : List Char} {document : Document} {room : Nat}

/-- Some text says the document. -/
def Document.IsSayable (document : Document) : Prop := ∃ text rest, Says text document rest

/-- What some text says can be said. -/
theorem Document.IsSaidBy.isSayable {text : String} (h : document.IsSaidBy text) : document.IsSayable := by
  obtain ⟨start, rest, _, hdoc, _⟩ := h
  exact ⟨start, rest, hdoc⟩

/-- What stands in a list that can be said can be said itself. -/
theorem Document.IsSayable.of_list {items : List Document} (h : (list items).IsSayable) :
    ∀ item ∈ items, item.IsSayable := by
  obtain ⟨_, _, ⟨⟩⟩ := h
  exact Sequence.forall (fun h => ⟨_, _, h⟩) ‹_›

/-- What stands in an object that can be said can be said itself. -/
theorem Document.IsSayable.of_object {members : List (Option String × Document)}
    (h : (object members).IsSayable) : ∀ member ∈ members, member.2.IsSayable := by
  obtain ⟨_, _, ⟨⟩⟩ := h
  refine Sequence.forall ?_ ‹_›
  rintro _ _ _ ⟨_, _, _, h⟩
  exact ⟨_, _, h⟩

private theorem Reader.Finds.unique {outcome : Except Fault (α × Cursor)}
    {expected expected' : Option α} (h : Finds outcome expected rest)
    (h' : Finds outcome expected' rest) : expected = expected' := by
  cases h <;> cases h' <;> rfl

namespace Decoder

open Reader

/-- The decoder makes of the document what is expected, in whatever text it stands. -/
def Gives (decoder : Decoder α) (room : Nat) (document : Document) (expected : Option α) : Prop :=
  ∀ ⦃text start rest⦄, Gap text start → Says start document rest →
    (decoder room).Reads text expected rest

/-- What a decoder makes of a whole text hangs on what the text says. -/
theorem Gives.run {decoder : Decoder α} {expected : Option α}
    (h : decoder.Gives depthLimit document expected) {text : String} (hsaid : document.IsSaidBy text) :
    (decoder.run text).toOption = expected := by
  obtain ⟨start, rest, hgap, hdoc, hend⟩ := hsaid
  exact (h hgap hdoc).run hend

/-- The decoder goes by what a text says, and not by how it is written. -/
def IsSteady (decoder : Decoder α) : Prop :=
  ∀ room document, ∃ expected, decoder.Gives room document expected

open Classical in
/-- What a decoder makes of a document. -/
noncomputable def meaning (decoder : Decoder α) (room : Nat) (document : Document) : Option α :=
  if h : document.IsSayable ∧ ∃ expected, decoder.Gives room document expected then h.2.choose
  else none

/-- What a decoder gives for a document that can be said is its meaning. -/
theorem Gives.meaning_eq {decoder : Decoder α} {expected : Option α}
    (h : decoder.Gives room document expected) (hsayable : document.IsSayable) :
    decoder.meaning room document = expected := by
  have hex : document.IsSayable ∧ ∃ expected, decoder.Gives room document expected :=
    ⟨hsayable, expected, h⟩
  rw [meaning, dif_pos hex]
  obtain ⟨text, rest, hdoc⟩ := hsayable
  exact (hex.2.choose_spec (.none text) hdoc {}).unique (h (.none text) hdoc {})

/-- A steady decoder gives the meaning, whatever the text. -/
theorem IsSteady.gives {decoder : Decoder α} (h : decoder.IsSteady) (room : Nat) (document : Document) :
    decoder.Gives room document (decoder.meaning room document) := by
  intro text start rest hgap hdoc
  obtain ⟨expected, hgives⟩ := h room document
  rw [hgives.meaning_eq ⟨start, rest, hdoc⟩]
  exact hgives hgap hdoc

/-- A function behind a decoder is applied to what it gives. -/
theorem Gives.map {decoder : Decoder α} {expected : Option α}
    (h : decoder.Gives room document expected) (f : α → β) :
    Gives (fun room => f <$> decoder room) room document (expected.map f) :=
  fun _ _ _ hgap hdoc => (h hgap hdoc).map f

/-- A decoder stays steady with a function behind it. -/
theorem IsSteady.map {decoder : Decoder α} (h : decoder.IsSteady) (f : α → β) :
    IsSteady (fun room => f <$> decoder room) := fun room document =>
  ⟨_, (h.gives room document).map f⟩

/-- With a function behind a decoder its meanings are mapped. -/
theorem IsSteady.meaning_map {decoder : Decoder α} (h : decoder.IsSteady) (f : α → β)
    (hsayable : document.IsSayable) :
    meaning (fun room => f <$> decoder room) room document = (decoder.meaning room document).map f :=
  ((h.gives room document).map f).meaning_eq hsayable

/-- Every value is read from its first character on. -/
theorem reads_start {c : Char} (hgap : Gap text (c :: rest)) (hblank : isBlank c = false) :
    Decoder.start.Reads text (some c) (c :: rest) :=
  (Reads.peekWord hgap hblank).bind (.pure c _)

/-- A value of another type is refused. -/
theorem reads_mismatch {type : String} (hgap : Gap text start) (h : Says start document rest) :
    (mismatch type : Reader α).Reads text none rest := by
  rw [mismatch]
  cases h with
  | null =>
    refine (Reads.peekWord hgap rfl).bind (Reads.skip.bind ?_)
    exact (Reads.keyword ['u', 'l', 'l']).bind (.failHere _)
  | yes =>
    refine (Reads.peekWord hgap rfl).bind (Reads.skip.bind ?_)
    exact (Reads.keyword ['r', 'u', 'e']).bind (.failHere _)
  | no =>
    refine (Reads.peekWord hgap rfl).bind (Reads.skip.bind ?_)
    exact (Reads.keyword ['a', 'l', 's', 'e']).bind (.failHere _)
  | text h => exact (Reads.peekWord hgap rfl).bind (h.reads_text.bind_failing fun _ => .failHere _)
  | list _ => exact (Reads.peekWord hgap rfl).bind (.failHere _)
  | object _ => exact (Reads.peekWord hgap rfl).bind (.failHere _)
  | number h hends =>
    obtain ⟨c, later, rfl, hc⟩ := h.exists_cons
    have hcheck : (decide (c = '-') || c.isDigit) = true := by simpa using hc
    refine (Reads.peekWord hgap (isBlank_of_sign_or_digit hc)).bind ?_
    split
    · cases ‹some c = none›
    all_goals try (rename_i heq; cases heq; cases hcheck)
    cases ‹some c = some _›
    simp only [hcheck, if_true]
    exact (reads_number h hends).bind_failing fun _ => .failHere _

/-- A text is decoded from a text, unless an escape in it is broken. -/
theorem text_gives (room : Nat) (s : Option String) : Decoder.text.Gives room (.text s) s := by
  rintro text start rest hgap ⟨⟩
  exact (reads_start hgap rfl).bind (Letters.reads_text ‹_›)

/-- Whether a text is decoded does not depend on how it was written. -/
theorem isSteady_text : Decoder.text.IsSteady := by
  intro room document
  cases document with
  | text s => exact ⟨s, text_gives room s⟩
  | _ =>
    refine ⟨none, fun _ _ _ hgap hdoc => ?_⟩
    obtain ⟨c, later, rfl, hc⟩ := hdoc.exists_opening
    refine (reads_start hgap hc.isBlank_eq).bind ?_
    rw [if_neg]
    · exact reads_mismatch (.none _) hdoc
    · rintro rfl
      simp [Document.IsOpenedBy] at hc

theorem flag_gives (room : Nat) (b : Bool) : Decoder.flag.Gives room (.boolean b) (some b) := by
  intro text start rest hgap hdoc
  cases hdoc with
  | yes =>
    refine (reads_start hgap rfl).bind (Reads.skip.bind ?_)
    exact (Reads.keyword ['r', 'u', 'e']).bind (.pure true _)
  | no =>
    refine (reads_start hgap rfl).bind (Reads.skip.bind ?_)
    exact (Reads.keyword ['a', 'l', 's', 'e']).bind (.pure false _)

theorem isSteady_flag : Decoder.flag.IsSteady := by
  intro room document
  cases document with
  | boolean b => exact ⟨some b, flag_gives room b⟩
  | _ =>
    refine ⟨none, fun _ _ _ hgap hdoc => ?_⟩
    obtain ⟨c, later, rfl, hc⟩ := hdoc.exists_opening
    refine (reads_start hgap hc.isBlank_eq).bind ?_
    split
    · simp [Document.IsOpenedBy] at hc
    · simp [Document.IsOpenedBy] at hc
    · exact reads_mismatch (.none _) hdoc

section Integer

variable (least greatest : Int) (type : String)

private theorem integer_gives_of_number (room : Nat) (n : Option Number) :
    (integer least greatest type).Gives room (.number n)
      (n.bind fun
        | .integer n => if least ≤ n && n ≤ greatest then some n else none
        | .real _ => none) := by
  intro text start rest hgap hdoc
  cases hdoc with
  | number h hends =>
    obtain ⟨c, later, rfl, hc⟩ := h.exists_cons
    have hcheck : (decide (c = '-') || c.isDigit) = true := by simpa using hc
    refine (reads_start hgap (isBlank_of_sign_or_digit hc)).bind ?_
    rw [if_pos hcheck]
    refine (reads_number h hends).bind_option fun n _ => ?_
    cases n with
    | integer n =>
      dsimp only
      split
      · exact .pure n _
      · exact .failHere _
    | real x => exact .failHere _

/-- An integer within the bounds is decoded as it is. -/
theorem integer_gives {n : Int} (hleast : least ≤ n) (hgreatest : n ≤ greatest) :
    (integer least greatest type).Gives room (.number (some (.integer n))) (some n) := by
  intro text start rest hgap hdoc
  have hreads := integer_gives_of_number least greatest type room (some (.integer n)) hgap hdoc
  simpa [hleast, hgreatest] using hreads

/-- What becomes of a number does not depend on how it was written. -/
theorem isSteady_integer : (integer least greatest type).IsSteady := by
  intro room document
  by_cases hnumber : ∃ n, document = .number n
  · obtain ⟨n, rfl⟩ := hnumber
    exact ⟨_, integer_gives_of_number least greatest type room n⟩
  · refine ⟨none, fun _ _ _ hgap hdoc => ?_⟩
    obtain ⟨c, later, rfl, hc⟩ := hdoc.exists_opening
    refine (reads_start hgap hc.isBlank_eq).bind ?_
    rw [if_neg]
    · exact reads_mismatch (.none _) hdoc
    · rw [Bool.or_eq_true, decide_eq_true_eq]
      exact fun hdigit => hnumber (hc.exists_number hdigit)

end Integer

/-- An integer of 64 bits with a sign. -/
def IsInt64 (n : Int) : Prop := -9223372036854775808 ≤ n ∧ n ≤ 9223372036854775807

section Optional

variable {decoder : Decoder α}

/-- Null is taken for nothing. -/
theorem optional_gives_null : decoder.optional.Gives room .null (some none) := by
  rintro text start rest hgap ⟨⟩
  refine (Reads.peekWord hgap rfl).bind (Reads.skip.bind ?_)
  exact (Reads.keyword ['u', 'l', 'l']).bind (.pure none _)

/-- What is not null is decoded as if it were not optional. -/
theorem optional_gives {expected : Option α} (hnull : document ≠ .null)
    (h : decoder.Gives room document expected) :
    decoder.optional.Gives room document (expected.map some) := by
  intro text start rest hgap hdoc
  obtain ⟨c, later, rfl, hc⟩ := hdoc.exists_opening
  refine (Reads.peekWord hgap hc.isBlank_eq).bind ?_
  split
  · refine absurd ?_ hnull
    cases Option.some.inj ‹_›
    cases document <;> simp [Document.IsOpenedBy] at hc ⊢
  · exact (h (.none _) hdoc).map some

theorem IsSteady.optional (h : decoder.IsSteady) : decoder.optional.IsSteady := by
  intro room document
  by_cases hnull : document = .null
  · exact ⟨some none, hnull ▸ optional_gives_null⟩
  · exact ⟨_, optional_gives hnull (h.gives room document)⟩

end Optional

section List

variable {decoder : Decoder α}

/-- There is room for what is inside of a list or an object, or there is none for the whole. -/
theorem reads_descend {inside : Nat → Reader α} {expected : Option α} {c : Char} {behind : List Char}
    (h : 1 < room → (inside (room - 1)).Reads behind expected rest) :
    (descend room inside).Reads (c :: behind) (if 1 < room then expected else none) rest := by
  rw [descend]
  split
  · rw [if_neg (by omega)]
    exact .failNext _
  · rw [if_pos (by omega)]
    exact Reads.skip.bind (h (by omega))

/-- A list is decoded item by item, one level deeper. -/
theorem list_gives (h : decoder.IsSteady) (items : List Document) :
    decoder.list.Gives room (.list items)
      (if 1 < room then items.mapM (decoder.meaning (room - 1)) else none) := by
  rintro text start rest hgap ⟨⟩
  refine (reads_start hgap rfl).bind ?_
  rw [if_pos rfl]
  exact reads_descend fun _ => Reads.items Says.isItem (h.gives _ _ (.none _)) ‹_›

/-- A list is decoded steadily if its items are. -/
theorem IsSteady.list (h : decoder.IsSteady) : decoder.list.IsSteady := by
  intro room document
  cases document with
  | list items => exact ⟨_, list_gives h items⟩
  | _ =>
    refine ⟨none, fun _ _ _ hgap hdoc => ?_⟩
    obtain ⟨c, later, rfl, hc⟩ := hdoc.exists_opening
    refine (reads_start hgap hc.isBlank_eq).bind ?_
    rw [if_neg]
    · exact reads_mismatch (.none _) hdoc
    · rintro rfl
      simp [Document.IsOpenedBy] at hc

end List

end Decoder

end PollAudit.Json
