import PollAudit.Proofs.Json.Document

namespace PollAudit.Json

variable {text behind rest : List Char} {c : Char}

namespace Gap

/-- Blanks only make a text longer. -/
theorem length_le (h : Gap text rest) : rest.length ≤ text.length := by
  induction h with
  | none text => exact Nat.le_refl _
  | blank _ _ ih => exact Nat.le_succ_of_le ih

end Gap

namespace Reader

variable {α β : Type}

/-- An attempt to read has found what is expected and leaves the rest, or has failed if nothing is
expected. -/
inductive Finds : Except Fault (α × Cursor) → Option α → List Char → Prop
  | ok (a : α) (rest : List Char) (place : Place) : Finds (.ok (a, ⟨rest, place⟩)) (some a) rest
  | error (fault : Fault) (rest : List Char) : Finds (.error fault) none rest

private theorem Finds.toOption_eq {outcome : Except Fault (α × Cursor)} {expected : Option α}
    (h : Finds outcome expected rest) :
    (outcome.map Prod.fst).toOption = expected := by
  cases h <;> rfl

/-- An outcome that counts as something is a success. -/
theorem eq_ok_of_toOption {outcome : Except Fault α} {a : α} (h : outcome.toOption = some a) :
    outcome = .ok a := by
  cases outcome with
  | error fault => cases h
  | ok b => exact congrArg _ (Option.some.inj h)

/-- Reads what the reader reads, and fails if anything but blanks is behind it. -/
def whole (reader : Reader α) : Reader α := do
  let a ← reader
  match ← peekWord with
  | none => pure a
  | some _ => failNext .trailingCharacters

/-- To run a reader is to read a whole text with it. -/
theorem run_eq_map (reader : Reader α) (text : String) :
    reader.run text = (reader.whole (Cursor.ofText text)).map Prod.fst := by
  change (reader.whole (Cursor.ofText text) >>= fun found => pure found.1) = _
  cases reader.whole (Cursor.ofText text) <;> rfl

/-- Wherever its text stands, the reader takes from it what is expected and leaves the rest, or it
fails if nothing is expected. -/
def Reads (reader : Reader α) (text : List Char) (expected : Option α) (rest : List Char) : Prop :=
  ∀ place, Finds (reader ⟨text, place⟩) expected rest

namespace Reads

variable {reader : Reader α} {next : α → Reader β} {a : α}

/-- A result alone reads nothing. -/
theorem pure (a : α) (text : List Char) : Reads (Pure.pure a) text (some a) text :=
  fun place => .ok a text place

/-- What a reader finds is what it reads. -/
theorem found?_eq {expected : Option α} (h : reader.Reads text expected rest) :
    reader.found? text = expected := by
  have hfinds := h {}
  rw [Reader.found?]
  generalize reader ⟨text, {}⟩ = outcome at hfinds
  cases hfinds <;> rfl

/-- A reader that reads something ends well wherever the text stands. -/
theorem exists_eq_ok (h : reader.Reads text (some a) rest) (place : Place) :
    ∃ place', reader ⟨text, place⟩ = .ok (a, ⟨rest, place'⟩) := by
  have hfinds := h place
  generalize reader ⟨text, place⟩ = outcome at hfinds
  cases hfinds with
  | ok _ _ place' => exact ⟨place', rfl⟩

/-- Two readers read one after the other, the second from where the first ended. -/
theorem bind {expected : Option β} (h : reader.Reads text (some a) behind)
    (hnext : (next a).Reads behind expected rest) : (reader >>= next).Reads text expected rest := by
  intro place
  have hfinds := h place
  simp only [Bind.bind, StateT.bind]
  cases hreader : reader ⟨text, place⟩ with
  | error fault =>
    rw [hreader] at hfinds
    cases hfinds
  | ok found =>
    rw [hreader] at hfinds
    cases hfinds with
    | ok _ _ place' => exact hnext place'

/-- If the first of two readers fails, so do both. -/
theorem bind_none (h : reader.Reads text none behind) : (reader >>= next).Reads text none rest := by
  intro place
  have hfinds := h place
  simp only [Bind.bind, StateT.bind]
  cases hreader : reader ⟨text, place⟩ with
  | error fault => exact .error fault rest
  | ok found =>
    rw [hreader] at hfinds
    cases hfinds

/-- What is expected of the second reader may hang on what the first one finds. -/
theorem bind_option {found : Option α} {expected : α → Option β} (h : reader.Reads text found behind)
    (hnext : ∀ a, found = some a → (next a).Reads behind (expected a) rest) :
    (reader >>= next).Reads text (found.bind expected) rest := by
  cases found with
  | none => exact h.bind_none
  | some a => exact h.bind (hnext a rfl)

/-- If the second of two readers fails whatever the first one found, so do both. -/
theorem bind_failing {found : Option α} (h : reader.Reads text found behind)
    (hnext : ∀ a, (next a).Reads behind none rest) : (reader >>= next).Reads text none rest := by
  cases found with
  | none => exact h.bind_none
  | some a => exact h.bind (hnext a)

/-- A function behind a reader is applied to what it reads. -/
theorem map {found : Option α} (h : reader.Reads text found rest) (f : α → β) :
    (f <$> reader).Reads text (found.map f) rest := by
  rw [map_eq_pure_bind]
  cases found with
  | none => exact h.bind_none
  | some a => exact h.bind (.pure (f a) rest)

/-- A failure at this place reads nothing. -/
theorem failHere (reason : Reason) : (Reader.failHere reason : Reader α).Reads text none rest :=
  fun _ => .error _ rest

/-- A failure at the next character reads nothing. -/
theorem failNext (reason : Reason) : (Reader.failNext reason : Reader α).Reads text none rest :=
  fun _ => .error _ rest

/-- A look at the next character leaves it where it is. -/
theorem peek (text : List Char) : Reader.peek.Reads text (some text.head?) text :=
  fun place => .ok text.head? text place

/-- What is read may depend on the place in the text, as long as it is the same at every place. -/
theorem get_bind {next : Cursor → Reader β} {expected : Option β}
    (h : ∀ place, (next ⟨text, place⟩).Reads text expected rest) :
    (get >>= next).Reads text expected rest :=
  fun place => h place place

/-- A character is skipped. -/
theorem skip : Reader.skip.Reads (c :: text) (some ()) text := fun place => .ok () text (place.after c)

end Reads

private theorem go_of_gap (h : Gap text behind)
    (hword : ∀ c, behind.head? = some c → isBlank c = false)
    (place : Place) : ∃ place', Cursor.dropBlanks.go text place = ⟨behind, place'⟩ := by
  induction h generalizing place with
  | none text =>
    cases text with
    | nil => exact ⟨place, rfl⟩
    | cons c text =>
      refine ⟨place, ?_⟩
      rw [Cursor.dropBlanks.go, hword c rfl]
      rfl
  | @blank c _ _ hblank _ ih =>
    obtain ⟨place', hgo⟩ := ih hword (place.after c)
    refine ⟨place', ?_⟩
    rw [Cursor.dropBlanks.go, hblank]
    exact hgo

namespace Reads

/-- The blanks in front of a word are skipped, and the word stays. -/
theorem peekWord (h : Gap text (c :: rest)) (hword : isBlank c = false) :
    Reader.peekWord.Reads text (some (some c)) (c :: rest) := by
  intro place
  obtain ⟨place', hgo⟩ := go_of_gap h (fun d hd => Option.some.inj hd ▸ hword) place
  rw [Reader.peekWord, Cursor.dropBlanks, hgo]
  exact .ok (some c) (c :: rest) place'

private theorem peekWord_nil (h : Gap text []) : Reader.peekWord.Reads text (some none) [] := by
  intro place
  obtain ⟨place', hgo⟩ := go_of_gap h (fun _ => nofun) place
  rw [Reader.peekWord, Cursor.dropBlanks, hgo]
  exact .ok none [] place'

/-- A keyword is read by its letters. -/
theorem keyword (letters : List Char) : (Reader.keyword letters).Reads (letters ++ rest) (some ()) rest := by
  induction letters with
  | nil => exact .pure () rest
  | cons c letters ih =>
    refine (peek _).bind ?_
    simp only [List.cons_append, List.head?_cons, if_true]
    exact skip.bind ih

/-- A colon may have blanks in front of it. -/
theorem colon (h : Gap text (':' :: rest)) : Reader.colon.Reads text (some ()) rest :=
  (peekWord h rfl).bind skip

private theorem whole {reader : Reader α} {expected : Option α}
    (h : reader.Reads text expected behind) (hend : Gap behind []) :
    reader.whole.Reads text expected [] := by
  cases expected with
  | none => exact h.bind_none
  | some a => exact h.bind ((peekWord_nil hend).bind (.pure a []))

/-- A text that holds one document and nothing else is read as a whole. -/
theorem run {reader : Reader α} {expected : Option α} {word : String}
    (h : reader.Reads word.toList expected behind) (hend : Gap behind []) :
    (reader.run word).toOption = expected := by
  rw [run_eq_map]
  exact (h.whole hend {}).toOption_eq

end Reads

end Reader

end PollAudit.Json
