import PollAudit.Proofs.Json.Sequence

namespace PollAudit.Json

variable {text start rest : List Char} {document : Document}

/-- The value of a document in which fewer than `room` lists and objects are open at once. The last
of the members with one key counts. -/
def Document.value? : (room : Nat) → Document → Option Value
  | 0, _ => none
  | _ + 1, .null => some .null
  | _ + 1, .boolean b => some (.boolean b)
  | _ + 1, .number n => n.map .number
  | _ + 1, .text s => s.map .text
  | room + 1, .list items => if room = 0 then none else (items.mapM (value? room)).map .list
  | room + 1, .object members =>
    if room = 0 then none
    else
      (members.foldlM
        (fun (made : Members) (member : Option String × Document) => member.1.bind fun key =>
          (value? room member.2).map fun value => made.set key value) []).map .object

/-- An attempt on a list goes on behind an item with which it succeeds. -/
theorem mapM_cons_of_some {β γ : Type} {f : β → Option γ} {b : β} {c : γ} (h : f b = some c)
    (rest : List β) : (b :: rest).mapM f = (rest.mapM f).map (c :: ·) := by
  rw [List.mapM_cons, h]
  cases rest.mapM f <;> rfl

/-- An attempt that succeeds with every item succeeds with the list. -/
theorem mapM_eq_map {β γ : Type} {f : β → Option γ} {g : β → γ} {items : List β}
    (h : ∀ b ∈ items, f b = some (g b)) : items.mapM f = some (items.map g) := by
  induction items with
  | nil => rfl
  | cons b items ih =>
    rw [List.forall_mem_cons] at h
    rw [mapM_cons_of_some h.1, ih h.2]
    rfl

/-- An attempt that fails with an item fails with the list. -/
theorem mapM_eq_none {β γ : Type} {f : β → Option γ} {items : List β} {b : β} (hmem : b ∈ items)
    (h : f b = none) : items.mapM f = none := by
  induction hmem with
  | head items =>
    rw [List.mapM_cons, h]
    rfl
  | tail a _ ih =>
    rw [List.mapM_cons, ih]
    cases f a <;> rfl

/-- An attempt to undo a map succeeds if it does with every item. -/
theorem mapM_map_eq {β γ : Type} {f : γ → Option β} {g : β → γ} {items : List β}
    (h : ∀ b ∈ items, f (g b) = some b) : (items.map g).mapM f = some items := by
  induction items with
  | nil => rfl
  | cons b items ih =>
    rw [List.forall_mem_cons] at h
    rw [List.map_cons, mapM_cons_of_some h.1, ih h.2, Option.map_some]

/-- A fold whose steps all succeed is a fold without attempts. -/
theorem foldlM_map_eq {β γ σ : Type} {step : σ → γ → Option σ} {f : σ → β → σ} {g : β → γ}
    {items : List β} (h : ∀ b ∈ items, ∀ made, step made (g b) = some (f made b)) (made : σ) :
    (items.map g).foldlM step made = some (items.foldl f made) := by
  induction items generalizing made with
  | nil => rfl
  | cons b items ih =>
    rw [List.forall_mem_cons] at h
    rw [List.map_cons, List.foldlM_cons, h.1, List.foldl_cons]
    exact ih h.2 (f made b)

namespace Reader

/-- A text that says a document is read as the value of the document. -/
theorem reads_value {room : Nat} (hgap : Gap text start) (h : Says start document rest) :
    (value room).Reads text (document.value? room) rest := by
  induction room generalizing text start document rest with
  | zero =>
    rw [Document.value?]
    exact .failNext _
  | succ room ih =>
    rw [value]
    cases h with
    | null =>
      refine (Reads.peekWord hgap rfl).bind (Reads.skip.bind ?_)
      exact (Reads.keyword ['u', 'l', 'l']).bind (.pure _ _)
    | yes =>
      refine (Reads.peekWord hgap rfl).bind (Reads.skip.bind ?_)
      exact (Reads.keyword ['r', 'u', 'e']).bind (.pure _ _)
    | no =>
      refine (Reads.peekWord hgap rfl).bind (Reads.skip.bind ?_)
      exact (Reads.keyword ['a', 'l', 's', 'e']).bind (.pure _ _)
    | text h =>
      refine (Reads.peekWord hgap rfl).bind ?_
      exact h.reads_text.map _
    | list h =>
      refine (Reads.peekWord hgap rfl).bind ?_
      simp only [Document.value?]
      split
      · exact .failNext _
      · exact Reads.skip.bind ((Reads.items Says.isItem (ih (.none _)) h).map _)
    | object h =>
      refine (Reads.peekWord hgap rfl).bind ?_
      simp only [Document.value?]
      split
      · exact .failNext _
      · refine Reads.skip.bind (Reads.map ?_ _)
        refine Reads.members Says.isItem ?_ ?_ h
        · exact fun _ _ => rfl
        · intro key made text behind start document rest hcolon hgap hdoc
          exact (Reads.colon hcolon).bind ((ih hgap hdoc).map fun value => made.set key value)
    | number h hends =>
      obtain ⟨c, later, rfl, hc⟩ := h.exists_cons
      have hnumber := (reads_number h hends).map Value.number
      have hcheck : (decide (c = '-') || c.isDigit) = true := by simpa using hc
      refine (Reads.peekWord hgap (isBlank_of_sign_or_digit hc)).bind ?_
      obtain rfl | hdigit := hc
      · exact hnumber
      · split
        all_goals try (rename_i heq; cases heq; cases hdigit)
        · cases ‹some c = none›
        · cases ‹some c = some _›
          simp only [hcheck, if_true]
          exact hnumber

end Reader

end PollAudit.Json
