import PollAudit.Proofs.Json.Number
import PollAudit.Proofs.Json.Text

namespace PollAudit.Json

variable {α β σ : Type} {text rest : List Char} {document : Document}

/-- What a number begins with is no blank. -/
theorem isBlank_of_sign_or_digit {c : Char} (h : c = '-' ∨ c.isDigit = true) : isBlank c = false := by
  rw [Bool.eq_false_iff]
  intro hblank
  simp only [isBlank, Bool.or_eq_true, beq_iff_eq] at hblank
  obtain ((rfl | rfl) | rfl) | rfl := hblank <;> simp at h

/-- Parts of a text that can be told from the blanks and brackets around them, and that use up some
of it. -/
structure IsItem (Item : List Char → α → List Char → Prop) : Prop where
  starts : ∀ {text a rest}, Item text a rest →
    ∃ c later, text = c :: later ∧ isBlank c = false ∧ c ≠ ']' ∧ c ≠ '\x7d'
  shrinks : ∀ {text a rest}, Item text a rest → rest.length < text.length

private theorem Quad.length_lt {n : Nat} (h : Quad text n rest) : rest.length < text.length := by
  cases h
  simp only [List.length_cons]
  omega

/-- The letters of a text are followed by a quote at least. -/
theorem Letters.length_lt {s : Option (List Char)} (h : Letters text s rest) :
    rest.length < text.length := by
  induction h with
  | close => exact Nat.lt_succ_self _
  | plain _ _ _ _ ih => exact Nat.lt_succ_of_lt ih
  | short _ _ ih => exact Nat.lt_succ_of_lt (Nat.lt_succ_of_lt ih)
  | unit hquad _ _ _ ih =>
    have hlength := hquad.length_lt
    simp only [List.length_cons]
    omega
  | pair hquad _ hquad' _ _ ih =>
    have hlength := hquad.length_lt
    have hlength' := hquad'.length_lt
    simp only [List.length_cons] at hlength ⊢
    omega
  | lone hquad _ _ ih =>
    have hlength := hquad.length_lt
    simp only [List.length_cons]
    omega

private theorem Later.length_lt {close : Char} {Item : List Char → α → List Char → Prop}
    {items : List α} (hitem : ∀ {text a rest}, Item text a rest → rest.length < text.length)
    (h : Later close Item items text rest) : rest.length < text.length := by
  induction h with
  | close h => exact h.length_le
  | comma hcomma hgap hfirst _ ih =>
    have hlength := hcomma.length_le
    have hlength' := hgap.length_le
    have hlength'' := hitem hfirst
    rw [List.length_cons] at hlength
    omega

private theorem Sequence.length_lt {close : Char} {Item : List Char → α → List Char → Prop}
    {items : List α} (hitem : ∀ {text a rest}, Item text a rest → rest.length < text.length)
    (h : Sequence close Item items text rest) : rest.length < text.length := by
  cases h with
  | empty h => exact h.length_le
  | items hgap hfirst hlater =>
    have hlength := hgap.length_le
    have hlength' := hitem hfirst
    have hlength'' := hlater.length_lt hitem
    omega

/-- What holds of whatever can be an item holds of all items. -/
theorem Later.forall {close : Char} {Item : List Char → α → List Char → Prop} {items : List α}
    {p : α → Prop} (hitem : ∀ {text a rest}, Item text a rest → p a)
    (h : Later close Item items text rest) : ∀ a ∈ items, p a := by
  induction h with
  | close _ => exact nofun
  | comma _ _ hfirst _ ih => exact List.forall_mem_cons.mpr ⟨hitem hfirst, ih⟩

/-- What holds of every item that is said holds of all items of a list. -/
theorem Sequence.forall {close : Char} {Item : List Char → α → List Char → Prop} {items : List α}
    {p : α → Prop} (hitem : ∀ {text a rest}, Item text a rest → p a)
    (h : Sequence close Item items text rest) : ∀ a ∈ items, p a := by
  cases h with
  | empty _ => exact nofun
  | items _ hfirst hlater => exact List.forall_mem_cons.mpr ⟨hitem hfirst, hlater.forall hitem⟩

private theorem Entry.length_lt {Item : List Char → Document → List Char → Prop}
    {entry : Option String × Document}
    (hitem : ∀ {text a rest}, Item text a rest → rest.length < text.length)
    (h : Entry Item text entry rest) : rest.length < text.length := by
  cases h with
  | mk hkey hcolon hgap hvalue =>
    have hlength := hkey.length_lt
    have hlength' := hcolon.length_le
    have hlength'' := hgap.length_le
    have hlength''' := hitem hvalue
    simp only [List.length_cons] at hlength' ⊢
    omega

namespace Document

/-- The first characters of a document of this kind. -/
def IsOpenedBy (document : Document) (c : Char) : Prop :=
  match document with
  | null => c = 'n'
  | boolean b => c = 't' ∧ b = true ∨ c = 'f' ∧ b = false
  | number _ => c = '-' ∨ c.isDigit = true
  | .text _ => c = '"'
  | list _ => c = '['
  | object _ => c = '\x7b'

namespace IsOpenedBy

variable {c : Char}

/-- No document begins with a blank. -/
theorem isBlank_eq (h : document.IsOpenedBy c) : isBlank c = false := by
  cases document with
  | boolean b => obtain ⟨rfl, _⟩ | ⟨rfl, _⟩ := h <;> rfl
  | number n => exact isBlank_of_sign_or_digit h
  | _ =>
    cases h
    rfl

/-- No document begins with a closing bracket. -/
theorem ne_close (h : document.IsOpenedBy c) : c ≠ ']' ∧ c ≠ '\x7d' := by
  constructor
  · rintro rfl
    cases document <;> simp [IsOpenedBy] at h
  · rintro rfl
    cases document <;> simp [IsOpenedBy] at h

/-- No document begins with a comma. -/
theorem ne_comma (h : document.IsOpenedBy c) : c ≠ ',' := by
  rintro rfl
  cases document <;> simp [IsOpenedBy] at h

/-- What begins with a sign or a digit is a number. -/
theorem exists_number (h : document.IsOpenedBy c) (hc : c = '-' ∨ c.isDigit = true) :
    ∃ n, document = number n := by
  cases document with
  | number n => exact ⟨n, rfl⟩
  | boolean b => obtain ⟨rfl, _⟩ | ⟨rfl, _⟩ := h <;> simp at hc
  | _ =>
    cases h
    simp at hc

end IsOpenedBy

end Document

namespace Says

/-- What holds of the scalars, and of a list or an object when it holds of what is in it, holds of
every document. -/
theorem induct {P : List Char → Document → List Char → Prop}
    (null : ∀ {rest}, P ('n' :: 'u' :: 'l' :: 'l' :: rest) .null rest)
    (yes : ∀ {rest}, P ('t' :: 'r' :: 'u' :: 'e' :: rest) (.boolean true) rest)
    (no : ∀ {rest}, P ('f' :: 'a' :: 'l' :: 's' :: 'e' :: rest) (.boolean false) rest)
    (number : ∀ {numeral rest}, IsNumeral numeral → EndsNumber rest →
      P (numeral ++ rest) (.number (numberOf? numeral)) rest)
    (string : ∀ {text s rest}, Letters text s rest →
      P ('"' :: text) (.text (s.map String.ofList)) rest)
    (list : ∀ {items text rest},
      Sequence ']' (fun text item rest => Says text item rest ∧ P text item rest) items text rest →
      P ('[' :: text) (.list items) rest)
    (object : ∀ {members text rest},
      Sequence '\x7d' (Entry fun text item rest => Says text item rest ∧ P text item rest) members text
        rest →
      P ('\x7b' :: text) (.object members) rest)
    (h : Says text document rest) : P text document rest := by
  let Item := fun text item rest => Says text item rest ∧ P text item rest
  -- `Says` is nested in the sequences and the entries, so each of them has a motive of its own.
  refine @Says.rec (fun text document rest _ => P text document rest)
    (fun items text rest _ => Sequence ']' Item items text rest)
    (fun members text rest _ => Sequence '\x7d' (Entry Item) members text rest)
    (fun items text rest _ => Later ']' Item items text rest)
    (fun text entry rest _ => Entry Item text entry rest)
    (fun members text rest _ => Later '\x7d' (Entry Item) members text rest)
    null yes no number string (fun _ => list) (fun _ => object) .empty ?_ .empty ?_ .close ?_ ?_
    .close ?_ text document rest h
  · exact fun hgap hdoc _ hitem hlater => .items hgap ⟨hdoc, hitem⟩ hlater
  · exact fun hgap _ _ hentry hlater => .items hgap hentry hlater
  · exact fun hcomma hgap hdoc _ hitem hlater => .comma hcomma hgap ⟨hdoc, hitem⟩ hlater
  · exact fun hkey hcolon hgap hdoc hvalue => .mk hkey hcolon hgap ⟨hdoc, hvalue⟩
  · exact fun hcomma hgap _ _ hentry hlater => .comma hcomma hgap hentry hlater

/-- The first character tells what kind of document follows. -/
theorem exists_opening (h : Says text document rest) :
    ∃ c later, text = c :: later ∧ document.IsOpenedBy c := by
  cases h with
  | number h _ =>
    obtain ⟨c, later, rfl, hc⟩ := h.exists_cons
    exact ⟨c, _, rfl, hc⟩
  | yes => exact ⟨_, _, rfl, .inl ⟨rfl, rfl⟩⟩
  | no => exact ⟨_, _, rfl, .inr ⟨rfl, rfl⟩⟩
  | _ => exact ⟨_, _, rfl, rfl⟩

/-- What says a document begins with a character that no list ends with. -/
theorem exists_cons (h : Says text document rest) :
    ∃ c later, text = c :: later ∧ isBlank c = false ∧ c ≠ ']' ∧ c ≠ '\x7d' := by
  obtain ⟨c, later, rfl, hc⟩ := h.exists_opening
  exact ⟨c, later, rfl, hc.isBlank_eq, hc.ne_close⟩

/-- A document takes one character at least. -/
theorem length_lt (h : Says text document rest) : rest.length < text.length := by
  refine Says.induct (P := fun text _ rest => rest.length < text.length) ?_ ?_ ?_ ?_ ?_ ?_ ?_ h
  · simp only [List.length_cons]
    omega
  · simp only [List.length_cons]
    omega
  · simp only [List.length_cons]
    omega
  · intro numeral rest hnumeral _
    obtain ⟨c, later, rfl, _⟩ := hnumeral.exists_cons
    simp only [List.cons_append, List.length_cons, List.length_append]
    omega
  · exact fun hletters => Nat.lt_succ_of_lt hletters.length_lt
  · exact fun hitems => Nat.lt_succ_of_lt (hitems.length_lt And.right)
  · exact fun hmembers => Nat.lt_succ_of_lt (hmembers.length_lt (Entry.length_lt And.right))

/-- A document can stand as an item of a list. -/
theorem isItem : IsItem Says := ⟨exists_cons, length_lt⟩

end Says

/-- A document with a key in front can stand as a member of an object. -/
theorem Entry.isItem {Item : List Char → Document → List Char → Prop} (h : IsItem Item) :
    IsItem (Entry Item) where
  starts := by
    rintro _ _ _ ⟨⟩
    exact ⟨_, _, rfl, rfl, by decide, by decide⟩
  shrinks := Entry.length_lt h.shrinks

/-- An item that was read goes to the front of those that follow. -/
theorem map_mapM_cons (meaning : β → Option α) (found : List α) (b : β) (items : List β) :
    ((b :: items).mapM meaning).map (found.reverse ++ ·) =
      (meaning b).bind fun a => (items.mapM meaning).map ((a :: found).reverse ++ ·) := by
  rw [List.mapM_cons]
  cases meaning b with
  | none => rfl
  | some a =>
    cases items.mapM meaning with
    | none => rfl
    | some later => simp

namespace Reader.Reads

section Items

variable {Item : List Char → β → List Char → Prop} {item : Reader α} {meaning : β → Option α}
  (hitem : IsItem Item)
  (hreads : ∀ {text b rest}, Item text b rest → item.Reads text (meaning b) rest)

include hitem hreads

/-- The items that follow others are read. Every step of the loop uses up a character. -/
theorem itemsLoop {items : List β} {found : List α} {fuel : Nat} (hfound : found ≠ [])
    (h : Later ']' Item items text rest) (hfuel : text.length < fuel) :
    (Reader.items.loop item found fuel).Reads text
      ((items.mapM meaning).map (found.reverse ++ ·)) rest := by
  induction h generalizing found fuel with
  | close hgap =>
    obtain ⟨fuel, rfl⟩ := Nat.exists_eq_add_of_lt hfuel
    rw [Reader.items.loop]
    refine (peekWord hgap rfl).bind (skip.bind ?_)
    simpa using pure found.reverse _
  | @comma text behind start next rest b items hcomma hgap hfirst hlater ih =>
    obtain ⟨fuel, rfl⟩ := Nat.exists_eq_add_of_lt hfuel
    have hempty : found.isEmpty = false := by simpa using hfound
    have hshrinks := hitem.shrinks hfirst
    have hlength := hcomma.length_le
    have hlength' := hgap.length_le
    obtain ⟨c, later, rfl, hblank, hclose, _⟩ := hitem.starts hfirst
    rw [Reader.items.loop, map_mapM_cons]
    refine (peekWord hcomma rfl).bind ?_
    simp only [hempty, Bool.false_eq_true, if_false]
    refine skip.bind ((peekWord hgap hblank).bind ?_)
    split
    · rename_i heq
      cases heq
    · rename_i heq
      exact absurd (Option.some.inj heq) hclose
    · refine (hreads hfirst).bind_option fun a _ => ih (List.cons_ne_nil a found) ?_
      simp only [List.length_cons] at hlength hlength' hshrinks ⊢
      omega

/-- A list is read item by item. -/
theorem items {items : List β} (h : Sequence ']' Item items text rest) :
    (Reader.items item).Reads text (items.mapM meaning) rest := by
  rw [Reader.items]
  refine get_bind fun place => ?_
  rw [Reader.items.loop]
  cases h with
  | empty hgap => exact (peekWord hgap rfl).bind (skip.bind (pure _ _))
  | @items _ start next _ b items hgap hfirst hlater =>
    obtain ⟨c, later, rfl, hblank, hclose, _⟩ := hitem.starts hfirst
    have hshrinks := hitem.shrinks hfirst
    have hlength := hgap.length_le
    have hcons := map_mapM_cons meaning [] b items
    simp only [List.reverse_nil, List.nil_append, Option.map_id'] at hcons
    rw [hcons]
    refine (peekWord hgap hblank).bind ?_
    split
    · rename_i heq
      cases heq
    · rename_i heq
      exact absurd (Option.some.inj heq) hclose
    · refine (hreads hfirst).bind_option fun a _ => ?_
      exact itemsLoop hitem hreads (List.cons_ne_nil a []) hlater
        (Nat.lt_of_lt_of_le hshrinks hlength)

end Items

section Members

variable {Item : List Char → Document → List Char → Prop} {member : String → σ → Reader σ}
  {step : σ → Option String × Document → Option σ} (hitem : IsItem Item)
  (hunnamed : ∀ made document, step made (none, document) = none)
  (hreads : ∀ {key made text behind start document rest}, Gap text (':' :: behind) →
    Gap behind start → Item start document rest →
    (member key made).Reads text (step made (some key, document)) rest)

include hunnamed hreads

/-- A member is read from its key on. A key that stands for nothing ends the reading. -/
theorem entry {made : σ} {entry : Option String × Document} {start : List Char}
    (hgap : Gap text start) (h : Entry Item start entry rest) :
    (Reader.members.entry member made).Reads text (step made entry) rest := by
  cases h with
  | @mk _ _ _ _ _ key document hkey hcolon hgap' hvalue =>
    rw [Reader.members.entry]
    refine (peekWord hgap rfl).bind ?_
    cases key with
    | none =>
      rw [Option.map_none, hunnamed]
      exact hkey.reads_text.bind_none
    | some letters => exact hkey.reads_text.bind (hreads hcolon hgap' hvalue)

include hitem

private theorem membersLoop {members : List (Option String × Document)} {made : σ} {fuel : Nat}
    (h : Later '\x7d' (Entry Item) members text rest) (hfuel : text.length < fuel) :
    (Reader.members.loop member false made fuel).Reads text (members.foldlM step made) rest := by
  induction h generalizing made fuel with
  | close hgap =>
    obtain ⟨fuel, rfl⟩ := Nat.exists_eq_add_of_lt hfuel
    rw [Reader.members.loop]
    exact (peekWord hgap rfl).bind (skip.bind (pure made _))
  | comma hcomma hgap hfirst hlater ih =>
    obtain ⟨fuel, rfl⟩ := Nat.exists_eq_add_of_lt hfuel
    have hshrinks := (Entry.isItem hitem).shrinks hfirst
    have hlength := hcomma.length_le
    have hlength' := hgap.length_le
    rw [Reader.members.loop, List.foldlM_cons]
    refine (peekWord hcomma rfl).bind (skip.bind ?_)
    refine (entry hunnamed hreads hgap hfirst).bind_option fun made' _ => ih ?_
    simp only [List.length_cons] at hlength hlength' hshrinks ⊢
    omega

/-- An object is read member by member, each of which does something to what was made so far. -/
theorem members {members : List (Option String × Document)} {made : σ}
    (h : Sequence '\x7d' (Entry Item) members text rest) :
    (Reader.members member made).Reads text (members.foldlM step made) rest := by
  rw [Reader.members]
  refine get_bind fun place => ?_
  rw [Reader.members.loop]
  cases h with
  | empty hgap => exact (peekWord hgap rfl).bind (skip.bind (pure made _))
  | items hgap hfirst hlater =>
    have hshrinks := (Entry.isItem hitem).shrinks hfirst
    have hlength := hgap.length_le
    obtain ⟨c, later, rfl, hblank, _, hclose⟩ := (Entry.isItem hitem).starts hfirst
    rw [List.foldlM_cons]
    refine (peekWord hgap hblank).bind ?_
    split
    · rename_i heq
      cases heq
    · rename_i heq
      exact absurd (Option.some.inj heq) hclose
    · simp only [if_true]
      refine (entry hunnamed hreads (.none _) hfirst).bind_option fun made' _ => ?_
      exact membersLoop hitem hunnamed hreads hlater
        (Nat.lt_of_lt_of_le hshrinks hlength)

end Members

end Reader.Reads

end PollAudit.Json
