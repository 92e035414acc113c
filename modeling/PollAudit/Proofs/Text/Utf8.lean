import Mathlib.Data.List.Basic
import PollAudit.Text.Utf8

namespace PollAudit.Text

private theorem mapM_eq_some_iff {α β : Type} {f : α → Option β} {xs : List α} {ys : List β} :
    xs.mapM f = some ys ↔ xs.map f = ys.map some := by
  induction xs generalizing ys with
  | nil => cases ys <;> simp
  | cons x xs ih =>
    cases ys with
    | nil => simp [List.mapM_cons, Option.bind_eq_some_iff]
    | cons y ys => simp [List.mapM_cons, Option.bind_eq_some_iff, ih]

/-- Whatever an attempt on a list succeeds with is found in the result. -/
theorem exists_mem_of_mapM {α β : Type} {f : α → Option β} {xs : List α} {ys : List β} {x : α}
    (h : xs.mapM f = some ys) (hmem : x ∈ xs) : ∃ y ∈ ys, f x = some y := by
  have hfound := List.mem_map_of_mem (f := f) hmem
  rw [mapM_eq_some_iff.mp h] at hfound
  obtain ⟨y, hy, heq⟩ := List.mem_map.mp hfound
  exact ⟨y, hy, heq.symm⟩

namespace Utf8

variable {b low high : UInt8} {n used owed : Nat} {rest : List UInt8}

/-! ## Bytes of one character -/

private theorem first_of_ascii (h : b ≤ 0x7f) : first b rest = (some (Char.ofNat b.toNat), 0) := by
  rw [first, continuation, if_pos h]
  rfl

private theorem continuation_of_two : ∀ lead < 32, 2 ≤ lead →
    continuation (.ofNat (lead + 192)) = some (1, 0x80, 0xbf) ∧
      leadBits (.ofNat (lead + 192)) 1 = lead := by
  decide

private theorem continuation_of_three : ∀ lead < 16,
    continuation (.ofNat (lead + 224)) =
        some (2, if lead = 0 then 0xa0 else 0x80, if lead = 13 then 0x9f else 0xbf) ∧
      leadBits (.ofNat (lead + 224)) 2 = lead := by
  decide

private theorem continuation_of_four : ∀ lead < 5,
    continuation (.ofNat (lead + 240)) =
        some (3, if lead = 0 then 0x90 else 0x80, if lead = 4 then 0x8f else 0xbf) ∧
      leadBits (.ofNat (lead + 240)) 3 = lead := by
  decide

private theorem complete_cons {bits : Nat} (hbits : bits < 64) (hlow : low.toNat ≤ bits + 128)
    (hhigh : bits + 128 ≤ high.toNat) :
    complete n used (owed + 1) low high (.ofNat (bits + 128) :: rest) =
      complete (n * 64 + bits) (used + 1) owed 0x80 0xbf rest := by
  have hvalue : (UInt8.ofNat (bits + 128)).toNat = bits + 128 := by
    rw [UInt8.toNat_ofNat', Nat.mod_eq_of_lt (by omega)]
  have hwithin : (low ≤ UInt8.ofNat (bits + 128) && UInt8.ofNat (bits + 128) ≤ high) = true := by
    rw [Bool.and_eq_true, decide_eq_true_eq, decide_eq_true_eq, UInt8.le_iff_toNat_le,
      UInt8.le_iff_toNat_le, hvalue]
    exact ⟨hlow, hhigh⟩
  have hmod : (bits + 128) % 64 = bits := by
    omega
  rw [complete, if_pos hwithin, hvalue, hmod]

private theorem first_of_two {lead second : Nat} (hlead : 2 ≤ lead) (hlt : lead < 32)
    (hsecond : second < 64) :
    first (.ofNat (lead + 192)) (.ofNat (second + 128) :: rest) =
      (some (Char.ofNat (lead * 64 + second)), 1) := by
  obtain ⟨hcontinuation, hbits⟩ := continuation_of_two lead hlt hlead
  rw [first, hcontinuation]
  simp only [hbits]
  rw [complete_cons hsecond (by simp) (by simp; omega)]
  rfl

private theorem first_of_three {lead second third : Nat} (hlt : lead < 16)
    (hlow : lead = 0 → 32 ≤ second) (hhigh : lead = 13 → second < 32)
    (hsecond : second < 64) (hthird : third < 64) :
    first (.ofNat (lead + 224)) (.ofNat (second + 128) :: .ofNat (third + 128) :: rest) =
      (some (Char.ofNat ((lead * 64 + second) * 64 + third)), 2) := by
  obtain ⟨hcontinuation, hbits⟩ := continuation_of_three lead hlt
  rw [first, hcontinuation]
  simp only [hbits]
  rw [complete_cons hsecond, complete_cons hthird (by simp) (by simp; omega)]
  · rfl
  · split
    · simp
      omega
    · simp
  · split
    · simp
      omega
    · simp
      omega

private theorem first_of_four {lead second third fourth : Nat} (hlt : lead < 5)
    (hlow : lead = 0 → 16 ≤ second) (hhigh : lead = 4 → second < 16)
    (hsecond : second < 64) (hthird : third < 64) (hfourth : fourth < 64) :
    first (.ofNat (lead + 240))
        (.ofNat (second + 128) :: .ofNat (third + 128) :: .ofNat (fourth + 128) :: rest) =
      (some (Char.ofNat (((lead * 64 + second) * 64 + third) * 64 + fourth)), 3) := by
  obtain ⟨hcontinuation, hbits⟩ := continuation_of_four lead hlt
  rw [first, hcontinuation]
  simp only [hbits]
  rw [complete_cons hsecond, complete_cons hthird (by simp) (by simp; omega),
    complete_cons hfourth (by simp) (by simp; omega)]
  · rfl
  · split
    · simp
      omega
    · simp
  · split
    · simp
      omega
    · simp
      omega

/-- The bytes of a character are read as that character, whatever follows them. -/
theorem first_utf8EncodeChar (c : Char) (rest : List UInt8) :
    ∃ b tail, String.utf8EncodeChar c = b :: tail ∧
      first b (tail ++ rest) = (some c, tail.length) := by
  have hvalid : c.toNat < 0xd800 ∨ 0xdfff < c.toNat ∧ c.toNat < 0x110000 := c.valid
  have hvalue {n : Nat} (hn : n = c.toNat) : Char.ofNat n = c := by
    rw [hn, Char.ofNat_toNat]
  have hnat : c.val.toNat = c.toNat := rfl
  rw [String.utf8EncodeChar]
  simp only [hnat]
  split
  · rename_i hascii
    have hbyte : (UInt8.ofNat c.toNat).toNat = c.toNat := by
      rw [UInt8.toNat_ofNat', Nat.mod_eq_of_lt (by omega)]
    have hle : UInt8.ofNat c.toNat ≤ 0x7f := by
      rw [UInt8.le_iff_toNat_le, hbyte]
      exact hascii
    exact ⟨_, _, rfl, (first_of_ascii hle).trans (by rw [hbyte, Char.ofNat_toNat]; rfl)⟩
  split
  · refine ⟨_, _, rfl, ?_⟩
    rw [Nat.mod_eq_of_lt (by omega)]
    exact (first_of_two (by omega) (by omega) (by omega)).trans
      (by rw [hvalue (by omega)]; rfl)
  split
  · refine ⟨_, _, rfl, ?_⟩
    rw [Nat.mod_eq_of_lt (a := c.toNat / 4096) (by omega)]
    exact (first_of_three (by omega) (by omega) (by omega) (by omega) (by omega)).trans
      (by rw [hvalue (by omega)]; rfl)
  · refine ⟨_, _, rfl, ?_⟩
    rw [Nat.mod_eq_of_lt (a := c.toNat / 262144) (by omega)]
    exact (first_of_four (by omega) (by omega) (by omega) (by omega) (by omega) (by omega)).trans
      (by rw [hvalue (by omega)]; rfl)

/-! ## Whole texts -/

private theorem pieces_cons (b : UInt8) (rest : List UInt8) :
    pieces 0 (b :: rest) = (first b rest).1 :: pieces (first b rest).2 rest := rfl

private theorem pieces_length_append (tail rest : List UInt8) :
    pieces tail.length (tail ++ rest) = pieces 0 rest := by
  induction tail with
  | nil => rfl
  | cons _ tail ih => exact ih

private theorem pieces_encode (text : List Char) : pieces 0 (encode text) = text.map some := by
  induction text with
  | nil => rfl
  | cons c text ih =>
    obtain ⟨b, tail, hbytes, hfirst⟩ := first_utf8EncodeChar c (encode text)
    have hencode : encode (c :: text) = b :: (tail ++ encode text) := by
      rw [encode, List.flatMap_cons, hbytes]
      rfl
    rw [hencode, pieces_cons, hfirst, pieces_length_append, ih, List.map_cons]

private theorem decode?_eq_some_iff {bytes : List UInt8} {text : List Char} :
    decode? bytes = some text ↔ pieces 0 bytes = text.map some := by
  rw [decode?, mapM_eq_some_iff, List.map_id]

/-- The bytes of a text are read as that text. -/
theorem decode?_encode (text : List Char) : decode? (encode text) = some text := by
  rw [decode?_eq_some_iff, pieces_encode]

/-- A text is read from its bytes without replacements. -/
theorem decodeLossy_encode (text : List Char) : decodeLossy (encode text) = text := by
  rw [decodeLossy, pieces_encode, List.map_map]
  exact List.map_id' text

private theorem complete_eq_some {c : Char} {total : Nat} (hlow : 0x80 ≤ low)
    (h : complete n used owed low high rest = (some c, total)) :
    total = used + owed ∧ ∀ other ∈ rest.take owed, 0x80 ≤ other := by
  induction owed generalizing n used low high rest with
  | zero =>
    obtain ⟨_, rfl⟩ := Prod.mk.inj h
    exact ⟨rfl, by simp⟩
  | succ owed ih =>
    cases rest with
    | nil => cases h
    | cons b rest =>
      rw [complete] at h
      split at h
      · rename_i hwithin
        obtain ⟨htotal, hrest⟩ := ih (by decide) h
        rw [Bool.and_eq_true, decide_eq_true_eq] at hwithin
        refine ⟨by omega, ?_⟩
        rw [List.take_succ_cons, List.forall_mem_cons]
        exact ⟨UInt8.le_trans hlow hwithin.1, hrest⟩
      · cases h

private theorem owed_eq_zero_or_le_of_continuation (h : continuation b = some (owed, low, high)) :
    owed = 0 ∨ 0x80 ≤ low := by
  rw [continuation] at h
  split_ifs at h <;> cases h <;> decide

/-- No byte behind the first one of a character stands for a character of ASCII. -/
theorem le_of_mem_take_of_first {c : Char} (h : first b rest = (some c, used)) :
    ∀ other ∈ rest.take used, 0x80 ≤ other := by
  rw [first] at h
  split at h
  · cases h
  · rename_i owed low high hcontinuation
    obtain rfl | hlow := owed_eq_zero_or_le_of_continuation hcontinuation
    · obtain ⟨_, rfl⟩ := Prod.mk.inj h
      simp
    · obtain ⟨rfl, htail⟩ := complete_eq_some hlow h
      rwa [Nat.zero_add]

private theorem mem_of_pieces {text : List Char} (h : pieces used rest = text.map some)
    (hmem : b ∈ rest.drop used) (hascii : b ≤ 0x7f) : Char.ofNat b.toNat ∈ text := by
  induction rest generalizing used text with
  | nil => simp at hmem
  | cons lead rest ih =>
    cases used with
    | succ used => exact ih h hmem
    | zero =>
      obtain _ | ⟨c, text⟩ := text
      · cases h
      rw [pieces_cons, List.map_cons, List.cons.injEq] at h
      obtain ⟨hlead, hrest⟩ := h
      have hfirst : first lead rest = (some c, (first lead rest).2) := by
        rw [← hlead]
      rw [List.drop_zero, List.mem_cons] at hmem
      obtain rfl | hmem := hmem
      · rw [first_of_ascii hascii] at hlead
        rw [Option.some.inj hlead]
        exact List.mem_cons_self
      · rw [← List.take_append_drop (first lead rest).2 rest, List.mem_append] at hmem
        obtain htaken | hdropped := hmem
        · have hle := le_of_mem_take_of_first hfirst b htaken
          exact absurd (UInt8.le_trans hle hascii) (by decide)
        · exact List.mem_cons_of_mem _ (ih hrest hdropped)

/-- Every byte of ASCII is a character of the text. -/
theorem mem_of_decode? {bytes : List UInt8} {text : List Char} (h : decode? bytes = some text)
    (hmem : b ∈ bytes) (hascii : b ≤ 0x7f) : Char.ofNat b.toNat ∈ text :=
  mem_of_pieces (decode?_eq_some_iff.mp h) hmem hascii

end Utf8

end PollAudit.Text
