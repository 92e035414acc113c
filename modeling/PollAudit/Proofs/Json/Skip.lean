import PollAudit.Proofs.Json.Sequence

namespace PollAudit.Json.Reader

variable {text behind start rest : List Char} {document : Document}

/-- The bracket that ends a frame. -/
def Frame.close : Frame → Char
  | list => ']'
  | object => '\x7d'

/-- The steps that the passing over of what is left may take. -/
def Stage.fuel (stage : Stage) (text : List Char) : Nat :=
  match stage with
  | .opened => 2 * text.length + 2
  | _ => 2 * text.length + 1

/-- What is left of the frames is passed over up to the rest, if there is fuel for it. -/
def Skips (stage : Stage) (frames : List Frame) (text rest : List Char) : Prop :=
  ∀ fuel, stage.fuel text ≤ fuel → (skipLoop fuel stage frames).Reads text (some ()) rest

namespace Skips

/-- There is fuel for at least one step. -/
theorem of_step {stage : Stage} {frames : List Frame}
    (h : ∀ fuel, stage.fuel text ≤ fuel + 1 →
      (skipLoop (fuel + 1) stage frames).Reads text (some ()) rest) : Skips stage frames text rest := by
  intro fuel hfuel
  cases fuel with
  | zero => cases stage <;> cases hfuel
  | succ fuel => exact h fuel hfuel

private theorem done (text : List Char) : Skips .closed [] text text :=
  of_step fun _ _ => .pure () text

private theorem scalar {frames : List Frame} (hstart : skipStart.Reads text (some none) behind)
    (hshrinks : behind.length < text.length) (h : Skips .closed frames behind rest) :
    Skips .value frames text rest := by
  refine of_step fun fuel hfuel => ?_
  rw [skipLoop]
  refine hstart.bind (h fuel ?_)
  simp only [Stage.fuel] at hfuel ⊢
  omega

private theorem opening {frame : Frame} {frames : List Frame}
    (hstart : skipStart.Reads text (some (some frame)) behind)
    (hshrinks : behind.length < text.length) (h : Skips .opened (frame :: frames) behind rest) :
    Skips .value frames text rest := by
  refine of_step fun fuel hfuel => ?_
  rw [skipLoop]
  refine hstart.bind (h fuel ?_)
  simp only [Stage.fuel] at hfuel ⊢
  omega

private theorem close {stage : Stage} {frame : Frame} {outer : List Frame} (hstage : stage ≠ .value)
    (hgap : Gap text (frame.close :: behind)) (h : Skips .closed outer behind rest) :
    Skips stage (frame :: outer) text rest := by
  refine of_step fun fuel hfuel => ?_
  have hrest := h fuel (by
    have hlength := hgap.length_le
    cases stage <;> simp only [Stage.fuel, List.length_cons] at hlength hfuel ⊢ <;> omega)
  cases stage with
  | value => exact absurd rfl hstage
  | opened => cases frame <;> exact (Reads.peekWord hgap rfl).bind (Reads.skip.bind hrest)
  | closed => cases frame <;> exact (Reads.peekWord hgap rfl).bind (Reads.skip.bind hrest)

private theorem comma {frame : Frame} {outer : List Frame} (hgap : Gap text (',' :: behind))
    (henter : (enter frame).Reads behind (some ()) start) (hlength : start.length ≤ behind.length)
    (h : Skips .value (frame :: outer) start rest) : Skips .closed (frame :: outer) text rest := by
  refine of_step fun fuel hfuel => ?_
  have hrest := h fuel (by
    have hlength' := hgap.length_le
    simp only [Stage.fuel, List.length_cons] at hlength' hfuel ⊢
    omega)
  cases frame <;> exact (Reads.peekWord hgap rfl).bind (Reads.skip.bind (henter.bind hrest))

private theorem first {frame : Frame} {outer : List Frame} {c : Char} {later : List Char}
    (hgap : Gap text (c :: later)) (hblank : isBlank c = false) (hlist : c ≠ ']')
    (hobject : c ≠ '\x7d') (henter : (enter frame).Reads (c :: later) (some ()) start)
    (hlength : start.length ≤ (c :: later).length) (h : Skips .value (frame :: outer) start rest) :
    Skips .opened (frame :: outer) text rest := by
  refine of_step fun fuel hfuel => ?_
  have hrest := h fuel (by
    have hlength' := hgap.length_le
    simp only [Stage.fuel] at hfuel ⊢
    omega)
  rw [skipLoop]
  · refine (Reads.peekWord hgap hblank).bind ?_
    split
    · cases ‹some c = none›
    · cases ‹some c = none›
    · exact absurd (Option.some.inj ‹_›) hlist
    · exact absurd (Option.some.inj ‹_›) hobject
    · exact henter.bind hrest
  · exact nofun

end Skips

/-- The front of a text is passed over as a value, and what follows it is passed over then. -/
def Passes (start rest : List Char) : Prop :=
  ∀ ⦃text frames behind⦄, Gap text start → Skips .closed frames rest behind →
    Skips .value frames text behind

private theorem Passes.of_scalar (hshrinks : rest.length < start.length)
    (hstart : ∀ text, Gap text start → skipStart.Reads text (some none) rest) : Passes start rest :=
  fun _ _ _ hgap h => .scalar (hstart _ hgap) (Nat.lt_of_lt_of_le hshrinks hgap.length_le) h

/-- What stands in front of a value inside of the frame is passed over with the value. -/
def Frame.Passes {β : Type} (frame : Frame) (Item : List Char → β → List Char → Prop) : Prop :=
  ∀ {text start item rest}, Gap text start → Item start item rest →
    ∃ inner, (enter frame).Reads text (some ()) inner ∧ inner.length ≤ text.length ∧
      ∀ {frames behind}, Skips .closed frames rest behind → Skips .value frames inner behind

section

variable {β : Type} {Item : List Char → β → List Char → Prop} {frame : Frame} {items : List β}

/-- The items that follow others are passed over, each in turn. -/
theorem skips_later (hpasses : frame.Passes Item) (h : Later frame.close Item items text rest)
    {outer : List Frame} {behind : List Char} (houter : Skips .closed outer rest behind) :
    Skips .closed (frame :: outer) text behind := by
  induction h with
  | close hgap => exact .close nofun hgap houter
  | comma hcomma hgap hitem _ ih =>
    obtain ⟨inner, henter, hlength, hvalue⟩ := hpasses hgap hitem
    exact .comma hcomma henter hlength (hvalue (ih houter))

private theorem skips_sequence (hpasses : frame.Passes Item) (hitem : IsItem Item)
    (h : Sequence frame.close Item items text rest) {outer : List Frame} {behind : List Char}
    (houter : Skips .closed outer rest behind) : Skips .opened (frame :: outer) text behind := by
  cases h with
  | empty hgap => exact .close nofun hgap houter
  | items hgap hfirst hlater =>
    obtain ⟨c, later, rfl, hblank, hlist, hobject⟩ := hitem.starts hfirst
    obtain ⟨inner, henter, hlength, hvalue⟩ := hpasses (.none _) hfirst
    exact .first hgap hblank hlist hobject henter hlength (hvalue (skips_later hpasses hlater houter))

end

private theorem list_passes {Item : List Char → Document → List Char → Prop}
    (h : ∀ {start document rest}, Item start document rest → Passes start rest) :
    Frame.list.Passes Item := fun {text _ _ _} hgap hitem =>
  ⟨text, .pure () text, Nat.le_refl _, h hitem hgap⟩

private theorem object_passes {Item : List Char → Document → List Char → Prop}
    (h : ∀ {start document rest}, Item start document rest → Passes start rest) :
    Frame.object.Passes (Entry Item) := by
  rintro text _ _ rest hgap ⟨hkey, hcolon, hgap', hvalue⟩
  refine ⟨_, ?_, ?_, h hvalue hgap'⟩
  · exact (Reads.peekWord hgap rfl).bind (hkey.reads_skipText.bind (.colon hcolon))
  · have hlength := hgap.length_le
    have hlength' := hkey.length_lt
    have hlength'' := hcolon.length_le
    simp only [List.length_cons] at hlength hlength''
    omega

private theorem skipStart_number {numeral : List Char} (h : IsNumeral numeral)
    (hends : EndsNumber rest) (hgap : Gap text (numeral ++ rest)) :
    skipStart.Reads text (some none) rest := by
  cases h with
  | @mk sign whole part scale hsign hwhole hpart hscale =>
    have hskip : (do skipNumber; pure none : Reader (Option Frame)).Reads
        (whole ++ (part ++ (scale ++ rest))) (some none) rest :=
      (skips_number hwhole hpart hscale hends).bind (.pure none rest)
    obtain rfl | rfl := hsign
    · obtain ⟨c, later, rfl, hc⟩ := hwhole.exists_cons
      simp only [List.nil_append, List.cons_append, List.append_assoc] at hgap hskip
      refine (Reads.peekWord hgap (isBlank_of_sign_or_digit (.inr hc))).bind ?_
      split
      all_goals try (rename_i heq; cases heq; cases hc)
      · cases ‹some c = none›
      · cases ‹some c = some _›
        simp only [hc, if_true]
        exact hskip
    · simp only [List.cons_append, List.nil_append, List.append_assoc] at hgap
      exact (Reads.peekWord hgap rfl).bind (Reads.skip.bind hskip)

/-- Whatever a text says, it can be passed over. -/
theorem passes_of_document (h : Says start document rest) : Passes start rest := by
  refine Says.induct (P := fun start _ rest => Passes start rest) ?_ ?_ ?_ ?_ ?_ ?_ ?_ h
  · intro rest
    refine Passes.of_scalar Says.null.length_lt fun text hgap => ?_
    refine (Reads.peekWord hgap rfl).bind (Reads.skip.bind ?_)
    exact (Reads.keyword ['u', 'l', 'l']).bind (.pure none _)
  · intro rest
    refine Passes.of_scalar Says.yes.length_lt fun text hgap => ?_
    refine (Reads.peekWord hgap rfl).bind (Reads.skip.bind ?_)
    exact (Reads.keyword ['r', 'u', 'e']).bind (.pure none _)
  · intro rest
    refine Passes.of_scalar Says.no.length_lt fun text hgap => ?_
    refine (Reads.peekWord hgap rfl).bind (Reads.skip.bind ?_)
    exact (Reads.keyword ['a', 'l', 's', 'e']).bind (.pure none _)
  · exact fun hnumeral hends => Passes.of_scalar (Says.number hnumeral hends).length_lt fun _ =>
      skipStart_number hnumeral hends
  · refine fun hletters => Passes.of_scalar (Says.text hletters).length_lt fun text hgap => ?_
    exact (Reads.peekWord hgap rfl).bind (hletters.reads_skipText.bind (.pure none _))
  · intro items later rest hitems text frames behind hgap hbehind
    refine .opening ((Reads.peekWord hgap rfl).bind (Reads.skip.bind (.pure (some Frame.list) later)))
      hgap.length_le ?_
    exact skips_sequence (list_passes And.right) ⟨fun h => h.1.exists_cons, fun h => h.1.length_lt⟩
      hitems hbehind
  · intro members later rest hmembers text frames behind hgap hbehind
    refine .opening ((Reads.peekWord hgap rfl).bind (Reads.skip.bind (.pure (some Frame.object) later)))
      hgap.length_le ?_
    exact skips_sequence (object_passes And.right)
      (Entry.isItem ⟨fun h => h.1.exists_cons, fun h => h.1.length_lt⟩) hmembers hbehind

/-- A value of any depth is skipped. -/
theorem reads_skipValue (hgap : Gap text start) (h : Says start document rest) :
    skipValue.Reads text (some ()) rest :=
  Reads.get_bind fun _ => passes_of_document h hgap (.done rest) _ (Nat.le_succ _)

end PollAudit.Json.Reader
