import PollAudit.Proofs.Url.Segment

namespace PollAudit.Url

/-! ## Steps -/

namespace Trail

variable {kind : Kind} {trail : Trail} {name : List Char}

/-- Only in the first segment of a file's path may a name of two characters be a drive. -/
theorem segments_enter (h : kind ≠ .file ∨ trail.segments ≠ [] ∨ name.length ≠ 2) :
    (trail.enter kind name).segments = trail.segments ++ [String.ofList name] := by
  rw [enter.eq_def]
  split
  · rename_i hnil
    obtain hkind | hne | hlength := h
    · exact absurd rfl hkind
    · exact absurd hnil hne
    · exact absurd rfl hlength
  · rfl

private theorem length_segments_enter (kind : Kind) (trail : Trail) (name : List Char) :
    (trail.enter kind name).segments.length = trail.segments.length + 1 := by
  rw [enter.eq_def]
  split
  · rename_i hnil
    rw [hnil]
    split <;> rfl
  · rw [List.length_append]
    rfl

private theorem length_segments_leave_le (trail : Trail) :
    trail.leave.segments.length ≤ trail.segments.length := by
  rw [leave]
  split
  · exact Nat.le_refl _
  · split
    · exact Nat.le_refl _
    · rw [List.length_dropLast]
      exact Nat.sub_le _ _

/-- A text that ends a path becomes its last segment, which is empty if the text leads to none. The
path in front of it grows no longer, and but for a drive the text is kept as it is. -/
theorem exists_segments_finish (kind : Kind) (trail : Trail) (text : List Char) :
    ∃ front last, (trail.finish kind (Step.ofText text)).segments = front ++ [last] ∧
      front.length ≤ trail.segments.length ∧
      (Step.ofText text ≠ .into text → last = "") ∧
      (Step.ofText text = .into text → kind ≠ .file ∨ front ≠ [] →
        front = trail.segments ∧ last = String.ofList text) := by
  obtain hstep | hstep | hstep := ofText_cases text
  · rw [hstep]
    exact ⟨trail.segments, "", rfl, Nat.le_refl _, fun _ => rfl, nofun⟩
  · rw [hstep]
    exact ⟨trail.leave.segments, "", rfl, trail.length_segments_leave_le, fun _ => rfl, nofun⟩
  · rw [hstep]
    change ∃ front last, (trail.enter kind text).segments = _ ∧ _
    by_cases hplace : kind ≠ .file ∨ trail.segments ≠ []
    · exact ⟨trail.segments, String.ofList text, segments_enter (hplace.imp_right .inl),
        Nat.le_refl _, fun h => absurd rfl h, fun _ _ => ⟨rfl, rfl⟩⟩
    · obtain ⟨hkind, hempty⟩ := not_or.mp hplace
      have hlength := length_segments_enter kind trail text
      rw [not_not.mp hempty, List.length_nil] at hlength
      obtain ⟨last, hlast⟩ := List.length_eq_one_iff.mp hlength
      exact ⟨[], last, hlast, Nat.zero_le _, fun h => absurd rfl h,
        fun _ h => absurd h (not_or.mpr ⟨hkind, by simp⟩)⟩

end Trail

namespace Path

variable {kind : Kind} {path front segments names : List String} {name segment : String}

/-- A path without an empty segment at its end. -/
def withoutEmptyEnd (path : List String) : List String :=
  if path.getLast? = some "" then path.dropLast else path

/-- Where names are added to a path. -/
def entrance (path : List String) : List String := if path = [""] then [] else path

/-- A path is entered at its end unless it is the root. -/
theorem entrance_of_ne (h : path ≠ [""]) : entrance path = path := if_neg h

/-- A path with a name at its end is not the root. -/
theorem append_singleton_ne_root (path : List String) (h : name ≠ "") : path ++ [name] ≠ [""] := by
  intro hroot
  have hlast := congrArg List.getLast? hroot
  rw [List.getLast?_concat] at hlast
  exact h (Option.some.inj hlast)

private theorem length_entrance_le (path : List String) : (entrance path).length ≤ path.length := by
  rw [entrance]
  split
  · exact Nat.zero_le _
  · exact Nat.le_refl _

/-! ## One name -/

private theorem push_of_ne (hdot : name ≠ ".") (hdots : name ≠ "..") : push kind path name =
    (Trail.finish kind { segments := entrance path }
      (Step.ofText (segmentOf kind name))).segments := by
  have hname : ¬ (name = "." || name = "..") = true := by
    simp [hdot, hdots]
  rw [push, if_neg hname]
  rfl

/-- A name is added to the path as a segment of its own. -/
theorem push_of_isName (h : IsName name)
    (hplace : entrance path ≠ [] ∨ (segmentOf kind name).length ≠ 2) :
    push kind path name = entrance path ++ [String.ofList (segmentOf kind name)] := by
  rw [push_of_ne h.1 h.2.1, ofText_segmentOf h]
  exact Trail.segments_enter (.inr hplace)

private theorem push_of_dots (h : name = "." ∨ name = "..") : push kind path name = path := by
  rw [push, if_pos]
  simpa using h

private theorem length_push_le (kind : Kind) (path : List String) (name : String) :
    (push kind path name).length ≤ path.length + 1 := by
  by_cases hdots : name = "." ∨ name = ".."
  · rw [push_of_dots hdots]
    exact Nat.le_succ _
  · obtain ⟨hdot, hdots⟩ := not_or.mp hdots
    obtain ⟨front, last, hfinish, hlength, _⟩ := Trail.exists_segments_finish kind
      { segments := entrance path } (segmentOf kind name)
    have hentrance := length_entrance_le path
    rw [push_of_ne hdot hdots, hfinish, List.length_append, List.length_singleton]
    exact Nat.succ_le_succ (Nat.le_trans hlength hentrance)

/-- A name that adds a segment that is read as the name can stand in a path. -/
theorem isName_of_push (hpush : push kind path name = front ++ [segment]) (hfront : front ≠ [])
    (hlength : path.length ≤ front.length) (hspells : Spells kind segment name) :
    IsName name ∧ path = front := by
  have hdots : ¬ (name = "." ∨ name = "..") := by
    intro hdots
    have hsame := congrArg List.length hpush
    rw [push_of_dots hdots, List.length_append, List.length_singleton] at hsame
    omega
  obtain ⟨hdot, hdots⟩ := not_or.mp hdots
  obtain ⟨before, last, hfinish, _, hplace, hinto⟩ := Trail.exists_segments_finish kind
    { segments := entrance path } (segmentOf kind name)
  rw [push_of_ne hdot hdots, hfinish] at hpush
  obtain ⟨rfl, hlast⟩ := List.append_inj' hpush rfl
  obtain rfl := List.cons.inj hlast |>.1
  have hstep : Step.ofText (segmentOf kind name) = .into (segmentOf kind name) := by
    by_contra hne
    have hreads := hspells.reads
    rw [hplace hne] at hreads
    have hname : name = "" := String.toList_eq_nil_iff.mp (Option.some.inj hreads).symm
    subst hname
    exact hne (by cases kind <;> rfl)
  obtain ⟨hbefore, rfl⟩ := hinto hstep (.inr hfront)
  have hreads := hspells.reads
  rw [String.toList_ofList, decode?_segmentOf, Option.some.injEq] at hreads
  refine ⟨isName_of_significant hdot hdots hreads, ?_⟩
  have hroot : path ≠ [""] := by
    rintro rfl
    exact hfront hbefore
  rw [hbefore]
  exact (entrance_of_ne hroot).symm

/-! ## Many names -/

/-- Names that can stand in a path become its last segments. -/
theorem foldl_push_of_isName (hpath : path ≠ []) (hroot : path ≠ [""])
    (hnames : ∀ name ∈ names, IsName name) : names.foldl (push kind) path =
      path ++ names.map fun name => String.ofList (segmentOf kind name) := by
  induction names generalizing path with
  | nil => simp
  | cons name names ih =>
    obtain ⟨hname, hnames⟩ := List.forall_mem_cons.mp hnames
    have hentrance := entrance_of_ne hroot
    have hpush : push kind path name = path ++ [String.ofList (segmentOf kind name)] := by
      rw [push_of_isName hname (.inl (by rwa [hentrance])), hentrance]
    have hlonger : path ++ [String.ofList (segmentOf kind name)] ≠ [""] := by
      intro h
      have hlength := congrArg List.length h
      simp [hpath] at hlength
    rw [List.foldl_cons, hpush, ih (by simp) hlonger hnames, List.append_assoc]
    rfl

private theorem length_foldl_push_le (kind : Kind) (path names : List String) :
    (names.foldl (push kind) path).length ≤ path.length + names.length := by
  induction names using List.reverseRecOn with
  | nil => exact Nat.le_refl _
  | append_singleton names name ih =>
    have hpush := length_push_le kind (names.foldl (push kind) path) name
    rw [List.foldl_concat, List.length_append, List.length_singleton]
    omega

/-- Names that add segments that are read as the names can stand in a path. -/
theorem isName_of_foldl_push (hpush : names.foldl (push kind) path = front ++ segments)
    (hfront : front ≠ []) (hlength : path.length ≤ front.length)
    (hspells : List.Forall₂ (Spells kind) segments names) :
    path = front ∧ ∀ name ∈ names, IsName name := by
  induction names using List.reverseRecOn generalizing segments with
  | nil =>
    rw [List.forall₂_nil_right_iff.mp hspells, List.append_nil] at hpush
    exact ⟨hpush, by simp⟩
  | append_singleton names name ih =>
    have hbefore := List.forall₂_take_append segments names [name] hspells
    obtain ⟨segment, rest, hsegment, hnil, hlast⟩ :=
      List.forall₂_cons_right_iff.mp (List.forall₂_drop_append segments names [name] hspells)
    obtain rfl := List.forall₂_nil_right_iff.mp hnil
    rw [List.foldl_concat, ← List.take_append_drop names.length segments, hlast,
      ← List.append_assoc] at hpush
    have hgrown := length_foldl_push_le kind path names
    have hshorter : (names.foldl (push kind) path).length ≤
        (front ++ segments.take names.length).length := by
      rw [List.length_append, hbefore.length_eq]
      omega
    obtain ⟨hname, hfold⟩ := isName_of_push hpush (by simp [hfront]) hshorter hsegment
    obtain ⟨hpath, hnames⟩ := ih hfold hbefore
    refine ⟨hpath, ?_⟩
    simpa [or_imp, forall_and] using ⟨hnames, hname⟩

end Path

end PollAudit.Url
