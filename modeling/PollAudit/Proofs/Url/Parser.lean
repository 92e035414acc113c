import Mathlib.Data.List.TakeWhile
import PollAudit.Proofs.Text.Split
import PollAudit.Proofs.Url.Authority
import PollAudit.Proofs.Url.Extend
import PollAudit.Url.Parser

namespace PollAudit.Url

variable {text : List Char}

/-! ## Paths -/

/-- Reading a path ends with its last piece. -/
theorem Trail.exists_walk_append (kind : Kind) (trail : Trail) (pieces : List (List Char))
    (last : List Char) : ∃ before : Trail, trail.walk kind (pieces ++ [last]) =
      before.finish kind (Step.ofPiece kind before.segments last) := by
  induction pieces generalizing trail with
  | nil => exact ⟨trail, rfl⟩
  | cons piece pieces ih =>
    obtain ⟨next, rest, hnext⟩ : ∃ next rest, pieces ++ [last] = next :: rest :=
      List.exists_cons_of_ne_nil (by simp)
    rw [List.cons_append, hnext, walk, ← hnext]
    · exact ih _
    · simp

private theorem colon_mem_of_dropDot? {rest : List Char} (h : Step.dropDot? text = some rest)
    (hmem : ':' ∈ text) : ':' ∈ rest := by
  rw [Step.dropDot?.eq_def] at h
  split at h <;> cases h <;> simpa using hmem

/-- A text with a colon is no way to another place. -/
theorem ofText_of_colon (hmem : ':' ∈ text) : Step.ofText text = .into text := by
  rw [Step.ofText.eq_def]
  split
  · rfl
  · rename_i hdot
    cases colon_mem_of_dropDot? hdot hmem
  · rename_i rest _ hdot
    split
    · rename_i hdots
      cases colon_mem_of_dropDot? hdots (colon_mem_of_dropDot? hdot hmem)
    · rfl

/-- A backslash begins the path of a web URL just as a slash does. -/
theorem path_finish_http {authority : Authority} (h : ∀ c ∈ text, endsPath c = false) :
    (finish "http" (some authority) [] ('\\' :: text)).path =
      .segments (Path.extend (.web 80) [] text).segments := by
  have htake : ('\\' :: text).takeWhile (!endsPath ·) = '\\' :: text := by
    refine List.takeWhile_eq_self_iff.mpr (List.forall_mem_cons.mpr ⟨rfl, fun c hc => ?_⟩)
    rw [h c hc]
    rfl
  rw [finish]
  simp only [htake]
  rfl

/-- A path whose last piece holds a colon ends in a segment that is not empty. -/
theorem exists_segments_extend {inner digits : List Char}
    (hdigits : ∀ c ∈ digits, c.isDigit = true) :
    ∃ front last, (Path.extend (.web 80) [] (inner ++ ':' :: digits)).segments = front ++ [last] ∧
      last ≠ "" := by
  have hpiece : ∀ c ∈ ':' :: digits, (Kind.web 80).isSlash c = false := by
    refine List.forall_mem_cons.mpr ⟨rfl, fun c hc => ?_⟩
    have hslash : c ≠ '/' := ne_of_isDigit (hdigits c hc) rfl
    have hback : c ≠ '\\' := ne_of_isDigit (hdigits c hc) rfl
    simp [Kind.isSlash, hslash, hback]
  obtain ⟨pieces, piece, hpieces⟩ := Text.exists_splitAt_append hpiece inner
  rw [Path.extend, hpieces]
  obtain ⟨before, hwalk⟩ := Trail.exists_walk_append (.web 80) { segments := [] } pieces
    (piece ++ ':' :: digits)
  rw [hwalk]
  have hcolon : ':' ∈ escape EscapeSet.path (significant (piece ++ ':' :: digits)) :=
    mem_escape_of_free (by decide) (List.mem_filter.mpr ⟨by simp, by decide⟩)
  change ∃ front last, (before.finish (.web 80) (Step.ofText
    (escape EscapeSet.path (significant (piece ++ ':' :: digits))))).segments = _ ∧ _
  obtain ⟨front, last, hfinish, _, _, hinto⟩ := Trail.exists_segments_finish (.web 80) before
    (escape EscapeSet.path (significant (piece ++ ':' :: digits)))
  obtain ⟨_, rfl⟩ := hinto (ofText_of_colon hcolon) (.inl (by simp))
  refine ⟨front, _, hfinish, fun hempty => ?_⟩
  rw [String.ofList_eq_empty_iff.mp hempty] at hcolon
  cases hcolon

/-- A path that ends with a text is not the root. -/
theorem Path.text_ne_root {front : List String} {last : String} (h : last ≠ "") :
    (Path.segments (front ++ [last])).text ≠ "/" := by
  intro hroot
  rw [text_append_singleton] at hroot
  have hlength := congrArg String.length hroot
  have hone : "/".length = 1 := rfl
  simp only [String.length_append, hone] at hlength
  exact h (String.length_eq_zero_iff.mp (by omega))

/-! ## Texts behind a scheme -/

private theorem trimmed_eq_self {c last : Char} (hc : isOuterBlank c = false)
    (hlast : isOuterBlank last = false) (text : List Char) :
    trimmed (c :: (text ++ [last])) = c :: (text ++ [last]) := by
  have hfront : (c :: (text ++ [last])).dropWhile isOuterBlank = c :: (text ++ [last]) :=
    List.dropWhile_cons_of_neg (by simp [hc])
  have hback : (c :: (text ++ [last])).reverse.dropWhile isOuterBlank =
      (c :: (text ++ [last])).reverse := by
    rw [← List.cons_append, List.reverse_append, List.reverse_singleton, List.singleton_append]
    exact List.dropWhile_cons_of_neg (by simp [hlast])
  rw [trimmed, hfront, hback, List.reverse_reverse]

private theorem takeScheme?_http (rest : List Char) :
    takeScheme? ('h' :: 't' :: 't' :: 'p' :: ':' :: rest) = some ("http", rest) := rfl

/-- A text behind the scheme and two slashes is read as an authority and what follows it. Slashes at
its front do not count. -/
theorem parse_http {text : String} {front : List Char} {last : Char}
    (htext : text.toList = front ++ [last]) (hlast : isOuterBlank last = false)
    (hcount : ∀ c ∈ text.toList, isIgnored c = false) : parse ("http://" ++ text) =
      readAuthority "http" (text.toList.dropWhile (Kind.web 80).isSlash) := by
  have hwhole : ("http://" ++ text).toList =
      'h' :: 't' :: 't' :: 'p' :: ':' :: '/' :: '/' :: text.toList := by
    rw [String.toList_append]
    rfl
  have htrimmed : trimmed ("http://" ++ text).toList = ("http://" ++ text).toList := by
    rw [hwhole, htext]
    exact trimmed_eq_self (by decide) hlast ('t' :: 't' :: 'p' :: ':' :: '/' :: '/' :: front)
  have hsignificant : significant ('/' :: '/' :: text.toList) = '/' :: '/' :: text.toList := by
    refine List.filter_eq_self.mpr fun c hc => ?_
    obtain rfl | hc := List.mem_cons.mp hc
    · rfl
    · obtain rfl | hc := List.mem_cons.mp hc
      · rfl
      · rw [hcount c hc]
        rfl
  rw [parse, htrimmed, hwhole, takeScheme?_http]
  change readScheme "http" ('/' :: '/' :: text.toList) = _
  rw [readScheme, hsignificant]
  rfl

/-! ## URLs of the web -/

private theorem isFixed_finish (scheme : String) (authority : Option Authority) (base : List String)
    (text : List Char) : (finish scheme authority base text).path.isFixed = false := by
  rw [finish]
  cases Kind.ofScheme scheme <;> rfl

private theorem isFixed_readAuthority {scheme : String} {text : List Char} {url : Url}
    (h : readAuthority scheme text = .ok url) : url.path.isFixed = false := by
  rw [readAuthority] at h
  cases htake : Authority.take (Kind.ofScheme scheme) text with
  | error error =>
    rw [htake] at h
    cases h
  | ok found =>
    rw [htake] at h
    cases h
    exact isFixed_finish ..

/-- What is cut off behind a scheme and two slashes leaves them alone. -/
theorem exists_trimmed_http (text : List Char) : ∃ rest,
    trimmed ('h' :: 't' :: 't' :: 'p' :: ':' :: '/' :: '/' :: text) =
      'h' :: 't' :: 't' :: 'p' :: ':' :: '/' :: '/' :: rest := by
  let scheme : List Char := ['h', 't', 't', 'p', ':', '/', '/']
  have hfront : (scheme ++ text).dropWhile isOuterBlank = scheme ++ text :=
    List.dropWhile_cons_of_neg (by decide)
  have hback : ∃ cut, (scheme ++ text).reverse.dropWhile isOuterBlank = cut ++ scheme.reverse := by
    rw [List.reverse_append, List.dropWhile_append]
    split
    · exact ⟨[], by decide⟩
    · exact ⟨_, rfl⟩
  obtain ⟨cut, hcut⟩ := hback
  refine ⟨cut.reverse, ?_⟩
  change trimmed (scheme ++ text) = scheme ++ cut.reverse
  rw [trimmed, hfront, hcut, List.reverse_append, List.reverse_reverse]

/-- Behind the scheme and two slashes no text is read as a URL with a path of its own kind. -/
theorem isFixed_parse_http {text : String} {url : Url} (h : parse ("http://" ++ text) = .ok url) :
    url.path.isFixed = false := by
  have hwhole : ("http://" ++ text).toList =
      'h' :: 't' :: 't' :: 'p' :: ':' :: '/' :: '/' :: text.toList := by
    rw [String.toList_append]
    rfl
  obtain ⟨rest, htrimmed⟩ := exists_trimmed_http text.toList
  rw [parse, hwhole, htrimmed, takeScheme?_http] at h
  exact isFixed_readAuthority h

end PollAudit.Url
