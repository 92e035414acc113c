import PollAudit.Api.Endpoint
import PollAudit.Proofs.Url.Extend

namespace PollAudit

namespace Url

variable {url : Url} {front : List String} {segment other : String}

/-- URLs that differ in their last segments only are written differently. -/
theorem segment_eq_of_text_eq
    (h : { url with path := .segments (front ++ [segment]) }.text =
      { url with path := .segments (front ++ [other]) }.text) : segment = other := by
  simp only [Url.text, Path.text_append_singleton] at h
  simpa [String.append_assoc] using h

end Url

namespace Api

open Url.Path

variable (api : Api)

/-- The segments of the base. -/
def segments : List String :=
  match api.base.path with
  | .segments list => list
  | .fixed _ => []

/-- The segments of a place below the base. -/
def segmentsOf (names : List String) : List String :=
  ("api" :: names).foldl (push api.base.kind) (dropEmptyEnd api.segments)

private theorem base_path : api.base.path = .segments api.segments := by
  have hpath := api.isFixed_path
  rw [segments]
  cases h : api.base.path with
  | fixed text =>
    rw [h] at hpath
    cases hpath
  | segments list => rfl

/-- A place keeps all of the base but the path. -/
theorem endpoint_eq (names : List String) :
    api.endpoint names = { api.base with path := .segments (api.segmentsOf names) } := by
  rw [endpoint, Url.extend, base_path]
  rfl

private theorem segmentsOf_append_singleton (names : List String) (name : String) :
    api.segmentsOf (names ++ [name]) = push api.base.kind (api.segmentsOf names) name := by
  rw [segmentsOf, ← List.cons_append, List.foldl_concat]
  rfl

private theorem entrance_dropEmptyEnd {path : List String} (h : path ≠ ["", ""]) :
    entrance (dropEmptyEnd path) = withoutEmptyEnd path := by
  match path with
  | [] => rfl
  | [only] => simp [dropEmptyEnd, entrance, withoutEmptyEnd]
  | first :: second :: rest =>
    rw [withoutEmptyEnd, List.getLast?_cons_cons, List.dropLast_cons_cons]
    change entrance (if (second :: rest).getLast? = some "" then
      first :: (second :: rest).dropLast else first :: second :: rest) = _
    split
    · rename_i hlast
      refine entrance_of_ne fun hroot => ?_
      obtain ⟨rfl, hnil⟩ := List.cons.inj hroot
      cases rest with
      | nil =>
        obtain rfl := Option.some.inj hlast
        exact h rfl
      | cons => cases hnil
    · exact entrance_of_ne (by simp)

/-- The names that the service has of its own are written as they are. -/
theorem segmentOf_own (kind : Url.Kind) {name : String} (h : name = "api" ∨ name = "name") :
    IsName name ∧ segmentOf kind name = name.toList ∧ name.toList.length ≠ 2 := by
  obtain rfl | rfl := h
  · exact ⟨by decide, by cases kind <;> rfl, by decide⟩
  · exact ⟨by decide, by cases kind <;> rfl, by decide⟩

private theorem push_own {kind : Url.Kind} {path : List String} {name : String}
    (h : name = "api" ∨ name = "name") : push kind path name = entrance path ++ [name] := by
  obtain ⟨hname, hsegment, hlength⟩ := segmentOf_own kind h
  rw [push_of_isName hname (.inr (by rwa [hsegment])), hsegment, String.ofList_toList]

/-- Every name adds one segment below the base that is read as the name. -/
def KeepsNames (names : List String) : Prop :=
  ∃ segments, api.segmentsOf names = withoutEmptyEnd api.segments ++ "api" :: segments ∧
    List.Forall₂ (Spells api.base.kind) segments names

/-- A base of two empty segments loses both of them. -/
theorem length_entrance_dropEmptyEnd_le (path : List String) :
    (entrance (dropEmptyEnd path)).length ≤ (withoutEmptyEnd path).length := by
  by_cases h : path = ["", ""]
  · rw [h]
    exact Nat.zero_le _
  · exact Nat.le_of_eq (congrArg List.length (entrance_dropEmptyEnd h))

/-- Every name is kept if it can stand in a path, but below a base of two empty segments none is. -/
theorem keepsNames_iff {names : List String} : api.KeepsNames names ↔
    api.segments ≠ ["", ""] ∧ ∀ name ∈ names, IsName name := by
  have hfold : api.segmentsOf names =
      names.foldl (push api.base.kind) (entrance (dropEmptyEnd api.segments) ++ ["api"]) := by
    rw [segmentsOf, List.foldl_cons, push_own (.inl rfl)]
  constructor
  · rintro ⟨segments, hsegments, hspells⟩
    rw [hfold, List.append_cons (withoutEmptyEnd api.segments)] at hsegments
    have hlength := length_entrance_dropEmptyEnd_le api.segments
    obtain ⟨hplace, hnames⟩ := isName_of_foldl_push hsegments (by simp) (by simpa) hspells
    refine ⟨fun hbase => ?_, hnames⟩
    rw [hbase] at hplace
    exact absurd hplace (by decide)
  · rintro ⟨hbase, hnames⟩
    have hroot : withoutEmptyEnd api.segments ++ ["api"] ≠ [""] :=
      append_singleton_ne_root _ (by decide)
    refine ⟨names.map fun name => String.ofList (segmentOf api.base.kind name), ?_, ?_⟩
    · rw [hfold, entrance_dropEmptyEnd hbase, foldl_push_of_isName (by simp) hroot hnames,
        List.append_assoc, List.singleton_append]
    · rw [List.forall₂_map_left_iff, List.forall₂_same]
      exact fun name hname => spells_segmentOf _ (hnames name hname)

/-- The polling statistics of a network stand in a segment behind a path of their own. -/
theorem stats_eq {plugin network : String} (h : IsName network) : api.stats plugin network =
    { api.base with
      path := .segments
        (entrance (api.segmentsOf ["modules", plugin, "api", "polling", "stats", "network"]) ++
          ["name"] ++ [String.ofList (segmentOf api.base.kind network)]) } := by
  have hnames : ["modules", plugin, "api", "polling", "stats", "network", "name", network] =
      ["modules", plugin, "api", "polling", "stats", "network"] ++ ["name"] ++ [network] := rfl
  generalize hfront : entrance
    (api.segmentsOf ["modules", plugin, "api", "polling", "stats", "network"]) = front
  have hentrance : entrance (front ++ ["name"]) = front ++ ["name"] :=
    entrance_of_ne (append_singleton_ne_root front (by decide))
  rw [stats, hnames, endpoint_eq, segmentsOf_append_singleton, segmentsOf_append_singleton,
    push_own (.inr rfl), hfront, push_of_isName h (.inl (by rw [hentrance]; simp)), hentrance]

/-- Networks whose names can stand in a path have URLs of their own, whatever the plugin. -/
theorem eq_of_stats_text_eq {plugin network other : String} (hnetwork : IsName network)
    (hother : IsName other) (h : (api.stats plugin network).text = (api.stats plugin other).text) :
    network = other := by
  rw [stats_eq api hnetwork, stats_eq api hother] at h
  have hsegment := Url.segment_eq_of_text_eq h
  have hreads := (spells_segmentOf api.base.kind hnetwork).reads
  rw [hsegment, (spells_segmentOf _ hother).reads, Option.some.injEq] at hreads
  exact String.toList_inj.mp hreads.symm

/-- What a place below the base keeps. Apart from the path it is the base, and in the path every
name is a segment of its own that is read as the name, unless a name cannot stand in a path or the
base consists of two empty segments. So different networks have different URLs. -/
theorem endpoint_keepsNames (api : Api) :
    (∀ names, api.endpoint names =
      { api.base with path := .segments (api.segmentsOf names) } ∧
      (api.KeepsNames names ↔ api.segments ≠ ["", ""] ∧ ∀ name ∈ names, IsName name)) ∧
    ∀ plugin network other, IsName network → IsName other → network ≠ other →
      (api.stats plugin network).text ≠ (api.stats plugin other).text := by
  refine ⟨fun names => ⟨api.endpoint_eq names, api.keepsNames_iff⟩, ?_⟩
  intro plugin network other hnetwork hother hne htext
  exact hne (api.eq_of_stats_text_eq hnetwork hother htext)

/-- A service at the root of a host. -/
def atRoot : Api where
  base :=
    { scheme := "http"
      authority := some { host := some (.name "host"), port := some 1660 }
      path := .segments [""] }
  timeout := 30000
  isFixed_path := rfl

/-- A slash and an escape in a name stay what they are. -/
theorem keepsNames_of_slash :
    IsName "RTU 1/a" ∧ IsName "RTU 1%2Fa" ∧
      (atRoot.stats "module-core-modbus" "RTU 1/a").text ≠
        (atRoot.stats "module-core-modbus" "RTU 1%2Fa").text ∧
      atRoot.KeepsNames ["networks", "RTU 1/a", ""] := by
  obtain ⟨hkept, hdistinct⟩ := endpoint_keepsNames atRoot
  have hslash : IsName "RTU 1/a" := by decide
  have hescape : IsName "RTU 1%2Fa" := by decide
  refine ⟨hslash, hescape, hdistinct _ _ _ hslash hescape (by decide), ?_⟩
  exact (hkept _).2.mpr (by decide)

/-- A tab in a name is lost, and with it the difference from the name without it. -/
theorem stats_text_of_tab :
    "a\tb" ≠ "ab" ∧
      (atRoot.stats "module-core-modbus" "a\tb").text =
        "http://host:1660/api/modules/module-core-modbus/api/polling/stats/network/name/ab" ∧
      (atRoot.stats "module-core-modbus" "a\tb").text =
        (atRoot.stats "module-core-modbus" "ab").text := by
  decide +kernel

end Api

end PollAudit
