import Gangway.Proofs.Resolution.Choice
import Gangway.Proofs.Resolution.UnixChain

/-!
# Unix URIs without their authority

Taking the authority off a unix URI changes nothing but the text between `unix://` and the path. A
text is either no unix URI, or one without a path, or `unix://A/P` with no slash in `A`
(`stripAuthority_cases`), and only the last kind is rewritten, to `unix:///P`. A resolver that takes
the authority off therefore chooses the same source as one that does not, and the addresses differ
only where that source is a document.
-/

namespace Gangway

/-! ## The text -/

theorem dropLeading_unixMark (rest : String) :
    Text.dropLeading unixMark.toList ("unix://" ++ rest).toList = some rest.toList := by
  rw [String.toList_append]
  exact Text.dropLeading_eq_some_iff.2 rfl

/-- A text that is no unix URI is left as it is. -/
theorem stripAuthority_of_foreign {uri : String} (foreign : ¬"unix://".toList <+: uri.toList) :
    stripAuthority uri = uri := by
  have dropped : Text.dropLeading unixMark.toList uri.toList = none :=
    Text.dropLeading_eq_none_iff.2 foreign
  rw [stripAuthority, dropped]

/-- A unix URI without a path is left as it is. -/
theorem stripAuthority_of_pathless {rest : String} (pathless : '/' ∉ rest.toList) :
    stripAuthority ("unix://" ++ rest) = "unix://" ++ rest := by
  have uncut : Text.splitOnce ['/'] rest.toList = none := by
    apply Text.splitOnce_eq_none_iff.2
    intro inside
    exact pathless (inside.subset (List.mem_singleton_self '/'))
  rw [stripAuthority, dropLeading_unixMark]
  cases split : rest.toList with
  | nil => rfl
  | cons c front =>
    rw [split] at pathless uncut
    have different : c ≠ '/' := fun same => pathless (same ▸ List.mem_cons_self)
    simp [different, uncut]

/-- Of a unix URI with a path nothing but the path is kept. -/
theorem stripAuthority_of_path {authority : String} (unmarked : '/' ∉ authority.toList)
    (path : String) :
    stripAuthority ("unix://" ++ authority ++ "/" ++ path) = "unix:///" ++ path := by
  have whole : "unix://" ++ authority ++ "/" ++ path =
      "unix://" ++ (authority ++ "/" ++ path) := by
    simp only [String.append_assoc]
  have split : (authority ++ "/" ++ path).toList = authority.toList ++ '/' :: path.toList := by
    simp [String.toList_append]
  have kept : String.ofList (unixMark.toList ++ '/' :: path.toList) = "unix:///" ++ path := by
    apply String.toList_inj.1
    rw [String.toList_ofList, String.toList_append]
    rfl
  rw [whole, stripAuthority, dropLeading_unixMark, split]
  cases front : authority.toList with
  | nil =>
    -- Without an authority the URI stays as it is.
    have empty : authority = "" := String.toList_inj.1 front
    rw [empty]
    rfl
  | cons c rest =>
    rw [front] at unmarked
    have different : c ≠ '/' := fun same => unmarked (same ▸ List.mem_cons_self)
    have cut : Text.splitOnce ['/'] (c :: rest ++ '/' :: path.toList) =
        some (c :: rest, path.toList) := by
      have first : ¬['/'] <:+: c :: rest ++ ['/'].dropLast := by
        intro inside
        rw [List.dropLast_singleton, List.append_nil] at inside
        exact unmarked (inside.subset (List.mem_singleton_self '/'))
      have cut := Text.splitOnce_append (List.cons_ne_nil _ _) first path.toList
      rwa [List.append_assoc] at cut
    split
    case h_1 same => cases same
    case h_2 same => exact absurd (List.cons.inj (Option.some.inj same)).1 different
    case h_3 same =>
      cases same
      rw [cut]
      exact kept

/-- A text is no unix URI, or a unix URI without a path, or one with a path. -/
theorem stripAuthority_cases (uri : String) :
    ¬"unix://".toList <+: uri.toList ∨
      (∃ rest, uri = "unix://" ++ rest ∧ '/' ∉ rest.toList) ∨
      ∃ authority path, uri = "unix://" ++ authority ++ "/" ++ path ∧ '/' ∉ authority.toList := by
  by_cases foreign : "unix://".toList <+: uri.toList
  · right
    obtain ⟨rest, split⟩ := foreign
    by_cases pathless : '/' ∈ rest
    · right
      obtain ⟨authority, path, rfl, unmarked⟩ := List.eq_append_cons_of_mem pathless
      refine ⟨String.ofList authority, String.ofList path, ?_, by simpa using unmarked⟩
      apply String.toList_inj.1
      simp [← split, String.toList_append]
    · left
      refine ⟨String.ofList rest, ?_, by simpa using pathless⟩
      apply String.toList_inj.1
      simp [← split, String.toList_append]
  · exact .inl foreign

theorem carries_unixMark_append (transport : Transport) (rest : String) :
    transport.carries ("unix://" ++ rest) = decide (transport = .unix) := by
  cases transport with
  | unix =>
    apply Transport.carries_iff_heads.2
    show "unix://".toList <+: ("unix://" ++ rest).toList
    rw [String.toList_append]
    exact List.prefix_append _ _
  | ssh =>
    apply Transport.carries_eq_false_iff.2
    show ¬"ssh://".toList <+: ("unix://" ++ rest).toList
    rw [String.toList_append]
    intro headed
    have first : 's' = 'u' := (List.cons_prefix_cons.1 headed).1
    exact absurd first (by decide)

/-- What taking the authority off does to a text. -/
structure Strips (uri : String) : Prop where
  /-- Once is enough. -/
  idempotent : stripAuthority (stripAuthority uri) = stripAuthority uri
  /-- What is no unix URI stays as it is. -/
  foreign : ¬"unix://".toList <+: uri.toList → stripAuthority uri = uri
  /-- A unix URI without a path stays as it is. -/
  pathless : ∀ rest, uri = "unix://" ++ rest → '/' ∉ rest.toList → stripAuthority uri = uri
  /-- The transport that carries the URI is the same. -/
  carried : ∀ transport : Transport,
    transport.carries (stripAuthority uri) = transport.carries uri
  /-- The path is kept to the byte. -/
  path : ∀ authority path, uri = "unix://" ++ authority ++ "/" ++ path →
    '/' ∉ authority.toList → stripAuthority uri = "unix:///" ++ path

theorem strips (uri : String) : Strips uri := by
  have bare (path : String) : stripAuthority ("unix:///" ++ path) = "unix:///" ++ path := by
    have unmarked : '/' ∉ "".toList := by simp
    exact stripAuthority_of_path unmarked path
  constructor
  case idempotent =>
    rcases stripAuthority_cases uri with foreign | ⟨rest, rfl, pathless⟩ |
      ⟨authority, path, rfl, unmarked⟩
    · rw [stripAuthority_of_foreign foreign, stripAuthority_of_foreign foreign]
    · rw [stripAuthority_of_pathless pathless, stripAuthority_of_pathless pathless]
    · rw [stripAuthority_of_path unmarked, bare]
  case foreign => exact stripAuthority_of_foreign
  case pathless =>
    rintro rest rfl pathless
    exact stripAuthority_of_pathless pathless
  case carried =>
    intro transport
    rcases stripAuthority_cases uri with foreign | ⟨rest, rfl, pathless⟩ |
      ⟨authority, path, rfl, unmarked⟩
    · rw [stripAuthority_of_foreign foreign]
    · rw [stripAuthority_of_pathless pathless]
    · have before : "unix://" ++ authority ++ "/" ++ path =
          "unix://" ++ (authority ++ "/" ++ path) := by simp only [String.append_assoc]
      have after : "unix:///" ++ path = "unix://" ++ ("/" ++ path) := by
        rw [← String.append_assoc]
        rfl
      rw [stripAuthority_of_path unmarked, before, after, carries_unixMark_append,
        carries_unixMark_append]
  case path =>
    rintro authority path rfl unmarked
    exact stripAuthority_of_path unmarked path

/-! ## The resolution -/

/-- The same resolution, but for the authority of an address that a document gives. -/
inductive UnixResolution.Relabelled : UnixResolution → UnixResolution → Prop where
  | document {uri path : String} :
      Relabelled (.resolved uri (.document path)) (.resolved (stripAuthority uri) (.document path))
  | elsewhere {address : String} {source : Source}
      (undocumented : ∀ path, source ≠ .document path) :
      Relabelled (.resolved address source) (.resolved address source)
  | noCandidate {exhausted : List Source} :
      Relabelled (.noCandidate exhausted) (.noCandidate exhausted)

namespace Resolver

/-- The resolver with unix URIs from documents taken in this way. -/
def withMode (resolver : Resolver) (mode : UnixUriMode) : Resolver :=
  { resolver with sources := { resolver.sources with uriMode := mode } }

variable {resolver : Resolver} {mode other : UnixUriMode}

theorem knowsRuntime_withMode {directory : String} :
    (resolver.withMode mode).KnowsRuntime directory ↔
      (resolver.withMode other).KnowsRuntime directory := by
  rw [← runtimeDirectory?_eq_some_iff, ← runtimeDirectory?_eq_some_iff]
  rfl

theorem noRuntimeSocket_withMode (absent : (resolver.withMode mode).NoRuntimeSocket) :
    (resolver.withMode other).NoRuntimeSocket :=
  fun directory known => absent directory (knowsRuntime_withMode.1 known)

theorem runtimeExhausted_withMode {runtimes : List Source}
    (consulted : (resolver.withMode mode).RuntimeExhausted runtimes) :
    (resolver.withMode other).RuntimeExhausted runtimes := by
  cases consulted with
  | known runtime => exact .known (knowsRuntime_withMode.1 runtime)
  | unknown none =>
    exact .unknown fun directory known => none directory (knowsRuntime_withMode.1 known)

/-- Tier by tier, what is resolved does not depend on how the URIs of documents are taken, but for
the text of such a URI. -/
theorem relabelled (resolver : Resolver) :
    (resolver.withMode .verbatim).resolveUnix.Relabelled
      (resolver.withMode .stripAuthority).resolveUnix := by
  obtain ⟨resolution, chain⟩ := exists_unixChain (resolver.withMode .verbatim)
  rw [resolveUnix_of_unixChain chain]
  -- None of the conditions of a tier speaks of the mode.
  cases chain with
  | environment set =>
    have other : (resolver.withMode .stripAuthority).UnixChain _ := .environment set
    rw [resolveUnix_of_unixChain other]
    exact .elsewhere nofun
  | document unset split offers last =>
    have other : (resolver.withMode .stripAuthority).UnixChain _ :=
      .document unset split offers last
    rw [resolveUnix_of_unixChain other]
    exact .document
  | runtime unset none known present =>
    have other : (resolver.withMode .stripAuthority).UnixChain _ :=
      .runtime unset none (knowsRuntime_withMode.1 known) present
    rw [resolveUnix_of_unixChain other]
    exact .elsewhere nofun
  | standard unset none absent present =>
    have other : (resolver.withMode .stripAuthority).UnixChain _ :=
      .standard unset none (noRuntimeSocket_withMode absent) present
    rw [resolveUnix_of_unixChain other]
    exact .elsewhere nofun
  | exhausted unset none absent missing consulted =>
    have other : (resolver.withMode .stripAuthority).UnixChain _ :=
      .exhausted unset none (noRuntimeSocket_withMode absent) missing
        (runtimeExhausted_withMode consulted)
    rw [resolveUnix_of_unixChain other]
    exact .noCandidate

end Resolver

/-- **Taking the authority off only relabels.** Both ways of taking a document's URI choose the same
source, and one address is the other without its authority; the path of a URI, and the transport
that carries it, are what they were. -/
theorem stripping_relabels :
    (∀ resolver : Resolver,
      (resolver.withMode .verbatim).resolveUnix.Relabelled
        (resolver.withMode .stripAuthority).resolveUnix) ∧
    ∀ uri, Strips uri :=
  ⟨Resolver.relabelled, strips⟩

end Gangway
