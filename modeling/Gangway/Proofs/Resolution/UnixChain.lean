import Gangway.Proofs.Resolution.Sources

/-!
# The chain of sources of a unix address

`UnixChain` tells tier by tier what resolving a unix address comes to: the variable, the last
document with a unix destination, the socket in the runtime directory, the default socket, and
otherwise the list of all of these. `resolveUnix_eq_iff_unixChain` says that resolving comes to
exactly that.
-/

namespace Gangway.Resolver

variable {resolver : Resolver}

/-- No document offers a unix destination. -/
def NoneOffered (resolver : Resolver) : Prop :=
  ∀ path ∈ resolver.sources.documents, ∀ destination, ¬ resolver.Offers .unix path destination

/-- No socket is there in a runtime directory that is known. -/
def NoRuntimeSocket (resolver : Resolver) : Prop :=
  ∀ directory, resolver.KnowsRuntime directory →
    resolver.files.present (Path.under directory runtimeSocket) = false

/-- The runtime socket stands in the list of exhausted sources exactly when a runtime directory is
known. -/
inductive RuntimeExhausted (resolver : Resolver) : List Source → Prop where
  | known {directory : String} (runtime : resolver.KnowsRuntime directory) :
      RuntimeExhausted resolver [.runtime (Path.under directory runtimeSocket)]
  | unknown (none : ∀ directory, ¬ resolver.KnowsRuntime directory) : RuntimeExhausted resolver []

/-- What resolving a unix address comes to, by the first tier that gives one. -/
inductive UnixChain (resolver : Resolver) : UnixResolution → Prop where
  | environment {address : String} (set : resolver.environment.Sets "CONTAINER_HOST" address) :
      UnixChain resolver (.resolved address .environment)
  | document {before after : List String} {path : String} {destination : Destination}
      (unset : ∀ address, ¬ resolver.environment.Sets "CONTAINER_HOST" address)
      (split : resolver.sources.documents = before ++ path :: after)
      (offers : resolver.Offers .unix path destination)
      (last : ∀ later ∈ after, ∀ other, ¬ resolver.Offers .unix later other) :
      UnixChain resolver
        (.resolved (resolver.sources.uriMode.apply destination.uri) (.document path))
  | runtime {directory : String}
      (unset : ∀ address, ¬ resolver.environment.Sets "CONTAINER_HOST" address)
      (none : resolver.NoneOffered) (known : resolver.KnowsRuntime directory)
      (present : resolver.files.present (Path.under directory runtimeSocket) = true) :
      UnixChain resolver (.resolved ("unix://" ++ Path.under directory runtimeSocket)
        (.runtime (Path.under directory runtimeSocket)))
  | standard (unset : ∀ address, ¬ resolver.environment.Sets "CONTAINER_HOST" address)
      (none : resolver.NoneOffered) (absent : resolver.NoRuntimeSocket)
      (present : resolver.files.present resolver.sources.defaultSocket = true) :
      UnixChain resolver (.resolved ("unix://" ++ resolver.sources.defaultSocket)
        (.standard resolver.sources.defaultSocket))
  | exhausted {runtimes : List Source}
      (unset : ∀ address, ¬ resolver.environment.Sets "CONTAINER_HOST" address)
      (none : resolver.NoneOffered) (absent : resolver.NoRuntimeSocket)
      (missing : resolver.files.present resolver.sources.defaultSocket = false)
      (consulted : resolver.RuntimeExhausted runtimes) :
      UnixChain resolver (.noCandidate (.environment ::
        resolver.sources.documents.map .document ++ runtimes ++
          [.standard resolver.sources.defaultSocket]))

/-- The hit of one document in the scan for a unix address. -/
def unixIn? (resolver : Resolver) (path : String) : Option (String × String) :=
  (resolver.destinationIn? .unix path).map fun destination =>
    (resolver.sources.uriMode.apply destination.uri, path)

theorem unixIn?_eq_some_iff {path : String} {hit : String × String} :
    resolver.unixIn? path = some hit ↔ ∃ destination, resolver.Offers .unix path destination ∧
      (resolver.sources.uriMode.apply destination.uri, path) = hit := by
  unfold unixIn?
  simp only [Option.map_eq_some_iff, destinationIn?_eq_some_iff]

theorem unixIn?_eq_none_iff {path : String} :
    resolver.unixIn? path = none ↔ ∀ destination, ¬ resolver.Offers .unix path destination := by
  rw [unixIn?, Option.map_eq_none_iff, destinationIn?_eq_none_iff]

/-- The hit of each document replaces the one before. -/
theorem scanUnix_eq_foldl :
    resolver.scanUnix = resolver.sources.documents.foldl
      (fun found path => (resolver.unixIn? path).or found) none := by
  unfold scanUnix
  congr 1
  funext found path
  unfold unixIn?
  cases resolver.destinationIn? .unix path with
  | none => rfl
  | some destination => rfl

/-- A scan in which each hit replaces the one before is a search from the end. -/
theorem scanUnix_eq_findSome? :
    resolver.scanUnix = resolver.sources.documents.reverse.findSome? resolver.unixIn? := by
  -- The hit so far is kept only where none of the remaining documents has one.
  have folded (paths : List String) (found : Option (String × String)) :
      paths.foldl (fun found path => (resolver.unixIn? path).or found) found =
        (paths.reverse.findSome? resolver.unixIn?).or found := by
    induction paths generalizing found with
    | nil => rfl
    | cons path rest ih =>
      rw [List.foldl_cons, ih, List.reverse_cons, List.findSome?_append, Option.or_assoc]
      cases given : resolver.unixIn? path with
      | none => simp [given]
      | some hit => simp [given]
  rw [scanUnix_eq_foldl, folded, Option.or_none]

theorem scanUnix_eq_some_iff {address path : String} :
    resolver.scanUnix = some (address, path) ↔
      ∃ before after destination, resolver.sources.documents = before ++ path :: after ∧
        resolver.Offers .unix path destination ∧
        resolver.sources.uriMode.apply destination.uri = address ∧
        ∀ later ∈ after, ∀ other, ¬ resolver.Offers .unix later other := by
  rw [scanUnix_eq_findSome?, List.findSome?_eq_some_iff]
  constructor
  · rintro ⟨after, found, before, split, hit, missed⟩
    obtain ⟨destination, offers, pair⟩ := unixIn?_eq_some_iff.1 hit
    obtain ⟨rfl, rfl⟩ := Prod.mk.inj pair
    refine ⟨before.reverse, after.reverse, destination, ?_, offers, rfl, fun later member => ?_⟩
    · rw [← List.reverse_reverse resolver.sources.documents, split]
      simp
    · exact unixIn?_eq_none_iff.1 (missed later (List.mem_reverse.1 member))
  · rintro ⟨before, after, destination, split, offers, rfl, last⟩
    refine ⟨after.reverse, path, before.reverse, ?_, ?_, fun later member => ?_⟩
    · rw [split]
      simp
    · exact unixIn?_eq_some_iff.2 ⟨destination, offers, rfl⟩
    · exact unixIn?_eq_none_iff.2 (last later (List.mem_reverse.1 member))

theorem scanUnix_eq_none_iff : resolver.scanUnix = none ↔ resolver.NoneOffered := by
  rw [scanUnix_eq_findSome?, List.findSome?_eq_none_iff]
  simp only [List.mem_reverse, unixIn?_eq_none_iff, NoneOffered]

theorem exists_runtimeExhausted (resolver : Resolver) :
    ∃ runtimes, resolver.RuntimeExhausted runtimes := by
  cases runtime : resolver.runtimeDirectory? with
  | some directory => exact ⟨_, .known (runtimeDirectory?_eq_some_iff.1 runtime)⟩
  | none => exact ⟨_, .unknown (runtimeDirectory?_eq_none_iff.1 runtime)⟩

/-! ## Each tier, once those before it give nothing -/

theorem resolveUnix_of_sets {address : String}
    (set : resolver.environment.Sets "CONTAINER_HOST" address) :
    resolver.resolveUnix = .resolved address .environment := by
  have host : resolver.environment.nonEmpty? hostVariable = some address :=
    Environment.nonEmpty?_eq_some_iff.2 set
  rw [resolveUnix, host]

theorem host_of_unset (unset : ∀ address, ¬ resolver.environment.Sets "CONTAINER_HOST" address) :
    resolver.environment.nonEmpty? hostVariable = none :=
  Environment.nonEmpty?_eq_none_iff.2 unset

theorem resolveUnix_of_scan {address path : String}
    (unset : ∀ address, ¬ resolver.environment.Sets "CONTAINER_HOST" address)
    (hit : resolver.scanUnix = some (address, path)) :
    resolver.resolveUnix = .resolved address (.document path) := by
  rw [resolveUnix, host_of_unset unset, hit]

theorem resolveUnix_of_runtime {directory : String}
    (unset : ∀ address, ¬ resolver.environment.Sets "CONTAINER_HOST" address)
    (none : resolver.NoneOffered) (known : resolver.KnowsRuntime directory)
    (present : resolver.files.present (Path.under directory runtimeSocket) = true) :
    resolver.resolveUnix = .resolved (unixMark ++ Path.under directory runtimeSocket)
      (.runtime (Path.under directory runtimeSocket)) := by
  rw [resolveUnix, host_of_unset unset, scanUnix_eq_none_iff.2 none,
    runtimeDirectory?_eq_some_iff.2 known]
  exact if_pos present

theorem resolveUnix_of_default {runtimes : List Source}
    (unset : ∀ address, ¬ resolver.environment.Sets "CONTAINER_HOST" address)
    (none : resolver.NoneOffered) (absent : resolver.NoRuntimeSocket)
    (consulted : resolver.RuntimeExhausted runtimes) :
    resolver.resolveUnix = resolver.resolveDefault
      (.environment :: resolver.sources.documents.map .document ++ runtimes) := by
  rw [resolveUnix, host_of_unset unset, scanUnix_eq_none_iff.2 none]
  cases consulted with
  | @known directory runtime =>
    rw [runtimeDirectory?_eq_some_iff.2 runtime]
    exact if_neg (by simp [absent directory runtime])
  | unknown unknown =>
    rw [runtimeDirectory?_eq_none_iff.2 unknown, List.append_nil]

/-! ## The chain -/

theorem resolveUnix_of_unixChain {resolution : UnixResolution}
    (chain : resolver.UnixChain resolution) : resolver.resolveUnix = resolution := by
  cases chain with
  | environment set => exact resolveUnix_of_sets set
  | document unset split offers last =>
    exact resolveUnix_of_scan unset
      (scanUnix_eq_some_iff.2 ⟨_, _, _, split, offers, rfl, last⟩)
  | runtime unset none known present => exact resolveUnix_of_runtime unset none known present
  | standard unset none absent present =>
    obtain ⟨runtimes, consulted⟩ := exists_runtimeExhausted resolver
    rw [resolveUnix_of_default unset none absent consulted]
    exact if_pos present
  | exhausted unset none absent missing consulted =>
    rw [resolveUnix_of_default unset none absent consulted]
    exact if_neg (by simp [missing])

/-- Some tier always applies. -/
theorem exists_unixChain (resolver : Resolver) : ∃ resolution, resolver.UnixChain resolution := by
  by_cases set : ∃ address, resolver.environment.Sets "CONTAINER_HOST" address
  · obtain ⟨address, set⟩ := set
    exact ⟨_, .environment set⟩
  have unset := not_exists.1 set
  cases scan : resolver.scanUnix with
  | some hit =>
    obtain ⟨before, after, destination, split, offers, -, last⟩ := scanUnix_eq_some_iff.1 scan
    exact ⟨_, .document unset split offers last⟩
  | none =>
    have none := scanUnix_eq_none_iff.1 scan
    by_cases runtime : ∃ directory, resolver.KnowsRuntime directory ∧
        resolver.files.present (Path.under directory runtimeSocket) = true
    · obtain ⟨directory, known, present⟩ := runtime
      exact ⟨_, .runtime unset none known present⟩
    have absent : resolver.NoRuntimeSocket := fun directory known => by
      simpa using fun present => runtime ⟨directory, known, present⟩
    obtain ⟨runtimes, consulted⟩ := exists_runtimeExhausted resolver
    cases present : resolver.files.present resolver.sources.defaultSocket with
    | true => exact ⟨_, .standard unset none absent present⟩
    | false => exact ⟨_, .exhausted unset none absent present consulted⟩

/-- Resolving looks at no variable in any other way than for a value that is not empty. -/
theorem resolveUnix_congr_environment {first second : Environment}
    (same : first.nonEmpty? = second.nonEmpty?) :
    { resolver with environment := first }.resolveUnix =
      { resolver with environment := second }.resolveUnix := by
  unfold resolveUnix runtimeDirectory?
  simp only [same]
  rfl

/-- **Resolving a unix address is its chain of sources**, and a variable that is set to nothing is
as good as unset. -/
theorem resolveUnix_eq_iff_unixChain (resolver : Resolver) :
    (∀ resolution, resolver.resolveUnix = resolution ↔ resolver.UnixChain resolution) ∧
    (∀ name,
      { resolver with environment := resolver.environment.assign name (some "") }.resolveUnix =
        { resolver with environment := resolver.environment.assign name none }.resolveUnix) := by
  refine ⟨fun resolution => ⟨?_, resolveUnix_of_unixChain⟩, fun name => ?_⟩
  · rintro rfl
    obtain ⟨resolution, chain⟩ := exists_unixChain resolver
    rw [resolveUnix_of_unixChain chain]
    exact chain
  · exact resolveUnix_congr_environment (resolver.environment.nonEmpty?_assign_empty name)

end Gangway.Resolver
