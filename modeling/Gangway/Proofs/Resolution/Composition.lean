import Gangway.Proofs.Resolution.SshScan
import Gangway.Proofs.Resolution.UnixChain

/-!
# Scans over documents that are put together

Both scans go over the documents in the same order, but the one for an ssh destination stops at the
first hit and the one for a unix address keeps the last. `FirstIdentified` tells the first hit
without a scan, and `scans_compose` what comes of two lists of documents, one after the other.
-/

namespace Gangway.Resolver

/-- The resolver with other documents in place of its own. -/
def withDocuments (resolver : Resolver) (documents : List String) : Resolver :=
  { resolver with sources := { resolver.sources with documents } }

/-- The destination of the first document whose ssh destination has an identity. -/
inductive FirstIdentified (resolver : Resolver) (documents : List String) :
    SshDestination → Prop where
  | intro {before after : List String} {path : String} {destination : Destination}
      (split : documents = before ++ path :: after)
      (offers : resolver.Offers .ssh path destination)
      (named : destination.uri ≠ "") (identified : destination.identity ≠ "")
      (bare : ∀ earlier ∈ before, ∀ other, resolver.Offers .ssh earlier other →
        other.identity = "") :
      FirstIdentified resolver documents ⟨destination.uri, destination.identity, path⟩

/-- How documents are named that were searched in vain. -/
inductive Names : List String → String → Prop where
  | none : Names [] "no configuration documents"
  | inOrder {documents : List String} (some : documents ≠ []) :
      Names documents (", ".intercalate documents)

variable {resolver : Resolver} {documents front back : List String} {found : SshDestination}
  {error : ResolutionError}

theorem names_iff {text : String} : Names documents text ↔ text = searched documents := by
  unfold searched
  constructor
  · rintro (_ | some)
    · rfl
    · simp [some]
  · rintro rfl
    cases documents with
    | nil => exact .none
    | cons path rest => exact .inOrder (List.cons_ne_nil path rest)

theorem Offers.uri_ne_empty {transport : Transport} {path : String} {destination : Destination}
    (offers : resolver.Offers transport path destination) : destination.uri ≠ "" := by
  obtain ⟨config, holds, chosen⟩ := offers
  exact Transport.ne_empty_of_carries
    ((EngineConfig.destinationFor_eq_some_iff holds.ordered).1 chosen).carried

/-- A document is passed over exactly if its ssh destination, should it have one, lacks an
identity. -/
theorem sshIn?_eq_none_iff_bare {path : String} :
    resolver.sshIn? path = none ↔
      ∀ destination, resolver.Offers .ssh path destination → destination.identity = "" := by
  rw [Option.eq_none_iff_forall_ne_some]
  constructor
  · intro passed destination offers
    by_contra identified
    exact passed _ (sshIn?_eq_some_iff.2 ⟨destination, offers, identified, rfl⟩)
  · intro bare found given
    obtain ⟨destination, offers, identified, -⟩ := sshIn?_eq_some_iff.1 given
    exact identified (bare destination offers)

theorem findSome?_sshIn?_eq_some_iff :
    documents.findSome? resolver.sshIn? = some found ↔
      resolver.FirstIdentified documents found := by
  rw [List.findSome?_eq_some_iff]
  constructor
  · rintro ⟨before, path, after, split, hit, passed⟩
    obtain ⟨destination, offers, identified, rfl⟩ := sshIn?_eq_some_iff.1 hit
    exact .intro split offers offers.uri_ne_empty identified fun earlier member =>
      sshIn?_eq_none_iff_bare.1 (passed earlier member)
  · rintro ⟨split, offers, -, identified, bare⟩
    exact ⟨_, _, _, split, sshIn?_eq_some_iff.2 ⟨_, offers, identified, rfl⟩,
      fun earlier member => sshIn?_eq_none_iff_bare.2 (bare earlier member)⟩

theorem resolveSsh_withDocuments :
    (resolver.withDocuments documents).resolveSsh =
      match documents.findSome? resolver.sshIn? with
      | some found => .ok found
      | none => .error (.noSshCandidate (searched documents)) := rfl

theorem resolveSsh_withDocuments_eq_ok_iff :
    (resolver.withDocuments documents).resolveSsh = .ok found ↔
      documents.findSome? resolver.sshIn? = some found := by
  rw [resolveSsh_withDocuments]
  cases documents.findSome? resolver.sshIn? with
  | none => simp
  | some first => simp

theorem resolveSsh_withDocuments_eq_error_iff :
    (resolver.withDocuments documents).resolveSsh = .error error ↔
      documents.findSome? resolver.sshIn? = none ∧
        error = .noSshCandidate (searched documents) := by
  rw [resolveSsh_withDocuments]
  cases documents.findSome? resolver.sshIn? with
  | none => simp [eq_comm]
  | some first => simp

/-- No destination is found exactly where the scan has no hit. -/
theorem exists_resolveSsh_withDocuments_eq_error_iff :
    (∃ error, (resolver.withDocuments documents).resolveSsh = .error error) ↔
      documents.findSome? resolver.sshIn? = none := by
  simp only [resolveSsh_withDocuments_eq_error_iff, exists_and_left, exists_eq, and_true]

/-- The hit among the documents at the back counts, and only for want of one that in front. -/
theorem scanUnix_withDocuments_append :
    (resolver.withDocuments (front ++ back)).scanUnix =
      (resolver.withDocuments back).scanUnix.or (resolver.withDocuments front).scanUnix := by
  have scan (documents : List String) : (resolver.withDocuments documents).scanUnix =
      documents.reverse.findSome? resolver.unixIn? := scanUnix_eq_findSome?
  rw [scan, scan, scan, List.reverse_append, List.findSome?_append]

/-- What comes of the documents of two lists, one list after the other. -/
structure Composed (resolver : Resolver) (front back : List String) : Prop where
  /-- An ssh destination that is found in front is found, whatever follows. -/
  kept : ∀ found, (resolver.withDocuments front).resolveSsh = .ok found →
    (resolver.withDocuments (front ++ back)).resolveSsh = .ok found
  /-- Documents that are searched in vain make no difference to those that follow. -/
  passed : ∀ error, (resolver.withDocuments front).resolveSsh = .error error → ∀ found,
    (resolver.withDocuments (front ++ back)).resolveSsh = .ok found ↔
      (resolver.withDocuments back).resolveSsh = .ok found
  /-- The search fails exactly if it fails in both, and names all documents in order. -/
  failed : ∀ error, (resolver.withDocuments (front ++ back)).resolveSsh = .error error ↔
    (∃ error, (resolver.withDocuments front).resolveSsh = .error error) ∧
      (∃ error, (resolver.withDocuments back).resolveSsh = .error error) ∧
      ∃ text, Names (front ++ back) text ∧ error = .noSshCandidate text
  /-- A unix address at the back replaces one in front. -/
  replaced : ∀ hit, (resolver.withDocuments (front ++ back)).scanUnix = some hit ↔
    (resolver.withDocuments back).scanUnix = some hit ∨
      (resolver.withDocuments back).scanUnix = none ∧
        (resolver.withDocuments front).scanUnix = some hit
  /-- Where no variable overrides the documents, that address is resolved. -/
  resolved : (∀ address, ¬ resolver.environment.Sets "CONTAINER_HOST" address) →
    ∀ address path, (resolver.withDocuments back).scanUnix = some (address, path) →
      (resolver.withDocuments (front ++ back)).resolveUnix = .resolved address (.document path)

/-- **Scans over documents that are put together.** An ssh destination is that of the first document
whose ssh destination has an identity. So of two lists of documents, one after the other, a hit in
front decides about the ssh destination, and a hit at the back about the unix address. -/
theorem scans_compose (resolver : Resolver) :
    (∀ documents found, (resolver.withDocuments documents).resolveSsh = .ok found ↔
      resolver.FirstIdentified documents found) ∧
    ∀ front back, resolver.Composed front back := by
  refine ⟨fun documents found =>
    resolveSsh_withDocuments_eq_ok_iff.trans findSome?_sshIn?_eq_some_iff, fun front back => ?_⟩
  have replaced (hit : String × String) :
      (resolver.withDocuments (front ++ back)).scanUnix = some hit ↔
        (resolver.withDocuments back).scanUnix = some hit ∨
          (resolver.withDocuments back).scanUnix = none ∧
            (resolver.withDocuments front).scanUnix = some hit := by
    rw [scanUnix_withDocuments_append, Option.or_eq_some_iff]
  refine ⟨fun found hit => ?_, fun error missed found => ?_, fun error => ?_, replaced,
    fun unset address path hit => ?_⟩
  · rw [resolveSsh_withDocuments_eq_ok_iff] at hit ⊢
    rw [List.findSome?_append, hit, Option.some_or]
  · have none := exists_resolveSsh_withDocuments_eq_error_iff.1 ⟨error, missed⟩
    rw [resolveSsh_withDocuments_eq_ok_iff, resolveSsh_withDocuments_eq_ok_iff,
      List.findSome?_append, none, Option.none_or]
  · simp only [exists_resolveSsh_withDocuments_eq_error_iff, names_iff, exists_eq_left]
    rw [resolveSsh_withDocuments_eq_error_iff, List.findSome?_append, Option.or_eq_none_iff,
      and_assoc]
  · exact resolveUnix_of_scan unset ((replaced _).2 (.inl hit))

end Gangway.Resolver
