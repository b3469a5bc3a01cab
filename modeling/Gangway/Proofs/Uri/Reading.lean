import Gangway.Proofs.Outcomes
import Gangway.Proofs.Text.Cutting
import Gangway.Uri.Basic
import Mathlib.Data.Bool.AllAny

/-!
# Reading a URI of one scheme

A URI that begins with `ssh://` is read as the authority and the path behind that front, whatever
they are: cleaning takes nothing away from a front that is visible, and the scheme is in small
letters already.
-/

namespace Gangway.Uri

open Text (dropWhile_append_of_stop)

/-- What cleaning leaves of a text that follows something visible. -/
def cleanedEnd (text : List Char) : List Char :=
  (text.reverse.dropWhile fun c => decide (c ≤ ' ')).reverse.filter
    fun c => !(c = '\t' || c = '\n' || c = '\r')

theorem cleaned_eq (text : List Char) :
    cleaned text = cleanedEnd (text.dropWhile fun c => decide (c ≤ ' ')) := rfl

theorem filter_of_visible {text : List Char} (visible : ∀ c ∈ text, ' ' < c) :
    text.filter (fun c => !(c = '\t' || c = '\n' || c = '\r')) = text := by
  refine List.filter_eq_self.2 fun c member => ?_
  have seen := visible c member
  have unlike (blank : Char) (hidden : ¬ ' ' < blank) : c ≠ blank := by
    rintro rfl
    exact hidden seen
  simp [unlike '\t' (by decide), unlike '\n' (by decide), unlike '\r' (by decide)]

/-- What is dropped from the end goes no further than to the last visible character. -/
theorem cleanedEnd_append_cons {c : Char} (visible : ' ' < c) (front rest : List Char) :
    cleanedEnd (front ++ c :: rest) =
      front.filter (fun c => !(c = '\t' || c = '\n' || c = '\r')) ++ c :: cleanedEnd rest := by
  have stops : decide (c ≤ ' ') = false := by simpa using visible
  have turned : (front ++ c :: rest).reverse = rest.reverse ++ c :: front.reverse := by
    simp
  have kept : [c].filter (fun c => !(c = '\t' || c = '\n' || c = '\r')) = [c] := by
    apply filter_of_visible
    simpa using visible
  unfold cleanedEnd
  rw [turned, dropWhile_append_of_stop stops, List.reverse_append, List.reverse_cons,
    List.reverse_reverse, List.filter_append, List.filter_append, kept, List.append_assoc]
  rfl

/-- A visible front stays as it is. -/
theorem cleanedEnd_append {front : List Char} (visible : ∀ c ∈ front, ' ' < c)
    (rest : List Char) : cleanedEnd (front ++ rest) = front ++ cleanedEnd rest := by
  induction front with
  | nil => rfl
  | cons c front ih =>
    obtain ⟨first, others⟩ := List.forall_mem_cons.1 visible
    have cut := cleanedEnd_append_cons first [] (front ++ rest)
    rw [ih others] at cut
    exact cut

theorem cleanedEnd_of_visible {text : List Char} (visible : ∀ c ∈ text, ' ' < c) :
    cleanedEnd text = text := by
  have alone := cleanedEnd_append visible []
  have nothing : cleanedEnd [] = [] := rfl
  rwa [List.append_nil, nothing, List.append_nil] at alone

/-- What stands in front of something visible stays there, as far as it is kept at all. -/
theorem exists_cleaned_append {c : Char} (visible : ' ' < c) (front : List Char) :
    ∃ kept ⊆ front, ∀ rest, cleaned (front ++ c :: rest) = kept ++ c :: cleanedEnd rest := by
  have stops : decide (c ≤ ' ') = false := by simpa using visible
  refine ⟨(front.dropWhile fun c => decide (c ≤ ' ')).filter
    fun c => !(c = '\t' || c = '\n' || c = '\r'), ?_, fun rest => ?_⟩
  · have shorter : front.dropWhile (fun c => decide (c ≤ ' ')) ⊆ front :=
      (List.dropWhile_sublist _).subset
    exact List.Subset.trans List.filter_sublist.subset shorter
  · rw [cleaned_eq, dropWhile_append_of_stop stops, cleanedEnd_append_cons visible]

/-- A text that ends in something visible is cleaned as it is alone, whatever follows. -/
theorem cleaned_append_of_visible_last {text : List Char} (some : text ≠ [])
    (visible : ∀ c ∈ text.getLast?, ' ' < c) (rest : List Char) :
    cleaned (text ++ rest) = cleaned text ++ cleanedEnd rest := by
  obtain ⟨front, last, rfl⟩ : ∃ front last, text = front ++ [last] :=
    ⟨_, _, (List.dropLast_concat_getLast some).symm⟩
  have seen : ' ' < last := visible last (by simp)
  have nothing : cleanedEnd [] = [] := rfl
  obtain ⟨kept, -, cut⟩ := exists_cleaned_append seen front
  rw [cut [], nothing, List.append_assoc, List.singleton_append, cut, List.append_assoc,
    List.singleton_append]

/-- A visible front stays as it is, and what follows it only loses its end. -/
theorem cleaned_append {front rest : List Char} (some : front ≠ [])
    (visible : ∀ c ∈ front, ' ' < c) : cleaned (front ++ rest) = front ++ cleanedEnd rest := by
  obtain ⟨c, front, rfl⟩ := List.exists_cons_of_ne_nil some
  have shown : decide (c ≤ ' ') = false := by
    simpa using visible c List.mem_cons_self
  rw [cleaned_eq, List.cons_append, List.dropWhile_cons_of_neg (by simp [shown]),
    ← List.cons_append]
  exact cleanedEnd_append visible rest

/-- Cleaning a text adds nothing to it. -/
theorem cleaned_subset (text : List Char) : cleaned text ⊆ text := by
  intro c member
  rw [cleaned_eq, cleanedEnd, List.mem_filter, List.mem_reverse] at member
  have inside := (List.dropWhile_sublist _).subset member.1
  exact (List.dropWhile_sublist _).subset (List.mem_reverse.1 inside)

theorem cutScheme_ssh (rest : List Char) :
    cutScheme ("ssh:".toList ++ rest) = some ("ssh".toList, rest) := rfl

/-- The front of every ssh URI. -/
def sshMark : String := "ssh://"

/-- Behind the front the authority begins. -/
theorem parse_of_sshMark {uri : String} {rest : List Char}
    (begins : uri.toList = sshMark.toList ++ rest) :
    parse uri = afterSlashes "ssh" false (cleanedEnd rest) := by
  have front : sshMark.toList = "ssh:".toList ++ ['/', '/'] := rfl
  have visible : ∀ c ∈ sshMark.toList, ' ' < c := List.all_iff_forall_prop.1 (by decide)
  have cut : cutScheme (cleaned uri.toList) =
      some ("ssh".toList, '/' :: '/' :: cleanedEnd rest) := by
    rw [begins, cleaned_append (by decide) visible, front, List.append_assoc, cutScheme_ssh]
    rfl
  rw [parse, cut]
  rfl

/-- What is read of the place behind a user part, given the name in that part and whether it holds
anything, and of the text behind the authority. -/
def readPlace (scheme : String) (user : List Char × Bool) (place rest : List Char) :
    Except Fault Uri := do
  let (hostText, portText) := cutHost false place
  let host ← opaqueHost hostText
  if hostText = [] ∧ portText ≠ [] then .error .emptyHost
  else
    let (port, left) ← cutPort portText
    if hostText = [] ∧ user.2 = true then .error .emptyHost
    else
      .ok {
        scheme
        username := String.ofList (percentEncode userKeeps user.1)
        host := if hostText = [] then none else some host
        port
        path := String.ofList (pathAfterAuthority false (cutQuery (left ++ rest)).1)
        query := (cutQuery (left ++ rest)).2
      }

/-- An authority is a user part, if there is one, and a place. -/
theorem afterSlashes_eq {scheme : String} {text authority rest : List Char}
    (cut : text.span (fun c => !endsAuthority false c) = (authority, rest)) :
    afterSlashes scheme false text =
      match cutUser authority with
      | some (user, place) =>
        if user = [] ∧ place = [] ∧ rest ≠ [] then .error .emptyHost
        else readPlace scheme (userName user) place rest
      | none => readPlace scheme (userName []) authority rest := by
  unfold afterSlashes readPlace
  rw [cut]
  simp only [bind, Except.bind, pure, Except.pure, throw, throwThe, MonadExceptOf.throw,
    Bool.and_false, Bool.false_eq_true, if_false]
  cases cutUser authority with
  | some parts =>
    obtain ⟨user, place⟩ := parts
    simp
  | none => simp

/-! ## What can be wrong behind the scheme -/

theorem fault_of_opaqueHost {text : List Char} {fault : Fault}
    (refused : opaqueHost text = .error fault) :
    fault = .invalidIpv6 ∨ fault = .invalidDomainCharacter := by
  unfold opaqueHost at refused
  split at refused
  case h_1 host bracketed =>
    unfold bracketed? at bracketed
    split at bracketed
    · split at bracketed
      · split at bracketed <;> cases bracketed <;> cases refused
        exact .inl rfl
      · cases bracketed
        cases refused
        exact .inl rfl
    · cases bracketed
  case h_2 =>
    split at refused
    · cases refused
      exact .inr rfl
    · cases refused

theorem fault_of_cutPort {text : List Char} {fault : Fault}
    (refused : cutPort text = .error fault) : fault = .invalidPort := by
  have finished {digits after : List Char}
      (refused : cutPort.finish digits after = .error fault) : fault = .invalidPort := by
    unfold cutPort.finish at refused
    split at refused
    · cases refused
    · split at refused
      · cases refused
      · cases refused
        rfl
  unfold cutPort at refused
  split at refused
  · dsimp only at refused
    split at refused
    · split at refused
      · exact finished refused
      · cases refused
        rfl
    · exact finished refused
  · cases refused

/-- The faults of an authority and of the host in it. -/
def Fault.ofPlace : List Fault := [.emptyHost, .invalidPort, .invalidIpv6, .invalidDomainCharacter]

theorem fault_of_readPlace {scheme : String} {user : List Char × Bool} {place rest : List Char}
    {fault : Fault} (refused : readPlace scheme user place rest = .error fault) :
    fault ∈ Fault.ofPlace := by
  rcases bind_eq_error_iff.1 refused with unhosted | ⟨host, -, refused⟩
  · rcases fault_of_opaqueHost unhosted with rfl | rfl
    · decide
    · decide
  split at refused
  · cases refused
    decide
  rcases bind_eq_error_iff.1 refused with unported | ⟨⟨port, left⟩, -, refused⟩
  · rw [fault_of_cutPort unported]
    decide
  dsimp only at refused
  split at refused
  · cases refused
    decide
  · cases refused

theorem scheme_of_afterSlashes {scheme : String} {special : Bool} {text : List Char} {uri : Uri}
    (read : afterSlashes scheme special text = .ok uri) : uri.scheme = scheme := by
  unfold afterSlashes at read
  simp only [bind, Except.bind, pure, Except.pure, throw, throwThe, MonadExceptOf.throw] at read
  grind

/-- A URI that begins like an ssh URI has the scheme, or its authority is at fault. -/
theorem parse_ssh {uri : String} (begins : sshMark.toList <+: uri.toList) :
    match parse uri with
    | .ok parsed => parsed.scheme = "ssh"
    | .error fault => fault ∈ Fault.ofPlace := by
  obtain ⟨rest, split⟩ := begins
  rw [parse_of_sshMark split.symm]
  cases read : afterSlashes "ssh" false (cleanedEnd rest) with
  | ok parsed => exact scheme_of_afterSlashes read
  | error fault =>
    rw [afterSlashes_eq rfl] at read
    split at read
    · split at read
      · cases read
        decide
      · exact fault_of_readPlace read
    · exact fault_of_readPlace read

end Gangway.Uri
