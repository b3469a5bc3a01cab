import Gangway.Proofs.Uri.Shape
import Gangway.Ssh.Params

/-!
# Where the parts of parameters come from

Accepted parameters have the host, the port and the path of the URI as it is read. A hostname holds
nothing that a host must not hold, apart from the colons of an address (`not_mem_hostname`).
-/

namespace Gangway.Uri

/-- What an opaque host must not hold stands in none, encoded or not. -/
theorem not_mem_of_opaqueHost {text : List Char} {host : Host} {mark : Char}
    (read : opaqueHost text = .ok host) (forbidden : isForbiddenInHost mark = true)
    (other : mark ≠ ':') : mark ∉ (Ssh.hostTexts host).1.toList := by
  have reserved : isUnreserved mark = false := by
    apply Bool.eq_false_iff.2
    intro unreserved
    rw [not_forbidden_of_isUnreserved unreserved] at forbidden
    cases forbidden
  rcases cases_of_opaqueHost read with ⟨inner, address, -, -, rfl⟩ | ⟨allowed, rfl⟩
  · intro member
    rcases Ipv6.mem_text member with word | rfl | rfl
    · have unreserved : isUnreserved mark = true := by simp [isUnreserved, word]
      rw [reserved] at unreserved
      cases unreserved
    · exact other rfl
    · cases forbidden
  · intro member
    rw [Ssh.hostTexts, String.toList_ofList] at member
    rcases mem_of_mem_percentEncode member with ⟨inside, -⟩ | rfl | word
    · rw [allowed mark inside] at forbidden
      cases forbidden
    · cases forbidden
    · rw [reserved] at word
      cases word

end Gangway.Uri

namespace Gangway.Ssh.Params

/-- Accepted parameters have the host, the port and the path that are read of the URI, and the path
and the query count for nothing else. -/
theorem exists_host_of_ofUri {localUser uri keyPath : String} {passphrase : Option String}
    {params : Params} (accepted : ofUri localUser uri keyPath passphrase = .ok params) :
    ∃ parsed host, Uri.parse uri = .ok parsed ∧ parsed.scheme = "ssh" ∧
      parsed.host = some host ∧ params.hostname = (hostTexts host).1 ∧
      params.port = parsed.port.getD defaultPort ∧ params.path = parsed.path ∧
      ∀ (other : String) path query, Uri.parse other = .ok { parsed with path, query } →
        ofUri localUser other keyPath passphrase =
          .ok { params with path, secure := isSecure query } := by
  unfold ofUri at accepted
  dsimp only at accepted
  split at accepted
  case h_1 => cases accepted
  case h_2 parsed read =>
    split at accepted
    case isTrue => cases accepted
    case isFalse scheme =>
      split at accepted
      case h_1 => cases accepted
      case h_2 host hosted =>
        cases accepted
        refine ⟨parsed, host, read, not_not.1 scheme, hosted, rfl, rfl, rfl, ?_⟩
        intro other path query again
        unfold ofUri
        rw [again]
        dsimp only
        rw [if_neg scheme, hosted]

/-- A hostname holds nothing that a host must not hold, apart from the colons of an address. -/
theorem not_mem_hostname {localUser uri keyPath : String} {passphrase : Option String}
    {params : Params} (accepted : ofUri localUser uri keyPath passphrase = .ok params) {mark : Char}
    (forbidden : Uri.isForbiddenInHost mark = true) (other : mark ≠ ':') :
    mark ∉ params.hostname.toList := by
  obtain ⟨parsed, host, read, ssh, hosted, hostname, -⟩ := exists_host_of_ofUri accepted
  have some : parsed.host ≠ none := by
    rw [hosted]
    exact Option.some_ne_none host
  obtain ⟨_, rest, -, -, read, -⟩ := Uri.exists_authority_of_parse read ssh some
  obtain ⟨_, _, _, _, -, -, -, read, -⟩ := Uri.exists_place_of_afterSlashes read some
  obtain ⟨_, _, _, -, named, -, -⟩ := Uri.exists_hostText_of_readPlace read hosted
  rw [hostname]
  exact Uri.not_mem_of_opaqueHost named forbidden other

end Gangway.Ssh.Params
