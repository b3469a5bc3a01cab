import Gangway.Proofs.Uri.Form
import Gangway.Proofs.Uri.Query
import Gangway.Ssh.Params

/-!
# Host-key checking is turned off on purpose only

Host-key checking is off exactly when the first `secure` field of the query spells false
(`secure_exact`). No other field turns it off, no later one, none that spells no truth value, and no
fragment.
-/

namespace Gangway.Ssh

open Uri (Field Open QueryIn Unmarked cleaned cutQuery fieldsText formPairs)

/-- The spellings of false. -/
def spelledFalse : List String := ["0", "f", "F", "false", "False", "FALSE"]

/-- The first `secure` pair spells false. -/
def TurnsOff (pairs : List (List Char × List Char)) : Prop :=
  ∃ before value after, pairs = before ++ ("secure".toList, value) :: after ∧
    (∀ pair ∈ before, pair.1 ≠ "secure".toList) ∧ String.ofList value ∈ spelledFalse

theorem not_turnsOff_nil : ¬ TurnsOff [] := by
  rintro ⟨before, value, after, same, -⟩
  simp at same

theorem getD_flag?_eq_false_iff {value : List Char} :
    (flag? value).getD true = false ↔ String.ofList value ∈ spelledFalse := by
  unfold flag?
  split
  case isTrue truth =>
    have disjoint : ∀ word ∈ ["1", "t", "T", "true", "True", "TRUE"], word ∉ spelledFalse := by
      decide
    have spelled : String.ofList value ∉ spelledFalse := by
      apply disjoint
      simpa using truth
    simp [spelled]
  case isFalse =>
    split
    case isTrue spelled => simpa [spelledFalse] using spelled
    case isFalse spelled => simpa [spelledFalse] using spelled

/-- Only the first `secure` pair counts. -/
theorem isSecure_eq_false_iff {query : Option (List Char)} :
    isSecure query = false ↔ TurnsOff (formPairs (query.getD [])) := by
  unfold isSecure
  constructor
  · intro off
    split at off
    case h_2 => cases off
    case h_1 key value found =>
      obtain ⟨named, before, after, same, others⟩ := List.find?_eq_some_iff_append.1 found
      have secure : key = "secure".toList := by simpa using named
      rw [secure] at same
      refine ⟨before, value, after, same, ?_, getD_flag?_eq_false_iff.1 off⟩
      intro pair member
      simpa using others pair member
  · rintro ⟨before, value, after, same, others, spelled⟩
    have found : (formPairs (query.getD [])).find? (fun pair => pair.1 == "secure".toList) =
        some ("secure".toList, value) := by
      rw [List.find?_eq_some_iff_append]
      refine ⟨by simp, before, after, same, ?_⟩
      intro pair member
      simpa using others pair member
    rw [found]
    exact getD_flag?_eq_false_iff.2 spelled

namespace Params

/-- What is read of an accepted URI. -/
theorem exists_parse_of_ofUri {localUser uri keyPath : String} {passphrase : Option String}
    {params : Params} (accepted : ofUri localUser uri keyPath passphrase = .ok params) :
    ∃ parsed, Uri.parse uri = .ok parsed ∧ parsed.scheme = "ssh" ∧ parsed.host ≠ none ∧
      params.secure = isSecure parsed.query ∧
      ∀ (other : String) query, Uri.parse other = .ok { parsed with query } →
        ofUri localUser other keyPath passphrase =
          .ok { params with secure := isSecure query } := by
  unfold ofUri at accepted
  split at accepted
  case h_1 => cases accepted
  case h_2 parsed read =>
    split at accepted
    case isTrue => cases accepted
    case isFalse scheme =>
      have ssh : parsed.scheme = "ssh" := not_not.1 scheme
      split at accepted
      case h_1 => cases accepted
      case h_2 host hosted =>
        cases accepted
        refine ⟨parsed, read, ssh, by simp [hosted], rfl, ?_⟩
        intro other query again
        unfold ofUri
        rw [again]
        dsimp only
        rw [if_neg scheme, hosted]
        rfl

/-- The query of an accepted URI decides. -/
theorem secure_eq_false_iff {localUser uri keyPath : String} {passphrase : Option String}
    {params : Params} (accepted : ofUri localUser uri keyPath passphrase = .ok params) :
    params.secure = false ↔
      TurnsOff (formPairs ((cutQuery (cleaned uri.toList)).2.getD [])) := by
  obtain ⟨parsed, read, ssh, hosted, secure, -⟩ := exists_parse_of_ofUri accepted
  rw [secure, isSecure_eq_false_iff, Uri.query_of_parse read ssh hosted]

/-- Host-key checking is off exactly when there is a query and its first `secure` pair spells
false. -/
theorem secure_of_ofUri {localUser uri keyPath : String} {passphrase : Option String}
    {params : Params} (accepted : ofUri localUser uri keyPath passphrase = .ok params) :
    params.secure = false ↔
      ∃ query, QueryIn (cleaned uri.toList) query ∧ TurnsOff (formPairs query) := by
  rw [secure_eq_false_iff accepted]
  constructor
  · intro off
    cases found : (cutQuery (cleaned uri.toList)).2 with
    | none =>
      rw [found] at off
      exact absurd off not_turnsOff_nil
    | some query =>
      rw [found] at off
      exact ⟨query, Uri.cutQuery_eq_some_iff.1 found, off⟩
  · rintro ⟨query, inside, off⟩
    rw [Uri.cutQuery_eq_some_iff.2 inside]
    exact off

/-- A URI with fields for its query and a fragment behind them. -/
def withFields (base : String) (fields : List Field) (fragment : List Char) : String :=
  base ++ String.ofList ('?' :: (fieldsText fields ++ fragment))

theorem visible_fieldsText (fields : List Field) : ∀ c ∈ fieldsText fields, ' ' < c := by
  apply (Uri.writtenWith_fieldsText fields).visible
  exact List.all_iff_forall_prop.1 (by decide)

theorem hash_not_mem_fieldsText (fields : List Field) : '#' ∉ fieldsText fields :=
  (Uri.writtenWith_fieldsText fields).not_mem (by decide) rfl

/-- The fields that are written behind a URI decide, whatever is written behind them. -/
theorem secure_of_withFields {localUser base keyPath : String} {passphrase : Option String}
    {fields : List Field} {fragment : List Char} {params : Params} (unmarked : Unmarked base.toList)
    (ends : ∀ c ∈ fragment.head?, c = '#')
    (accepted : ofUri localUser (withFields base fields fragment) keyPath passphrase = .ok params) :
    params.secure = false ↔ TurnsOff (fields.filterMap Field.pair?) := by
  have stands : QueryIn (cleaned (withFields base fields fragment).toList) (fieldsText fields) := by
    unfold withFields
    rw [String.toList_append, String.toList_ofList]
    exact Uri.queryIn_cleaned_append unmarked (visible_fieldsText fields)
      (hash_not_mem_fieldsText fields) ends
  rw [secure_eq_false_iff accepted, Uri.cutQuery_eq_some_iff.2 stands, Option.getD_some,
    Uri.formPairs_fieldsText]

/-- Fields behind an accepted URI leave it accepted, and change nothing but the check. -/
theorem ofUri_withFields {localUser base keyPath : String} {passphrase : Option String}
    {params : Params} (accepted : ofUri localUser base keyPath passphrase = .ok params)
    (opened : Open base) (fields : List Field) {fragment : List Char}
    (ends : ∀ c ∈ fragment.head?, c = '#') :
    ofUri localUser (withFields base fields fragment) keyPath passphrase =
      .ok { params with secure := isSecure (some (fieldsText fields)) } := by
  obtain ⟨parsed, read, ssh, hosted, -, again⟩ := exists_parse_of_ofUri accepted
  apply again
  exact Uri.parse_append_query read ssh hosted opened (visible_fieldsText fields)
    (hash_not_mem_fieldsText fields) ends

/-- **Host-key checking is turned off on purpose only.** It is off exactly when the first `secure`
pair of the query spells false. Where fields are written behind a URI, that is the first of the pairs
that they stand for, and an accepted URI stays accepted with them. -/
theorem secure_exact (localUser keyPath : String) (passphrase : Option String) :
    (∀ uri params, ofUri localUser uri keyPath passphrase = .ok params →
      (params.secure = false ↔
        ∃ query, QueryIn (cleaned uri.toList) query ∧ TurnsOff (formPairs query))) ∧
    ∀ base fields fragment, (∀ c ∈ fragment.head?, c = '#') →
      (∀ params, Unmarked base.toList →
        ofUri localUser (withFields base fields fragment) keyPath passphrase = .ok params →
        (params.secure = false ↔ TurnsOff (fields.filterMap Field.pair?))) ∧
      ∀ params, Open base → ofUri localUser base keyPath passphrase = .ok params →
        ∃ secure, ofUri localUser (withFields base fields fragment) keyPath passphrase =
          .ok { params with secure } := by
  constructor
  · intro uri params accepted
    exact secure_of_ofUri accepted
  · intro base fields fragment ends
    constructor
    · intro params unmarked accepted
      exact secure_of_withFields unmarked ends accepted
    · intro params opened accepted
      exact ⟨_, ofUri_withFields accepted opened fields ends⟩

/-- A bastion whose check is turned off behind two fields that do not count. -/
theorem secure_exact_bastion :
    ∃ params, ofUri "ana" "ssh://bastion/run/podman.sock?&Secure=0&secure=f&secure=1#secure=1"
      "/keys/id" none = .ok params ∧ params.secure = false := by
  let fields : List Field := [.bare [], .pair "Secure".toList ['0'], .pair "secure".toList ['f'],
    .pair "secure".toList ['1']]
  have uri : withFields "ssh://bastion/run/podman.sock" fields "#secure=1".toList =
      "ssh://bastion/run/podman.sock?&Secure=0&secure=f&secure=1#secure=1" := by decide +kernel
  have last : "ssh://bastion/run/podman.sock".toList.getLast? = some 'k' := by decide
  have opened : Open "ssh://bastion/run/podman.sock" := by
    refine ⟨⟨by decide, by decide⟩, fun c member => ?_⟩
    rw [last] at member
    cases member
    decide
  have ends : ∀ c ∈ "#secure=1".toList.head?, c = '#' := by
    intro c first
    exact (Option.some.inj first).symm
  have accepted : ∃ params, ofUri "ana" "ssh://bastion/run/podman.sock" "/keys/id" none =
      .ok params := ⟨_, rfl⟩
  obtain ⟨params, accepted⟩ := accepted
  obtain ⟨-, written⟩ := secure_exact "ana" "/keys/id" none
  obtain ⟨decided, stays⟩ :=
    written "ssh://bastion/run/podman.sock" fields "#secure=1".toList ends
  obtain ⟨secure, again⟩ := stays params opened accepted
  have off : TurnsOff (fields.filterMap Field.pair?) :=
    ⟨[("Secure".toList, ['0'])], ['f'], [("secure".toList, ['1'])], by decide, by decide, by decide⟩
  rw [uri] at again decided
  exact ⟨_, again, (decided _ opened.unmarked again).2 off⟩

end Params

end Gangway.Ssh
