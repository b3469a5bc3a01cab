import Gangway.Proofs.Params.Written

/-!
# Parameters of a URI with encoded parts

A user and a path of any characters are encoded to be written in a URI. The parameters hold them as
they are encoded: decoding would give them back, but is not done, so that a user or a path that
needs encoding is not the one that the URI denotes (`survives_iff`).
-/

namespace Gangway.Ssh.Params

open Uri (isUnreserved isUnreservedOrSlash percentDecode)

/-- The URI that denotes a user and a path on a host. -/
def encodedUri (user path : String) : String :=
  "ssh://" ++ encodedName user ++ "@host" ++ encodedPath path

/-- The parameters of the URI hold the user and the path that it denotes. -/
def Survives (user path : String) : Prop :=
  ∀ localUser keyPath passphrase, ∃ params,
    ofUri localUser (encodedUri user path) keyPath passphrase = .ok params ∧
      params.user = user ∧ params.path = path

theorem percentDecode_encodedName (name : String) :
    percentDecode (Text.utf8 (encodedName name)) = Text.utf8 name := by
  unfold Text.utf8 encodedName
  rw [String.toList_ofList]
  exact Uri.percentDecode_percentEncode Uri.plain_of_isUnreserved _

theorem percentDecode_encodedPath (path : String) :
    percentDecode (Text.utf8 (encodedPath path)) = Text.utf8 path := by
  have plain (c : Char) (kept : isUnreservedOrSlash c = true) : c.toNat < 128 ∧ c ≠ '%' := by
    rcases Bool.or_eq_true_iff.1 kept with word | slash
    · exact Uri.plain_of_isUnreserved c word
    · rw [of_decide_eq_true slash]
      decide
  unfold Text.utf8 encodedPath
  rw [String.toList_ofList]
  exact Uri.percentDecode_percentEncode plain _

theorem ofUri_encodedUri (localUser keyPath : String) (passphrase : Option String)
    {user path : String} (named : user ≠ "") (absolute : AbsolutePath path) :
    ofUri localUser (encodedUri user path) keyPath passphrase = .ok {
      host := "host:22"
      hostname := "host"
      port := 22
      path := encodedPath path
      user := encodedName user
      keyPath
      keyPassphrase := passphrase
      secure := true
      password := "" } := by
  have host : WrittenHost "host" "host" := .name (by decide) (List.all_eq_true.1 (by decide))
  have whole : encodedUri user path =
      "ssh://" ++ encodedName user ++ "@" ++ "host" ++ "" ++ encodedPath path := by
    have joined : "@host" = "@" ++ "host" := by decide
    rw [encodedUri, joined, String.append_empty, ← String.append_assoc]
  have shown : "host:22" = "host" ++ ":" ++ toString (22 : UInt16).toNat := by decide
  rw [whole, shown, ofUri_encoded localUser user keyPath passphrase host .none absolute,
    if_neg named]

/-- **What of a user and a path survives in a URI.** The parameters hold both as they are encoded,
and these are the user and the path themselves exactly if nothing in them needs encoding. -/
theorem survives_iff {user path : String} (named : user ≠ "") (absolute : AbsolutePath path) :
    (∀ localUser keyPath passphrase,
      ofUri localUser (encodedUri user path) keyPath passphrase = .ok {
        host := "host:22"
        hostname := "host"
        port := 22
        path := encodedPath path
        user := encodedName user
        keyPath
        keyPassphrase := passphrase
        secure := true
        password := "" }) ∧
    percentDecode (Text.utf8 (encodedName user)) = Text.utf8 user ∧
    percentDecode (Text.utf8 (encodedPath path)) = Text.utf8 path ∧
    (Survives user path ↔ (∀ c ∈ user.toList, isUnreserved c = true) ∧
      ∀ c ∈ path.toList, isUnreservedOrSlash c = true) := by
  have read (localUser keyPath : String) (passphrase : Option String) :=
    ofUri_encodedUri localUser keyPath passphrase named absolute
  refine ⟨read, percentDecode_encodedName user, percentDecode_encodedPath path, ?_⟩
  rw [← encodedName_eq_self_iff, ← encodedPath_eq_self_iff]
  constructor
  · intro survives
    obtain ⟨params, again, sameUser, samePath⟩ := survives "" "" none
    rw [read] at again
    cases again
    exact ⟨sameUser, samePath⟩
  · rintro ⟨sameUser, samePath⟩ localUser keyPath passphrase
    exact ⟨_, read localUser keyPath passphrase, sameUser, samePath⟩

/-- A user and a path with a blank in them. -/
theorem survives_iff_blank :
    "a b" ≠ "" ∧ AbsolutePath "/run/my sock" ∧
    ofUri "local" "ssh://a%20b@host/run/my%20sock" "/keys/id" none = .ok {
      host := "host:22"
      hostname := "host"
      port := 22
      path := "/run/my%20sock"
      user := "a%20b"
      keyPath := "/keys/id"
      keyPassphrase := none
      secure := true
      password := "" } := by
  have named : "a b" ≠ "" := by decide
  have absolute : AbsolutePath "/run/my sock" := ⟨by decide, by decide⟩
  have uri : encodedUri "a b" "/run/my sock" = "ssh://a%20b@host/run/my%20sock" := by decide
  have read := (survives_iff named absolute).1 "local" "/keys/id" none
  rw [uri] at read
  exact ⟨named, absolute, read⟩

/-- Neither of them is the one that the URI denotes. -/
theorem not_survives_blank :
    "a b" ≠ "" ∧ AbsolutePath "/run/my sock" ∧ ¬ Survives "a b" "/run/my sock" := by
  refine ⟨by decide, ⟨by decide, by decide⟩, fun survives => ?_⟩
  have read : ofUri "local" (encodedUri "a b" "/run/my sock") "/keys/id" none = .ok {
      host := "host:22"
      hostname := "host"
      port := 22
      path := "/run/my%20sock"
      user := "a%20b"
      keyPath := "/keys/id"
      keyPassphrase := none
      secure := true
      password := "" } := by decide +kernel
  obtain ⟨params, again, user, -⟩ := survives "local" "/keys/id" none
  rw [read] at again
  cases again
  exact absurd user (by decide)

end Gangway.Ssh.Params
