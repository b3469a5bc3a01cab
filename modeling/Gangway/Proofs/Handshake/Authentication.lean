import Gangway.Proofs.Handshake.Outcome

/-!
# The order of authentication

`authenticate` offers methods to a bastion that answers in time, as functions of the attempts before.
`Lists` says which methods these are and in which order, and `Follows` how they are gone through: up
to the first that is not refused, or up to an RSA key in front of which the bastion fails to say what
hash it advertises. A handshake in which the bastion answers at once authenticates in just this way
(`Bastion.Prompt.run_eq`), so that the laws of handshakes give those of `authenticate_follows`.
-/

namespace Gangway.Ssh

variable {hash : List Attempt → Except String (Option SignatureHash)}
  {reply : List Attempt → Attempt → Reply} {listed : List Method} {tried : List Attempt}
  {attempt : Attempt} {message : String} {methods : AuthMethods}

/-- The methods in the order in which they are offered: the keys and then the password, or only
`none` when there is neither. -/
inductive AuthMethods.Lists : AuthMethods → List Method → Prop where
  | bare : Lists { keys := [], password := none } [.none]
  | keys (signer : Signer) (signers : List Signer) :
      Lists { keys := signer :: signers, password := none } ((signer :: signers).map .key)
  | password (signers : List Signer) (text : String) :
      Lists { keys := signers, password := some text } (signers.map .key ++ [.password text])

theorem AuthMethods.lists_iff : methods.Lists listed ↔ listed = methods.offers := by
  obtain ⟨signers, secret⟩ := methods
  constructor
  · rintro (_ | _ | _)
    · rfl
    · simp [offers, isEmpty]
    · simp [offers, isEmpty]
  · rintro rfl
    cases secret with
    | some text =>
      have offered : offers ⟨signers, some text⟩ = signers.map .key ++ [.password text] := by
        simp [offers, isEmpty]
      exact offered ▸ .password signers text
    | none =>
      cases signers with
      | nil => exact .bare
      | cons signer rest =>
        have offered : offers ⟨signer :: rest, none⟩ = (signer :: rest).map .key := by
          simp [offers, isEmpty]
        exact offered ▸ .keys signer rest

theorem AuthMethods.Lists.ne_nil (lists : methods.Lists listed) : listed ≠ [] := by
  cases lists <;> simp

/-- Only in want of keys and of a password is `none` among the methods. -/
theorem AuthMethods.Lists.none_notMem (lists : methods.Lists listed)
    (given : methods.keys ≠ [] ∨ methods.password ≠ none) : .none ∉ listed := by
  cases lists with
  | bare => simp at given
  | keys signer signers => simp
  | password signers text => simp

/-- What is said of the hash when it is asked for after these attempts. -/
def hashAfter (hash : List Attempt → Except String (Option SignatureHash)) (tried : List Attempt) :
    Except String (Option SignatureHash) :=
  hash tried.reverse

/-- The reply to an attempt that is made after these. -/
def replyAfter (reply : List Attempt → Attempt → Reply) (tried : List Attempt)
    (attempt : Attempt) : Reply :=
  reply tried.reverse attempt

/-- A method is offered by this attempt after others. -/
def Readied (hash : List Attempt → Except String (Option SignatureHash)) (tried : List Attempt)
    (attempt : Attempt) : Prop :=
  Prepared (fun given => hashAfter hash tried = .ok given) tried attempt

/-- All attempts are made by what is said of the hash, and refused, each in its turn. -/
def AllRefused (hash : List Attempt → Except String (Option SignatureHash))
    (reply : List Attempt → Attempt → Reply) (tried : List Attempt) : Prop :=
  Each (fun before attempt => Readied hash before attempt ∧
    replyAfter reply before attempt = .refused) tried

/-- All attempts are refused, and an RSA key is next, the first one, in front of which the bastion
fails to say what hash it advertises. -/
structure HashFails (hash : List Attempt → Except String (Option SignatureHash))
    (reply : List Attempt → Attempt → Reply) (listed : List Method) (tried : List Attempt)
    (message : String) : Prop where
  refused : AllRefused hash reply tried
  next : ∃ signer after, listed = tried.map Attempt.method ++ .key signer :: after ∧
    signer.isRsa = true
  first : agreedHash? tried.reverse = none
  answer : hashAfter hash tried = .error message

/-- Methods are gone through in order until one is accepted or fails. -/
inductive Follows (hash : List Attempt → Except String (Option SignatureHash))
    (reply : List Attempt → Attempt → Reply) (listed : List Method) : Authentication → Prop where
  | refused {made : List Attempt} (all : made.map Attempt.method = listed)
      (refused : AllRefused hash reply made) : Follows hash reply listed ⟨made, .refused⟩
  | accepted {before : List Attempt} {last : Attempt} {after : List Method}
      (split : listed = before.map Attempt.method ++ last.method :: after)
      (refused : AllRefused hash reply before) (readied : Readied hash before last)
      (answer : replyAfter reply before last = .accepted) :
      Follows hash reply listed ⟨before ++ [last], .accepted⟩
  | failed {before : List Attempt} {last : Attempt} {after : List Method} {message : String}
      (split : listed = before.map Attempt.method ++ last.method :: after)
      (refused : AllRefused hash reply before) (readied : Readied hash before last)
      (answer : replyAfter reply before last = .failed message) :
      Follows hash reply listed ⟨before ++ [last], .failed message⟩
  | hashFailed {before : List Attempt} {message : String}
      (fails : HashFails hash reply listed before message) :
      Follows hash reply listed ⟨before, .failed message⟩

/-! ## Bastions that answer at once -/

namespace Bastion

variable {bastion : Bastion} {user : String} {answer : Except String PublicKey}

/-- The bastion answers at once, as these functions of the attempts before. -/
structure Prompt (bastion : Bastion) (user : String)
    (hash : List Attempt → Except String (Option SignatureHash))
    (reply : List Attempt → Attempt → Reply) : Prop where
  hash : ∀ before, bastion.signatureHash user before = .now (hash before)
  reply : ∀ before attempt, bastion.reply user before attempt = .now (reply before attempt)

/-- A bastion that presents a key and answers all users alike, both at once. -/
def answering (hash : List Attempt → Except String (Option SignatureHash))
    (reply : List Attempt → Attempt → Reply) : Bastion where
  greeting := .now (.ok (.other "" []))
  distrusted := ""
  signatureHash _ before := .now (hash before)
  reply _ before attempt := .now (reply before attempt)
  channel _ := .error ""
  engine _ := .never

namespace Prompt

variable (prompt : bastion.Prompt user hash reply) (greets : bastion.Greets answer)

include prompt

/-- No attempt is held up. -/
theorem heldUp (before : List Attempt) (attempt : Attempt) :
    bastion.heldUp user before attempt = some 0 := by
  rw [Bastion.heldUp, prompt.hash]
  exact ite_self _

include greets

/-- No time is lost after the greeting. -/
theorem elapsed (before : List Attempt) :
    ∃ time ≤ handshakeLimit, bastion.elapsed user before = some time := by
  obtain ⟨time, inTime, greeting⟩ := greets
  refine ⟨time, inTime, ?_⟩
  induction before with
  | nil => rw [Bastion.elapsed, greeting]
  | cons attempt before ih =>
    rw [Bastion.elapsed, prompt.heldUp, prompt.reply, ih]
    rfl

theorem advertises_iff {given : Except String (Option SignatureHash)} :
    bastion.Advertises user tried given ↔ hashAfter hash tried = given := by
  obtain ⟨time, inTime, spent⟩ := prompt.elapsed greets tried.reverse
  unfold Advertises
  rw [spent, prompt.hash]
  constructor
  · rintro ⟨_, _, -, ⟨⟩, -⟩
    rfl
  · rintro rfl
    exact ⟨time, 0, rfl, rfl, inTime⟩

theorem answers_iff {given : Reply} :
    bastion.Answers user tried attempt given ↔ replyAfter reply tried attempt = given := by
  obtain ⟨time, inTime, spent⟩ := prompt.elapsed greets tried.reverse
  unfold Answers
  rw [spent, prompt.heldUp, prompt.reply]
  constructor
  · rintro ⟨_, _, _, -, -, ⟨⟩, -⟩
    rfl
  · rintro rfl
    exact ⟨time, 0, 0, rfl, rfl, rfl, inTime⟩

theorem prepares_iff : bastion.Prepares user tried attempt ↔ Readied hash tried attempt := by
  unfold Prepares Readied
  simp only [prompt.advertises_iff greets]

theorem refuses_iff : bastion.Refuses user tried ↔ AllRefused hash reply tried := by
  unfold Refuses AllRefused RefusesNext
  simp only [prompt.prepares_iff greets, prompt.answers_iff greets]

/-- What is offered to the bastion, and how it ends. -/
theorem offer_eq (methods : AuthMethods) :
    offer (bastion.answersWithin handshakeLimit user) [] methods.offers =
      authenticate hash reply methods := by
  have hashes (before) : bastion.hashWithin handshakeLimit user before = some (hash before) := by
    obtain ⟨time, -, spent⟩ := prompt.elapsed greets before
    rw [Bastion.hashWithin, spent, prompt.hash]
    exact Timed.within_now _ _
  have replies (before) (attempt) :
      bastion.replyWithin handshakeLimit user before attempt = some (reply before attempt) := by
    obtain ⟨time, -, spent⟩ := prompt.elapsed greets before
    rw [Bastion.replyWithin, spent, prompt.heldUp, prompt.reply]
    exact Timed.within_now _ _
  have same : bastion.answersWithin handshakeLimit user =
      ⟨fun before => some (hash before), fun before attempt => some (reply before attempt)⟩ := by
    unfold answersWithin
    congr 1
    · exact funext hashes
    · exact funext fun before => funext (replies before)
  rw [same]
  rfl

/-- What is offered to the bastion is gone through. -/
theorem follows_offer (listed : List Method) :
    Follows hash reply listed
      (offer (bastion.answersWithin handshakeLimit user) [] listed) := by
  have none : bastion.Refuses user [] := Each.nil
  rw [← List.reverse_nil]
  rcases none.orEnds listed with
    ⟨made, rfl, refuses⟩ | ⟨before, method, after, made, verdict, rfl, refuses, ends⟩
  · rw [offer_of_refuses greets [] made refuses]
    exact .refused rfl ((prompt.refuses_iff greets).1 refuses)
  · rw [offer_of_ends greets [] before after refuses ends]
    have refused := (prompt.refuses_iff greets).1 refuses
    cases ends with
    | accepted offered prepared answer =>
      exact .accepted (by rw [offered]; rfl) refused ((prompt.prepares_iff greets).1 prepared)
        ((prompt.answers_iff greets).1 answer)
    | failed offered prepared answer =>
      exact .failed (by rw [offered]; rfl) refused ((prompt.prepares_iff greets).1 prepared)
        ((prompt.answers_iff greets).1 answer)
    | hashFailed key rsa first answer =>
      exact .hashFailed ⟨refused, ⟨_, after, by rw [key]; rfl, rsa⟩, first,
        (prompt.advertises_iff greets).1 answer⟩
    -- Nothing is late, since the bastion answers at once.
    | late _ _ silent => exact absurd ((prompt.answers_iff greets).2 rfl) (silent _)
    | hashLate _ _ _ silent => exact absurd ((prompt.advertises_iff greets).2 rfl) (silent _)

theorem offer_of_follows {authentication : Authentication}
    (follows : Follows hash reply listed authentication) :
    offer (bastion.answersWithin handshakeLimit user) [] listed = authentication := by
  rw [← List.reverse_nil]
  cases follows with
  | refused all refused =>
    rw [← all]
    exact offer_of_refuses greets [] _ ((prompt.refuses_iff greets).2 refused)
  | accepted split refused readied answer =>
    rw [split]
    exact offer_of_ends greets [] _ _ ((prompt.refuses_iff greets).2 refused)
      (.accepted rfl ((prompt.prepares_iff greets).2 readied)
        ((prompt.answers_iff greets).2 answer))
  | failed split refused readied answer =>
    rw [split]
    exact offer_of_ends greets [] _ _ ((prompt.refuses_iff greets).2 refused)
      (.failed rfl ((prompt.prepares_iff greets).2 readied)
        ((prompt.answers_iff greets).2 answer))
  | hashFailed fails =>
    obtain ⟨signer, after, split, rsa⟩ := fails.next
    rw [split]
    exact offer_of_ends greets [] _ _ ((prompt.refuses_iff greets).2 fails.refused)
      (.hashFailed rfl rsa fails.first ((prompt.advertises_iff greets).2 fails.answer))

end Prompt

theorem prompt_answering (user : String) : (answering hash reply).Prompt user hash reply :=
  ⟨fun _ => rfl, fun _ _ => rfl⟩

theorem greets_answering : (answering hash reply).Greets (.ok (.other "" [])) :=
  ⟨0, Nat.zero_le _, rfl⟩

/-- A handshake with a bastion that answers at once and presents an accepted key is this
authentication. -/
theorem Prompt.run_eq {params : Params} {policy : HostKeyPolicy}
    (prompt : bastion.Prompt params.user hash reply) (verified : Verified bastion policy)
    (methods : AuthMethods) :
    Handshake.run bastion params policy methods =
      ⟨(authenticate hash reply methods).attempts,
        Handshake.conclude bastion params (authenticate hash reply methods).verdict⟩ := by
  obtain ⟨key, greets, -⟩ := id verified
  exact Handshake.run_of_verified verified (prompt.offer_eq greets methods)

end Bastion

/-! ## Authentication -/

/-- To say how methods are gone through is to say what comes of authentication. -/
theorem authenticate_eq_iff {authentication : Authentication} :
    authenticate hash reply methods = authentication ↔
      Follows hash reply methods.offers authentication := by
  have greets : (Bastion.answering hash reply).Greets _ := Bastion.greets_answering
  have prompt : (Bastion.answering hash reply).Prompt "" hash reply := Bastion.prompt_answering ""
  rw [← prompt.offer_eq greets methods]
  constructor
  · rintro rfl
    exact prompt.follows_offer greets methods.offers
  · exact prompt.offer_of_follows greets

/-- The second of two RSA keys signs with the hash that was advertised for the first. -/
example :
    authenticate (fun before => if before.isEmpty then .ok (some .sha512) else .error "closed")
      (fun _ _ => .refused) { keys := [⟨.rsa [3] [7], [], ""⟩, ⟨.rsa [3] [11], [], ""⟩] } =
    ⟨[.key ⟨.rsa [3] [7], [], ""⟩ (some .sha512), .key ⟨.rsa [3] [11], [], ""⟩ (some .sha512)],
      .refused⟩ := by decide

namespace Follows

variable {authentication : Authentication} (follows : Follows hash reply listed authentication)

include follows

theorem offered : authentication.attempts.map Attempt.method <+: listed := by
  cases follows with
  | refused all => exact all ▸ List.prefix_rfl
  | @accepted _ _ after split => exact ⟨after, by simp [split]⟩
  | @failed _ _ after _ split => exact ⟨after, by simp [split]⟩
  | hashFailed fails =>
    obtain ⟨signer, after, split, -⟩ := fails.next
    exact ⟨_, split.symm⟩

theorem signed : Each (Readied hash) authentication.attempts := by
  have front {tried : List Attempt} (refused : AllRefused hash reply tried) :
      Each (Readied hash) tried := refused.imp fun _ _ => And.left
  cases follows with
  | refused _ refused => exact front refused
  | accepted _ refused readied => exact (front refused).snoc readied
  | failed _ refused readied => exact (front refused).snoc readied
  | hashFailed fails => exact front fails.refused

theorem accepted_iff : authentication.verdict = .accepted ↔ ∃ before last,
    authentication.attempts = before ++ [last] ∧ replyAfter reply before last = .accepted := by
  cases follows with
  | refused _ refused =>
    refine ⟨nofun, fun ⟨before, last, ends, answer⟩ => ?_⟩
    cases answer.symm.trans (refused before last [] ends).2
  | accepted _ _ _ answer => exact ⟨fun _ => ⟨_, _, rfl, answer⟩, fun _ => rfl⟩
  | failed _ _ _ failed =>
    refine ⟨nofun, fun ⟨before, last, ends, answer⟩ => ?_⟩
    obtain ⟨rfl, ⟨⟩⟩ := List.append_inj' ends rfl
    cases answer.symm.trans failed
  | hashFailed fails =>
    refine ⟨nofun, fun ⟨before, last, ends, answer⟩ => ?_⟩
    cases answer.symm.trans (fails.refused before last [] ends).2

theorem refused_iff : authentication.verdict = .refused ↔
    authentication.attempts.map Attempt.method = listed ∧
      AllRefused hash reply authentication.attempts := by
  cases follows with
  | refused all refused => exact ⟨fun _ => ⟨all, refused⟩, fun _ => rfl⟩
  | accepted _ _ _ answer =>
    refine ⟨nofun, fun ⟨_, others⟩ => ?_⟩
    cases answer.symm.trans (others _ _ [] rfl).2
  | failed _ _ _ answer =>
    refine ⟨nofun, fun ⟨_, others⟩ => ?_⟩
    cases answer.symm.trans (others _ _ [] rfl).2
  | hashFailed fails =>
    refine ⟨nofun, fun ⟨all, _⟩ => ?_⟩
    obtain ⟨signer, after, split, -⟩ := fails.next
    simp [← all] at split

theorem failed_iff : authentication.verdict = .failed message ↔
    (∃ before last, authentication.attempts = before ++ [last] ∧
        replyAfter reply before last = .failed message) ∨
      HashFails hash reply listed authentication.attempts message := by
  cases follows with
  | refused all refused =>
    refine ⟨nofun, ?_⟩
    rintro (⟨before, last, ends, answer⟩ | fails)
    · cases answer.symm.trans (refused before last [] ends).2
    · obtain ⟨signer, after, split, -⟩ := fails.next
      simp [← all] at split
  | accepted _ _ _ accepted =>
    refine ⟨nofun, ?_⟩
    rintro (⟨before, last, ends, answer⟩ | fails)
    · obtain ⟨rfl, ⟨⟩⟩ := List.append_inj' ends rfl
      cases answer.symm.trans accepted
    · cases accepted.symm.trans (fails.refused _ _ [] rfl).2
  | failed _ _ _ failed =>
    constructor
    · rintro ⟨⟩
      exact .inl ⟨_, _, rfl, failed⟩
    · rintro (⟨before, last, ends, answer⟩ | fails)
      · obtain ⟨rfl, ⟨⟩⟩ := List.append_inj' ends rfl
        cases failed.symm.trans answer
        rfl
      · cases failed.symm.trans (fails.refused _ _ [] rfl).2
  | hashFailed fails =>
    constructor
    · rintro ⟨⟩
      exact .inr fails
    · rintro (⟨before, last, ends, answer⟩ | fails')
      · cases answer.symm.trans (fails.refused before last [] ends).2
      · cases fails.answer.symm.trans fails'.answer
        rfl

theorem inTime : authentication.verdict ≠ .late := by
  cases follows <;> nofun

/-- Some attempt is made if there is any method, unless the first key has the hash asked for in
vain. -/
theorem exists_last_or_hashFails (some : listed ≠ []) :
    (∃ before last, authentication.attempts = before ++ [last]) ∨
      ∃ message, HashFails hash reply listed [] message := by
  have last_or_nil (made : List Attempt) : (∃ before last, made = before ++ [last]) ∨ made = [] := by
    rcases List.eq_nil_or_concat made with none | ⟨before, last, ends⟩
    · exact .inr none
    · exact .inl ⟨before, last, by simpa using ends⟩
  cases follows with
  | @refused made all =>
    refine (last_or_nil made).imp_right ?_
    rintro rfl
    exact absurd all.symm some
  | accepted => exact .inl ⟨_, _, rfl⟩
  | failed => exact .inl ⟨_, _, rfl⟩
  | @hashFailed before message fails =>
    refine (last_or_nil before).imp_right ?_
    rintro rfl
    exact ⟨message, fails⟩

end Follows

/-- Nobody who offers no RSA key is told that the hash cannot be said. -/
theorem AuthMethods.Lists.not_hashFails (lists : methods.Lists listed)
    (plain : ∀ signer ∈ methods.keys, signer.isRsa = false) :
    ¬HashFails hash reply listed tried message := by
  intro fails
  obtain ⟨signer, after, split, rsa⟩ := fails.next
  have member : .key signer ∈ listed := by simp [split]
  have held : signer ∈ methods.keys := by
    cases lists with
    | bare => simp at member
    | keys => simpa using member
    | password => simpa using member
  exact absurd (rsa.symm.trans (plain signer held)) (by decide)

/-- What comes of authentication with methods in this order. -/
structure Authenticates (hash : List Attempt → Except String (Option SignatureHash))
    (reply : List Attempt → Attempt → Reply) (methods : AuthMethods) (listed : List Method)
    (authentication : Authentication) : Prop where
  /-- The attempts are made with the methods up to the first that is not refused, or up to an RSA
  key in front of which the bastion fails to say what hash it advertises. -/
  follows : Follows hash reply listed authentication
  /-- What is attempted is a front part of the methods. -/
  offered : authentication.attempts.map Attempt.method <+: listed
  /-- RSA keys sign with the hash that is advertised when it is asked for, once, and other keys
  without any. -/
  signed : Each (Readied hash) authentication.attempts
  /-- Nothing is asked for in vain of a bastion that always says what it advertises, or without RSA
  keys: then the attempts end with the first that is not refused, or go through all methods. -/
  told : (∀ before, ∃ given, hash before = .ok given) ∨
    (∀ signer ∈ methods.keys, signer.isRsa = false) →
      ∀ tried message, ¬HashFails hash reply listed tried message
  /-- Some attempt is the last, unless the hash is asked for in vain before all of them. -/
  ends : (∃ before last, authentication.attempts = before ++ [last]) ∨
    ∃ message, HashFails hash reply listed [] message
  accepted : authentication.verdict = .accepted ↔ ∃ before last,
    authentication.attempts = before ++ [last] ∧ replyAfter reply before last = .accepted
  refused : authentication.verdict = .refused ↔
    authentication.attempts.map Attempt.method = listed ∧
      AllRefused hash reply authentication.attempts
  failed : ∀ message, authentication.verdict = .failed message ↔
    (∃ before last, authentication.attempts = before ++ [last] ∧
        replyAfter reply before last = .failed message) ∨
      HashFails hash reply listed authentication.attempts message
  /-- There is no other verdict. -/
  inTime : authentication.verdict ≠ .late
  /-- With a key or a password at hand, `none` is not tried. -/
  guarded : methods.keys ≠ [] ∨ methods.password ≠ none → .none ∉ authentication.attempts
  /-- A handshake comes to the same if the bastion answers at once and its key is accepted. -/
  handshake : ∀ bastion params policy, bastion.Prompt params.user hash reply →
    Verified bastion policy → Handshake.run bastion params policy methods =
      ⟨authentication.attempts, Handshake.conclude bastion params authentication.verdict⟩

/-- **The order of authentication.** The keys are offered in order, then the password, and `none`
only in want of both. The attempts stop at the first that is not refused, and what is replied to it
is the result. In front of the first RSA key the bastion is asked for a hash; if that fails, so does
the authentication, and the key is not offered. -/
theorem authenticate_follows (hash : List Attempt → Except String (Option SignatureHash))
    (reply : List Attempt → Attempt → Reply) (methods : AuthMethods) :
    ∃ listed, methods.Lists listed ∧
      (∀ authentication, authenticate hash reply methods = authentication ↔
        Follows hash reply listed authentication) ∧
      Authenticates hash reply methods listed (authenticate hash reply methods) := by
  have lists : methods.Lists methods.offers := AuthMethods.lists_iff.2 rfl
  have follows : Follows hash reply methods.offers (authenticate hash reply methods) :=
    authenticate_eq_iff.1 rfl
  refine ⟨_, lists, fun _ => authenticate_eq_iff, ?_⟩
  exact {
    follows := follows
    offered := follows.offered
    signed := follows.signed
    told := fun told tried message fails => by
      rcases told with told | plain
      · obtain ⟨given, answer⟩ := told tried.reverse
        cases answer.symm.trans fails.answer
      · exact lists.not_hashFails plain fails
    ends := follows.exists_last_or_hashFails lists.ne_nil
    accepted := follows.accepted_iff
    refused := follows.refused_iff
    failed := fun _ => follows.failed_iff
    inTime := follows.inTime
    guarded := fun given member =>
      lists.none_notMem given (follows.offered.subset (List.mem_map_of_mem member))
    handshake := fun _ _ _ prompt verified => prompt.run_eq verified methods }

end Gangway.Ssh
