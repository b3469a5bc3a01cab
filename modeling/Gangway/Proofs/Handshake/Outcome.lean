import Gangway.Proofs.Handshake.Offering

/-!
# What comes of a handshake

`Handshake.Course` tells every way in which a handshake can go, from what the bastion does and in
what time, and `course_run` says that a handshake goes one of these ways. From it `run_exact` reads
off which bastions see any attempt, and exactly when a handshake ends with a session, with a
rejection, with a failure, or for want of time.
-/

namespace Gangway.Ssh

/-- The bastion presents a key in time, and the policy accepts it. -/
def Verified (bastion : Bastion) (policy : HostKeyPolicy) : Prop :=
  ∃ key, bastion.Greets (.ok key) ∧ policy.accepts key = true

/-- Some method ends the offering with this verdict, when all before it are refused. -/
def Concludes (bastion : Bastion) (user : String) (offers : List Method) (verdict : Verdict) :
    Prop :=
  ∃ tried method rest made, offers = tried.map Attempt.method ++ method :: rest ∧
    bastion.Refuses user tried ∧ bastion.Ends user tried method made verdict

/-- All methods are offered and refused. -/
def RefusesAll (bastion : Bastion) (user : String) (offers : List Method) : Prop :=
  ∃ tried, tried.map Attempt.method = offers ∧ bastion.Refuses user tried

namespace Handshake

variable {bastion : Bastion} {params : Params} {policy : HostKeyPolicy} {methods : AuthMethods}

/-- How a handshake goes. -/
inductive Course (bastion : Bastion) (params : Params) (policy : HostKeyPolicy)
    (methods : AuthMethods) : Handshake → Prop where
  | silent (never : ∀ answer, ¬bastion.Greets answer) :
      Course bastion params policy methods ⟨[], conclude bastion params .late⟩
  | unreached {message : String} (greets : bastion.Greets (.error message)) :
      Course bastion params policy methods ⟨[], conclude bastion params (.failed message)⟩
  | distrusted {key : PublicKey} (greets : bastion.Greets (.ok key))
      (refused : policy.accepts key = false) :
      Course bastion params policy methods
        ⟨[], conclude bastion params (.failed bastion.distrusted)⟩
  | rejected {tried : List Attempt} (verified : Verified bastion policy)
      (all : tried.map Attempt.method = methods.offers)
      (refuses : bastion.Refuses params.user tried) :
      Course bastion params policy methods ⟨tried, conclude bastion params .refused⟩
  | concluded {tried made : List Attempt} {rest : List Method} {method : Method}
      {verdict : Verdict} (verified : Verified bastion policy)
      (offers : methods.offers = tried.map Attempt.method ++ method :: rest)
      (refuses : bastion.Refuses params.user tried)
      (ends : bastion.Ends params.user tried method made verdict) :
      Course bastion params policy methods ⟨made, conclude bastion params verdict⟩

theorem run_eq : run bastion params policy methods =
    match bastion.greeting.within handshakeLimit with
    | none => ⟨[], conclude bastion params .late⟩
    | some (.error message) => ⟨[], conclude bastion params (.failed message)⟩
    | some (.ok key) =>
      if policy.accepts key then
        ⟨(offer (bastion.answersWithin handshakeLimit params.user) [] methods.offers).attempts,
          conclude bastion params
            (offer (bastion.answersWithin handshakeLimit params.user) [] methods.offers).verdict⟩
      else ⟨[], conclude bastion params (.failed bastion.distrusted)⟩ := rfl

theorem run_of_silent (never : ∀ answer, ¬bastion.Greets answer) :
    run bastion params policy methods = ⟨[], conclude bastion params .late⟩ := by
  have none : bastion.greeting.within handshakeLimit = none := by
    rw [Option.eq_none_iff_forall_ne_some]
    exact fun answer given => never answer (Timed.within_eq_some_iff.1 given)
  rw [run_eq, none]

theorem run_of_unreached {message : String} (greets : bastion.Greets (.error message)) :
    run bastion params policy methods = ⟨[], conclude bastion params (.failed message)⟩ := by
  rw [run_eq, Timed.within_eq_some_iff.2 greets]

theorem run_of_distrusted {key : PublicKey} (greets : bastion.Greets (.ok key))
    (refused : policy.accepts key = false) :
    run bastion params policy methods =
      ⟨[], conclude bastion params (.failed bastion.distrusted)⟩ := by
  rw [run_eq, Timed.within_eq_some_iff.2 greets]
  exact if_neg (by simp [refused])

/-- Methods are offered to a bastion whose key is accepted. -/
theorem run_of_verified {authentication : Authentication} (verified : Verified bastion policy)
    (offered : offer (bastion.answersWithin handshakeLimit params.user) [] methods.offers =
      authentication) :
    run bastion params policy methods =
      ⟨authentication.attempts, conclude bastion params authentication.verdict⟩ := by
  obtain ⟨key, greets, accepted⟩ := verified
  rw [run_eq, Timed.within_eq_some_iff.2 greets, offered]
  exact if_pos accepted

theorem run_of_refuses {tried : List Attempt} (verified : Verified bastion policy)
    (all : tried.map Attempt.method = methods.offers)
    (refuses : bastion.Refuses params.user tried) :
    run bastion params policy methods = ⟨tried, conclude bastion params .refused⟩ := by
  obtain ⟨key, greets, -⟩ := id verified
  have offered := offer_of_refuses greets [] tried refuses
  rw [List.reverse_nil, all] at offered
  exact run_of_verified verified offered

theorem run_of_ends {tried made : List Attempt} {rest : List Method} {method : Method}
    {verdict : Verdict} (verified : Verified bastion policy)
    (offers : methods.offers = tried.map Attempt.method ++ method :: rest)
    (refuses : bastion.Refuses params.user tried)
    (ends : bastion.Ends params.user tried method made verdict) :
    run bastion params policy methods = ⟨made, conclude bastion params verdict⟩ := by
  obtain ⟨key, greets, -⟩ := id verified
  have offered := offer_of_ends greets [] tried rest refuses ends
  rw [List.reverse_nil, ← offers] at offered
  exact run_of_verified verified offered

/-- Every handshake goes one of the ways. -/
theorem course_run : Course bastion params policy methods (run bastion params policy methods) := by
  by_cases greeted : ∃ answer, bastion.Greets answer
  · obtain ⟨answer, greets⟩ := greeted
    cases answer with
    | error message =>
      rw [run_of_unreached greets]
      exact .unreached greets
    | ok key =>
      cases judged : policy.accepts key with
      | false =>
        rw [run_of_distrusted greets judged]
        exact .distrusted greets judged
      | true =>
        have verified : Verified bastion policy := ⟨key, greets, judged⟩
        have none : bastion.Refuses params.user [] := Each.nil
        rcases none.orEnds methods.offers with
          ⟨tried, all, refuses⟩ | ⟨tried, method, rest, made, verdict, offers, refuses, ends⟩
        · rw [run_of_refuses verified all refuses]
          exact .rejected verified all refuses
        · rw [run_of_ends verified offers refuses ends]
          exact .concluded verified offers refuses ends
  · rw [run_of_silent (not_exists.1 greeted)]
    exact .silent (not_exists.1 greeted)

theorem Course.guarded {handshake : Handshake}
    (course : Course bastion params policy methods handshake)
    (attempted : handshake.attempts ≠ []) : Verified bastion policy := by
  cases course with
  | silent | unreached | distrusted => exact absurd rfl attempted
  | rejected verified => exact verified
  | concluded verified => exact verified

theorem Course.offered {handshake : Handshake}
    (course : Course bastion params policy methods handshake) :
    handshake.attempts.map Attempt.method <+: methods.offers := by
  cases course with
  | silent | unreached | distrusted => exact List.nil_prefix
  | rejected _ all => exact all ▸ List.prefix_rfl
  | @concluded tried made rest method _ _ offers _ ends =>
    rcases ends.atMostOne with ⟨rfl, -⟩ | ⟨attempt, rfl, rfl, -⟩
    · exact ⟨method :: rest, offers.symm⟩
    · exact ⟨rest, by simp [offers]⟩

theorem Course.signed {handshake : Handshake}
    (course : Course bastion params policy methods handshake) :
    Each (bastion.Prepares params.user) handshake.attempts := by
  cases course with
  | silent | unreached | distrusted => exact Each.nil
  | rejected _ _ refuses => exact refuses.prepares
  | concluded _ _ refuses ends => exact ends.prepares refuses.prepares

/-- A handshake that gives no session fails, is rejected or times out. -/
theorem Course.error {handshake : Handshake} {error : SshError}
    (course : Course bastion params policy methods handshake)
    (failed : handshake.outcome = .error error) :
    (∃ message, error = .handshakeFailed params.host message) ∨
      error = .authenticationRejected params.host params.user ∨
      error = .handshakeTimeout params.host handshakeSeconds := by
  cases course with
  | silent =>
    cases failed
    exact .inr (.inr rfl)
  | unreached | distrusted =>
    cases failed
    exact .inl ⟨_, rfl⟩
  | rejected =>
    cases failed
    exact .inr (.inl rfl)
  | concluded _ _ _ ends =>
    cases ends with
    | accepted => cases failed
    | failed | hashFailed =>
      cases failed
      exact .inl ⟨_, rfl⟩
    | late | hashLate =>
      cases failed
      exact .inr (.inr rfl)

theorem run_accepted_iff {session : Session} :
    (run bastion params policy methods).outcome = .ok session ↔
      session = ⟨params.host, params.path, bastion⟩ ∧ Verified bastion policy ∧
        Concludes bastion params.user methods.offers .accepted := by
  constructor
  · have course : Course bastion params policy methods _ := course_run
    generalize run bastion params policy methods = handshake at course ⊢
    intro done
    cases course with
    | silent | unreached | distrusted | rejected => cases done
    | concluded verified offers refuses ends =>
      cases ends with
      | accepted offered prepared answer =>
        cases done
        exact ⟨rfl, verified, _, _, _, _, offers, refuses, .accepted offered prepared answer⟩
      | failed | late | hashFailed | hashLate => cases done
  · rintro ⟨rfl, verified, tried, method, rest, made, offers, refuses, ends⟩
    rw [run_of_ends verified offers refuses ends]
    rfl

theorem run_rejected_iff {host user : String} :
    (run bastion params policy methods).outcome = .error (.authenticationRejected host user) ↔
      (host = params.host ∧ user = params.user) ∧ Verified bastion policy ∧
        RefusesAll bastion params.user methods.offers := by
  constructor
  · have course : Course bastion params policy methods _ := course_run
    generalize run bastion params policy methods = handshake at course ⊢
    intro done
    cases course with
    | silent | unreached | distrusted => cases done
    | rejected verified all refuses =>
      cases done
      exact ⟨⟨rfl, rfl⟩, verified, _, all, refuses⟩
    | concluded _ _ _ ends => cases ends <;> cases done
  · rintro ⟨⟨rfl, rfl⟩, verified, tried, all, refuses⟩
    rw [run_of_refuses verified all refuses]
    rfl

theorem run_failed_iff {host : String} :
    (∃ message, (run bastion params policy methods).outcome =
        .error (.handshakeFailed host message)) ↔
      host = params.host ∧ ((∃ message, bastion.Greets (.error message)) ∨
        (∃ key, bastion.Greets (.ok key) ∧ policy.accepts key = false) ∨
        (Verified bastion policy ∧
          ∃ message, Concludes bastion params.user methods.offers (.failed message))) := by
  constructor
  · have course : Course bastion params policy methods _ := course_run
    generalize run bastion params policy methods = handshake at course ⊢
    rintro ⟨message, done⟩
    cases course with
    | silent | rejected => cases done
    | unreached greets =>
      cases done
      exact ⟨rfl, .inl ⟨_, greets⟩⟩
    | distrusted greets refused =>
      cases done
      exact ⟨rfl, .inr (.inl ⟨_, greets, refused⟩)⟩
    | concluded verified offers refuses ends =>
      cases ends with
      | accepted | late | hashLate => cases done
      | failed offered prepared answer =>
        cases done
        exact ⟨rfl, .inr (.inr ⟨verified, _, _, _, _, _, offers, refuses,
          .failed offered prepared answer⟩)⟩
      | hashFailed key rsa first answer =>
        cases done
        exact ⟨rfl, .inr (.inr ⟨verified, _, _, _, _, _, offers, refuses,
          .hashFailed key rsa first answer⟩)⟩
  · rintro ⟨rfl, ⟨message, greets⟩ | ⟨key, greets, refused⟩ |
      ⟨verified, message, tried, method, rest, made, offers, refuses, ends⟩⟩
    · exact ⟨message, by rw [run_of_unreached greets]; rfl⟩
    · exact ⟨bastion.distrusted, by rw [run_of_distrusted greets refused]; rfl⟩
    · exact ⟨message, by rw [run_of_ends verified offers refuses ends]; rfl⟩

theorem run_late_iff {host : String} {seconds : Nat} :
    (run bastion params policy methods).outcome = .error (.handshakeTimeout host seconds) ↔
      (host = params.host ∧ seconds = handshakeSeconds) ∧ ((∀ answer, ¬bastion.Greets answer) ∨
        (Verified bastion policy ∧ Concludes bastion params.user methods.offers .late)) := by
  constructor
  · have course : Course bastion params policy methods _ := course_run
    generalize run bastion params policy methods = handshake at course ⊢
    intro done
    cases course with
    | unreached | distrusted | rejected => cases done
    | silent never =>
      cases done
      exact ⟨⟨rfl, rfl⟩, .inl never⟩
    | concluded verified offers refuses ends =>
      cases ends with
      | accepted | failed | hashFailed => cases done
      | late offered prepared silent =>
        cases done
        exact ⟨⟨rfl, rfl⟩, .inr ⟨verified, _, _, _, _, offers, refuses,
          .late offered prepared silent⟩⟩
      | hashLate key rsa first silent =>
        cases done
        exact ⟨⟨rfl, rfl⟩, .inr ⟨verified, _, _, _, _, offers, refuses,
          .hashLate key rsa first silent⟩⟩
  · rintro ⟨⟨rfl, rfl⟩, never | ⟨verified, tried, method, rest, made, offers, refuses, ends⟩⟩
    · rw [run_of_silent never]
      rfl
    · rw [run_of_ends verified offers refuses ends]
      rfl

/-- What a handshake keeps to. -/
structure Exact (bastion : Bastion) (params : Params) (policy : HostKeyPolicy)
    (methods : AuthMethods) (handshake : Handshake) : Prop where
  /-- No attempt is made unless an accepted key is presented in time. -/
  guarded : handshake.attempts ≠ [] → Verified bastion policy
  /-- The methods are offered in order. -/
  offered : handshake.attempts.map Attempt.method <+: methods.offers
  /-- RSA keys sign with the hash that the bastion advertises when it is asked, which it is once and
  in time, and other keys without any. -/
  signed : Each (bastion.Prepares params.user) handshake.attempts
  /-- A key that is not accepted fails the handshake before any attempt. -/
  distrusted : ∀ key, bastion.Greets (.ok key) → policy.accepts key = false →
    handshake.attempts = [] ∧
      handshake.outcome = .error (.handshakeFailed params.host bastion.distrusted)
  /-- There is a session exactly if some method is accepted. -/
  accepted : ∀ session, handshake.outcome = .ok session ↔
    session = ⟨params.host, params.path, bastion⟩ ∧ Verified bastion policy ∧
      Concludes bastion params.user methods.offers .accepted
  /-- The authentication is rejected exactly if all methods are refused. -/
  rejected : ∀ host user, handshake.outcome = .error (.authenticationRejected host user) ↔
    (host = params.host ∧ user = params.user) ∧ Verified bastion policy ∧
      RefusesAll bastion params.user methods.offers
  /-- The handshake fails exactly if the bastion is not reached, presents a key that is not
  accepted, or fails at a method or when it is asked for the hash, each of them in time. -/
  failed : ∀ host, (∃ message, handshake.outcome = .error (.handshakeFailed host message)) ↔
    host = params.host ∧ ((∃ message, bastion.Greets (.error message)) ∨
      (∃ key, bastion.Greets (.ok key) ∧ policy.accepts key = false) ∨
      (Verified bastion policy ∧
        ∃ message, Concludes bastion params.user methods.offers (.failed message)))
  /-- The handshake times out exactly if the greeting, the hash or the reply to a method is not in
  time. -/
  late : ∀ host seconds, handshake.outcome = .error (.handshakeTimeout host seconds) ↔
    (host = params.host ∧ seconds = handshakeSeconds) ∧ ((∀ answer, ¬bastion.Greets answer) ∨
      (Verified bastion policy ∧ Concludes bastion params.user methods.offers .late))
  /-- Nothing else comes of a handshake. -/
  ends : ∀ error, handshake.outcome = .error error →
    (∃ message, error = .handshakeFailed params.host message) ∨
      error = .authenticationRejected params.host params.user ∨
      error = .handshakeTimeout params.host handshakeSeconds

/-- **What comes of a handshake.** It keeps to `Exact`, whatever the policy, the methods and the
bastion. -/
theorem run_exact (bastion : Bastion) (params : Params) (policy : HostKeyPolicy)
    (methods : AuthMethods) :
    Exact bastion params policy methods (run bastion params policy methods) where
  guarded := course_run.guarded
  offered := course_run.offered
  signed := course_run.signed
  distrusted key greets refused := by
    rw [run_of_distrusted greets refused]
    exact ⟨rfl, rfl⟩
  accepted _ := run_accepted_iff
  rejected _ _ := run_rejected_iff
  failed _ := run_failed_iff
  late _ _ := run_late_iff
  ends _ := course_run.error

end Handshake

end Gangway.Ssh
