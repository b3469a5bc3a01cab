import Gangway.Ssh.Handshake

/-!
# Offering methods to a bastion

What a bastion says is in time if all that was said since it was dialled, and this, fits in the
limit. `Prepared` tells what attempt a method is offered by; with an RSA key the bastion may have to
say first which hash it advertises. `Refuses` and `Ends` tell of a sequence of attempts without
offering them, and `offer_of_refuses` and `offer_of_ends` show that offering methods comes to just
that: the methods are gone through until the first that is not refused in time.
-/

namespace Gangway.Ssh

/-- Each member of a list is such as it has to be after the members in front of it. -/
def Each {α : Type} (P : List α → α → Prop) (members : List α) : Prop :=
  ∀ before member after, members = before ++ member :: after → P before member

namespace Each

variable {α : Type} {P Q : List α → α → Prop} {members rest : List α} {last : α}

theorem nil : Each P [] := by
  intro before member after none
  cases before <;> cases none

theorem snoc (each : Each P members) (next : P members last) : Each P (members ++ [last]) := by
  intro before member after same
  rcases List.eq_nil_or_concat after with rfl | ⟨after, end_, rfl⟩
  · obtain ⟨rfl, ⟨⟩⟩ := List.append_inj' same rfl
    exact next
  · have same : members ++ [last] = (before ++ member :: after) ++ [end_] := by simpa using same
    exact each before member after (List.append_inj' same rfl).1

theorem of_append (each : Each P (members ++ rest)) : Each P members := by
  rintro before member after rfl
  exact each before member (after ++ rest) (by simp)

theorem imp (each : Each P members) (weaker : ∀ before member, P before member → Q before member) :
    Each Q members :=
  fun before member after same => weaker before member (each before member after same)

end Each

/-- How many milliseconds a handshake may take. -/
def handshakeLimit : Nat := 1000 * handshakeSeconds

/-- After these attempts a method is offered by this one, if the bastion advertises such a hash when
it is asked. Only the first RSA key has it asked, and all of them sign with the one hash. -/
inductive Prepared (advertised : Option SignatureHash → Prop) (tried : List Attempt) :
    Attempt → Prop where
  | password (text : String) : Prepared advertised tried (.password text)
  | none : Prepared advertised tried .none
  | plain {signer : Signer} (plain : signer.isRsa = false) :
      Prepared advertised tried (.key signer none)
  | agreed {signer : Signer} {hash : Option SignatureHash} (rsa : signer.isRsa = true)
      (agreed : agreedHash? tried.reverse = some hash) :
      Prepared advertised tried (.key signer hash)
  | asked {signer : Signer} {hash : Option SignatureHash} (rsa : signer.isRsa = true)
      (first : agreedHash? tried.reverse = Option.none) (answer : advertised hash) :
      Prepared advertised tried (.key signer hash)

namespace Bastion

/-- What dialling the bastion comes to, if it does so in time. -/
def Greets (bastion : Bastion) (answer : Except String PublicKey) : Prop :=
  ∃ time ≤ handshakeLimit, bastion.greeting = .after time answer

/-- The bastion is asked for a hash after these attempts, and answers in time. -/
def Advertises (bastion : Bastion) (user : String) (tried : List Attempt)
    (answer : Except String (Option SignatureHash)) : Prop :=
  ∃ total time, bastion.elapsed user tried.reverse = some total ∧
    bastion.signatureHash user tried.reverse = .after time answer ∧ total + time ≤ handshakeLimit

/-- A method is offered to the bastion by this attempt after others. -/
def Prepares (bastion : Bastion) (user : String) (tried : List Attempt) (attempt : Attempt) :
    Prop :=
  Prepared (fun hash => bastion.Advertises user tried (.ok hash)) tried attempt

/-- The bastion replies to an attempt that is made after others, and does so in time. -/
def Answers (bastion : Bastion) (user : String) (tried : List Attempt) (attempt : Attempt)
    (reply : Reply) : Prop :=
  ∃ total wait time, bastion.elapsed user tried.reverse = some total ∧
    bastion.heldUp user tried.reverse attempt = some wait ∧
    bastion.reply user tried.reverse attempt = .after time reply ∧
    total + wait + time ≤ handshakeLimit

/-- The bastion refuses an attempt that is made after others, and does so in time. -/
def RefusesNext (bastion : Bastion) (user : String) (tried : List Attempt) (attempt : Attempt) :
    Prop :=
  bastion.Prepares user tried attempt ∧ bastion.Answers user tried attempt .refused

/-- The bastion refuses all attempts that are made one after the other, and each in time. -/
def Refuses (bastion : Bastion) (user : String) (tried : List Attempt) : Prop :=
  Each (bastion.RefusesNext user) tried

/-- A method that is offered after these attempts ends the offering, with these attempts in all. -/
inductive Ends (bastion : Bastion) (user : String) (tried : List Attempt) (method : Method) :
    List Attempt → Verdict → Prop where
  | accepted {attempt : Attempt} (offered : attempt.method = method)
      (prepared : bastion.Prepares user tried attempt)
      (answer : bastion.Answers user tried attempt .accepted) :
      Ends bastion user tried method (tried ++ [attempt]) .accepted
  | failed {attempt : Attempt} {message : String} (offered : attempt.method = method)
      (prepared : bastion.Prepares user tried attempt)
      (answer : bastion.Answers user tried attempt (.failed message)) :
      Ends bastion user tried method (tried ++ [attempt]) (.failed message)
  | late {attempt : Attempt} (offered : attempt.method = method)
      (prepared : bastion.Prepares user tried attempt)
      (silent : ∀ reply, ¬bastion.Answers user tried attempt reply) :
      Ends bastion user tried method (tried ++ [attempt]) .late
  /-- The bastion fails when it is asked for the hash, so that the key is not offered. -/
  | hashFailed {signer : Signer} {message : String} (key : method = .key signer)
      (rsa : signer.isRsa = true) (first : agreedHash? tried.reverse = none)
      (answer : bastion.Advertises user tried (.error message)) :
      Ends bastion user tried method tried (.failed message)
  /-- It does not say in time which hash it advertises. -/
  | hashLate {signer : Signer} (key : method = .key signer) (rsa : signer.isRsa = true)
      (first : agreedHash? tried.reverse = none)
      (silent : ∀ answer, ¬bastion.Advertises user tried answer) :
      Ends bastion user tried method tried .late

variable {bastion : Bastion} {user : String} {tried made : List Attempt} {method : Method}
  {attempt : Attempt} {reply : Reply} {verdict : Verdict}

theorem Refuses.prepares (refuses : bastion.Refuses user tried) :
    Each (bastion.Prepares user) tried :=
  refuses.imp fun _ _ => And.left

theorem Advertises.unique {answer answer' : Except String (Option SignatureHash)}
    (advertised : bastion.Advertises user tried answer)
    (advertised' : bastion.Advertises user tried answer') : answer = answer' := by
  obtain ⟨_, time, _, answered, -⟩ := advertised
  obtain ⟨_, time', _, answered', -⟩ := advertised'
  cases answered.symm.trans answered'
  rfl

/-- The first RSA key is offered with the hash that is advertised. -/
theorem Prepares.advertised {signer : Signer} (prepared : bastion.Prepares user tried attempt)
    (key : attempt.method = .key signer) (rsa : signer.isRsa = true)
    (first : agreedHash? tried.reverse = none) :
    ∃ hash, bastion.Advertises user tried (.ok hash) := by
  cases prepared with
  | password | none => cases key
  | plain plain =>
    cases key
    exact absurd (rsa.symm.trans plain) (by decide)
  | agreed _ agreed => cases first.symm.trans agreed
  | asked _ _ answer => exact ⟨_, answer⟩

/-- What ends the offering makes one attempt more, with its method, or none if the method cannot be
offered. -/
theorem Ends.atMostOne (ends : bastion.Ends user tried method made verdict) :
    (made = tried ∧ ∀ attempt, attempt.method = method → ¬bastion.Prepares user tried attempt) ∨
      ∃ attempt, made = tried ++ [attempt] ∧ attempt.method = method ∧
        bastion.Prepares user tried attempt := by
  cases ends with
  | accepted offered prepared => exact .inr ⟨_, rfl, offered, prepared⟩
  | failed offered prepared => exact .inr ⟨_, rfl, offered, prepared⟩
  | late offered prepared => exact .inr ⟨_, rfl, offered, prepared⟩
  | hashFailed key rsa first answer =>
    refine .inl ⟨rfl, fun attempt offered prepared => ?_⟩
    obtain ⟨hash, advertised⟩ := prepared.advertised (offered.trans key) rsa first
    cases advertised.unique answer
  | hashLate key rsa first silent =>
    refine .inl ⟨rfl, fun attempt offered prepared => ?_⟩
    obtain ⟨hash, advertised⟩ := prepared.advertised (offered.trans key) rsa first
    exact silent _ advertised

theorem Ends.prepares (ends : bastion.Ends user tried method made verdict)
    (front : Each (bastion.Prepares user) tried) : Each (bastion.Prepares user) made := by
  rcases ends.atMostOne with ⟨rfl, -⟩ | ⟨attempt, rfl, -, prepared⟩
  · exact front
  · exact front.snoc prepared

/-! ## What comes in time -/

section

variable {answer : Except String PublicKey} (greets : bastion.Greets answer)
  (refuses : bastion.Refuses user tried)

include greets refuses

/-- As long as all is refused in time, there is time left. -/
theorem Refuses.elapsed :
    ∃ total ≤ handshakeLimit, bastion.elapsed user tried.reverse = some total := by
  rcases List.eq_nil_or_concat tried with rfl | ⟨before, last, rfl⟩
  · obtain ⟨time, inTime, greeting⟩ := greets
    exact ⟨time, inTime, by simp [Bastion.elapsed, greeting]⟩
  · rw [List.concat_eq_append] at refuses ⊢
    obtain ⟨-, total, wait, time, spent, held, replied, inTime⟩ := refuses before last [] rfl
    refine ⟨total + wait + time, inTime, ?_⟩
    rw [List.reverse_append, List.reverse_singleton, List.singleton_append, Bastion.elapsed,
      replied, held, spent]

/-- The hash that is advertised within the time that is left is the one that comes in time. -/
theorem hashWithin_eq_some_iff {hash : Except String (Option SignatureHash)} :
    bastion.hashWithin handshakeLimit user tried.reverse = some hash ↔
      bastion.Advertises user tried hash := by
  obtain ⟨total, inTime, spent⟩ := refuses.elapsed greets
  simp only [hashWithin, Advertises, spent, Timed.within_eq_some_iff, Option.some.injEq]
  constructor
  · rintro ⟨time, fits, answered⟩
    exact ⟨total, time, rfl, answered, by omega⟩
  · rintro ⟨_, time, rfl, answered, fits⟩
    exact ⟨time, by omega, answered⟩

/-- An attempt that is made is not held up for longer than there is time. -/
theorem Prepares.heldUp (prepared : bastion.Prepares user tried attempt) :
    ∃ total wait, bastion.elapsed user tried.reverse = some total ∧
      bastion.heldUp user tried.reverse attempt = some wait ∧ total + wait ≤ handshakeLimit := by
  obtain ⟨total, inTime, spent⟩ := refuses.elapsed greets
  cases prepared with
  | password | none => exact ⟨total, 0, spent, by simp [Bastion.heldUp, Attempt.rsaHash?], inTime⟩
  | plain plain =>
    exact ⟨total, 0, spent, by simp [Bastion.heldUp, Attempt.rsaHash?, plain], inTime⟩
  | agreed rsa agreed => exact ⟨total, 0, spent, by simp [Bastion.heldUp, agreed], inTime⟩
  | asked rsa first answer =>
    obtain ⟨_, wait, spent, answered, fits⟩ := answer
    exact ⟨_, wait, spent,
      by simp [Bastion.heldUp, Attempt.rsaHash?, rsa, first, answered], fits⟩

/-- The reply within the time that is left is the one that comes in time. -/
theorem replyWithin_eq_some_iff (prepared : bastion.Prepares user tried attempt) :
    bastion.replyWithin handshakeLimit user tried.reverse attempt = some reply ↔
      bastion.Answers user tried attempt reply := by
  obtain ⟨total, wait, spent, held, inTime⟩ := Prepares.heldUp greets refuses prepared
  simp only [replyWithin, Answers, spent, held, Timed.within_eq_some_iff, Option.some.injEq]
  constructor
  · rintro ⟨time, fits, replied⟩
    exact ⟨total, wait, time, rfl, rfl, replied, by omega⟩
  · rintro ⟨_, _, time, rfl, rfl, replied, fits⟩
    exact ⟨time, by omega, replied⟩

/-- A method is offered by the attempt that it is prepared to. -/
theorem prepare_of_prepares (prepared : bastion.Prepares user tried attempt) :
    prepare (bastion.answersWithin handshakeLimit user) tried.reverse attempt.method =
      .ok attempt := by
  cases prepared with
  | password | none => rfl
  | plain plain => simp [Attempt.method, prepare, plain]
  | agreed rsa agreed => simp [Attempt.method, prepare, rsa, agreed]
  | asked rsa first answer =>
    have answered := (hashWithin_eq_some_iff greets refuses).2 answer
    simp [Attempt.method, prepare, rsa, first, answersWithin, answered]

end

/-! ## Going on and ending -/

/-- Each method that is offered is offered by some attempt, or ends the offering before it. -/
theorem prepares_or_ends (bastion : Bastion) (user : String) (tried : List Attempt)
    (method : Method) :
    (∃ attempt, attempt.method = method ∧ bastion.Prepares user tried attempt) ∨
      ∃ verdict, bastion.Ends user tried method tried verdict := by
  cases method with
  | password text => exact .inl ⟨.password text, rfl, .password text⟩
  | none => exact .inl ⟨.none, rfl, .none⟩
  | key signer =>
    cases rsa : signer.isRsa with
    | false => exact .inl ⟨.key signer none, rfl, .plain rsa⟩
    | true =>
      cases agreed : agreedHash? tried.reverse with
      | some hash => exact .inl ⟨.key signer hash, rfl, .agreed rsa agreed⟩
      | none =>
        by_cases some : ∃ answer, bastion.Advertises user tried answer
        · obtain ⟨answer, advertised⟩ := some
          cases answer with
          | ok hash => exact .inl ⟨.key signer hash, rfl, .asked rsa agreed advertised⟩
          | error message => exact .inr ⟨_, .hashFailed rfl rsa agreed advertised⟩
        · exact .inr ⟨_, .hashLate rfl rsa agreed (not_exists.1 some)⟩

/-- Each method that is offered is refused, or ends the offering. -/
theorem answers_or_ends (bastion : Bastion) (user : String) (tried : List Attempt)
    (method : Method) :
    (∃ attempt, attempt.method = method ∧ bastion.Prepares user tried attempt ∧
        bastion.Answers user tried attempt .refused) ∨
      ∃ made verdict, bastion.Ends user tried method made verdict := by
  rcases prepares_or_ends bastion user tried method with
    ⟨attempt, offered, prepared⟩ | ⟨verdict, ends⟩
  · by_cases some : ∃ reply, bastion.Answers user tried attempt reply
    · obtain ⟨reply, answer⟩ := some
      cases reply with
      | refused => exact .inl ⟨attempt, offered, prepared, answer⟩
      | accepted => exact .inr ⟨_, _, .accepted offered prepared answer⟩
      | failed message => exact .inr ⟨_, _, .failed offered prepared answer⟩
    · exact .inr ⟨_, _, .late offered prepared (not_exists.1 some)⟩
  · exact .inr ⟨_, _, ends⟩

/-- Either all methods are refused, or one of them ends the offering. -/
theorem Refuses.orEnds (refuses : bastion.Refuses user tried) (offers : List Method) :
    (∃ made, made.map Attempt.method = offers ∧ bastion.Refuses user (tried ++ made)) ∨
      ∃ passed method rest made verdict,
        offers = passed.map Attempt.method ++ method :: rest ∧
        bastion.Refuses user (tried ++ passed) ∧
        bastion.Ends user (tried ++ passed) method made verdict := by
  induction offers generalizing tried with
  | nil => exact .inl ⟨[], rfl, by simpa using refuses⟩
  | cons head offers ih =>
    rcases answers_or_ends bastion user tried head with
      ⟨attempt, rfl, prepared, refused⟩ | ⟨made, verdict, ends⟩
    · rcases ih (refuses.snoc ⟨prepared, refused⟩) with
        ⟨made, rfl, all⟩ | ⟨passed, method, rest, made, verdict, rfl, front, ends⟩
      · exact .inl ⟨attempt :: made, rfl, by simpa using all⟩
      · refine .inr ⟨attempt :: passed, method, rest, made, verdict, rfl, ?_, ?_⟩
        · simpa using front
        · simpa using ends
    · exact .inr ⟨[], head, offers, made, verdict, rfl, by simpa using refuses,
        by simpa using ends⟩

end Bastion

section

variable {bastion : Bastion} {user : String} {method : Method} {verdict : Verdict}
  {answer : Except String PublicKey} (greets : bastion.Greets answer)

include greets

/-- One refused method more. -/
theorem offer_refused {tried : List Attempt} {attempt : Attempt} (rest : List Method)
    (refuses : bastion.Refuses user tried) (prepared : bastion.Prepares user tried attempt)
    (refused : bastion.Answers user tried attempt .refused) :
    offer (bastion.answersWithin handshakeLimit user) tried.reverse (attempt.method :: rest) =
      offer (bastion.answersWithin handshakeLimit user) (tried ++ [attempt]).reverse rest := by
  have replied : (bastion.answersWithin handshakeLimit user).reply tried.reverse attempt =
      some .refused := (Bastion.replyWithin_eq_some_iff greets refuses prepared).2 refused
  rw [offer, Bastion.prepare_of_prepares greets refuses prepared]
  dsimp only
  rw [replied, List.reverse_append]
  rfl

/-- If all methods are refused, all are offered. -/
theorem offer_of_refuses (tried made : List Attempt)
    (refuses : bastion.Refuses user (tried ++ made)) :
    offer (bastion.answersWithin handshakeLimit user) tried.reverse (made.map Attempt.method) =
      ⟨tried ++ made, .refused⟩ := by
  induction made generalizing tried with
  | nil => simp [offer]
  | cons head made ih =>
    obtain ⟨prepared, refused⟩ := refuses tried head made rfl
    rw [List.map_cons, offer_refused greets _ refuses.of_append prepared refused, ih]
    · simp
    · simpa using refuses

/-- A method that ends the offering does so at once. -/
theorem offer_of_ends_next {tried made : List Attempt} (rest : List Method)
    (refuses : bastion.Refuses user tried)
    (ends : bastion.Ends user tried method made verdict) :
    offer (bastion.answersWithin handshakeLimit user) tried.reverse (method :: rest) =
      ⟨made, verdict⟩ := by
  have asked : ∀ hash, bastion.hashWithin handshakeLimit user tried.reverse = some hash ↔
      bastion.Advertises user tried hash := fun _ => Bastion.hashWithin_eq_some_iff greets refuses
  have within {attempt : Attempt} (prepared : bastion.Prepares user tried attempt) (reply) :
      bastion.replyWithin handshakeLimit user tried.reverse attempt = some reply ↔
        bastion.Answers user tried attempt reply :=
    Bastion.replyWithin_eq_some_iff greets refuses prepared
  rw [offer]
  cases ends with
  | accepted offered prepared answer =>
    rw [← offered, Bastion.prepare_of_prepares greets refuses prepared]
    simp [Bastion.answersWithin, (within prepared _).2 answer]
  | failed offered prepared answer =>
    rw [← offered, Bastion.prepare_of_prepares greets refuses prepared]
    simp [Bastion.answersWithin, (within prepared _).2 answer]
  | @late attempt offered prepared silent =>
    have none : bastion.replyWithin handshakeLimit user tried.reverse attempt = none := by
      rw [Option.eq_none_iff_forall_ne_some]
      exact fun reply given => silent reply ((within prepared reply).1 given)
    rw [← offered, Bastion.prepare_of_prepares greets refuses prepared]
    simp [Bastion.answersWithin, none]
  | hashFailed key rsa first answer =>
    simp [key, prepare, rsa, first, Bastion.answersWithin, (asked _).2 answer]
  | hashLate key rsa first silent =>
    have none : bastion.hashWithin handshakeLimit user tried.reverse = none := by
      rw [Option.eq_none_iff_forall_ne_some]
      exact fun hash given => silent hash ((asked hash).1 given)
    simp [key, prepare, rsa, first, Bastion.answersWithin, none]

/-- The offering stops at the method that ends it. -/
theorem offer_of_ends {made : List Attempt} (tried passed : List Attempt) (rest : List Method)
    (refuses : bastion.Refuses user (tried ++ passed))
    (ends : bastion.Ends user (tried ++ passed) method made verdict) :
    offer (bastion.answersWithin handshakeLimit user) tried.reverse
      (passed.map Attempt.method ++ method :: rest) = ⟨made, verdict⟩ := by
  induction passed generalizing tried with
  | nil =>
    rw [List.append_nil] at refuses ends
    exact offer_of_ends_next greets rest refuses ends
  | cons head passed ih =>
    obtain ⟨prepared, refused⟩ := refuses tried head passed rfl
    rw [List.map_cons, List.cons_append,
      offer_refused greets _ refuses.of_append prepared refused, ih]
    · simpa using refuses
    · simpa using ends

end

end Gangway.Ssh
