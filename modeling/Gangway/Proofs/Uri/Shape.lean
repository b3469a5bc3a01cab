import Gangway.Proofs.Uri.Authority

/-!
# What follows the authority of a URI

A URI with an authority is put together in one way (`Shape.unique`): its scheme, the user with the
mark behind it, the place of the host, and what follows the authority. What follows is only read for
the path and the query (`exists_shape_of_parse`), and the path is empty exactly where no slash
follows and no backslash stands in the place (`path_cases`).
-/

namespace Gangway.Uri

/-- The marks that end an authority. -/
def authorityEnds : List Char := ['/', '?', '#']

/-- How a text with an authority is put together. -/
structure Shape (text scheme user place rest : List Char) : Prop where
  whole : text = scheme ++ ':' :: '/' :: '/' :: (user ++ place ++ rest)
  colon : ':' ∉ scheme
  /-- The user part is empty, or ends in its mark. -/
  mark : user = [] ∨ ∃ name, user = name ++ ['@']
  bare : '@' ∉ place
  authority : ∀ c ∈ user ++ place, c ∉ authorityEnds
  ends : ∀ c ∈ rest.head?, c ∈ authorityEnds

theorem endsAuthority_eq (c : Char) : endsAuthority false c = decide (c ∈ authorityEnds) := by
  simp [endsAuthority, authorityEnds, Bool.or_assoc]

theorem cutUser_of_not_mem {place : List Char} (bare : '@' ∉ place) : cutUser place = none := by
  have all : place.reverse.span (· != '@') = (place.reverse, []) :=
    Text.span_of_all fun c member =>
      bne_iff_ne.2 (ne_of_mem_of_not_mem (List.mem_reverse.1 member) bare)
  rw [cutUser, all]

/-- Every text is cut: it has no mark of a user, or one with none behind it. -/
theorem exists_user (authority : List Char) :
    '@' ∉ authority ∨ ∃ name place, authority = name ++ '@' :: place ∧ '@' ∉ place := by
  by_cases mark : '@' ∈ authority
  · obtain ⟨back, front, turned, bare⟩ := List.eq_append_cons_of_mem (List.mem_reverse.2 mark)
    refine .inr ⟨front.reverse, back.reverse, ?_, by simpa using bare⟩
    have same := congrArg List.reverse turned
    simpa using same
  · exact .inl mark

section Shapes

variable {text scheme user place rest scheme' user' place' rest' : List Char}

/-- The authority goes up to the first mark that ends it. -/
theorem Shape.span (shape : Shape text scheme user place rest) :
    (user ++ place ++ rest).span (fun c => !endsAuthority false c) = (user ++ place, rest) := by
  refine Text.span_append (fun c member => ?_) fun c first => ?_
  · simpa [endsAuthority_eq] using shape.authority c (by simpa using member)
  · simpa [endsAuthority_eq] using shape.ends c first

theorem Shape.cutUser (shape : Shape text scheme user place rest) :
    Uri.cutUser (user ++ place) = if user = [] then none else some (user.dropLast, place) := by
  rcases shape.mark with rfl | ⟨name, rfl⟩
  · exact cutUser_of_not_mem shape.bare
  · rw [List.append_assoc, List.singleton_append, cutUser_append shape.bare, if_neg (by simp),
      List.dropLast_concat]

theorem Shape.unmarked (shape : Shape text scheme user place rest) : Unmarked place := by
  constructor
  · intro member
    exact shape.authority '?' (List.mem_append_right _ member) (by decide)
  · intro member
    exact shape.authority '#' (List.mem_append_right _ member) (by decide)

/-- A text is put together in one way. -/
theorem Shape.unique (shape : Shape text scheme user place rest)
    (other : Shape text scheme' user' place' rest') :
    scheme = scheme' ∧ user = user' ∧ place = place' ∧ rest = rest' := by
  have wholes := shape.whole.symm.trans other.whole
  obtain ⟨schemes, behind⟩ := Text.append_cons_inj wholes shape.colon other.colon
  have tails : user ++ place ++ rest = user' ++ place' ++ rest' := by simpa using behind
  have cut := shape.span
  rw [tails, other.span, Prod.mk.injEq] at cut
  obtain ⟨authorities, rests⟩ := cut
  have places : place = place' := by
    have users := shape.cutUser
    rw [← authorities, other.cutUser] at users
    split at users
    case isTrue none =>
      split at users
      case isTrue none' => simpa [none, none'] using authorities.symm
      case isFalse => cases users
    case isFalse =>
      split at users
      case isTrue => cases users
      case isFalse => exact (Prod.mk.inj (Option.some.inj users)).2.symm
  subst places
  exact ⟨schemes, (List.append_cancel_right authorities).symm, rfl, rests.symm⟩

end Shapes

/-- A URI of the scheme with a host has a shape, and another one that differs behind the authority
is read with the same place. -/
theorem exists_shape_of_parse {uri : String} {parsed : Uri} (read : parse uri = .ok parsed)
    (ssh : parsed.scheme = "ssh") (hosted : parsed.host ≠ none) :
    ∃ scheme user place rest credentials, Shape (cleaned uri.toList) scheme user place rest ∧
      readPlace "ssh" credentials place rest = .ok parsed ∧
      ∀ (other : String) more, Shape (cleaned other.toList) scheme user place more →
        parse other = readPlace "ssh" credentials place more := by
  obtain ⟨scheme, text, whole, plain, read, again⟩ := exists_authority_of_parse read ssh hosted
  obtain ⟨⟨authority, rest⟩, cut⟩ :
      ∃ parts, text.span (fun c => !endsAuthority false c) = parts := ⟨_, rfl⟩
  obtain ⟨text_eq, all, stops⟩ := Text.span_eq_iff.1 cut
  have colon : ':' ∉ scheme := fun member => absurd (plain ':' member) (by decide)
  have inside : ∀ c ∈ authority, c ∉ authorityEnds := by simpa [endsAuthority_eq] using all
  have ends : ∀ c ∈ rest.head?, c ∈ authorityEnds := by simpa [endsAuthority_eq] using stops
  rw [afterSlashes_eq cut] at read
  rcases exists_user authority with bare | ⟨name, place, rfl, bare⟩
  · rw [cutUser_of_not_mem bare] at read
    refine ⟨scheme, [], authority, rest, userName [], ⟨?_, colon, .inl rfl, bare, inside, ends⟩,
      read, ?_⟩
    · rw [whole, text_eq]
      rfl
    · intro other more shape
      rw [again other _ shape.whole, afterSlashes_eq shape.span, shape.cutUser, if_pos rfl]
      rfl
  · rw [cutUser_append bare] at read
    dsimp only at read
    split at read
    case isTrue => cases read
    case isFalse =>
      have placed : place ≠ [] := by
        rintro rfl
        exact hosted (host_of_readPlace_nil read)
      refine ⟨scheme, name ++ ['@'], place, rest, userName name,
        ⟨?_, colon, .inr ⟨name, rfl⟩, bare, by simpa using inside, ends⟩, read, ?_⟩
      · rw [whole, text_eq]
        simp
      · intro other more shape
        rw [again other _ shape.whole, afterSlashes_eq shape.span, shape.cutUser,
          if_neg (by simp), List.dropLast_concat]
        exact if_neg fun empty => placed empty.2.1

/-! ## Paths -/

theorem dropDots_ne_nil (kept : List (List Char)) {all : List (List Char)} (some : all ≠ []) :
    dropDots kept all ≠ [] := by
  induction all generalizing kept with
  | nil => exact absurd rfl some
  | cons segment rest ih =>
    cases rest with
    | nil =>
      rw [dropDots]
      split
      · simp
      · split
        · simp
        · simp
    | cons next rest =>
      rw [dropDots]
      · split
        · exact ih _ (List.cons_ne_nil _ _)
        · split
          · exact ih _ (List.cons_ne_nil _ _)
          · exact ih _ (List.cons_ne_nil _ _)
      · exact List.cons_ne_nil _ _

/-- A path of segments begins with a slash. -/
theorem slash_prefix_normalPath (ends : Char → Bool) (text : List Char) :
    ['/'] <+: normalPath ends text := by
  have some : (Text.piecesBy ends text).map (percentEncode pathKeeps) ≠ [] := by
    simpa using Text.piecesBy_ne_nil ends text
  obtain ⟨first, others, segments⟩ := List.exists_cons_of_ne_nil (dropDots_ne_nil [] some)
  refine ⟨first ++ others.flatMap fun segment => '/' :: segment, ?_⟩
  unfold normalPath
  dsimp only
  rw [segments, List.flatMap_cons]
  rfl

/-- A path behind an authority is empty or absolute. -/
theorem pathAfterAuthority_cases (text : List Char) :
    text = [] ∧ pathAfterAuthority false text = [] ∨
      text ≠ [] ∧ ['/'] <+: pathAfterAuthority false text := by
  cases text with
  | nil => exact .inl ⟨rfl, rfl⟩
  | cons c rest =>
    refine .inr ⟨List.cons_ne_nil c rest, ?_⟩
    unfold pathAfterAuthority
    dsimp only
    split
    · exact slash_prefix_normalPath _ _
    · exact slash_prefix_normalPath _ _

/-! ## Where the path is empty -/

/-- Behind the slashes an accepted host is read from a text as an opaque one, with the port behind
it and what is left of both in front of the path. -/
theorem exists_hostText_of_readPlace {scheme : String} {user : List Char × Bool}
    {place rest : List Char} {uri : Uri} {host : Host}
    (read : readPlace scheme user place rest = .ok uri) (hosted : uri.host = some host) :
    ∃ hostText portText left, cutHost false place = (hostText, portText) ∧
      opaqueHost hostText = .ok host ∧ cutPort portText = .ok (uri.port, left) ∧
      uri.path = String.ofList (pathAfterAuthority false (cutQuery (left ++ rest)).1) := by
  obtain ⟨⟨hostText, portText⟩, cut⟩ : ∃ parts, cutHost false place = parts := ⟨_, rfl⟩
  unfold readPlace at read
  rw [cut] at read
  obtain ⟨host', named, read⟩ := bind_eq_ok_iff.1 read
  split at read
  case isTrue => cases read
  case isFalse filled =>
    obtain ⟨⟨port, left⟩, numbered, read⟩ := bind_eq_ok_iff.1 read
    dsimp only at read
    split at read
    case isTrue => cases read
    case isFalse =>
      cases read
      dsimp only at hosted
      split at hosted
      · cases hosted
      · cases hosted
        exact ⟨hostText, portText, left, cut, named, numbered, rfl⟩

theorem head?_cutHost (inBrackets : Bool) (text : List Char) :
    ∀ c ∈ (cutHost inBrackets text).2.head?, c = ':' := by
  induction text generalizing inBrackets with
  | nil =>
    rintro c ⟨⟩
  | cons d text ih =>
    rw [cutHost]
    split
    case isTrue colon =>
      rintro c ⟨⟩
      simpa using (Bool.and_eq_true_iff.1 colon).1
    case isFalse => exact ih _

/-- What is left behind a port begins with a backslash. -/
theorem eq_nil_of_cutPort_iff {text left : List Char} {port : Option UInt16}
    (cut : cutPort text = .ok (port, left)) (colon : ∀ c ∈ text.head?, c = ':') :
    left = [] ↔ '\\' ∉ text := by
  cases text with
  | nil =>
    cases cut
    simp
  | cons c rest =>
    cases colon c rfl
    obtain ⟨⟨digits, after⟩, split'⟩ : ∃ parts, rest.span Char.isDigit = parts := ⟨_, rfl⟩
    obtain ⟨rfl, all, -⟩ := Text.span_eq_iff.1 split'
    rw [cutPort, split'] at cut
    dsimp only at cut
    split at cut
    case h_1 d more =>
      split at cut
      case isTrue backslash =>
        rw [eq_of_cutPort_finish cut, backslash]
        simp
      case isFalse => cases cut
    case h_2 =>
      have plain : '\\' ∉ digits := fun member => absurd (all _ member) (by decide)
      rw [eq_of_cutPort_finish cut]
      simp [plain]

/-- No host that is accepted holds a backslash. -/
theorem backslash_not_mem_of_opaqueHost {text : List Char} {host : Host}
    (read : opaqueHost text = .ok host) : '\\' ∉ text := by
  intro member
  rcases cases_of_opaqueHost read with ⟨inner, address, rfl, parsed, -⟩ | ⟨allowed, -⟩
  · simp only [List.mem_cons, List.mem_append, List.not_mem_nil, or_false] at member
    rcases member with bracket | inside | bracket
    · cases bracket
    · rcases Ipv6.isDigitOrMark_of_parse? parsed inside with digit | colon | dot
      · exact digit rfl
      · cases colon
      · cases dot
    · cases bracket
  · cases allowed _ member

/-- Of what follows an authority only a slash begins a path. -/
theorem path_of_cutQuery_eq_nil_iff {rest : List Char}
    (ends : ∀ c ∈ rest.head?, c ∈ authorityEnds) : (cutQuery rest).1 = [] ↔ ¬ ['/'] <+: rest := by
  cases rest with
  | nil =>
    have nothing : (cutQuery []).1 = [] := rfl
    simp [nothing]
  | cons c more =>
    have mark := ends c rfl
    simp only [authorityEnds, List.mem_cons, List.not_mem_nil, or_false] at mark
    rcases mark with rfl | rfl | rfl
    · have plain : Unmarked ['/'] := ⟨by decide, by decide⟩
      have slash : cutQuery ('/' :: more) = ('/' :: (cutQuery more).1, (cutQuery more).2) :=
        cutQuery_append plain more
      simp [slash]
    · have query : (cutQuery ('?' :: more)).1 = [] := by
        simp [cutQuery, List.span_eq_takeWhile_dropWhile]
      simp [query]
    · have fragment : (cutQuery ('#' :: more)).1 = [] := by
        simp [cutQuery, List.span_eq_takeWhile_dropWhile]
      simp [fragment]

/-- **Where a URI has no path.** Behind an accepted host the path is empty where no slash follows
the authority and no backslash stands in its place, and absolute where one of them does. -/
theorem path_cases {scheme : String} {user : List Char × Bool} {place rest : List Char}
    {uri : Uri} {host : Host} (read : readPlace scheme user place rest = .ok uri)
    (hosted : uri.host = some host) (unmarked : Unmarked place)
    (ends : ∀ c ∈ rest.head?, c ∈ authorityEnds) :
    uri.path = "" ∧ '\\' ∉ place ∧ ¬ ['/'] <+: rest ∨
      ['/'] <+: uri.path.toList ∧ ('\\' ∈ place ∨ ['/'] <+: rest) := by
  obtain ⟨hostText, portText, left, cut, named, numbered, path⟩ :=
    exists_hostText_of_readPlace read hosted
  have placed : place = hostText ++ portText := by
    rw [← cutHost_append false place, cut]
  have colon : ∀ c ∈ portText.head?, c = ':' := by
    have first := head?_cutHost false place
    rwa [cut] at first
  have plain : left ⊆ place := by
    intro c member
    rw [placed]
    exact List.mem_append_right _ ((isSuffix_of_cutPort numbered).subset member)
  have backslash : left = [] ↔ '\\' ∉ place := by
    rw [eq_nil_of_cutPort_iff numbered colon, placed, List.mem_append, not_or]
    exact ⟨fun behind => ⟨backslash_not_mem_of_opaqueHost named, behind⟩, fun both => both.2⟩
  rw [cutQuery_append (unmarked.of_subset plain)] at path
  rcases pathAfterAuthority_cases (left ++ (cutQuery rest).1) with ⟨empty, none⟩ | ⟨some, absolute⟩
  · obtain ⟨nothing, query⟩ := List.append_eq_nil_iff.1 empty
    refine .inl ⟨?_, backslash.1 nothing, (path_of_cutQuery_eq_nil_iff ends).1 query⟩
    rw [path, none]
  · refine .inr ⟨?_, ?_⟩
    · rw [path, String.toList_ofList]
      exact absolute
    · by_cases behind : '\\' ∈ place
      · exact .inl behind
      · refine .inr (not_not.1 fun none => some ?_)
        exact List.append_eq_nil_iff.2
          ⟨backslash.2 behind, (path_of_cutQuery_eq_nil_iff ends).2 none⟩

end Gangway.Uri
