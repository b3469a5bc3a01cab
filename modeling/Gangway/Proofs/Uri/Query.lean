import Gangway.Proofs.Uri.Reading

/-!
# Where the query of a URI stands

The query of an ssh URI is the text between its first `?` and its first `#` (`query_of_parse`). A URI
that has neither is read with a query behind it as it is read without, except for the query
(`parse_append_query`).
-/

namespace Gangway.Uri

/-! ## The query and what is in front of it -/

/-- The text holds neither of the marks that end a path. -/
def Unmarked (text : List Char) : Prop := '?' ∉ text ∧ '#' ∉ text

theorem Unmarked.of_subset {text part : List Char} (unmarked : Unmarked text)
    (inside : part ⊆ text) : Unmarked part :=
  ⟨fun member => unmarked.1 (inside member), fun member => unmarked.2 (inside member)⟩

/-- What stands in front of both marks goes to the path. -/
theorem cutQuery_append {front : List Char} (unmarked : Unmarked front) (text : List Char) :
    cutQuery (front ++ text) = (front ++ (cutQuery text).1, (cutQuery text).2) := by
  have hash : ∀ c ∈ front, (c != '#') = true := by
    intro c member
    exact bne_iff_ne.2 (ne_of_mem_of_not_mem member unmarked.2)
  have mark : ∀ c ∈ front, (c != '?') = true := by
    intro c member
    exact bne_iff_ne.2 (ne_of_mem_of_not_mem member unmarked.1)
  unfold cutQuery
  simp only [List.takeWhile_append_of_pos hash, List.span_eq_takeWhile_dropWhile,
    List.takeWhile_append_of_pos mark, List.dropWhile_append_of_pos mark]
  cases (text.takeWhile (· != '#')).dropWhile (· != '?') with
  | nil => rfl
  | cons c query => rfl

theorem cutQuery_of_unmarked {text : List Char} (unmarked : Unmarked text) :
    cutQuery text = (text, none) := by
  have cut := cutQuery_append unmarked []
  have nothing : cutQuery [] = ([], none) := rfl
  rwa [nothing, List.append_nil] at cut

/-- Behind its mark a query goes up to the mark of a fragment. -/
theorem cutQuery_mark {query tail : List Char} (unmarked : '#' ∉ query)
    (ends : ∀ c ∈ tail.head?, c = '#') : cutQuery ('?' :: (query ++ tail)) = ([], some query) := by
  have whole : ('?' :: (query ++ tail)).takeWhile (· != '#') = '?' :: query := by
    have all : ∀ c ∈ '?' :: query, (c != '#') = true := by
      intro c member
      rcases List.mem_cons.1 member with rfl | member
      · decide
      · exact bne_iff_ne.2 (ne_of_mem_of_not_mem member unmarked)
    have cut : ('?' :: query ++ tail).span (· != '#') = ('?' :: query, tail) := by
      apply Text.span_append all
      intro c first
      simp [ends c first]
    rw [List.span_eq_takeWhile_dropWhile] at cut
    exact congrArg Prod.fst cut
  unfold cutQuery
  rw [whole]
  rfl

/-- The query stands in the text between the first mark of a query and the next of a fragment. -/
structure QueryIn (text query : List Char) : Prop where
  cut : ∃ front tail, text = front ++ '?' :: (query ++ tail) ∧ Unmarked front ∧ '#' ∉ query ∧
    ∀ c ∈ tail.head?, c = '#'

theorem cutQuery_eq_some_iff {text query : List Char} :
    (cutQuery text).2 = some query ↔ QueryIn text query := by
  constructor
  · intro found
    obtain ⟨⟨whole, tail⟩, outer⟩ : ∃ parts, text.span (· != '#') = parts := ⟨_, rfl⟩
    obtain ⟨⟨front, rest⟩, inner⟩ : ∃ parts, whole.span (· != '?') = parts := ⟨_, rfl⟩
    obtain ⟨text_eq, plain, ends⟩ := Text.span_eq_iff.1 outer
    obtain ⟨whole_eq, unasked, asks⟩ := Text.span_eq_iff.1 inner
    have kept : text.takeWhile (· != '#') = whole := by
      rw [List.span_eq_takeWhile_dropWhile] at outer
      exact congrArg Prod.fst outer
    unfold cutQuery at found
    rw [kept] at found
    dsimp only at found
    rw [inner] at found
    cases rest with
    | nil => cases found
    | cons c rest =>
      cases found
      have mark : c = '?' := by simpa using asks c rfl
      subst mark whole_eq
      refine ⟨front, tail, ?_, ⟨?_, ?_⟩, ?_, ?_⟩
      · simpa using text_eq
      · intro member
        simpa using unasked '?' member
      · intro member
        simpa using plain '#' (List.mem_append_left _ member)
      · intro member
        simpa using plain '#' (List.mem_append_right _ (List.mem_cons_of_mem _ member))
      · intro c first
        simpa using ends c first
  · rintro ⟨front, tail, rfl, unmarked, plain, ends⟩
    rw [cutQuery_append unmarked, cutQuery_mark plain ends]

/-! ## The front of a URI -/

theorem exists_of_cutScheme {text letters rest : List Char}
    (cut : cutScheme text = some (letters, rest)) :
    ∃ scheme, text = scheme ++ ':' :: rest ∧ (∀ c ∈ scheme, isSchemeChar c = true) ∧
      ∀ more, cutScheme (scheme ++ ':' :: more) = some (letters, more) := by
  unfold cutScheme at cut
  split at cut
  case h_1 => cases cut
  case h_2 c tail =>
    split at cut
    case isFalse => cases cut
    case isTrue alpha =>
      have first : isSchemeChar c = true := by
        simp [isSchemeChar, Char.isAlphanum, alpha]
      split at cut
      case h_2 => cases cut
      case h_1 scheme rest' same =>
        cases cut
        obtain ⟨whole, all, -⟩ := Text.span_eq_iff.1 same
        cases scheme with
        | nil =>
          have colon : c = ':' := (List.cons.inj whole).1
          subst colon
          cases alpha
        | cons d scheme =>
          obtain ⟨rfl, -⟩ := List.cons.inj whole
          refine ⟨c :: scheme, whole, all, fun more => ?_⟩
          have span : (c :: scheme ++ ':' :: more).span isSchemeChar = (c :: scheme, ':' :: more) :=
            Text.span_append all (by simp [isSchemeChar])
          rw [List.cons_append] at span ⊢
          rw [cutScheme, if_pos alpha, span]
          rfl

theorem scheme_of_fileUri {text : List Char} {uri : Uri} (read : fileUri text = .ok uri) :
    uri.scheme = "file" := by
  unfold fileUri at read
  simp only [bind, Except.bind, pure, Except.pure] at read
  grind

/-- What a URI of the scheme with a host is made of: behind the scheme and two slashes its authority
begins, and any other text behind them is read as one. -/
theorem exists_authority_of_parse {uri : String} {parsed : Uri} (read : parse uri = .ok parsed)
    (ssh : parsed.scheme = "ssh") (hosted : parsed.host ≠ none) :
    ∃ scheme rest, cleaned uri.toList = scheme ++ ':' :: '/' :: '/' :: rest ∧
      (∀ c ∈ scheme, isSchemeChar c = true) ∧ afterSlashes "ssh" false rest = .ok parsed ∧
      ∀ (other : String) more, cleaned other.toList = scheme ++ ':' :: '/' :: '/' :: more →
        parse other = afterSlashes "ssh" false more := by
  unfold parse at read
  split at read
  case h_1 => cases read
  case h_2 letters after cut =>
    obtain ⟨scheme, text, plain, again⟩ := exists_of_cutScheme cut
    dsimp only at read
    split at read
    case isTrue file =>
      rw [scheme_of_fileUri read] at ssh
      exact absurd ssh (by decide)
    case isFalse other =>
      split at read
      case isTrue special =>
        rw [scheme_of_afterSlashes read] at ssh
        rw [ssh] at special
        exact absurd special (by decide)
      case isFalse common =>
        split at read
        case h_2 opaque' =>
          cases read
          exact absurd rfl hosted
        case h_1 rest slashes =>
          have named : String.ofList letters = "ssh" := by
            rw [← ssh, scheme_of_afterSlashes read]
          have behind : after = '/' :: '/' :: rest := Text.dropLeading_eq_some_iff.1 slashes
          subst behind
          rw [named] at read
          refine ⟨scheme, rest, text, plain, read, ?_⟩
          intro other more whole
          unfold parse
          rw [whole, again]
          dsimp only
          rw [named, if_neg (by decide), if_neg (by decide)]
          rfl

/-! ## The authority of a URI -/

theorem cutHost_append (inBrackets : Bool) (text : List Char) :
    (cutHost inBrackets text).1 ++ (cutHost inBrackets text).2 = text := by
  induction text generalizing inBrackets with
  | nil => rfl
  | cons c text ih =>
    unfold cutHost
    split
    · rfl
    · exact congrArg (c :: ·) (ih _)

/-- What stands behind the digits of a port is left. -/
theorem eq_of_cutPort_finish {digits after left : List Char} {port : Option UInt16}
    (cut : cutPort.finish digits after = .ok (port, left)) : left = after := by
  unfold cutPort.finish at cut
  split at cut
  · cases cut
    rfl
  · split at cut
    · cases cut
      rfl
    · cases cut

theorem isSuffix_of_cutPort {text left : List Char} {port : Option UInt16}
    (cut : cutPort text = .ok (port, left)) : left <:+ text := by
  unfold cutPort at cut
  split at cut
  case h_2 =>
    cases cut
    exact List.suffix_rfl
  case h_1 rest =>
    obtain ⟨⟨digits, after⟩, split'⟩ : ∃ parts, rest.span Char.isDigit = parts := ⟨_, rfl⟩
    obtain ⟨whole, -, -⟩ := Text.span_eq_iff.1 split'
    rw [split'] at cut
    have tail : after <:+ ':' :: rest := by
      rw [whole]
      exact (List.suffix_append digits after).trans (List.suffix_cons ':' _)
    dsimp only at cut
    split at cut
    · split at cut
      · rw [eq_of_cutPort_finish cut]
        exact tail
      · cases cut
    · rw [eq_of_cutPort_finish cut]
      exact List.nil_suffix

/-- What stands behind a place only counts for the path and the query: what is left of the place
comes in front of it. -/
theorem exists_readPlace {scheme : String} {user : List Char × Bool} {place rest : List Char}
    {uri : Uri} (unmarked : Unmarked place) (read : readPlace scheme user place rest = .ok uri) :
    ∃ left, uri.path = String.ofList (pathAfterAuthority false (left ++ (cutQuery rest).1)) ∧
      uri.query = (cutQuery rest).2 ∧
      ∀ other, readPlace scheme user place other = .ok { uri with
        path := String.ofList (pathAfterAuthority false (left ++ (cutQuery other).1))
        query := (cutQuery other).2 } := by
  obtain ⟨host, named, read⟩ := bind_eq_ok_iff.1 read
  split at read
  case isTrue => cases read
  case isFalse filled =>
    obtain ⟨⟨port, left⟩, numbered, read⟩ := bind_eq_ok_iff.1 read
    have inside : left ⊆ place := by
      intro c member
      rw [← cutHost_append false place]
      exact List.mem_append_right _ ((isSuffix_of_cutPort numbered).subset member)
    have front := unmarked.of_subset inside
    dsimp only at read
    rw [cutQuery_append front] at read
    split at read
    case isTrue => cases read
    case isFalse open' =>
      cases read
      refine ⟨left, rfl, rfl, fun other => ?_⟩
      refine bind_eq_ok_iff.2 ⟨host, named, ?_⟩
      rw [if_neg filled]
      refine bind_eq_ok_iff.2 ⟨(port, left), numbered, ?_⟩
      dsimp only
      rw [cutQuery_append front, if_neg open']

/-- Behind a place a query only adds itself. -/
theorem readPlace_append {scheme : String} {user : List Char × Bool} {place rest : List Char}
    {uri : Uri} (read : readPlace scheme user place rest = .ok uri) (unmarked : Unmarked place)
    (plain : Unmarked rest) {query tail : List Char} (hash : '#' ∉ query)
    (ends : ∀ c ∈ tail.head?, c = '#') :
    readPlace scheme user place (rest ++ '?' :: (query ++ tail)) =
      .ok { uri with query := some query } := by
  obtain ⟨left, path, -, again⟩ := exists_readPlace unmarked read
  rw [cutQuery_of_unmarked plain] at path
  rw [again, cutQuery_append plain, cutQuery_mark hash ends, List.append_nil, ← path]

theorem eq_append_of_cutUser {authority user place : List Char}
    (cut : cutUser authority = some (user, place)) : authority = user ++ '@' :: place := by
  obtain ⟨⟨front, rest⟩, turned⟩ : ∃ parts, authority.reverse.span (· != '@') = parts := ⟨_, rfl⟩
  obtain ⟨whole, -, stops⟩ := Text.span_eq_iff.1 turned
  unfold cutUser at cut
  rw [turned] at cut
  cases rest with
  | nil => cases cut
  | cons c rest =>
    cases cut
    have mark : c = '@' := by simpa using stops c rfl
    have same := congrArg List.reverse whole
    rw [mark] at same
    simpa using same

/-- A place that is empty has no host. -/
theorem host_of_readPlace_nil {scheme : String} {user : List Char × Bool} {rest : List Char}
    {uri : Uri} (read : readPlace scheme user [] rest = .ok uri) : uri.host = none := by
  obtain ⟨host, -, read⟩ := bind_eq_ok_iff.1 read
  rw [if_neg (by simp)] at read
  obtain ⟨⟨port, left⟩, -, read⟩ := bind_eq_ok_iff.1 read
  dsimp only at read
  split at read
  · cases read
  · cases read
    rfl

/-- An authority with a host is read as a user and a place, whatever follows it. -/
theorem exists_place_of_afterSlashes {scheme : String} {text : List Char} {uri : Uri}
    (read : afterSlashes scheme false text = .ok uri) (hosted : uri.host ≠ none) :
    ∃ authority rest user place, text = authority ++ rest ∧ Unmarked authority ∧
      place ⊆ authority ∧ readPlace scheme user place rest = .ok uri ∧
      ∀ more, afterSlashes scheme false (text ++ '?' :: more) =
        readPlace scheme user place (rest ++ '?' :: more) := by
  obtain ⟨⟨authority, rest⟩, cut⟩ :
      ∃ parts, text.span (fun c => !endsAuthority false c) = parts := ⟨_, rfl⟩
  obtain ⟨whole, all, stops⟩ := Text.span_eq_iff.1 cut
  have longer (more : List Char) :
      (text ++ '?' :: more).span (fun c => !endsAuthority false c) =
        (authority, rest ++ '?' :: more) := by
    rw [whole, List.append_assoc]
    apply Text.span_append all
    cases rest with
    | nil => simp [endsAuthority]
    | cons c rest => simpa using stops
  have front : Unmarked authority := by
    constructor
    · intro member
      exact absurd (all '?' member) (by decide)
    · intro member
      exact absurd (all '#' member) (by decide)
  rw [afterSlashes_eq cut] at read
  cases user : cutUser authority with
  | none =>
    rw [user] at read
    refine ⟨authority, rest, userName [], authority, whole, front, List.Subset.refl _, read, ?_⟩
    intro more
    rw [afterSlashes_eq (longer more), user]
  | some parts =>
    obtain ⟨name, place⟩ := parts
    rw [user] at read
    dsimp only at read
    have placed : place ≠ [] := by
      rintro rfl
      split at read
      · cases read
      · exact hosted (host_of_readPlace_nil read)
    have inside : place ⊆ authority := by
      rw [eq_append_of_cutUser user]
      intro c member
      simp [member]
    rw [if_neg fun empty => placed empty.2.1] at read
    refine ⟨authority, rest, userName name, place, whole, front, inside, read, ?_⟩
    intro more
    rw [afterSlashes_eq (longer more), user]
    exact if_neg fun empty => placed empty.2.1

/-! ## Whole URIs -/

theorem Unmarked.of_schemeChars {scheme : List Char}
    (plain : ∀ c ∈ scheme, isSchemeChar c = true) : Unmarked scheme := by
  constructor
  · intro member
    exact absurd (plain '?' member) (by decide)
  · intro member
    exact absurd (plain '#' member) (by decide)

/-- **Where the query of an ssh URI stands.** It is the text between the first `?` and the next
`#`. -/
theorem query_of_parse {uri : String} {parsed : Uri} (read : parse uri = .ok parsed)
    (ssh : parsed.scheme = "ssh") (hosted : parsed.host ≠ none) :
    parsed.query = (cutQuery (cleaned uri.toList)).2 := by
  obtain ⟨scheme, rest, whole, plain, read, -⟩ := exists_authority_of_parse read ssh hosted
  have front : Unmarked (scheme ++ [':', '/', '/']) := by
    obtain ⟨asked, hash⟩ := Unmarked.of_schemeChars plain
    constructor
    · simpa using asked
    · simpa using hash
  have split : scheme ++ ':' :: '/' :: '/' :: rest = scheme ++ [':', '/', '/'] ++ rest := by simp
  rw [whole, split, cutQuery_append front]
  obtain ⟨authority, after, user, place, text, unmarked, inside, read, -⟩ :=
    exists_place_of_afterSlashes read hosted
  obtain ⟨-, -, query, -⟩ := exists_readPlace (unmarked.of_subset inside) read
  rw [text, cutQuery_append unmarked]
  exact query

/-- A fragment may end in blanks, which are cut off, but not the mark in front of it. -/
theorem head?_cleanedEnd {fragment : List Char} (ends : ∀ c ∈ fragment.head?, c = '#') :
    ∀ c ∈ (cleanedEnd fragment).head?, c = '#' := by
  cases fragment with
  | nil => simp [cleanedEnd]
  | cons c fragment =>
    have mark : c = '#' := ends c rfl
    have cut : cleanedEnd ('#' :: fragment) = '#' :: cleanedEnd fragment := by
      have shown : ∀ c ∈ ['#'], ' ' < c := by simp
      exact cleanedEnd_append shown fragment
    rw [mark, cut]
    simp

/-- A query that is written behind a text without marks stands there. -/
theorem queryIn_cleaned_append {base query fragment : List Char} (unmarked : Unmarked base)
    (visible : ∀ c ∈ query, ' ' < c) (hash : '#' ∉ query)
    (ends : ∀ c ∈ fragment.head?, c = '#') :
    QueryIn (cleaned (base ++ '?' :: (query ++ fragment))) query := by
  obtain ⟨kept, inside, cut⟩ := exists_cleaned_append (c := '?') (by decide) base
  refine ⟨kept, cleanedEnd fragment, ?_, unmarked.of_subset inside, hash, head?_cleanedEnd ends⟩
  rw [cut, cleanedEnd_append visible]

/-- A URI that a query and a fragment can be written behind: it has neither of its own, and does not
end in a blank. -/
structure Open (uri : String) : Prop where
  unmarked : Unmarked uri.toList
  visible : ∀ c ∈ uri.toList.getLast?, ' ' < c

/-- **A query and a fragment behind a URI change nothing but the query.** -/
theorem parse_append_query {uri : String} {parsed : Uri} (read : parse uri = .ok parsed)
    (ssh : parsed.scheme = "ssh") (hosted : parsed.host ≠ none) (opened : Open uri)
    {query fragment : List Char} (visible : ∀ c ∈ query, ' ' < c) (hash : '#' ∉ query)
    (ends : ∀ c ∈ fragment.head?, c = '#') :
    parse (uri ++ String.ofList ('?' :: (query ++ fragment))) =
      .ok { parsed with query := some query } := by
  obtain ⟨scheme, rest, whole, -, read, again⟩ := exists_authority_of_parse read ssh hosted
  have some : uri.toList ≠ [] := by
    intro empty
    rw [empty] at whole
    simp [cleaned] at whole
  have unmarked : Unmarked rest := by
    refine opened.unmarked.of_subset fun c member => cleaned_subset _ ?_
    rw [whole]
    simp [member]
  have front : ∀ c ∈ '?' :: query, ' ' < c := List.forall_mem_cons.2 ⟨by decide, visible⟩
  have text : cleaned (uri ++ String.ofList ('?' :: (query ++ fragment))).toList =
      scheme ++ ':' :: '/' :: '/' :: (rest ++ '?' :: (query ++ cleanedEnd fragment)) := by
    have mid : '?' :: (query ++ fragment) = ('?' :: query) ++ fragment := rfl
    rw [String.toList_append, String.toList_ofList,
      cleaned_append_of_visible_last some opened.visible, whole, mid, cleanedEnd_append front]
    simp
  obtain ⟨authority, after, user, place, split, bare, inside, read, longer⟩ :=
    exists_place_of_afterSlashes read hosted
  have back : Unmarked after := by
    rw [split] at unmarked
    exact unmarked.of_subset (List.subset_append_right _ _)
  rw [again _ _ text, longer]
  exact readPlace_append read (bare.of_subset inside) back hash (head?_cleanedEnd ends)

end Gangway.Uri
