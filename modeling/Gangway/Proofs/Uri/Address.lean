import Gangway.Proofs.Outcomes
import Gangway.Proofs.Text.Cutting
import Gangway.Proofs.Text.Digits
import Gangway.Uri.Ipv6
import Mathlib.Data.Bool.AllAny
import Mathlib.Data.List.Chain

/-!
# The standard text of an address is read back

The groups of a standard text stand between single colons, so that its only `::`, if there is one,
is where the zeros were left out, and these are the zeros that reading puts back
(`Ipv6.parse?_text`).
-/

namespace Gangway.Uri.Ipv6

open Gangway.Text (pieces splitOnce)

/-- There are eight groups, each of sixteen bits. -/
structure Valid (address : Ipv6) : Prop where
  count : address.groups.length = 8
  small : ∀ group ∈ address.groups, group < 65536

/-! ## Groups between colons -/

theorem group?_toDigits {group : Nat} (small : group < 65536) :
    group? (Nat.toDigits 16 group) = some group := by
  have least : 1 ≤ (Nat.toDigits 16 group).length := Nat.length_toDigits_pos
  have most : (Nat.toDigits 16 group).length ≤ 4 :=
    (Nat.length_toDigits_le_iff (by decide) (by decide)).2 small
  rw [group?, if_pos ⟨least, most⟩, Hex.number?_toDigits]

/-- The digits of a group hold no mark of an address. -/
theorem mark_not_mem_toDigits {mark : Char} (other : mark.isAlphanum = false) (group : Nat) :
    mark ∉ Nat.toDigits 16 group := by
  intro member
  rw [Hex.isAlphanum_of_mem_toDigits member] at other
  cases other

theorem toList_colons (groups : List Nat) :
    (colons groups).toList = [':'].intercalate (groups.map (Nat.toDigits 16)) := by
  rw [colons, String.toList_intercalate, List.map_map]
  refine congrArg (List.intercalate [':']) (List.map_congr_left fun group _ => ?_)
  exact String.toList_ofList

theorem groups?_toDigits {dots : Bool} {groups : List Nat}
    (small : ∀ group ∈ groups, group < 65536) :
    groups? dots (groups.map (Nat.toDigits 16)) = some groups := by
  induction groups with
  | nil => rfl
  | cons group rest ih =>
    have first := group?_toDigits (small group List.mem_cons_self)
    have others := ih fun other member => small other (List.mem_cons_of_mem group member)
    cases rest with
    | nil =>
      have dot : (Nat.toDigits 16 group).contains '.' = false := by
        have absent : '.' ∉ Nat.toDigits 16 group := mark_not_mem_toDigits rfl group
        simpa using absent
      simp only [List.map_cons, List.map_nil, groups?, dot, first, Bool.and_false,
        Bool.false_eq_true, if_false, Option.map_some]
    | cons next rest =>
      rw [List.map_cons, List.map_cons, groups?]
      · rw [first, ← List.map_cons, others]
        rfl
      · exact List.cons_ne_nil _ _

/-- The groups on one side are read back. -/
theorem side?_colons {dots : Bool} {groups : List Nat} (small : ∀ group ∈ groups, group < 65536) :
    side? dots (colons groups).toList = some groups := by
  rw [toList_colons]
  cases groups with
  | nil => rfl
  | cons group rest =>
    have cut : pieces ':' ([':'].intercalate ((group :: rest).map (Nat.toDigits 16))) =
        (group :: rest).map (Nat.toDigits 16) := by
      rw [Text.pieces_eq_splitOn]
      refine List.splitOn_intercalate ':' (fun digits member => ?_) (List.cons_ne_nil _ _)
      obtain ⟨other, -, rfl⟩ := List.mem_map.1 member
      exact mark_not_mem_toDigits rfl other
    have filled : ([':'].intercalate ((group :: rest).map (Nat.toDigits 16))).isEmpty = false := by
      cases text : [':'].intercalate ((group :: rest).map (Nat.toDigits 16)) with
      | nil =>
        rw [text] at cut
        exact absurd (List.cons.inj cut).1.symm Nat.toDigits_ne_nil
      | cons => rfl
    rw [side?, filled, cut]
    exact groups?_toDigits small

/-! ## The place of the zeros -/

/-- No two colons stand side by side. -/
def Apart (text : List Char) : Prop := text.IsChain fun c d => c ≠ ':' ∨ d ≠ ':'

theorem Apart.no_gap {text : List Char} (apart : Apart text) : ¬[':', ':'] <:+: text := by
  intro double
  have pair : Apart [':', ':'] := List.IsChain.infix apart double
  simp [Apart] at pair

/-- The colon behind each group stands alone, and none stands in front. -/
theorem apart_groups (groups : List Nat) :
    Apart (groups.flatMap fun group => Nat.toDigits 16 group ++ [':']) ∧
      ∀ c ∈ (groups.flatMap fun group => Nat.toDigits 16 group ++ [':']).head?, c ≠ ':' := by
  induction groups with
  | nil => exact ⟨List.isChain_nil, nofun⟩
  | cons group rest ih =>
    obtain ⟨apart, head⟩ := ih
    have digits {c : Char} (member : c ∈ Nat.toDigits 16 group) : c ≠ ':' :=
      ne_of_mem_of_not_mem member (mark_not_mem_toDigits rfl group)
    rw [List.flatMap_cons]
    constructor
    · refine List.isChain_append.2
        ⟨List.isChain_append.2 ⟨?_, List.isChain_singleton _, ?_⟩, apart, ?_⟩
      · exact (List.pairwise_of_forall_mem_list fun c member d _ => .inl (digits member)).isChain
      · exact fun c last d _ => .inl (digits (List.mem_of_getLast? last))
      · exact fun c _ d first => .inr (head d first)
    · rw [List.append_assoc, List.head?_append_of_ne_nil _ Nat.toDigits_ne_nil]
      exact fun c first => digits (List.mem_of_mem_head? first)

theorem colons_append_colon {groups : List Nat} (groups_ne : groups ≠ []) :
    (colons groups).toList ++ [':'] =
      groups.flatMap fun group => Nat.toDigits 16 group ++ [':'] := by
  rw [toList_colons]
  induction groups with
  | nil => exact absurd rfl groups_ne
  | cons group rest ih =>
    cases rest with
    | nil => simp
    | cons next rest =>
      rw [List.flatMap_cons, ← ih (List.cons_ne_nil _ _), List.map_cons, List.map_cons,
        List.intercalate_cons_cons]
      simp

/-- Nowhere in groups, or at their end, do two colons stand side by side. -/
theorem no_gap_in_colons (groups : List Nat) :
    ¬[':', ':'] <:+: (colons groups).toList ++ [':'] := by
  cases groups with
  | nil => decide
  | cons group rest =>
    rw [colons_append_colon (List.cons_ne_nil _ _)]
    exact (apart_groups _).1.no_gap

/-- Eight groups are read back. -/
theorem parse?_colons {groups : List Nat} (small : ∀ group ∈ groups, group < 65536)
    (count : groups.length = 8) : parse? (colons groups).toList = some ⟨groups⟩ := by
  have whole : splitOnce [':', ':'] (colons groups).toList = none :=
    Text.splitOnce_eq_none_iff.2 fun inside =>
      no_gap_in_colons groups (inside.trans (List.prefix_append _ _).isInfix)
  rw [parse?, whole, side?_colons small]
  exact if_pos count

/-- Groups on both sides of a gap are read back, with zeros in the gap. -/
theorem parse?_gap {front back : List Nat} (small : ∀ group ∈ front ++ back, group < 65536)
    (count : front.length + back.length ≤ 7) :
    parse? ((colons front).toList ++ [':', ':'] ++ (colons back).toList) =
      some ⟨front ++ List.replicate (8 - (front.length + back.length)) 0 ++ back⟩ := by
  have cut := Text.splitOnce_append (List.cons_ne_nil _ _) (no_gap_in_colons front)
    (colons back).toList
  rw [parse?, cut]
  dsimp only
  rw [side?_colons fun group member => small group (List.mem_append_left _ member),
    side?_colons fun group member => small group (List.mem_append_right _ member)]
  exact if_pos count

/-! ## The zeros that are left out -/

/-- From the first index on there are that many zeros. -/
def ZeroRun (groups : List Nat) (run : Nat × Nat) : Prop :=
  ∀ i, run.1 ≤ i → i < run.1 + run.2 → groups[i]? = some 0

/-- The run that is found is one of zeros, if those found so far are, of which the current one
reaches up to the index. -/
theorem zeroRun_longestRun {groups : List Nat} (rest : List Nat) {index : Nat}
    {best current : Nat × Nat} (here : groups.drop index = rest) (found : ZeroRun groups best)
    (running : ZeroRun groups current) (reaches : current.2 ≠ 0 → current.1 + current.2 = index) :
    ZeroRun groups (longestRun index best current rest) := by
  induction rest generalizing index best current with
  | nil => exact found
  | cons group rest ih =>
    have next : groups.drop (index + 1) = rest := by
      rw [← List.tail_drop, here, List.tail_cons]
    have value : groups[index]? = some group := by
      rw [← Nat.add_zero index, ← List.getElem?_drop, here]
      rfl
    rw [longestRun]
    split
    case isTrue zero =>
      -- The current run grows by one group, or begins here.
      have longer : ZeroRun groups
          (if current.2 = 0 then (index, 1) else (current.1, current.2 + 1)) := by
        intro i above below
        split at above
        case isTrue none =>
          rw [if_pos none] at below
          rw [show i = index by omega, value, zero]
        case isFalse begun =>
          rw [if_neg begun] at below
          have ends := reaches begun
          by_cases last : i = index
          · rw [last, value, zero]
          · exact running i above (by omega)
      refine ih next ?_ longer ?_
      · exact iteInduction (fun _ => longer) fun _ => found
      · intro _
        split
        · rfl
        case isFalse begun =>
          have ends := reaches begun
          omega
    case isFalse => exact ih next found (fun i above below => by omega) (absurd rfl)

/-- The zeros that are left out are put back. -/
theorem ZeroRun.eq_append {groups : List Nat} {start length : Nat}
    (zeros : ZeroRun groups (start, length)) (pos : 0 < length) :
    start + length ≤ groups.length ∧
      groups = groups.take start ++ List.replicate length 0 ++ groups.drop (start + length) := by
  have last := zeros (start + length - 1) (by dsimp only; omega) (by dsimp only; omega)
  have fits : start + length ≤ groups.length := by
    obtain ⟨inside, -⟩ := List.getElem?_eq_some_iff.1 last
    omega
  refine ⟨fits, ?_⟩
  have middle : (groups.drop start).take length = List.replicate length 0 := by
    refine List.ext_getElem? fun i => ?_
    rw [List.getElem?_take, List.getElem?_drop, List.getElem?_replicate]
    split
    case isTrue inside => exact zeros (start + i) (by dsimp only; omega) (by dsimp only; omega)
    case isFalse => rfl
  rw [← middle, ← List.drop_drop, List.append_assoc, List.take_append_drop, List.take_append_drop]

/-! ## Addresses that carry one of the older kind -/

theorem byte?_toDigits {n : Nat} (small : n < 256) : byte? (Nat.toDigits 10 n) = some n := by
  have all : ∀ n : Fin 256, byte? (Nat.toDigits 10 n.val) = some n.val := by decide +kernel
  exact all ⟨n, small⟩

/-- Four numbers with dots between them. -/
def dotted (numbers : List Nat) : List Char :=
  ['.'].intercalate (numbers.map (Nat.toDigits 10))

theorem mark_not_mem_decimal {mark : Char} (other : mark.isDigit = false) (n : Nat) :
    mark ∉ Nat.toDigits 10 n := by
  intro member
  rw [Nat.isDigit_of_mem_toDigits (by decide) (by decide) member] at other
  cases other

theorem mapped?_dotted {a b c d : Nat} (small : ∀ n ∈ [a, b, c, d], n < 256) :
    mapped? (dotted [a, b, c, d]) = some [a * 256 + b, c * 256 + d] := by
  have cut : pieces '.' (dotted [a, b, c, d]) = [a, b, c, d].map (Nat.toDigits 10) := by
    rw [Text.pieces_eq_splitOn]
    refine List.splitOn_intercalate '.' (fun digits member => ?_) (List.cons_ne_nil _ _)
    obtain ⟨n, -, rfl⟩ := List.mem_map.1 member
    exact mark_not_mem_decimal rfl n
  have read : ([a, b, c, d].map (Nat.toDigits 10)).mapM byte? = some [a, b, c, d] := by
    simp only [List.map_cons, List.map_nil, List.mapM_cons, List.mapM_nil,
      byte?_toDigits (small a (by simp)), byte?_toDigits (small b (by simp)),
      byte?_toDigits (small c (by simp)), byte?_toDigits (small d (by simp))]
    rfl
  rw [mapped?, cut, read]

theorem mem_dotted {numbers : List Nat} {c : Char} (member : c ∈ dotted numbers) :
    c.isDigit = true ∨ c = '.' := by
  rcases Text.mem_of_mem_intercalate member with between | ⟨digits, inside, found⟩
  · exact .inr (List.mem_singleton.1 between)
  · obtain ⟨n, -, rfl⟩ := List.mem_map.1 inside
    exact .inl (Nat.isDigit_of_mem_toDigits (by decide) (by decide) found)

theorem colon_not_mem_dotted (numbers : List Nat) : ':' ∉ dotted numbers := by
  intro member
  rcases mem_dotted member with digit | dot
  · cases digit
  · cases dot

/-- The last two groups are read from an older address. -/
theorem parse?_mapped {older : List Char} {g h : Nat} (read : mapped? older = some [g, h])
    (dot : older.contains '.' = true) (colon : ':' ∉ older) :
    parse? ("::ffff:".toList ++ older) = some ⟨[0, 0, 0, 0, 0, 0xFFFF, g, h]⟩ := by
  have whole : "::ffff:".toList ++ older =
      [] ++ [':', ':'] ++ [':'].intercalate ["ffff".toList, older] := by
    rw [List.intercalate_cons_cons, List.intercalate_singleton]
    rfl
  have cut : pieces ':' ([':'].intercalate ["ffff".toList, older]) = ["ffff".toList, older] := by
    rw [Text.pieces_eq_splitOn]
    refine List.splitOn_intercalate ':' (fun text member => ?_) (List.cons_ne_nil _ _)
    rcases List.mem_pair.1 member with rfl | rfl
    · decide
    · exact colon
  have back : side? true ([':'].intercalate ["ffff".toList, older]) = some [0xFFFF, g, h] := by
    have filled : ([':'].intercalate ["ffff".toList, older]).isEmpty = false := by
      rw [List.intercalate_cons_cons]
      rfl
    rw [side?, filled, cut, if_neg Bool.false_ne_true, groups?]
    · rw [groups?, dot, read]
      rfl
    · exact List.cons_ne_nil _ _
  rw [parse?, whole, Text.splitOnce_append (List.cons_ne_nil _ _) (by decide)]
  dsimp only
  rw [back]
  rfl

theorem text_mapped (g h : Nat) :
    (text ⟨[0, 0, 0, 0, 0, 0xFFFF, g, h]⟩).toList =
      "::ffff:".toList ++ dotted [g / 256, g % 256, h / 256, h % 256] := by
  simp only [text, dotted, String.toList_append, Nat.toString_eq_repr, Nat.toList_repr,
    List.map_cons, List.map_nil, List.intercalate_cons_cons, List.intercalate_singleton,
    List.append_assoc]
  rfl

/-! ## Addresses -/

/-- The text of groups of which a run is left out, if it is of two at least. -/
def shortened (groups : List Nat) (run : Nat × Nat) : String :=
  if run.2 > 1 then colons (groups.take run.1) ++ "::" ++ colons (groups.drop (run.1 + run.2))
  else colons groups

/-- An address carries one of the older kind, or its text leaves out a run of zeros. -/
theorem text_cases (address : Ipv6) :
    (∃ g h, address = ⟨[0, 0, 0, 0, 0, 0xFFFF, g, h]⟩) ∨
      ∃ run, ZeroRun address.groups run ∧ address.text = shortened address.groups run := by
  obtain ⟨groups⟩ := address
  by_cases mapped : ∃ g h, groups = [0, 0, 0, 0, 0, 0xFFFF, g, h]
  · obtain ⟨g, h, rfl⟩ := mapped
    exact .inl ⟨g, h, rfl⟩
  · refine .inr ⟨longestRun 0 (0, 0) (0, 0) groups, ?_, ?_⟩
    · exact zeroRun_longestRun groups rfl (fun i _ below => by omega) (fun i _ below => by omega)
        (absurd rfl)
    · unfold text
      split
      case h_1 g h same => exact absurd ⟨g, h, same⟩ mapped
      case h_2 => rfl

/-- Groups are read back from a text that leaves out a run of zeros. -/
theorem parse?_shortened {groups : List Nat} (count : groups.length = 8)
    (small : ∀ group ∈ groups, group < 65536) {run : Nat × Nat} (zeros : ZeroRun groups run) :
    parse? (shortened groups run).toList = some ⟨groups⟩ := by
  unfold shortened
  split
  case isTrue long =>
    obtain ⟨fits, whole⟩ := zeros.eq_append (by omega)
    have sides : (groups.take run.1).length + (groups.drop (run.1 + run.2)).length =
        8 - run.2 := by
      rw [List.length_take, List.length_drop]
      omega
    rw [String.toList_append, String.toList_append]
    refine (parse?_gap (fun group member => ?_) (by omega)).trans ?_
    · rcases List.mem_append.1 member with front | back
      · exact small group (List.mem_of_mem_take front)
      · exact small group (List.mem_of_mem_drop back)
    · rw [sides, show 8 - (8 - run.2) = run.2 by omega, ← whole]
  case isFalse => exact parse?_colons small count

/-- **The standard text of an address is read back.** -/
theorem parse?_text {address : Ipv6} (valid : address.Valid) :
    parse? address.text.toList = some address := by
  rcases text_cases address with ⟨g, h, rfl⟩ | ⟨run, zeros, same⟩
  · have bytes : ∀ n ∈ [g / 256, g % 256, h / 256, h % 256], n < 256 := by
      have first := valid.small g (by simp)
      have second := valid.small h (by simp)
      simp only [List.mem_cons, List.not_mem_nil, or_false, forall_eq_or_imp, forall_eq]
      omega
    have read := mapped?_dotted bytes
    rw [Nat.div_add_mod', Nat.div_add_mod'] at read
    rw [text_mapped]
    exact parse?_mapped read (by simp [dotted, List.intercalate_cons_cons]) (colon_not_mem_dotted _)
  · rw [same]
    exact parse?_shortened valid.count valid.small zeros

theorem mem_colons {groups : List Nat} {c : Char} (member : c ∈ (colons groups).toList) :
    c.isAlphanum = true ∨ c = ':' := by
  rw [toList_colons] at member
  rcases Text.mem_of_mem_intercalate member with between | ⟨digits, inside, found⟩
  · exact .inr (List.mem_singleton.1 between)
  · obtain ⟨group, -, rfl⟩ := List.mem_map.1 inside
    exact .inl (Hex.isAlphanum_of_mem_toDigits found)

/-- The text of an address holds letters and digits, and its two marks. -/
theorem mem_text {address : Ipv6} {c : Char} (member : c ∈ address.text.toList) :
    c.isAlphanum = true ∨ c = ':' ∨ c = '.' := by
  rcases text_cases address with ⟨g, h, rfl⟩ | ⟨run, -, same⟩
  · rw [text_mapped, List.mem_append] at member
    rcases member with front | older
    · have all : ∀ c ∈ "::ffff:".toList, c.isAlphanum = true ∨ c = ':' ∨ c = '.' :=
        List.all_iff_forall_prop.1 (by decide)
      exact all c front
    · rcases mem_dotted older with digit | dot
      · exact .inl (Bool.or_eq_true_iff.2 (.inr digit))
      · exact .inr (.inr dot)
  · rw [same, shortened] at member
    split at member
    · rw [String.toList_append, String.toList_append, List.mem_append, List.mem_append] at member
      rcases member with (front | gap) | back
      · exact (mem_colons front).imp_right .inl
      · have all : ∀ c ∈ "::".toList, c = ':' := List.all_iff_forall_prop.1 (by decide)
        exact .inr (.inl (all c gap))
      · exact (mem_colons back).imp_right .inl
    · exact (mem_colons member).imp_right .inl

/-! ## What an address is read of -/

/-- The character may stand in the text of an address. -/
def IsDigitOrMark (c : Char) : Prop := Hex.digit? c ≠ none ∨ c = ':' ∨ c = '.'

theorem digit_of_number? {digits : List Char} {start n : Nat}
    (read : digits.foldlM (fun n c => (Hex.digit? c).map (n * 16 + ·)) start = some n) {c : Char}
    (member : c ∈ digits) : Hex.digit? c ≠ none := by
  induction digits generalizing start with
  | nil => cases member
  | cons d digits ih =>
    rw [List.foldlM_cons] at read
    obtain ⟨next, first, rest⟩ := Option.bind_eq_some_iff.1 read
    rcases List.mem_cons.1 member with rfl | member
    · intro none
      rw [none] at first
      cases first
    · exact ih rest member

theorem isDigitOrMark_of_group? {text : List Char} {g : Nat} (read : group? text = some g)
    {c : Char} (member : c ∈ text) : IsDigitOrMark c := by
  unfold group? at read
  split at read
  · exact .inl (digit_of_number? read member)
  · cases read

theorem isDigitOrMark_of_byte? {text : List Char} {n : Nat} (read : byte? text = some n) {c : Char}
    (member : c ∈ text) : IsDigitOrMark c := by
  unfold byte? at read
  split at read
  case isTrue => cases read
  case isFalse plain =>
    have digits : text.all (fun c => '0' ≤ c && c ≤ '9') = true := by
      simp only [Bool.or_eq_true, not_or, Bool.not_eq_true, Bool.not_eq_false'] at plain
      exact plain.1.2
    have digit : '0' ≤ c ∧ c ≤ '9' := by
      simpa using List.all_eq_true.1 digits c member
    refine .inl ?_
    rw [Hex.digit?, if_pos digit]
    exact Option.some_ne_none _

theorem isDigitOrMark_of_mapped? {text : List Char} {groups : List Nat}
    (read : mapped? text = some groups) {c : Char} (member : c ∈ text) : IsDigitOrMark c := by
  by_cases dot : c = '.'
  · exact .inr (.inr dot)
  obtain ⟨piece, inside, found⟩ := Text.exists_piece_of_mem member dot
  unfold mapped? at read
  split at read
  case h_1 numbers =>
    obtain ⟨n, number⟩ := exists_eq_some_of_mapM numbers inside
    exact isDigitOrMark_of_byte? number found
  case h_2 => cases read

theorem isDigitOrMark_of_groups? {dots : Bool} {pieces : List (List Char)} {groups : List Nat}
    (read : groups? dots pieces = some groups) {piece : List Char} (inside : piece ∈ pieces)
    {c : Char} (member : c ∈ piece) : IsDigitOrMark c := by
  fun_induction groups? dots pieces generalizing groups with
  | case1 => cases inside
  | case2 last dotted =>
    cases List.mem_singleton.1 inside
    exact isDigitOrMark_of_mapped? read member
  | case3 last plain =>
    cases List.mem_singleton.1 inside
    obtain ⟨g, group, -⟩ := Option.map_eq_some_iff.1 read
    exact isDigitOrMark_of_group? group member
  | case4 first rest more ih =>
    obtain ⟨g, group, read⟩ := Option.bind_eq_some_iff.1 read
    obtain ⟨others, tail, -⟩ := Option.bind_eq_some_iff.1 read
    rcases List.mem_cons.1 inside with rfl | inside
    · exact isDigitOrMark_of_group? group member
    · exact ih tail inside

theorem isDigitOrMark_of_side? {dots : Bool} {text : List Char} {groups : List Nat}
    (read : side? dots text = some groups) {c : Char} (member : c ∈ text) : IsDigitOrMark c := by
  by_cases colon : c = ':'
  · exact .inr (.inl colon)
  obtain ⟨piece, inside, found⟩ := Text.exists_piece_of_mem member colon
  unfold side? at read
  split at read
  case isTrue empty =>
    rw [List.isEmpty_iff.1 empty] at member
    cases member
  case isFalse => exact isDigitOrMark_of_groups? read inside found

/-- Only hexadecimal digits, colons and dots are read as an address. -/
theorem isDigitOrMark_of_parse? {text : List Char} {address : Ipv6}
    (read : parse? text = some address) {c : Char} (member : c ∈ text) : IsDigitOrMark c := by
  unfold parse? at read
  split at read
  case h_1 =>
    obtain ⟨groups, side, -⟩ := Option.bind_eq_some_iff.1 read
    exact isDigitOrMark_of_side? side member
  case h_2 before after cut =>
    obtain ⟨front, left, read⟩ := Option.bind_eq_some_iff.1 read
    obtain ⟨back, right, -⟩ := Option.bind_eq_some_iff.1 read
    rw [Text.eq_append_of_splitOnce cut, List.mem_append, List.mem_append] at member
    rcases member with (inside | gap) | inside
    · exact isDigitOrMark_of_side? left inside
    · have all : ∀ c ∈ [':', ':'], c = ':' := by simp
      exact .inr (.inl (all c gap))
    · exact isDigitOrMark_of_side? right inside

end Gangway.Uri.Ipv6
