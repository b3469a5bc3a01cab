import Gangway.Files.Tree
import Gangway.Proofs.Files.Paths
import Gangway.Proofs.Outcomes

/-!
# Where paths lead in a file tree

`Reaches` tells where names lead from a place, without the limits that following them has. Names are
followed to where they lead (`reaches_of_follow`), and they lead to one place (`Reaches.unique`). A
file is read by way of its directory, but what is read there is the file at the place that its whole
path leads to, below the directory (`exists_of_read`).
-/

namespace Gangway

open Text (Bytes readUtf8?)

/-- What names that lead somewhere reach from a place, through links. -/
inductive Tree.Reaches (tree : Tree) : Place → List (List Char) → Place → Prop where
  | here (place : Place) : Reaches tree place [] place
  | up {place result : Place} {todo : List (List Char)}
      (onward : Reaches tree place.tail todo result) :
      Reaches tree place (['.', '.'] :: todo) result
  | directory {place result : Place} {segment : List Char} {todo : List (List Char)}
      (named : segment ≠ ['.', '.'])
      (held : tree.at? (String.ofList segment :: place) = some .directory)
      (onward : Reaches tree (String.ofList segment :: place) todo result) :
      Reaches tree place (segment :: todo) result
  | link {place result : Place} {segment : List Char} {todo : List (List Char)} {target : String}
      (named : segment ≠ ['.', '.'])
      (held : tree.at? (String.ofList segment :: place) = some (.link target))
      (onward : Reaches tree (if Path.isAbsolute target then [] else place)
        (Path.parts target ++ todo) result) :
      Reaches tree place (segment :: todo) result
  | leaf {place : Place} {segment : List Char} {entry : Entry} (named : segment ≠ ['.', '.'])
      (held : tree.at? (String.ofList segment :: place) = some entry)
      (closed : entry ≠ .directory) (unlinked : ∀ target, entry ≠ .link target) :
      Reaches tree place [segment] (String.ofList segment :: place)

/-- Whatever is somewhere is in a directory, and so is the current place one. -/
structure Tree.Grounded (tree : Tree) : Prop where
  parent : ∀ name place entry, tree.at? (name :: place) = some entry →
    tree.at? place = some .directory
  current : tree.at? tree.current = some .directory

namespace Tree

variable {tree : Tree} {place result : Place} {todo front back : List (List Char)}

/-- Names are followed to where they lead. -/
theorem reaches_of_follow {floor : Option Nat} {links : Nat}
    (followed : tree.follow floor links place todo = .ok result) :
    tree.Reaches place (todo.filter Path.leads) result := by
  have passed {segment : List Char} {rest : List (List Char)}
      (leading : ¬(segment.isEmpty || decide (segment = ['.'])) = true) :
      (segment :: rest).filter Path.leads = segment :: rest.filter Path.leads :=
    List.filter_cons_of_pos (by simpa [Path.leads] using leading)
  fun_induction tree.follow floor links place todo with
  | case1 =>
    cases followed
    exact .here result
  | case2 links place segment rest blank ih =>
    rw [List.filter_cons_of_neg (by rw [Path.leads, blank]; exact Bool.false_ne_true)]
    exact ih followed
  | case3 | case5 | case6 | case8 | case9 | case13 => cases followed
  | case4 links place rest inside leading ih =>
    rw [passed leading]
    exact .up (ih followed)
  | case7 links place segment rest leading named name short held ih =>
    rw [passed leading]
    exact .directory named held (ih followed)
  | case10 place segment rest leading named name short target held links absolute free ih =>
    have onward := ih followed
    rw [List.filter_append] at onward
    rw [passed leading]
    refine .link named held ?_
    rwa [if_pos absolute]
  | case11 place segment rest leading named name short target held links relative ih =>
    have onward := ih followed
    rw [List.filter_append] at onward
    rw [passed leading]
    refine .link named held ?_
    rwa [if_neg relative]
  | case12 links place segment rest leading named name short entry closed unlinked held done =>
    cases followed
    rw [passed leading, List.isEmpty_iff.1 done]
    exact .leaf named held closed unlinked

/-- Nothing leads above the directory that names are looked up in. -/
theorem suffix_of_follow {base : Place} {links : Nat} (below : base <:+ place)
    (followed : tree.follow (some base.length) links place todo = .ok result) :
    base <:+ result := by
  have bounded {place : Place} (below : base <:+ place)
      (inside : ¬(some base.length).any (fun floor => decide (place.length ≤ floor)) = true) :
      base <:+ place.tail := by
    cases place with
    | nil => simp at inside
    | cons name parent =>
      rcases List.suffix_cons_iff.1 below with rfl | above
      · simp at inside
      · exact above
  fun_induction tree.follow (some base.length) links place todo with
  | case1 =>
    cases followed
    exact below
  | case2 links place segment rest blank ih => exact ih below followed
  | case3 | case5 | case6 | case8 | case9 | case13 => cases followed
  | case4 links place rest inside leading ih => exact ih (bounded below inside) followed
  | case7 links place segment rest leading named name short held ih =>
    exact ih (below.trans (List.suffix_cons _ _)) followed
  | case10 place segment rest leading named name short target held links absolute free ih =>
    exact absurd rfl free
  | case11 place segment rest leading named name short target held links relative ih =>
    exact ih below followed
  | case12 links place segment rest leading named name short entry closed unlinked held done =>
    cases followed
    exact below.trans (List.suffix_cons _ _)

/-- Names lead to one place. -/
theorem Reaches.unique {other : Place} (reaches : tree.Reaches place todo result)
    (again : tree.Reaches place todo other) : result = other := by
  induction reaches generalizing other with
  | here =>
    cases again
    rfl
  | up onward ih =>
    cases again with
    | up onward' => exact ih onward'
    | directory named => exact absurd rfl named
    | link named => exact absurd rfl named
    | leaf named => exact absurd rfl named
  | directory named held onward ih =>
    cases again with
    | up => exact absurd rfl named
    | directory _ _ onward' => exact ih onward'
    | link _ held' => cases held.symm.trans held'
    | leaf _ held' closed =>
      cases held.symm.trans held'
      exact absurd rfl closed
  | link named held onward ih =>
    cases again with
    | up => exact absurd rfl named
    | directory _ held' => cases held.symm.trans held'
    | link _ held' onward' =>
      cases held.symm.trans held'
      exact ih onward'
    | leaf _ held' _ unlinked =>
      cases held.symm.trans held'
      exact absurd rfl (unlinked _)
  | leaf named held closed unlinked =>
    cases again with
    | up => exact absurd rfl named
    | directory _ held' =>
      cases held.symm.trans held'
      exact absurd rfl closed
    | link _ held' =>
      cases held.symm.trans held'
      exact absurd rfl (unlinked _)
    | leaf => rfl

/-- Names may be followed in two steps, by way of a directory. -/
theorem Reaches.append {middle : Place} (reaches : tree.Reaches place front middle)
    (opened : tree.at? middle = some .directory) (onward : tree.Reaches middle back result) :
    tree.Reaches place (front ++ back) result := by
  induction reaches with
  | here => exact onward
  | up _ ih => exact .up (ih opened onward)
  | directory named held _ ih => exact .directory named held (ih opened onward)
  | link named held _ ih =>
    have onwards := ih opened onward
    rw [List.append_assoc] at onwards
    exact .link named held onwards
  | leaf _ held closed =>
    rw [held] at opened
    exact absurd (Option.some.inj opened) closed

theorem Grounded.tail (grounded : tree.Grounded) (opened : tree.at? place = some .directory) :
    tree.at? place.tail = some .directory := by
  cases place with
  | nil => rfl
  | cons name parent => exact grounded.parent name parent _ opened

/-- Whoever goes up at the end gets to a directory. -/
theorem Reaches.directory_of_up (grounded : tree.Grounded)
    (reaches : tree.Reaches place todo result) (opened : tree.at? place = some .directory)
    (upwards : todo.getLast? = some ['.', '.']) : tree.at? result = some .directory := by
  induction reaches with
  | here => cases upwards
  | @up place result todo onward ih =>
    cases todo with
    | nil =>
      cases onward
      exact grounded.tail opened
    | cons segment rest =>
      rw [List.getLast?_cons_cons] at upwards
      exact ih (grounded.tail opened) upwards
  | @directory place result segment todo named held onward ih =>
    cases todo with
    | nil => exact absurd (Option.some.inj upwards) named
    | cons next rest =>
      rw [List.getLast?_cons_cons] at upwards
      exact ih held upwards
  | @link place result segment todo target named held onward ih =>
    cases todo with
    | nil => exact absurd (Option.some.inj upwards) named
    | cons next rest =>
      rw [List.getLast?_cons_cons] at upwards
      refine ih ?_ ?_
      · split
        · rfl
        · exact opened
      · rw [List.getLast?_append, upwards]
        rfl
  | leaf named => exact absurd (Option.some.inj upwards) named

/-- Where relative and absolute paths begin. -/
def start (tree : Tree) (path : String) : Place :=
  if Path.isAbsolute path then [] else tree.current

theorem reaches_of_locate {path : String} (located : tree.locate path = .ok place) :
    tree.Reaches (tree.start path) (Path.parts path) place := by
  obtain ⟨-, -, followed⟩ := bind_eq_ok_iff.1 located
  exact reaches_of_follow followed

theorem exists_of_locateDirectory {path : String} (opened : tree.locateDirectory path = .ok place) :
    tree.locate path = .ok place ∧ tree.at? place = some .directory := by
  obtain ⟨found, located, done⟩ := bind_eq_ok_iff.1 opened
  split at done
  case isTrue directory =>
    cases done
    exact ⟨located, directory⟩
  case isFalse => cases done

theorem exists_of_locateWithin {base : Place} {name : String}
    (found : tree.locateWithin base name = .ok place) :
    tree.Reaches base (Path.parts name) place ∧ base <:+ place := by
  obtain ⟨-, -, followed⟩ := bind_eq_ok_iff.1 found
  dsimp only at followed
  split at followed
  case isTrue =>
    obtain ⟨_, thrown, -⟩ := bind_eq_ok_iff.1 followed
    cases thrown
  case isFalse => exact ⟨reaches_of_follow followed, suffix_of_follow List.suffix_rfl followed⟩

theorem exists_of_readAt {text : String} (read : tree.readAt place = .ok text) :
    ∃ content chars, tree.at? place = some (.file content) ∧ readUtf8? content = some chars ∧
      text = String.ofList chars := by
  unfold readAt at read
  split at read
  case h_1 content held =>
    split at read
    case h_1 chars plain =>
      cases read
      exact ⟨content, chars, held, plain, rfl⟩
    case h_2 => cases read
  · cases read
  · cases read
  · cases read

/-- **What is read at a path is the file that the path leads to**, which is below the directory that
is opened for it, and its text. -/
theorem exists_of_read (grounded : tree.Grounded) {path text : String}
    (located : tree.locate path = .ok place) (read : tree.files.read path = .ok text) :
    ∃ base content chars, tree.locate (Path.directoryOf path) = .ok base ∧ base <:+ place ∧
      tree.at? place = some (.file content) ∧ readUtf8? content = some chars ∧
      text = String.ofList chars := by
  unfold Files.read at read
  split at read
  case h_1 => cases read
  case h_2 =>
    split at read
    case h_1 => cases read
    case h_2 within =>
      cases read
      obtain ⟨base, opened, within⟩ := bind_eq_ok_iff.1 within
      obtain ⟨found, named, done⟩ := bind_eq_ok_iff.1 within
      obtain ⟨directory, held⟩ := exists_of_locateDirectory opened
      obtain ⟨reaches, below⟩ := exists_of_locateWithin named
      obtain ⟨content, chars, file, plain, rfl⟩ := exists_of_readAt done
      have same : found = place := by
        cases last : Path.fileName? path with
        | some name =>
          obtain ⟨parts, absolute⟩ := Path.parts_of_fileName last
          have whole := (reaches_of_locate directory).append held reaches
          rw [Path.nameOf, last, Option.getD_some, Path.parts_name last, ← parts, start,
            absolute] at whole
          exact whole.unique (reaches_of_locate located)
        | none =>
          -- Going up or nowhere ends in a directory, where no file is.
          rw [Path.nameOf, last, Option.getD_none] at reaches
          have opened : tree.at? found = some .directory := by
            rcases Path.parts_of_no_fileName last with nowhere | upwards
            · rw [nowhere] at reaches
              cases reaches
              exact held
            · exact reaches.directory_of_up grounded held upwards
          rw [file] at opened
          cases opened
      subst same
      exact ⟨base, content, chars, directory, below, file, plain, rfl⟩

/-- Nothing is read at a path, though it leads to a place: no file is there, or none that is text,
or a link led out of the directory of the path. -/
inductive Unreadable (tree : Tree) (path : String) (place : Place) : Prop where
  | noFile (other : ∀ content, tree.at? place ≠ some (.file content))
  | noText {content : Bytes} (held : tree.at? place = some (.file content))
      (garbled : readUtf8? content = none)
  | outside {base : Place} (opened : tree.locate (Path.directoryOf path) = .ok base)
      (leaves : ¬ base <:+ place)

theorem Unreadable.read {path : String} (unreadable : tree.Unreadable path place)
    (grounded : tree.Grounded) (located : tree.locate path = .ok place) :
    ∃ error, tree.files.read path = .error error := by
  cases read : tree.files.read path with
  | error error => exact ⟨error, rfl⟩
  | ok text =>
    obtain ⟨base, content, chars, opened, below, held, plain, -⟩ :=
      exists_of_read grounded located read
    cases unreadable with
    | noFile other => exact absurd held (other content)
    | noText held' garbled =>
      cases held.symm.trans held'
      cases plain.symm.trans garbled
    | outside opened' leaves =>
      cases opened.symm.trans opened'
      exact absurd below leaves

end Tree

end Gangway
