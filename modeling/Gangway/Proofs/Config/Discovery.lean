import Gangway.Proofs.Config.OneFile
import Gangway.Proofs.Resolution.Sources
import Mathlib.Data.List.ReduceOption

/-!
# Where the configuration file is looked for

The documentation names four places of a configuration file, the dotfile in the current directory
right behind the path of the variable. Seven places are searched, and that dotfile is the last of
them; places whose paths are no text are passed over, which the documentation does not mention.
`discovery` tells for every combination of existing files which one is found, and `Orderly` when it
is the documented one.
-/

namespace Gangway.Config

/-! ## The places -/

/-- A path in the home directory, if the environment names one. -/
def inHome (environment : Environment) (path : String) : Option OsText :=
  (environment.nonEmptyValue? "HOME").map (·.under path)

/-- The user's configuration file in the home directory. -/
def ownFile : String := ".config/podlink/config.toml"

/-- The dotfile among the user's settings in the home directory. -/
def ownDotFile : String := ".config/.podlink.toml"

/-- The configuration file of all users. -/
def sharedFile : String := "/etc/xdg/podlink/config.toml"

/-- The dotfile of all users. -/
def sharedDotFile : String := "/etc/xdg/.podlink.toml"

/-- The documented places apart from the variable's, the most relevant first. -/
def usualPlaces (environment : Environment) : List (Option OsText) :=
  [some (.text dotFile), inHome environment dotFile, inHome environment ownFile]

/-- The documented places of a configuration file, the most relevant first. -/
def documentedPlaces (environment : Environment) : List OsText :=
  (environment.nonEmptyValue? pathVariable :: usualPlaces environment).reduceOption

/-- The places that are searched if no directories of settings are given, the most relevant
first. -/
def searchedPlaces (environment : Environment) : List OsText :=
  [environment.nonEmptyValue? pathVariable, some (.text sharedFile), some (.text sharedDotFile),
    inHome environment ownFile, inHome environment ownDotFile, inHome environment dotFile,
    some (.text dotFile)].reduceOption

/-- There is such a place, its path is a text, and something is there. -/
def Occupied (files : Files) (place : Option OsText) : Prop :=
  ∃ path, .text path ∈ place ∧ files.present path = true

/-- What exists lets the documented order and that of the search find the same. -/
inductive Orderly (environment : Environment) (files : Files) : Prop where
  /-- The variable's path comes first in both. -/
  | named (given : Occupied files (environment.nonEmptyValue? pathVariable))
  /-- At most one of the documented files exists, and nothing undocumented is found before it. -/
  | single (unshared : ¬ Occupied files (some (.text sharedFile)) ∧
        ¬ Occupied files (some (.text sharedDotFile)))
      (shadowed : Occupied files (inHome environment ownDotFile) →
        Occupied files (inHome environment ownFile))
      (alone : (usualPlaces environment).Pairwise fun place other =>
        ¬ (Occupied files place ∧ Occupied files other))
  /-- The directory of all users is the home directory. -/
  | shared (home : inHome environment dotFile = some (.text sharedDotFile))
      (found : Occupied files (some (.text sharedDotFile)))
      (unshared : ¬ Occupied files (some (.text sharedFile)))
      (elsewhere : ¬ Occupied files (some (.text dotFile)))

section

variable {environment : Environment} {files : Files} {place : Option OsText} {path other : String}

theorem candidates_eq_searchedPlaces (ownUnset : environment.value? "XDG_CONFIG_HOME" = none)
    (sharedUnset : environment.value? "XDG_CONFIG_DIRS" = none) :
    candidates environment = searchedPlaces environment := by
  have own (home : OsText) (filled : home.isEmpty = false) :
      (home.under ".config").under fileInDirectory = home.under ownFile :=
    OsText.under_under filled (by decide) (by decide) (by decide) (by decide) (by decide)
  have ownDot (home : OsText) (filled : home.isEmpty = false) :
      (home.under ".config").under dotFile = home.under ownDotFile :=
    OsText.under_under filled (by decide) (by decide) (by decide) (by decide) (by decide)
  have directory : (OsText.text "/etc/xdg").under fileInDirectory = .text sharedFile := by decide
  have directory' : (OsText.text "/etc/xdg").under dotFile = .text sharedDotFile := by decide
  unfold candidates settingsDirectories searchedPlaces inHome
  rw [ownUnset, sharedUnset]
  cases environment.nonEmptyValue? pathVariable <;>
    cases set : environment.nonEmptyValue? "HOME" with
    | none => simp [List.reduceOption, directory, directory']
    | some home =>
      have filled : home.isEmpty = false := by simpa using (Option.filter_eq_some_iff.1 set).2
      simp [List.reduceOption, own home filled, ownDot home filled, directory, directory']

/-! ## Different places -/

/-- Files in the home directory are written behind one text and a slash, if at all. -/
theorem exists_homeText (environment : Environment) :
    ∃ home : List Char, ∀ {path other : String}, Path.isAbsolute path = false →
      .text other ∈ inHome environment path → other.toList = home ++ '/' :: path.toList := by
  cases set : environment.nonEmptyValue? "HOME" with
  | none =>
    refine ⟨[], fun _ member => ?_⟩
    rw [inHome, set] at member
    cases member
  | some home =>
    have filled := (Option.filter_eq_some_iff.1 set).2
    cases home with
    | text home =>
      obtain ⟨front, behind⟩ := Path.exists_under (by simpa [OsText.isEmpty] using filled)
      refine ⟨front, fun relative member => ?_⟩
      rw [inHome, set] at member
      cases member
      exact behind _ relative
    | bytes home =>
      obtain ⟨front, behind⟩ := OsText.exists_under_bytes (by simpa [OsText.isEmpty] using filled)
      refine ⟨[], fun relative member => ?_⟩
      rw [inHome, set, Option.map_some, behind _ relative] at member
      cases member

theorem not_mem_inHome (relative : Path.isAbsolute path = false)
    (apart : ¬ ('/' :: path.toList) <:+ other.toList) : .text other ∉ inHome environment path := by
  intro member
  obtain ⟨home, written⟩ := exists_homeText environment
  exact apart ⟨home, (written relative member).symm⟩

/-- Different files in the home directory have different paths. -/
theorem inHome_injective {path' : String} (relative : Path.isAbsolute path = false)
    (relative' : Path.isAbsolute path' = false) (member : .text other ∈ inHome environment path)
    (member' : .text other ∈ inHome environment path') : path = path' := by
  obtain ⟨home, written⟩ := exists_homeText environment
  have letters := (written relative member).symm.trans (written relative' member')
  exact String.toList_injective (List.cons.inj (List.append_cancel_left letters)).2

/-! ## What is found -/

/-- The path at a place if it is a text and something is there. -/
def seen (files : Files) (place : Option OsText) : Option String :=
  (place.bind OsText.text?).filter files.present

theorem seen_eq_some_iff :
    seen files place = some path ↔ .text path ∈ place ∧ files.present path = true := by
  rw [seen, Option.filter_eq_some_iff]
  refine and_congr_left fun _ => ?_
  rcases place with _ | text | bytes
  · simp
  · simp [OsText.text?]
  · simp [OsText.text?]

theorem mem_of_seen (found : seen files place = some path) : .text path ∈ place :=
  (seen_eq_some_iff.1 found).1

theorem seen_eq_none_iff : seen files place = none ↔ ¬ Occupied files place := by
  simp [Option.eq_none_iff_forall_ne_some, seen_eq_some_iff, Occupied]

theorem Occupied.seen (occupied : Occupied files place) :
    ∃ path, .text path ∈ place ∧ Config.seen files place = some path := by
  obtain ⟨path, member, present⟩ := occupied
  exact ⟨path, member, seen_eq_some_iff.2 ⟨member, present⟩⟩

theorem firstText?_reduceOption_cons (place : Option OsText) (places : List (Option OsText)) :
    firstText? files (place :: places).reduceOption =
      (seen files place).or (firstText? files places.reduceOption) := by
  cases place with
  | none => rfl
  | some path => exact firstText?_cons files path _

/-- What the search finds, place by place. -/
theorem firstText?_searchedPlaces : firstText? files (searchedPlaces environment) =
    (seen files (environment.nonEmptyValue? pathVariable)).or
      ((seen files (some (.text sharedFile))).or ((seen files (some (.text sharedDotFile))).or
        ((seen files (inHome environment ownFile)).or
          ((seen files (inHome environment ownDotFile)).or
            ((seen files (inHome environment dotFile)).or
              (seen files (some (.text dotFile)))))))) := by
  have nowhere : firstText? files [] = none := rfl
  simp only [searchedPlaces, firstText?_reduceOption_cons, List.reduceOption_nil, nowhere,
    Option.or_none]

/-- What the documentation finds at the usual places. -/
def usual (environment : Environment) (files : Files) : Option String :=
  (seen files (some (.text dotFile))).or
    ((seen files (inHome environment dotFile)).or (seen files (inHome environment ownFile)))

theorem firstText?_documentedPlaces : firstText? files (documentedPlaces environment) =
    (seen files (environment.nonEmptyValue? pathVariable)).or (usual environment files) := by
  have nowhere : firstText? files [] = none := rfl
  simp only [documentedPlaces, usualPlaces, firstText?_reduceOption_cons, List.reduceOption_nil,
    nowhere, Option.or_none, usual]

/-- A file is found at a usual place if none is at the places before. -/
theorem usual_eq_some_iff : usual environment files = some path ↔
    seen files (some (.text dotFile)) = some path ∨ ¬ Occupied files (some (.text dotFile)) ∧
      (seen files (inHome environment dotFile) = some path ∨
        ¬ Occupied files (inHome environment dotFile) ∧
          seen files (inHome environment ownFile) = some path) := by
  simp only [usual, Option.or_eq_some_iff, seen_eq_none_iff]

theorem mem_of_usual (found : usual environment files = some path) :
    ∃ place ∈ usualPlaces environment, .text path ∈ place := by
  rcases usual_eq_some_iff.1 found with here | ⟨-, home | ⟨-, own⟩⟩
  · exact ⟨some (.text dotFile), by simp [usualPlaces], mem_of_seen here⟩
  · exact ⟨inHome environment dotFile, by simp [usualPlaces], mem_of_seen home⟩
  · exact ⟨inHome environment ownFile, by simp [usualPlaces], mem_of_seen own⟩

/-! ## Where search and documentation agree -/

theorem sharedFile_not_mem (member : place ∈ usualPlaces environment) :
    .text sharedFile ∉ place := by
  rcases List.mem_cons.1 member with rfl | member
  · exact fun same => absurd (Option.some.inj same) (by decide)
  rcases List.mem_cons.1 member with rfl | member
  · exact not_mem_inHome (by decide) (by decide)
  · rw [List.mem_singleton.1 member]
    exact not_mem_inHome (by decide) (by decide)

theorem dotFile_not_mem_inHome (relative : Path.isAbsolute path = false) :
    .text dotFile ∉ inHome environment path :=
  not_mem_inHome relative fun suffix =>
    absurd (suffix.subset List.mem_cons_self) (by decide)

theorem ownDotFile_not_mem (member : place ∈ usualPlaces environment)
    (own : .text path ∈ inHome environment ownDotFile) : .text path ∉ place := by
  intro found
  rcases List.mem_cons.1 member with rfl | member
  · cases found
    exact dotFile_not_mem_inHome (by decide) own
  rcases List.mem_cons.1 member with rfl | member
  · exact absurd (inHome_injective (by decide) (by decide) own found) (by decide)
  · rw [List.mem_singleton.1 member] at found
    exact absurd (inHome_injective (by decide) (by decide) own found) (by decide)

theorem orderly_of_agrees (same : firstText? files (searchedPlaces environment) =
    firstText? files (documentedPlaces environment)) : Orderly environment files := by
  by_cases given : Occupied files (environment.nonEmptyValue? pathVariable)
  case pos => exact .named given
  rw [firstText?_searchedPlaces, firstText?_documentedPlaces, seen_eq_none_iff.2 given, Option.none_or,
    Option.none_or] at same
  have unshared : ¬ Occupied files (some (.text sharedFile)) := by
    intro occupied
    obtain ⟨_, ⟨⟩, found⟩ := occupied.seen
    rw [found, Option.some_or] at same
    obtain ⟨place, usual, found⟩ := mem_of_usual same.symm
    exact sharedFile_not_mem usual found
  rw [seen_eq_none_iff.2 unshared, Option.none_or] at same
  by_cases shared : Occupied files (some (.text sharedDotFile))
  case pos =>
    obtain ⟨_, ⟨⟩, found⟩ := shared.seen
    rw [found, Option.some_or] at same
    rcases usual_eq_some_iff.1 same.symm with here | ⟨nowhere, home | ⟨-, own⟩⟩
    · exact absurd (Option.some.inj (mem_of_seen here)) (by decide)
    · exact .shared (mem_of_seen home) shared unshared nowhere
    · exact absurd (mem_of_seen own) (not_mem_inHome (by decide) (by decide))
  rw [seen_eq_none_iff.2 shared, Option.none_or] at same
  have shadowed : Occupied files (inHome environment ownDotFile) →
      Occupied files (inHome environment ownFile) := by
    intro hidden
    by_contra unowned
    obtain ⟨path, member, found⟩ := hidden.seen
    rw [seen_eq_none_iff.2 unowned, Option.none_or, found, Option.some_or] at same
    obtain ⟨place, usual, found⟩ := mem_of_usual same.symm
    exact ownDotFile_not_mem usual member found
  have apart : Occupied files (inHome environment ownFile) →
      ¬ Occupied files (some (.text dotFile)) ∧ ¬ Occupied files (inHome environment dotFile) := by
    intro own
    obtain ⟨path, member, found⟩ := own.seen
    rw [found, Option.some_or] at same
    rcases usual_eq_some_iff.1 same.symm with here | ⟨nowhere, home | ⟨homeless, -⟩⟩
    · cases mem_of_seen here
      exact absurd member (dotFile_not_mem_inHome (by decide))
    · have same := inHome_injective (by decide) (by decide) member (mem_of_seen home)
      exact absurd same (by decide)
    · exact ⟨nowhere, homeless⟩
  have single : Occupied files (some (.text dotFile)) → ¬ Occupied files (inHome environment dotFile) := by
    intro here home
    have unowned : ¬ Occupied files (inHome environment ownFile) := fun own => (apart own).1 here
    obtain ⟨path, member, found⟩ := home.seen
    obtain ⟨_, ⟨⟩, found'⟩ := here.seen
    rw [seen_eq_none_iff.2 unowned, Option.none_or, seen_eq_none_iff.2 (unowned ∘ shadowed),
      Option.none_or, found, Option.some_or, usual, found', Option.some_or] at same
    cases same
    exact dotFile_not_mem_inHome (by decide) member
  refine .single ⟨unshared, shared⟩ shadowed ?_
  rw [usualPlaces, List.pairwise_cons, List.pairwise_pair, List.forall_mem_cons,
    List.forall_mem_singleton]
  exact ⟨⟨fun both => single both.1 both.2, fun both => (apart both.2).1 both.1⟩,
    fun both => (apart both.2).2 both.1⟩

theorem agrees_of_orderly (orderly : Orderly environment files) :
    firstText? files (searchedPlaces environment) =
      firstText? files (documentedPlaces environment) := by
  rw [firstText?_searchedPlaces, firstText?_documentedPlaces]
  cases orderly with
  | named given =>
    obtain ⟨path, -, found⟩ := given.seen
    rw [found, Option.some_or, Option.some_or]
  | single unshared shadowed alone =>
    rw [usualPlaces, List.pairwise_cons, List.pairwise_pair, List.forall_mem_cons,
      List.forall_mem_singleton] at alone
    obtain ⟨⟨hereHome, hereOwn⟩, homeOwn⟩ := alone
    rw [seen_eq_none_iff.2 unshared.1, seen_eq_none_iff.2 unshared.2, Option.none_or,
      Option.none_or, usual]
    by_cases own : Occupied files (inHome environment ownFile)
    case pos =>
      obtain ⟨path, -, found⟩ := own.seen
      rw [seen_eq_none_iff.2 fun here => hereOwn ⟨here, own⟩,
        seen_eq_none_iff.2 fun home => homeOwn ⟨home, own⟩, found, Option.some_or, Option.none_or,
        Option.none_or]
    case neg =>
      rw [seen_eq_none_iff.2 own, seen_eq_none_iff.2 (own ∘ shadowed), Option.none_or,
        Option.none_or, Option.or_none]
      by_cases here : Occupied files (some (.text dotFile))
      case pos => rw [seen_eq_none_iff.2 fun home => hereHome ⟨here, home⟩, Option.none_or,
        Option.or_none]
      case neg => rw [seen_eq_none_iff.2 here, Option.none_or, Option.or_none]
  | shared home found unshared elsewhere =>
    obtain ⟨path, member, found⟩ := found.seen
    rw [usual, home, seen_eq_none_iff.2 unshared, seen_eq_none_iff.2 elsewhere, found,
      Option.none_or, Option.none_or, Option.some_or, Option.some_or]

/-- **Discovery.** Where no directories of settings are given and the named file does not exist, the
first file that exists at the searched places is loaded, for every combination of existing files;
places that are no texts are passed over. It is the documented one exactly if what exists is orderly,
and the documentation does not come upon a place that is no text. -/
theorem discovery (environment : Environment) (files : Files) (arguments : Arguments)
    (ownUnset : environment.value? "XDG_CONFIG_HOME" = none)
    (sharedUnset : environment.value? "XDG_CONFIG_DIRS" = none)
    (missing : ∀ path ∈ arguments.config, files.present path = false) :
    chosenFile environment files arguments.config = firstText? files (searchedPlaces environment) ∧
      load environment files arguments = load environment files
        { arguments with config := firstText? files (searchedPlaces environment) } ∧
      ((documentedPlaces environment).find? files.presentAt =
          (chosenFile environment files arguments.config).map .text ↔
        Orderly environment files ∧
          ∀ bytes, (documentedPlaces environment).find? files.presentAt ≠ some (.bytes bytes)) := by
  have chosen : chosenFile environment files arguments.config =
      firstText? files (searchedPlaces environment) := by
    rw [chosenFile_of_missing missing, candidates_eq_searchedPlaces ownUnset sharedUnset]
  refine ⟨chosen, ?_, ?_⟩
  · have counts := (chosenFile_eq_iff.1 chosen).again
    refine load_eq_of_chosenLayer ?_ rfl
    rw [chosenLayer, chosen, chosenLayer, chosenFile_eq_iff.2 counts]
  · rw [chosen, find?_presentAt_eq_map_iff, eq_comm]
    exact and_congr_left fun _ => ⟨orderly_of_agrees, agrees_of_orderly⟩

end

/-- An environment of nothing but a home directory. -/
def homeAlone : Environment where
  get? name := if name = "HOME" then some "/home/ana" else none

/-- A configuration file in the home directory, as it was seen. -/
def ownSeen : Sighting :=
  ⟨"/home/ana/.config/podlink/config.toml", true, .ok "ssh.known_hosts = '/own'"⟩

/-- A dotfile in the current directory, which names another trust store. -/
def dotSeen : Sighting := ⟨".podlink.toml", true, .ok "ssh.known_hosts = '/here'"⟩

/-- The file in the home directory is found where there is no other. -/
theorem discovery_own :
    homeAlone.value? "XDG_CONFIG_HOME" = none ∧ homeAlone.value? "XDG_CONFIG_DIRS" = none ∧
    (Snapshot.files [ownSeen]).present "missing.toml" = false ∧
    load homeAlone (Snapshot.files [ownSeen]) { command := .ping, config := some "missing.toml" } =
      load homeAlone (Snapshot.files [ownSeen]) { command := .ping, config := some ownSeen.path } ∧
    Orderly homeAlone (Snapshot.files [ownSeen]) := by
  have absent : (Snapshot.files [ownSeen]).present "missing.toml" = false := by decide +kernel
  have missing : ∀ path ∈ some "missing.toml",
      (Snapshot.files [ownSeen]).present path = false := by
    rintro _ ⟨⟩
    exact absent
  obtain ⟨-, loaded, agrees⟩ := discovery homeAlone (Snapshot.files [ownSeen])
    { command := .ping, config := some "missing.toml" } (by decide) (by decide) missing
  exact ⟨by decide, by decide, absent, loaded, (agrees.1 (by decide +kernel)).1⟩

/-- With both files the one in the home directory is loaded, though the documentation puts the
dotfile in the current directory first. -/
theorem not_discovery_documented :
    homeAlone.value? "XDG_CONFIG_HOME" = none ∧ homeAlone.value? "XDG_CONFIG_DIRS" = none ∧
    (documentedPlaces homeAlone).find? (Snapshot.files [ownSeen, dotSeen]).presentAt =
      some (.text dotSeen.path) ∧
    chosenFile homeAlone (Snapshot.files [ownSeen, dotSeen]) none = some ownSeen.path ∧
    load homeAlone (Snapshot.files [ownSeen, dotSeen]) { command := .ping } ≠
      load homeAlone (Snapshot.files [ownSeen, dotSeen])
        { command := .ping, config := some dotSeen.path } := by
  decide +kernel

end Gangway.Config
