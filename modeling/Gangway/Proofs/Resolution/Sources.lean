import Gangway.Engine.Resolver
import Gangway.Proofs.Resolution.Selection

/-!
# What the sources of an address hold

The statements on resolving speak of variables that are set to something, of documents that can be
read and parsed, and of the destinations that such documents offer. Each notion is said here without
the resolver, and tied to the function of the resolver that computes it.
-/

namespace Gangway

namespace Environment

/-- The variable is set to this value, which is not empty. -/
def Sets (environment : Environment) (name value : String) : Prop :=
  environment.get? name = some value ∧ value ≠ ""

/-- The environment with one variable set to a text or unset. -/
def assign (environment : Environment) (name : String) (value : Option String) : Environment :=
  { environment with
    get? := fun other => if other = name then value else environment.get? other
    bytes? := fun other => if other = name then none else environment.bytes? other }

theorem value?_assign_of_ne {environment : Environment} {name other : String}
    {value : Option String} (different : other ≠ name) :
    (environment.assign name value).value? other = environment.value? other := by
  simp only [value?, assign, if_neg different]

theorem nonEmpty?_eq_some_iff {environment : Environment} {name value : String} :
    environment.nonEmpty? name = some value ↔ environment.Sets name value := by
  simp [nonEmpty?, Sets, Option.filter_eq_some_iff]

theorem nonEmpty?_eq_none_iff {environment : Environment} {name : String} :
    environment.nonEmpty? name = none ↔ ∀ value, ¬ environment.Sets name value := by
  simp only [Option.eq_none_iff_forall_ne_some, ne_eq, nonEmpty?_eq_some_iff]

/-- To those who ask for a value that is not empty, an empty variable is as good as none. -/
theorem nonEmpty?_assign_empty (environment : Environment) (name : String) :
    (environment.assign name (some "")).nonEmpty? = (environment.assign name none).nonEmpty? := by
  funext other
  by_cases same : other = name
  · simp [nonEmpty?, assign, same]
  · simp [nonEmpty?, assign, same]

end Environment

/-- The document at the path can be read and parsed, and this is what it configures. -/
def Files.Holds (files : Files) (path : String) (config : EngineConfig) : Prop :=
  ∃ content, files.read path = .ok content ∧ EngineConfig.read? content = some config

theorem EngineConfig.load?_eq_some_iff {files : Files} {path : String} {config : EngineConfig} :
    load? files path = some config ↔ files.Holds path config := by
  unfold load? readDocument Files.Holds
  cases files.read path with
  | error error => simp
  | ok content =>
    cases parsed : read? content with
    | none => simp [parsed]
    | some found => simp [parsed]

theorem Files.Holds.unique {files : Files} {path : String} {config config' : EngineConfig}
    (holds : files.Holds path config) (holds' : files.Holds path config') : config = config' :=
  Option.some.inj ((EngineConfig.load?_eq_some_iff.2 holds).symm.trans
    (EngineConfig.load?_eq_some_iff.2 holds'))

theorem Files.Holds.ordered {files : Files} {path : String} {config : EngineConfig}
    (holds : files.Holds path config) : config.destinations.Ordered := by
  obtain ⟨content, -, parsed⟩ := holds
  exact EngineConfig.ordered_of_read? parsed

namespace Resolver

variable {resolver : Resolver}

/-- The document at the path can be read and parsed, and this destination serves the transport. -/
def Offers (resolver : Resolver) (transport : Transport) (path : String)
    (destination : Destination) : Prop :=
  ∃ config, resolver.files.Holds path config ∧ config.destinationFor transport = some destination

theorem destinationIn?_eq_some_iff {transport : Transport} {path : String}
    {destination : Destination} :
    resolver.destinationIn? transport path = some destination ↔
      resolver.Offers transport path destination := by
  unfold destinationIn? Offers
  simp only [bind, Option.bind_eq_some_iff, EngineConfig.load?_eq_some_iff]

theorem destinationIn?_eq_none_iff {transport : Transport} {path : String} :
    resolver.destinationIn? transport path = none ↔
      ∀ destination, ¬ resolver.Offers transport path destination := by
  simp only [Option.eq_none_iff_forall_ne_some, ne_eq, destinationIn?_eq_some_iff]

/-- The runtime directory that is known: the one configured, or else the variable's. -/
inductive KnowsRuntime (resolver : Resolver) : String → Prop where
  | configured {directory : String}
      (given : resolver.sources.runtimeDirectory = some directory) : KnowsRuntime resolver directory
  | fromVariable {directory : String} (unconfigured : resolver.sources.runtimeDirectory = none)
      (set : resolver.environment.Sets "XDG_RUNTIME_DIR" directory) :
      KnowsRuntime resolver directory

theorem runtimeDirectory?_eq_some_iff {directory : String} :
    resolver.runtimeDirectory? = some directory ↔ resolver.KnowsRuntime directory := by
  unfold runtimeDirectory?
  cases given : resolver.sources.runtimeDirectory with
  | some configured =>
    constructor
    · rintro ⟨⟩
      exact .configured given
    · rintro (given' | ⟨unconfigured, -⟩)
      · rw [← given, given']
      · rw [given] at unconfigured
        cases unconfigured
  | none =>
    refine Environment.nonEmpty?_eq_some_iff.trans ⟨.fromVariable given, ?_⟩
    rintro (given' | ⟨-, set⟩)
    · rw [given] at given'
      cases given'
    · exact set

theorem runtimeDirectory?_eq_none_iff :
    resolver.runtimeDirectory? = none ↔ ∀ directory, ¬ resolver.KnowsRuntime directory := by
  simp only [Option.eq_none_iff_forall_ne_some, ne_eq, runtimeDirectory?_eq_some_iff]

end Resolver

end Gangway
