import Gangway.Proofs.Config.Reordering

/-!
# Putting a value at a path

Where nothing but tables stands on the way, a value that is put at a path is read back and gives way
to the next one there (`valueAt?_insertAt`, `insertAt_insertAt`). Where something else is in the way
nothing changes at all, not even the tables in front of it (`insertAt_of_blocked`). Values at paths
that part may be put in either order (`insertAt_comm`).
-/

namespace Gangway.Config

variable {value value' : Value} {key name : String} {path other : List String}
  {entries inner : Entries}

/-- Something else than a table stands on the way of a path. -/
def Blocked (path : List String) (entries : Entries) : Prop :=
  ∃ front held, front <+: path ∧ front ≠ path ∧
    valueAt? front (.table entries) = some held ∧ ¬held.IsTable

/-- A path is blocked by what its first key holds, or below. -/
theorem blocked_cons_iff :
    Blocked (key :: path) entries ↔
      path ≠ [] ∧ ∃ held, entries.lookup key = some held ∧
        ∀ inner, held = .table inner → Blocked path inner := by
  constructor
  · rintro ⟨_ | ⟨first, front⟩, leaf, leads, proper, stands, notTable⟩
    · cases stands
      exact absurd ⟨entries, rfl⟩ notTable
    · obtain ⟨rfl, below⟩ := List.cons_prefix_cons.1 leads
      rw [valueAt?_cons] at stands
      obtain ⟨held, found, stands⟩ := Option.bind_eq_some_iff.1 stands
      refine ⟨?_, held, found, ?_⟩
      · rintro rfl
        exact proper (congrArg _ (List.prefix_nil.1 below))
      · rintro inner rfl
        exact ⟨front, leaf, below, fun same => proper (congrArg _ same), stands, notTable⟩
  · rintro ⟨named, held, found, lower⟩
    by_cases isTable : held.IsTable
    · obtain ⟨inner, rfl⟩ := isTable
      obtain ⟨front, leaf, leads, proper, stands, notTable⟩ := lower inner rfl
      refine ⟨key :: front, leaf, (List.prefix_cons_inj key).2 leads, ?_, ?_, notTable⟩
      · exact fun same => proper (List.cons.inj same).2
      · rwa [valueAt?_cons, found]
    · refine ⟨[key], held, List.prefix_append [key] path, ?_, ?_, isTable⟩
      · exact fun same => named (List.cons.inj same).2.symm
      · rw [valueAt?_cons, found]
        rfl

/-- A path that is not blocked is open. -/
theorem opens_of_not_blocked (free : ¬Blocked path entries) : Opens path (.table entries) := by
  induction path generalizing entries with
  | nil => trivial
  | cons key path ih =>
    refine ⟨entries, rfl, fun held found => ?_⟩
    by_cases named : path = []
    · rw [named]
      trivial
    rw [blocked_cons_iff] at free
    by_cases isTable : held.IsTable
    · obtain ⟨inner, rfl⟩ := isTable
      refine ih fun below => free ⟨named, _, found, ?_⟩
      rintro _ ⟨⟩
      exact below
    · exact absurd ⟨named, held, found, fun inner same => absurd ⟨inner, same⟩ isTable⟩ free

/-! ## One step down -/

/-- What a key holds once a value is put at a path below it, from what it holds before. -/
def grown (value : Value) : List String → Option Value → Value
  | [], _ => value
  | path, none => .table (insertAt value path [])
  | path, some (.table inner) => .table (insertAt value path inner)
  | _, some held => held

/-- A value at a path changes what the first key holds. -/
theorem insertAt_cons :
    insertAt value (key :: path) entries =
      put key (grown value path (entries.lookup key)) entries := by
  cases path with
  | nil => rfl
  | cons next path =>
    rw [insertAt.eq_def]
    dsimp only
    cases found : entries.lookup key with
    | none => rfl
    | some held =>
      cases held with
      | table inner => rfl
      | null | boolean | number | text | list => exact (put_of_lookup found).symm

theorem grown_none (named : path ≠ []) :
    grown value path none = .table (insertAt value path []) := by
  cases path with
  | nil => exact absurd rfl named
  | cons => rfl

theorem grown_table (named : path ≠ []) :
    grown value path (some (.table inner)) = .table (insertAt value path inner) := by
  cases path with
  | nil => exact absurd rfl named
  | cons => rfl

theorem grown_of_leaf {leaf : Value} (named : path ≠ []) (notTable : ¬leaf.IsTable) :
    grown value path (some leaf) = leaf := by
  cases path with
  | nil => exact absurd rfl named
  | cons =>
    cases leaf with
    | table inner => exact absurd ⟨inner, rfl⟩ notTable
    | null | boolean | number | text | list => rfl

/-- A key holds nothing, a table or something else. -/
theorem held_cases (held : Option Value) :
    held = none ∨ (∃ inner, held = some (.table inner)) ∨
      ∃ leaf, held = some leaf ∧ ¬leaf.IsTable := by
  cases held with
  | none => exact .inl rfl
  | some held =>
    by_cases isTable : held.IsTable
    · obtain ⟨inner, rfl⟩ := isTable
      exact .inr (.inl ⟨inner, rfl⟩)
    · exact .inr (.inr ⟨held, rfl, isTable⟩)

/-- **A value that is blocked changes nothing.** -/
theorem insertAt_of_blocked (blocked : Blocked path entries) :
    insertAt value path entries = entries := by
  induction path generalizing entries with
  | nil => rfl
  | cons key path ih =>
    obtain ⟨named, held, found, lower⟩ := blocked_cons_iff.1 blocked
    have kept : grown value path (some held) = held := by
      by_cases isTable : held.IsTable
      · obtain ⟨inner, rfl⟩ := isTable
        rw [grown_table named, ih (lower inner rfl)]
      · exact grown_of_leaf named isTable
    rw [insertAt_cons, found, kept, put_of_lookup found]

/-- The later of two values at a path replaces the earlier one. -/
theorem insertAt_insertAt :
    insertAt value' path (insertAt value path entries) = insertAt value' path entries := by
  induction path generalizing entries with
  | nil => rfl
  | cons key path ih =>
    have replaced (held : Option Value) :
        grown value' path (some (grown value path held)) = grown value' path held := by
      by_cases named : path = []
      · subst named
        rfl
      · rcases held_cases held with rfl | ⟨inner, rfl⟩ | ⟨leaf, rfl, notTable⟩
        · simp only [grown_none named, grown_table named, ih]
        · simp only [grown_table named, ih]
        · simp only [grown_of_leaf named notTable]
    rw [insertAt_cons, insertAt_cons, insertAt_cons, put_put, lookup_put, if_pos rfl, replaced]

/-! ## Two paths -/

theorem child?_put {content : Value} :
    child? name (.table (put key content entries)) =
      if name = key then some content else child? name (.table entries) :=
  lookup_put

/-- **Values at paths that part may be put in either order.** -/
theorem insertAt_comm (apart : Apart path other) :
    (Value.table (insertAt value path (insertAt value' other entries))).Same
      (.table (insertAt value' other (insertAt value path entries))) := by
  induction path generalizing other entries with
  | nil => exact absurd List.nil_prefix apart.1
  | cons key path ih =>
    obtain _ | ⟨key', other⟩ := other
    · exact absurd List.nil_prefix apart.2
    refine .of_children ⟨_, rfl⟩ ⟨_, rfl⟩ fun name => ?_
    simp only [insertAt_cons, child?_put, lookup_put]
    by_cases same : key = key'
    · subst same
      have below : ∀ held : Option Value,
          (grown value path (some (grown value' other held))).Same
            (grown value' other (some (grown value path held))) := by
        have apart := apart.tail
        have named : path ≠ [] := by
          rintro rfl
          exact apart.1 List.nil_prefix
        have named' : other ≠ [] := by
          rintro rfl
          exact apart.2 List.nil_prefix
        intro held
        rcases held_cases held with rfl | ⟨inner, rfl⟩ | ⟨leaf, rfl, notTable⟩
        · simp only [grown_none named, grown_none named', grown_table named, grown_table named']
          exact ih apart
        · simp only [grown_table named, grown_table named']
          exact ih apart
        · simp only [grown_of_leaf named notTable, grown_of_leaf named' notTable]
          exact .refl _
      simp only [↓reduceIte]
      split
      · exact .some (below _)
      · exact Value.Same.rel_refl _
    · -- Each path has a key of its own.
      have parted : name = key → ¬name = key' := by
        rintro rfl
        exact same
      rw [if_neg same, if_neg (Ne.symm same), ite_ite_comm _ _ _ _ parted]
      exact Value.Same.rel_refl _

/-- **Putting a value at a path.** What stands at paths apart from it is kept. Where only tables are on
the way, the value is read back, and a later one replaces it; where anything else is on the way,
nothing changes; and values at paths that part may be put in either order. -/
theorem insertAt_lawful :
    (∀ value path other entries, Apart path other →
      valueAt? other (.table (insertAt value path entries)) = valueAt? other (.table entries)) ∧
    (∀ value value' path entries, path ≠ [] → ¬Blocked path entries →
      valueAt? path (.table (insertAt value path entries)) = some value ∧
      insertAt value' path (insertAt value path entries) = insertAt value' path entries ∧
      valueAt? path (.table (insertAt value' path (insertAt value path entries))) = some value') ∧
    (∀ value path entries, Blocked path entries → insertAt value path entries = entries) ∧
    ∀ value value' path other entries, Apart path other →
      (Value.table (insertAt value path (insertAt value' other entries))).Same
        (.table (insertAt value' other (insertAt value path entries))) := by
  refine ⟨?_, ?_, ?_, ?_⟩
  · intro value path other entries apart
    exact valueAt?_insertAt_of_apart apart
  · intro value value' path entries named free
    have opens := opens_of_not_blocked free
    refine ⟨valueAt?_insertAt named opens, insertAt_insertAt, ?_⟩
    rw [insertAt_insertAt]
    exact valueAt?_insertAt named opens
  · intro value path entries blocked
    exact insertAt_of_blocked blocked
  · intro value value' path other entries apart
    exact insertAt_comm apart

/-- Entries with a table and with a text where settings would want another table. -/
def mixedEntries : Entries :=
  [("engine", .table [("socket", .text "/run/sock")]), ("ssh", .text "/store")]

/-- A value is put beside the one that is there, and none below the text. -/
theorem insertAt_lawful_mixed :
    valueAt? ["engine", "socket"]
        (.table (insertAt (.boolean true) ["engine", "strip"] mixedEntries)) =
      valueAt? ["engine", "socket"] (.table mixedEntries) ∧
    valueAt? ["engine", "strip"]
        (.table (insertAt (.boolean true) ["engine", "strip"] mixedEntries)) =
      some (.boolean true) ∧
    insertAt (.boolean true) ["ssh", "store", "strict"] mixedEntries = mixedEntries ∧
    (Value.table (insertAt (.boolean true) ["engine", "strip"]
        (insertAt .null ["engine", "runtime", "path"] mixedEntries))).Same
      (.table (insertAt .null ["engine", "runtime", "path"]
        (insertAt (.boolean true) ["engine", "strip"] mixedEntries))) := by
  have free : ¬Blocked ["engine", "strip"] mixedEntries := by
    intro blocked
    obtain ⟨-, held, found, lower⟩ := blocked_cons_iff.1 blocked
    cases found
    obtain ⟨named, -⟩ := blocked_cons_iff.1 (lower _ rfl)
    exact named rfl
  have blocked : Blocked ["ssh", "store", "strict"] mixedEntries :=
    ⟨["ssh"], .text "/store", by decide, by decide, rfl, nofun⟩
  refine ⟨?_, ?_, ?_, ?_⟩
  · exact insertAt_lawful.1 _ _ _ _ (by decide)
  · exact (insertAt_lawful.2.1 _ .null _ _ (List.cons_ne_nil _ _) free).1
  · exact insertAt_lawful.2.2.1 _ _ _ blocked
  · exact insertAt_lawful.2.2.2 _ _ _ _ _ (by decide)

end Gangway.Config
