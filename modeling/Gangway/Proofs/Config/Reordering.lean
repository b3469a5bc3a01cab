import Gangway.Proofs.Config.Merging
import Mathlib.Data.List.Nodup

/-!
# Values up to the order of their entries

Two layers that are built in another order hold their entries in another order, which nothing that
reads them sees. `Value.Same` says of two values that they differ in no more than that, and merging
respects it (`Value.Same.merge`). A layer with one leaf more is merged like the layer and then a
layer with that leaf alone, its `spine` (`merge_insertAt`); spines of paths that part may change
places (`merge_spine_comm`), and of two with the same path the upper one counts
(`merge_spine_spine`). So a layer is known by its leaves, in whatever order they were put into it.
-/

namespace Gangway.Config

/-- What a value holds under a key; only tables hold anything. -/
def child? (key : String) : Value → Option Value
  | .table entries => entries.lookup key
  | _ => none

theorem valueAt?_cons_eq_child? (key : String) (path : List String) (value : Value) :
    valueAt? (key :: path) value = (child? key value).bind (valueAt? path) := by
  cases value with
  | table entries => exact valueAt?_cons key path entries
  | null | boolean | number | text | list => rfl

/-- The same value, but for the order of entries. -/
inductive Value.Same : Value → Value → Prop where
  | refl (value : Value) : Same value value
  | table {entries other : Entries}
      (keys : ∀ key, (entries.lookup key).isSome = (other.lookup key).isSome)
      (inner : ∀ key value value', entries.lookup key = some value →
        other.lookup key = some value' → Same value value') :
      Same (.table entries) (.table other)

variable {value value' base base' : Value} {key name : String} {path other : List String}
  {entries : Entries}

namespace Value.Same

variable {first second third : Value}

theorem symm (same : Same first second) : Same second first := by
  induction same with
  | refl => exact .refl _
  | table keys _ ih =>
    refine .table (fun key => (keys key).symm) fun key value value' found found' => ?_
    exact ih key value' value found' found

theorem trans (same : Same first second) (same' : Same second third) : Same first third := by
  induction same generalizing third with
  | refl => exact same'
  | @table entries middle keys inner ih =>
    cases same' with
    | refl => exact .table keys inner
    | table keys' inner' =>
      refine .table (fun key => (keys key).trans (keys' key)) ?_
      intro key value value' found found'
      have held : (middle.lookup key).isSome = true := by rw [← keys key, found, Option.isSome_some]
      obtain ⟨between, here⟩ := Option.isSome_iff_exists.1 held
      exact ih key value between found here (inner' key between value' here found')

theorem rel_refl (held : Option Value) : Option.Rel Same held held := by
  cases held with
  | none => exact .none
  | some value => exact .some (.refl value)

theorem child (same : Same first second) (key : String) :
    Option.Rel Same (child? key first) (child? key second) := by
  cases same with
  | refl => exact rel_refl _
  | @table entries other keys inner =>
    have held := keys key
    unfold child?
    dsimp only
    cases found : entries.lookup key with
    | none =>
      rw [found, Option.isSome_none] at held
      rw [Option.not_isSome_iff_eq_none.1 (Bool.eq_false_iff.1 held.symm)]
      exact .none
    | some value =>
      rw [found, Option.isSome_some] at held
      obtain ⟨value', found'⟩ := Option.isSome_iff_exists.1 held.symm
      rw [found']
      exact .some (inner key value value' found found')

/-- Tables are the same if they hold the same under each key. -/
theorem of_children (isTable : first.IsTable) (isTable' : second.IsTable)
    (each : ∀ key, Option.Rel Same (child? key first) (child? key second)) :
    Same first second := by
  obtain ⟨entries, rfl⟩ := isTable
  obtain ⟨other, rfl⟩ := isTable'
  refine .table (fun key => ?_) fun key value value' found found' => ?_
  · have held := each key
    unfold child? at held
    dsimp only at held
    generalize entries.lookup key = under at held ⊢
    generalize other.lookup key = under' at held ⊢
    cases held <;> rfl
  · have held := each key
    unfold child? at held
    dsimp only at held
    rw [found, found'] at held
    cases held with
    | some same => exact same

end Value.Same

/-! ## Merging -/

theorem isTable_merge (base : Value) (top : Entries) : (merge base (.table top)).IsTable := by
  cases base with
  | table below => exact ⟨mergeEntries below top, rfl⟩
  | null | boolean | number | text | list => exact ⟨top, rfl⟩

/-- A table is merged key by key, onto whatever value. -/
theorem child?_merge {top : Entries} (once : (top.map Prod.fst).Nodup) (key : String) :
    child? key (merge base (.table top)) = overlay (child? key base) (top.lookup key) := by
  cases base with
  | table below => exact lookup_mergeEntries once key
  | null | boolean | number | text | list => exact (overlay_none_left _).symm

theorem overlay_some_right (below : Option Value) (value : Value) :
    overlay below (some value) = some (merge (below.getD .null) value) := by
  have blank : ¬Value.null.IsTable := nofun
  cases below with
  | none => rw [overlay_none_left, Option.getD_none, merge_onto_not_isTable blank]
  | some below => rfl

/-- Values that hold the same under each key are alike to a table on top. -/
theorem same_merge_of_children {top : Entries} (once : (top.map Prod.fst).Nodup)
    (each : ∀ key, child? key base = child? key base') :
    (merge base (.table top)).Same (merge base' (.table top)) := by
  apply Value.Same.of_children (isTable_merge _ _) (isTable_merge _ _)
  intro key
  rw [child?_merge once, child?_merge once, each key]
  exact Value.Same.rel_refl _

/-- Merging respects sameness. -/
theorem Value.Same.merge {layer : Value} (same : base.Same base') (tidy : layer.Tidy) :
    (merge base layer).Same (merge base' layer) := by
  induction same generalizing layer with
  | refl => exact .refl _
  | @table entries other keys inner ih =>
    have children := (Value.Same.table keys inner).child
    cases layer with
    | null | boolean | number | text | list => exact .refl _
    | table top =>
      have keyed := Value.tidy_table_iff.1 tidy
      apply of_children (isTable_merge _ _) (isTable_merge _ _)
      intro key
      rw [child?_merge keyed.once, child?_merge keyed.once]
      cases above : top.lookup key with
      | none =>
        rw [overlay_none_right, overlay_none_right]
        exact children key
      | some value =>
        have held := children key
        unfold child? at held ⊢
        dsimp only at held ⊢
        cases found : entries.lookup key with
        | none =>
          cases found' : other.lookup key with
          | none => exact .some (.refl value)
          | some old' =>
            rw [found, found'] at held
            cases held
        | some old =>
          cases found' : other.lookup key with
          | none =>
            rw [found, found'] at held
            cases held
          | some old' => exact .some (ih key old old' found found' (keyed.lookup above))

/-! ## Layers with one leaf -/

/-- The layer that holds nothing but a value at a path. -/
def spine (value : Value) : List String → Value
  | [] => value
  | key :: path => .table [(key, spine value path)]

theorem tidy_spine (tidy : value.Tidy) (path : List String) : (spine value path).Tidy := by
  induction path with
  | nil => exact tidy
  | cons key path ih => exact Value.tidy_table_iff.2 (.singleton ih)

theorem child?_merge_spine :
    child? name (merge base (spine value (key :: path))) =
      if name = key then some (merge ((child? key base).getD .null) (spine value path))
      else child? name base := by
  have once : ([(key, spine value path)].map Prod.fst).Nodup := List.nodup_singleton key
  rw [spine, child?_merge once, lookup_cons_eq_ite]
  split
  case isTrue same => rw [same, overlay_some_right]
  case isFalse => exact overlay_none_right _

theorem isTable_merge_spine (base value : Value) (key : String) (path : List String) :
    (merge base (spine value (key :: path))).IsTable :=
  isTable_merge base [(key, spine value path)]

/-- A leaf that is put on top stands at its path. -/
theorem valueAt?_merge_spine (leaf : ¬value.IsTable) (path : List String) (base : Value) :
    valueAt? path (merge base (spine value path)) = some value := by
  induction path generalizing base with
  | nil => exact congrArg some (merge_of_not_isTable leaf base)
  | cons key path ih =>
    rw [valueAt?_cons_eq_child?, child?_merge_spine, if_pos rfl]
    exact ih _

/-- Leaves at paths that part may be put in either order. -/
theorem merge_spine_comm (apart : Apart path other) :
    (merge (merge base (spine value path)) (spine value' other)).Same
      (merge (merge base (spine value' other)) (spine value path)) := by
  induction path generalizing base other with
  | nil => exact absurd List.nil_prefix apart.1
  | cons key path ih =>
    obtain _ | ⟨key', other⟩ := other
    · exact absurd List.nil_prefix apart.2
    refine .of_children (isTable_merge_spine _ _ _ _) (isTable_merge_spine _ _ _ _) fun name => ?_
    by_cases same : key = key'
    · subst same
      simp only [child?_merge_spine, ↓reduceIte]
      split
      · exact .some (ih apart.tail)
      · exact Value.Same.rel_refl _
    · -- Each path has a key of its own.
      simp only [child?_merge_spine, if_neg same, if_neg (Ne.symm same)]
      by_cases here : name = key
      · have there : name ≠ key' := fun other => same (here.symm.trans other)
        simp only [if_pos here, if_neg there]
        exact Value.Same.rel_refl _
      · simp only [if_neg here]
        exact Value.Same.rel_refl _

/-- Of two leaves at one path the upper one counts. -/
theorem merge_spine_spine (leaf : ¬value'.IsTable) :
    (merge (merge base (spine value path)) (spine value' path)).Same
      (merge base (spine value' path)) := by
  induction path generalizing base with
  | nil =>
    change (merge (merge base value) value').Same (merge base value')
    rw [merge_of_not_isTable leaf, merge_of_not_isTable leaf]
    exact .refl value'
  | cons key path ih =>
    refine .of_children (isTable_merge_spine _ _ _ _) (isTable_merge_spine _ _ _ _) fun name => ?_
    simp only [child?_merge_spine, ↓reduceIte]
    split
    · exact .some ih
    · exact Value.Same.rel_refl _

/-- What lies under a key of merged tables holds what the tables under that key hold, merged. -/
theorem child?_overlay_inside {next : String} (below : Option Value)
    (opens : Opens (key :: next :: path) (.table entries)) (name : String) :
    child? name (merge (below.getD .null) (.table (inside key entries))) =
      child? name ((overlay below (entries.lookup key)).getD .null) := by
  obtain ⟨_, ⟨⟩, lower⟩ := opens
  unfold inside
  cases found : entries.lookup key with
  | none =>
    have once : (([] : Entries).map Prod.fst).Nodup := List.nodup_nil
    rw [child?_merge once, List.lookup_nil, overlay_none_right, overlay_none_right]
  | some value =>
    obtain ⟨inner, rfl, -⟩ := lower value found
    rw [overlay_some_right, Option.getD_some]

/-- **One leaf more.** A layer with a leaf put into it is merged like the layer and then the
leaf. -/
theorem merge_insertAt (keyed : Keyed Value.Tidy entries) (tidy : value.Tidy)
    (leaf : ¬value.IsTable) (named : path ≠ []) (opens : Opens path (.table entries)) :
    (merge base (.table (insertAt value path entries))).Same
      (merge (merge base (.table entries)) (spine value path)) := by
  induction path generalizing base entries with
  | nil => exact absurd rfl named
  | cons key path ih =>
    have whole : Keyed Value.Tidy (insertAt value (key :: path) entries) :=
      keyed_insertAt keyed tidy
    refine .of_children (isTable_merge _ _) (isTable_merge_spine _ _ _ _) fun name => ?_
    rw [child?_merge whole.once, child?_merge_spine]
    cases path with
    | nil =>
      rw [insertAt, lookup_put]
      split
      · rw [overlay_some_right, merge_of_not_isTable leaf, spine, merge_of_not_isTable leaf]
        exact .some (.refl value)
      · rw [child?_merge keyed.once]
        exact Value.Same.rel_refl _
    | cons next path =>
      rw [opens.insertAt_cons_cons, lookup_put]
      split
      case isFalse =>
        rw [child?_merge keyed.once]
        exact Value.Same.rel_refl _
      case isTrue same =>
        subst same
        have below : Keyed Value.Tidy (inside name entries) := keyed_inside keyed
        rw [overlay_some_right, child?_merge keyed.once]
        refine .some ((ih below (List.cons_ne_nil _ _) opens.inside).trans ?_)
        have once : ([(next, spine value path)].map Prod.fst).Nodup := List.nodup_singleton next
        exact same_merge_of_children once (child?_overlay_inside (child? name base) opens)

end Gangway.Config
