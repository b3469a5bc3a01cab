import Gangway.Config.Value
import Gangway.Proofs.Toml.Keys

/-!
# Merging leaf by leaf

Layers are merged table by table, but what counts is what stands at each path. On a path that leads
through tables only, the merged value holds what `overlay` says of the two layers
(`valueAt?_merge`), and a value that is put at one path leaves every path apart from it alone
(`valueAt?_insertAt_of_apart`). The first rests on layers that hold each key once, as the document
of a file does (`tidy_ofToml`).
-/

namespace Gangway.Config

/-- Every table in the value holds each key once. -/
inductive Value.Tidy : Value → Prop where
  | null : Tidy .null
  | boolean {truth : Bool} : Tidy (.boolean truth)
  | number {literal : String} : Tidy (.number literal)
  | text {content : String} : Tidy (.text content)
  | list {items : List Value} (inner : ∀ item ∈ items, item.Tidy) : Tidy (.list items)
  | table {entries : Entries} (once : (entries.map Prod.fst).Nodup)
      (inner : ∀ entry ∈ entries, entry.2.Tidy) : Tidy (.table entries)

theorem Value.tidy_table_iff {entries : Entries} :
    (Value.table entries).Tidy ↔ Keyed Value.Tidy entries :=
  ⟨fun | .table once inner => ⟨once, inner⟩, fun keyed => .table keyed.once keyed.inner⟩

theorem Value.tidy_texts (texts : List String) : (Value.list (texts.map .text)).Tidy := by
  refine .list fun item member => ?_
  obtain ⟨content, -, rfl⟩ := List.mem_map.1 member
  exact .text

section Conversion

theorem mem_ofTomlItems {items : List Toml.Value} {values : List Value}
    (read : ofTomlItems items = some values) {value : Value} (member : value ∈ values) :
    ∃ item ∈ items, ofToml item = some value := by
  induction items generalizing values with
  | nil =>
    cases read
    cases member
  | cons item rest ih =>
    obtain ⟨head, first, read⟩ := Option.bind_eq_some_iff.1 read
    obtain ⟨more, others, ⟨⟩⟩ := Option.bind_eq_some_iff.1 read
    rcases List.mem_cons.1 member with rfl | member
    · exact ⟨item, List.mem_cons_self, first⟩
    · obtain ⟨found, inside, given⟩ := ih others member
      exact ⟨found, List.mem_cons_of_mem _ inside, given⟩

theorem keys_ofTomlEntries {entries : Toml.Entries} {values : Entries}
    (read : ofTomlEntries entries = some values) :
    values.map Prod.fst = entries.map Prod.fst := by
  induction entries generalizing values with
  | nil =>
    cases read
    rfl
  | cons head rest ih =>
    obtain ⟨value, first, read⟩ := Option.bind_eq_some_iff.1 read
    obtain ⟨more, others, ⟨⟩⟩ := Option.bind_eq_some_iff.1 read
    rw [List.map_cons, List.map_cons, ih others]

theorem mem_ofTomlEntries {entries : Toml.Entries} {values : Entries}
    (read : ofTomlEntries entries = some values) {entry : String × Value}
    (member : entry ∈ values) : ∃ given ∈ entries, ofToml given.2 = some entry.2 := by
  induction entries generalizing values with
  | nil =>
    cases read
    cases member
  | cons head rest ih =>
    obtain ⟨value, first, read⟩ := Option.bind_eq_some_iff.1 read
    obtain ⟨more, others, ⟨⟩⟩ := Option.bind_eq_some_iff.1 read
    rcases List.mem_cons.1 member with rfl | member
    · exact ⟨head, List.mem_cons_self, first⟩
    · obtain ⟨given, inside, found⟩ := ih others member
      exact ⟨given, List.mem_cons_of_mem _ inside, found⟩

/-- The value of a layer is as tidy as the TOML value that it comes from. -/
theorem tidy_ofToml {given : Toml.Value} (tidy : given.Tidy) {value : Value}
    (read : ofToml given = some value) : value.Tidy := by
  induction tidy generalizing value with
  | text =>
    cases read
    exact .text
  | integer =>
    rw [ofToml] at read
    split at read
    · cases read
      exact .number
    · cases read
  | float =>
    cases read
    split
    · exact .number
    · exact .null
  | boolean =>
    cases read
    exact .boolean
  | datetime =>
    cases read
    exact Value.tidy_table_iff.2 (.singleton .text)
  | array _ ih =>
    obtain ⟨values, items, rfl⟩ := Option.map_eq_some_iff.1 read
    refine .list fun value member => ?_
    obtain ⟨item, inside, given⟩ := mem_ofTomlItems items member
    exact ih item inside given
  | table once _ ih =>
    obtain ⟨values, entries, rfl⟩ := Option.map_eq_some_iff.1 read
    refine .table (keys_ofTomlEntries entries ▸ once) fun entry member => ?_
    obtain ⟨origin, inside, given⟩ := mem_ofTomlEntries entries member
    exact ih origin inside given

end Conversion

/-- What there is of a value and of a layer on top of it. -/
def overlay : Option Value → Option Value → Option Value
  | below, none => below
  | none, some value => some value
  | some below, some value => some (merge below value)

@[simp] theorem overlay_none_right (below : Option Value) : overlay below none = below := by
  cases below <;> rfl

@[simp] theorem overlay_none_left (value : Option Value) : overlay none value = value := by
  cases value <;> rfl

@[simp] theorem overlay_some (below value : Value) :
    overlay (some below) (some value) = some (merge below value) := rfl

/-- Whether the value is a table. -/
def Value.IsTable (value : Value) : Prop := ∃ entries, value = .table entries

/-- A value that is no table replaces what lies below it. -/
theorem merge_of_not_isTable {value : Value} (leaf : ¬value.IsTable) (base : Value) :
    merge base value = value := by
  cases value with
  | table entries => exact absurd ⟨entries, rfl⟩ leaf
  | null | boolean | number | text | list => rfl

/-- A value that is no table is replaced by what is laid on top of it. -/
theorem merge_onto_not_isTable {base : Value} (leaf : ¬base.IsTable) (value : Value) :
    merge base value = value := by
  cases value with
  | table entries =>
    cases base with
    | table below => exact absurd ⟨below, rfl⟩ leaf
    | null | boolean | number | text | list => rfl
  | null | boolean | number | text | list => rfl

theorem merge_table (below top : Entries) :
    merge (.table below) (.table top) = .table (mergeEntries below top) := rfl

/-- Entries are merged key by key. -/
theorem lookup_mergeEntries {below top : Entries} (once : (top.map Prod.fst).Nodup)
    (key : String) :
    (mergeEntries below top).lookup key = overlay (below.lookup key) (top.lookup key) := by
  induction top generalizing below with
  | nil => exact (overlay_none_right _).symm
  | cons head rest ih =>
    obtain ⟨name, value⟩ := head
    obtain ⟨fresh, once⟩ := List.nodup_cons.1 once
    rw [mergeEntries, ih once, lookup_put, lookup_cons_eq_ite]
    split
    case isTrue same =>
      subst same
      rw [lookup_eq_none_of_notMem fresh, overlay_none_right]
      cases below.lookup key <;> rfl
    case isFalse => rfl

/-- On the way of a path there is nothing but tables. -/
def Opens : List String → Value → Prop
  | [], _ => True
  | key :: path, value =>
    ∃ entries, value = .table entries ∧ ∀ inner, entries.lookup key = some inner → Opens path inner

theorem valueAt?_cons (key : String) (path : List String) (entries : Entries) :
    valueAt? (key :: path) (.table entries) = (entries.lookup key).bind (valueAt? path) := by
  rw [valueAt?]
  cases entries.lookup key <;> rfl

theorem valueAt?_append (path rest : List String) (value : Value) :
    valueAt? (path ++ rest) value = (valueAt? path value).bind (valueAt? rest) := by
  induction path generalizing value with
  | nil => rfl
  | cons key path ih =>
    cases value with
    | table entries =>
      rw [List.cons_append, valueAt?_cons, valueAt?_cons, Option.bind_assoc]
      exact Option.bind_congr fun inner _ => ih inner
    | null | boolean | number | text | list => rfl

/-- What stands on the way of an open path is a table. -/
theorem Opens.isTable {path rest : List String} {key : String} {value held : Value}
    (opens : Opens (path ++ key :: rest) value) (found : valueAt? path value = some held) :
    held.IsTable := by
  induction path generalizing value with
  | nil =>
    obtain ⟨entries, rfl, -⟩ := opens
    cases found
    exact ⟨entries, rfl⟩
  | cons key path ih =>
    obtain ⟨entries, rfl, lower⟩ := opens
    rw [valueAt?_cons] at found
    obtain ⟨inner, here, found⟩ := Option.bind_eq_some_iff.1 found
    exact ih (lower inner here) found

/-- **Merging leaf by leaf.** On a path through tables the merged value holds what there was, with
what the layer holds on top. -/
theorem valueAt?_merge {path : List String} {base layer : Value} (tidy : layer.Tidy)
    (opened : Opens path base) (opens : Opens path layer) :
    valueAt? path (merge base layer) = overlay (valueAt? path base) (valueAt? path layer) := by
  induction path generalizing base layer with
  | nil => rfl
  | cons key path ih =>
    obtain ⟨below, rfl, lower⟩ := opened
    obtain ⟨top, rfl, upper⟩ := opens
    have keyed := Value.tidy_table_iff.1 tidy
    rw [merge_table, valueAt?_cons, valueAt?_cons, valueAt?_cons, lookup_mergeEntries keyed.once]
    cases above : top.lookup key with
    | none => simp
    | some value =>
      cases under : below.lookup key with
      | none => simp
      | some old => exact ih (keyed.lookup above) (lower old under) (upper value above)

theorem Opens.merge {path : List String} {base layer : Value} (tidy : layer.Tidy)
    (opened : Opens path base) (opens : Opens path layer) : Opens path (merge base layer) := by
  induction path generalizing base layer with
  | nil => trivial
  | cons key path ih =>
    obtain ⟨below, rfl, lower⟩ := opened
    obtain ⟨top, rfl, upper⟩ := opens
    have keyed := Value.tidy_table_iff.1 tidy
    refine ⟨_, merge_table below top, fun inner found => ?_⟩
    rw [lookup_mergeEntries keyed.once] at found
    cases above : top.lookup key with
    | none =>
      rw [above, overlay_none_right] at found
      exact lower inner found
    | some value =>
      cases under : below.lookup key with
      | none =>
        rw [above, under, overlay_none_left, Option.some_inj] at found
        exact found ▸ upper value above
      | some old =>
        rw [above, under, overlay_some, Option.some_inj] at found
        exact found ▸ ih (keyed.lookup above) (lower old under) (upper value above)

/-- Neither of two paths leads to the other. -/
def Apart (path other : List String) : Prop := ¬path <+: other ∧ ¬other <+: path

instance (path other : List String) : Decidable (Apart path other) :=
  inferInstanceAs (Decidable (_ ∧ _))

theorem Apart.tail {key : String} {path other : List String}
    (apart : Apart (key :: path) (key :: other)) : Apart path other :=
  ⟨fun leads => apart.1 ((List.prefix_cons_inj key).2 leads),
    fun leads => apart.2 ((List.prefix_cons_inj key).2 leads)⟩

section Insertion

variable {value : Value} {key next : String} {path other : List String} {entries : Entries}

/-- The entries of the table under a key; there are none if there is no such table. -/
def inside (key : String) (entries : Entries) : Entries :=
  match entries.lookup key with
  | some (.table inner) => inner
  | _ => []

theorem valueAt?_inside :
    valueAt? (next :: path) (.table (inside key entries)) =
      (entries.lookup key).bind (valueAt? (next :: path)) := by
  unfold inside
  split
  case h_1 inner found =>
    rw [found]
    rfl
  case h_2 notTable =>
    cases found : entries.lookup key with
    | none => rfl
    | some value =>
      cases value with
      | table inner => exact absurd found (notTable inner)
      | null | boolean | number | text | list => rfl

/-- Putting a value further down changes the table under the first key, unless something else is in
the way. -/
theorem insertAt_cons_cons :
    insertAt value (key :: next :: path) entries =
        put key (.table (insertAt value (next :: path) (inside key entries))) entries ∨
      insertAt value (key :: next :: path) entries = entries ∧
        ∃ other, entries.lookup key = some other ∧ ¬other.IsTable := by
  unfold inside
  rw [insertAt.eq_def]
  dsimp only
  cases found : entries.lookup key with
  | none => exact .inl rfl
  | some value =>
    cases value with
    | table inner => exact .inl rfl
    | null | boolean | number | text | list => exact .inr ⟨rfl, _, rfl, nofun⟩

theorem opens_nil : Opens path (.table []) := by
  cases path with
  | nil => trivial
  | cons key path => exact ⟨[], rfl, nofun⟩

theorem Opens.inside (opens : Opens (key :: next :: path) (.table entries)) :
    Opens (next :: path) (.table (inside key entries)) := by
  obtain ⟨_, ⟨⟩, lower⟩ := opens
  unfold Config.inside
  split
  case h_1 found => exact lower _ found
  case h_2 => exact opens_nil

theorem Opens.insertAt_cons_cons (opens : Opens (key :: next :: path) (.table entries)) :
    insertAt value (key :: next :: path) entries =
      put key (.table (insertAt value (next :: path) (Config.inside key entries))) entries := by
  obtain ⟨_, ⟨⟩, lower⟩ := opens
  rcases Config.insertAt_cons_cons with step | ⟨-, blocking, found, notTable⟩
  · exact step
  · obtain ⟨inner, rfl, -⟩ := lower _ found
    exact absurd ⟨inner, rfl⟩ notTable

/-- A value that is put at a path stands there, if there are only tables on the way. -/
theorem valueAt?_insertAt (named : path ≠ []) (opens : Opens path (.table entries)) :
    valueAt? path (.table (insertAt value path entries)) = some value := by
  induction path generalizing entries with
  | nil => exact absurd rfl named
  | cons key path ih =>
    cases path with
    | nil =>
      rw [insertAt, valueAt?_cons, lookup_put, if_pos rfl]
      rfl
    | cons next path =>
      rw [opens.insertAt_cons_cons, valueAt?_cons, lookup_put, if_pos rfl]
      exact ih (List.cons_ne_nil _ _) opens.inside

/-- A value that is put at a path changes nothing at a path apart from it. -/
theorem valueAt?_insertAt_of_apart (apart : Apart path other) :
    valueAt? other (.table (insertAt value path entries)) = valueAt? other (.table entries) := by
  induction path generalizing other entries with
  | nil => exact absurd List.nil_prefix apart.1
  | cons key path ih =>
    obtain _ | ⟨first, other⟩ := other
    · exact absurd List.nil_prefix apart.2
    have elsewhere : ∀ content, first ≠ key →
        valueAt? (first :: other) (.table (put key content entries)) =
          valueAt? (first :: other) (.table entries) := by
      intro content different
      rw [valueAt?_cons, lookup_put, if_neg different, valueAt?_cons]
    cases path with
    | nil =>
      refine elsewhere value ?_
      rintro rfl
      exact apart.1 ((List.prefix_cons_inj _).2 List.nil_prefix)
    | cons next path =>
      rcases insertAt_cons_cons with step | ⟨same, -⟩
      · rw [step]
        by_cases different : first ≠ key
        · exact elsewhere _ different
        -- The paths part further down.
        obtain rfl := not_not.1 different
        have apart := apart.tail
        rw [valueAt?_cons, lookup_put, if_pos rfl, Option.bind_some, ih apart]
        obtain _ | ⟨second, other⟩ := other
        · exact absurd List.nil_prefix apart.2
        · rw [valueAt?_inside, valueAt?_cons]
      · rw [same]

/-- A leaf that is put at a path adds nothing but what stands on the way there. -/
theorem valueAt?_of_outside (named : path ≠ []) (opens : Opens path (.table entries))
    (leaf : ¬value.IsTable) (outside : ¬other <+: path) {held : Value}
    (found : valueAt? other (.table (insertAt value path entries)) = some held) :
    valueAt? other (.table entries) = some held := by
  by_cases further : path <+: other
  · obtain ⟨rest, rfl⟩ := further
    rw [valueAt?_append, valueAt?_insertAt named opens, Option.bind_some] at found
    cases rest with
    | nil =>
      rw [List.append_nil] at outside
      exact absurd List.prefix_rfl outside
    | cons next rest =>
      cases value with
      | table entries => exact absurd ⟨entries, rfl⟩ leaf
      | null | boolean | number | text | list => cases found
  · rwa [valueAt?_insertAt_of_apart ⟨further, outside⟩] at found

/-- A path stays open when a value is put at its end or apart from it. -/
theorem Opens.insertAt (opens : Opens other (.table entries))
    (parts : path = other ∨ Apart path other) :
    Opens other (.table (insertAt value path entries)) := by
  induction path generalizing other entries with
  | nil => exact opens
  | cons key path ih =>
    obtain _ | ⟨first, other⟩ := other
    · trivial
    have ⟨_, same, lower⟩ := opens
    cases same
    have elsewhere : ∀ content, (first = key → Opens other content) →
        Opens (first :: other) (.table (put key content entries)) := by
      refine fun content below => ⟨_, rfl, fun inner found => ?_⟩
      rw [lookup_put] at found
      split at found
      case isTrue same =>
        cases found
        exact below same
      case isFalse => exact lower inner found
    cases path with
    | nil =>
      refine elsewhere value fun same => ?_
      subst same
      rcases parts with same | apart
      · cases (List.cons.inj same).2
        trivial
      · exact absurd ((List.prefix_cons_inj _).2 List.nil_prefix) apart.1
    | cons next path =>
      rcases Config.insertAt_cons_cons with step | ⟨same, -⟩
      · rw [step]
        refine elsewhere _ fun same => ?_
        subst same
        obtain _ | ⟨second, other⟩ := other
        · trivial
        · exact ih opens.inside (parts.imp (fun same => (List.cons.inj same).2) Apart.tail)
      · rw [same]
        exact opens

theorem keyed_inside (keyed : Keyed Value.Tidy entries) :
    Keyed Value.Tidy (inside key entries) := by
  unfold inside
  split
  case h_1 found => exact Value.tidy_table_iff.1 (keyed.lookup found)
  case h_2 => exact .nil

/-- Putting a tidy value somewhere keeps entries tidy. -/
theorem keyed_insertAt (keyed : Keyed Value.Tidy entries) (tidy : value.Tidy) :
    Keyed Value.Tidy (insertAt value path entries) := by
  induction path generalizing entries with
  | nil => exact keyed
  | cons key path ih =>
    cases path with
    | nil => exact keyed.put tidy
    | cons next path =>
      rcases insertAt_cons_cons with step | ⟨same, -⟩
      · rw [step]
        exact keyed.put (Value.tidy_table_iff.2 (ih (keyed_inside keyed)))
      · rw [same]
        exact keyed

end Insertion

end Gangway.Config
