import Gangway.Toml.Document
import Gangway.Proofs.Keyed

/-!
# Documents hold each key once

A TOML document writes every key of a table once. `Tidy` says so of a value with all tables inside
it. A draft stays tidy whatever is added to it, readers give tidy values, and so the table of every
document is tidy (`keyed_readDocument`).
-/

namespace Gangway

namespace Toml

/-- Every table in the value holds each key once. -/
inductive Value.Tidy : Value → Prop where
  | text {content : String} : Tidy (.text content)
  | integer {number : Int} : Tidy (.integer number)
  | float {literal : String} : Tidy (.float literal)
  | boolean {truth : Bool} : Tidy (.boolean truth)
  | datetime {literal : String} : Tidy (.datetime literal)
  | array {items : List Value} (inner : ∀ item ∈ items, item.Tidy) : Tidy (.array items)
  | table {entries : Entries} (once : (entries.map Prod.fst).Nodup)
      (inner : ∀ entry ∈ entries, entry.2.Tidy) : Tidy (.table entries)

/-- Every table in the draft holds each key once. -/
inductive Draft.Tidy : Draft → Prop where
  | closed {value : Value} (tidy : value.Tidy) : Tidy (.closed value)
  | table {origin : Origin} {entries : DraftEntries} (once : (entries.map Prod.fst).Nodup)
      (inner : ∀ entry ∈ entries, entry.2.Tidy) : Tidy (.table origin entries)
  | tables {items : List DraftEntries} (once : ∀ item ∈ items, (item.map Prod.fst).Nodup)
      (inner : ∀ item ∈ items, ∀ entry ∈ item, entry.2.Tidy) : Tidy (.tables items)

theorem Value.tidy_table_iff {entries : Entries} :
    (Value.table entries).Tidy ↔ Keyed Value.Tidy entries :=
  ⟨fun | .table once inner => ⟨once, inner⟩, fun keyed => .table keyed.once keyed.inner⟩

theorem Draft.tidy_table_iff {origin : Origin} {entries : DraftEntries} :
    (Draft.table origin entries).Tidy ↔ Keyed Draft.Tidy entries :=
  ⟨fun | .table once inner => ⟨once, inner⟩, fun keyed => .table keyed.once keyed.inner⟩

theorem Draft.tidy_tables_iff {items : List DraftEntries} :
    (Draft.tables items).Tidy ↔ ∀ item ∈ items, Keyed Draft.Tidy item :=
  ⟨fun | .tables once inner => fun item member => ⟨once item member, inner item member⟩,
    fun keyed => .tables (fun item member => (keyed item member).once)
      fun item member => (keyed item member).inner⟩

section Drafts

variable {key : String} {entries : DraftEntries}

section Inside

variable {origin : Origin} {inner : DraftEntries} {items : List DraftEntries}
  (keyed : Keyed Draft.Tidy entries)

include keyed

theorem keyed_of_table (found : entries.lookup key = some (.table origin inner)) :
    Keyed Draft.Tidy inner :=
  Draft.tidy_table_iff.1 (keyed.lookup found)

theorem keyed_of_tables (found : entries.lookup key = some (.tables items)) :
    ∀ item ∈ items, Keyed Draft.Tidy item :=
  Draft.tidy_tables_iff.1 (keyed.lookup found)

theorem keyed_put_table (below : Keyed Draft.Tidy inner) :
    Keyed Draft.Tidy (put key (.table origin inner) entries) :=
  keyed.put (Draft.tidy_table_iff.2 below)

theorem keyed_put_tables (below : ∀ item ∈ items, Keyed Draft.Tidy item) :
    Keyed Draft.Tidy (put key (.tables items) entries) :=
  keyed.put (Draft.tidy_tables_iff.2 below)

end Inside

/-- A change that keeps drafts tidy, where it succeeds. -/
def Keeps (change : DraftEntries → Option DraftEntries) : Prop :=
  ∀ entries made, Keyed Draft.Tidy entries → change entries = some made → Keyed Draft.Tidy made

variable {change : DraftEntries → Option DraftEntries}

theorem Keeps.changeLast (keeps : Keeps change) {items changed : List DraftEntries}
    (keyed : ∀ item ∈ items, Keyed Draft.Tidy item)
    (done : Toml.changeLast change items = some changed) :
    ∀ item ∈ changed, Keyed Draft.Tidy item := by
  induction items generalizing changed with
  | nil => cases done
  | cons head rest ih =>
    have first := keyed head List.mem_cons_self
    cases rest with
    | nil =>
      obtain ⟨last, given, rfl⟩ := Option.map_eq_some_iff.1 done
      exact List.forall_mem_singleton.2 (keeps _ _ first given)
    | cons next rest =>
      obtain ⟨tail, given, rfl⟩ := Option.map_eq_some_iff.1 done
      exact List.forall_mem_cons.2
        ⟨first, ih (fun item member => keyed item (List.mem_cons_of_mem _ member)) given⟩

theorem Keeps.changeAt (keeps : Keeps change) (path : List String) :
    Keeps (Toml.changeAt change path) := by
  induction path with
  | nil => exact keeps
  | cons key path ih =>
    intro entries made keyed done
    rw [Toml.changeAt] at done
    split at done
    · obtain ⟨inner, given, rfl⟩ := Option.map_eq_some_iff.1 done
      exact keyed_put_table keyed (ih _ _ .nil given)
    · cases done
    · next found =>
      obtain ⟨inner, given, rfl⟩ := Option.map_eq_some_iff.1 done
      exact keyed_put_table keyed (ih _ _ (keyed_of_table keyed found) given)
    · next found =>
      obtain ⟨items, given, rfl⟩ := Option.map_eq_some_iff.1 done
      exact keyed_put_tables keyed (ih.changeLast (keyed_of_tables keyed found) given)

theorem keeps_assignNew {value : Value} (tidy : value.Tidy) : Keeps (assignNew key value) := by
  intro entries made keyed done
  unfold assignNew at done
  split at done
  · next fresh =>
    cases done
    exact keyed.append_singleton fresh (.closed tidy)
  · cases done

theorem keeps_assign {value : Value} (tidy : value.Tidy) (path : List String) :
    Keeps (assign value path) := by
  induction path with
  | nil => exact fun _ _ _ => nofun
  | cons key rest ih =>
    cases rest with
    | nil => exact keeps_assignNew tidy
    | cons next path =>
      intro entries made keyed done
      simp only [assign] at done
      split at done
      · obtain ⟨inner, given, rfl⟩ := Option.map_eq_some_iff.1 done
        exact keyed_put_table keyed (ih _ _ .nil given)
      · next found =>
        obtain ⟨changed, given, rfl⟩ := Option.map_eq_some_iff.1 done
        exact keyed_put_table keyed (ih _ _ (keyed_of_table keyed found) given)
      · next found =>
        split at done
        · cases done
        obtain ⟨changed, given, rfl⟩ := Option.map_eq_some_iff.1 done
        exact keyed_put_table keyed (ih _ _ (keyed_of_table keyed found) given)
      · next found =>
        split at done
        · cases done
        obtain ⟨items, given, rfl⟩ := Option.map_eq_some_iff.1 done
        exact keyed_put_tables keyed (ih.changeLast (keyed_of_tables keyed found) given)
      · cases done
      · cases done

theorem keeps_foldlM {β : Type} {step : DraftEntries → β → Option DraftEntries} {all : List β}
    (each : ∀ one ∈ all, Keeps (step · one)) : Keeps (all.foldlM step) := by
  induction all with
  | nil =>
    rintro entries _ keyed ⟨⟩
    exact keyed
  | cons first rest ih =>
    intro entries made keyed done
    obtain ⟨next, given, done⟩ := Option.bind_eq_some_iff.1 done
    have head := each first List.mem_cons_self _ _ keyed given
    exact ih (fun one member => each one (List.mem_cons_of_mem _ member)) _ _ head done

theorem keeps_assignAll {assignments : List Assignment}
    (tidy : ∀ assignment ∈ assignments, assignment.value.Tidy) : Keeps (assignAll assignments) :=
  keeps_foldlM fun assignment member => keeps_assign (tidy assignment member) assignment.path

section Sections

variable {assignments : List Assignment}
  (tidy : ∀ assignment ∈ assignments, assignment.value.Tidy)

include tidy

theorem keeps_openTable : Keeps (openTable key assignments) := by
  intro entries made keyed done
  unfold openTable at done
  split at done
  · obtain ⟨inner, given, rfl⟩ := Option.map_eq_some_iff.1 done
    exact keyed_put_table keyed (keeps_assignAll tidy _ _ .nil given)
  · next found =>
    obtain ⟨inner, given, rfl⟩ := Option.map_eq_some_iff.1 done
    have below := keyed_of_table keyed found
    exact keyed_put_table keyed (keeps_assignAll tidy _ _ below given)
  · cases done

theorem keeps_openElement : Keeps (openElement key assignments) := by
  intro entries made keyed done
  unfold openElement at done
  split at done
  · obtain ⟨inner, given, rfl⟩ := Option.map_eq_some_iff.1 done
    have element := keeps_assignAll tidy _ _ .nil given
    exact keyed_put_tables keyed (List.forall_mem_singleton.2 element)
  · next found =>
    obtain ⟨inner, given, rfl⟩ := Option.map_eq_some_iff.1 done
    have element := keeps_assignAll tidy _ _ .nil given
    have before := keyed_of_tables keyed found
    refine keyed_put_tables keyed (List.forall_mem_append.2 ⟨before, ?_⟩)
    exact List.forall_mem_singleton.2 element
  · cases done

end Sections

theorem keeps_addSection {part : Section}
    (tidy : ∀ assignment ∈ part.assignments, assignment.value.Tidy) : Keeps (addSection part) := by
  intro root made keyed done
  unfold addSection at done
  split at done
  · cases done
  · refine Keeps.changeAt ?_ _ _ _ keyed done
    cases part.heading with
    | table => exact keeps_openTable tidy
    | element => exact keeps_openElement tidy

end Drafts

theorem keys_valueEntries (entries : DraftEntries) :
    (valueEntries entries).map Prod.fst = entries.map Prod.fst := by
  induction entries with
  | nil => rfl
  | cons head rest ih =>
    obtain ⟨key, draft⟩ := head
    rw [valueEntries, List.map_cons, ih, List.map_cons]

theorem mem_valueEntries {entries : DraftEntries} {entry : String × Value}
    (member : entry ∈ valueEntries entries) :
    ∃ draft, (entry.1, draft) ∈ entries ∧ draft.value = entry.2 := by
  induction entries with
  | nil => cases member
  | cons head rest ih =>
    obtain ⟨key, draft⟩ := head
    rw [valueEntries] at member
    rcases List.mem_cons.1 member with rfl | member
    · exact ⟨draft, List.mem_cons_self, rfl⟩
    · obtain ⟨found, inside, same⟩ := ih member
      exact ⟨found, List.mem_cons_of_mem _ inside, same⟩

theorem mem_valueItems {items : List DraftEntries} {value : Value}
    (member : value ∈ valueItems items) : ∃ item ∈ items, .table (valueEntries item) = value := by
  induction items with
  | nil => cases member
  | cons head rest ih =>
    rw [valueItems] at member
    rcases List.mem_cons.1 member with rfl | member
    · exact ⟨head, List.mem_cons_self, rfl⟩
    · obtain ⟨item, inside, same⟩ := ih member
      exact ⟨item, List.mem_cons_of_mem _ inside, same⟩

/-- The value of a tidy draft is tidy. -/
theorem Draft.Tidy.value {draft : Draft} (tidy : draft.Tidy) : draft.value.Tidy := by
  have entriesOf : ∀ {entries : DraftEntries}, (entries.map Prod.fst).Nodup →
      (∀ entry ∈ entries, entry.2.value.Tidy) → (Value.table (valueEntries entries)).Tidy := by
    intro entries once inner
    refine .table (keys_valueEntries entries ▸ once) fun entry member => ?_
    obtain ⟨draft, inside, same⟩ := mem_valueEntries member
    exact same ▸ inner _ inside
  induction tidy with
  | closed tidy => exact tidy
  | table once _ ih => exact entriesOf once ih
  | tables once _ ih =>
    refine .array fun value member => ?_
    obtain ⟨item, inside, rfl⟩ := mem_valueItems member
    exact entriesOf (once item inside) (ih item inside)

theorem keyed_valueEntries {entries : DraftEntries} (keyed : Keyed Draft.Tidy entries) :
    Keyed Value.Tidy (valueEntries entries) :=
  Value.tidy_table_iff.1 (Draft.tidy_table_iff.2 keyed : (Draft.table .header entries).Tidy).value

theorem keyed_tableOf {assignments : List Assignment} {entries : Entries}
    (tidy : ∀ assignment ∈ assignments, assignment.value.Tidy)
    (made : tableOf assignments = some entries) : Keyed Value.Tidy entries := by
  obtain ⟨draft, given, rfl⟩ := Option.map_eq_some_iff.1 made
  exact keyed_valueEntries (keeps_assignAll tidy _ _ .nil given)

theorem keyed_documentOf {front : List Assignment} {sections : List Section} {entries : Entries}
    (tidy : ∀ assignment ∈ front, assignment.value.Tidy)
    (inner : ∀ part ∈ sections, ∀ assignment ∈ part.assignments, assignment.value.Tidy)
    (made : documentOf front sections = some entries) : Keyed Value.Tidy entries := by
  obtain ⟨root, given, made⟩ := Option.bind_eq_some_iff.1 made
  obtain ⟨whole, added, ⟨⟩⟩ := Option.bind_eq_some_iff.1 made
  have sound : Keeps (sections.foldlM fun root part => addSection part root) :=
    keeps_foldlM fun part member => keeps_addSection (inner part member)
  exact keyed_valueEntries (sound _ _ (keeps_assignAll tidy _ _ .nil given) added)

theorem tidy_of_scalar {literal : List Char} {value : Value} (read : scalar? literal = some value) :
    value.Tidy := by
  unfold scalar? at read
  split at read
  · cases read
    exact .boolean
  split at read
  · cases read
    exact .boolean
  split at read
  · cases read
    exact .datetime
  split at read
  · cases read
    exact .integer
  split at read
  · cases read
    exact .float
  · cases read

/-- With so many steps, readers give tidy values. -/
structure ReadsTidy (steps : Nat) : Prop where
  value : ∀ depth text read rest, value steps depth text = some (read, rest) → read.Tidy
  items : ∀ depth text read rest, items steps depth text = some (read, rest) →
    ∀ item ∈ read, item.Tidy
  inlineEntries : ∀ depth text read rest, inlineEntries steps depth text = some (read, rest) →
    ∀ assignment ∈ read, assignment.value.Tidy

namespace ReadsTidy

variable {steps depth : Nat} {text rest : List Char}

theorem zero : ReadsTidy 0 := by
  constructor <;> intro depth text read rest done
  · simp [Toml.value] at done
  · simp [Toml.items] at done
  · simp [Toml.inlineEntries] at done

theorem value_succ (reads : ReadsTidy steps) {read : Value}
    (done : Toml.value (steps + 1) depth text = some (read, rest)) : read.Tidy := by
  rw [Toml.value.eq_def] at done
  dsimp only at done
  split at done
  · split at done
    · cases done
    obtain ⟨⟨values, after⟩, given, ⟨⟩⟩ := Option.bind_eq_some_iff.1 done
    exact .array (reads.items _ _ _ _ given)
  · split at done
    · cases done
    obtain ⟨⟨assignments, after⟩, given, done⟩ := Option.bind_eq_some_iff.1 done
    obtain ⟨entries, made, ⟨⟩⟩ := Option.bind_eq_some_iff.1 done
    have tidy := reads.inlineEntries _ _ _ _ given
    exact Value.tidy_table_iff.2 (keyed_tableOf tidy made)
  · split at done
    · cases done
      exact .text
    · obtain ⟨found, given, ⟨⟩⟩ := Option.map_eq_some_iff.1 done
      exact tidy_of_scalar given

theorem items_succ (reads : ReadsTidy steps) {read : List Value}
    (done : Toml.items (steps + 1) depth text = some (read, rest)) :
    ∀ item ∈ read, item.Tidy := by
  rw [Toml.items.eq_def] at done
  obtain ⟨body, -, done⟩ := Option.bind_eq_some_iff.1 done
  split at done
  · cases done
    exact nofun
  obtain ⟨⟨item, after⟩, given, done⟩ := Option.bind_eq_some_iff.1 done
  have first := reads.value _ _ _ _ given
  obtain ⟨following, -, done⟩ := Option.bind_eq_some_iff.1 done
  split at done
  · obtain ⟨⟨more, last⟩, others, ⟨⟩⟩ := Option.bind_eq_some_iff.1 done
    exact List.forall_mem_cons.2 ⟨first, reads.items _ _ _ _ others⟩
  · cases done
    exact List.forall_mem_singleton.2 first
  · cases done

theorem inlineEntries_succ (reads : ReadsTidy steps) {read : List Assignment}
    (done : Toml.inlineEntries (steps + 1) depth text = some (read, rest)) :
    ∀ assignment ∈ read, assignment.value.Tidy := by
  rw [Toml.inlineEntries.eq_def] at done
  obtain ⟨body, -, done⟩ := Option.bind_eq_some_iff.1 done
  split at done
  · cases done
    exact nofun
  obtain ⟨⟨path, behind⟩, -, done⟩ := Option.bind_eq_some_iff.1 done
  obtain ⟨⟨assigned, after⟩, given, done⟩ := Option.bind_eq_some_iff.1 done
  have first := reads.value _ _ _ _ given
  obtain ⟨following, -, done⟩ := Option.bind_eq_some_iff.1 done
  split at done
  · obtain ⟨⟨more, last⟩, others, ⟨⟩⟩ := Option.bind_eq_some_iff.1 done
    exact List.forall_mem_cons.2 ⟨first, reads.inlineEntries _ _ _ _ others⟩
  · cases done
    exact List.forall_mem_singleton.2 first
  · cases done

end ReadsTidy

/-- However many steps they have, readers give tidy values. -/
theorem readsTidy (steps : Nat) : ReadsTidy steps := by
  induction steps with
  | zero => exact .zero
  | succ steps ih => exact {
      value := fun _ _ _ _ => ih.value_succ
      items := fun _ _ _ _ => ih.items_succ
      inlineEntries := fun _ _ _ _ => ih.inlineEntries_succ }

theorem tidy_of_statements {steps : Nat} {text : List Char} {front : List Assignment}
    {sections : List Section} (read : statements steps text = some (front, sections)) :
    (∀ assignment ∈ front, assignment.value.Tidy) ∧
      ∀ part ∈ sections, ∀ assignment ∈ part.assignments, assignment.value.Tidy := by
  induction steps generalizing text front sections with
  | zero => cases read
  | succ steps ih =>
    rw [statements] at read
    obtain ⟨body, -, read⟩ := Option.bind_eq_some_iff.1 read
    split at read
    · cases read
      exact ⟨nofun, nofun⟩
    · obtain ⟨⟨heading, path, rest⟩, -, read⟩ := Option.bind_eq_some_iff.1 read
      obtain ⟨⟨assignments, others⟩, given, ⟨⟩⟩ := Option.bind_eq_some_iff.1 read
      obtain ⟨under, parts⟩ := ih given
      exact ⟨nofun, List.forall_mem_cons.2 ⟨under, parts⟩⟩
    · obtain ⟨⟨path, rest⟩, -, read⟩ := Option.bind_eq_some_iff.1 read
      obtain ⟨⟨assigned, after⟩, first, read⟩ := Option.bind_eq_some_iff.1 read
      obtain ⟨line, -, read⟩ := Option.bind_eq_some_iff.1 read
      obtain ⟨⟨assignments, others⟩, given, ⟨⟩⟩ := Option.bind_eq_some_iff.1 read
      obtain ⟨under, parts⟩ := ih given
      exact ⟨List.forall_mem_cons.2 ⟨(readsTidy _).value _ _ _ _ first, under⟩, parts⟩

/-- **Each key once.** In the table of a document, and in every table inside it, each key is held
once. -/
theorem keyed_readDocument {text : String} {entries : Entries}
    (read : readDocument text = some entries) : Keyed Value.Tidy entries := by
  obtain ⟨⟨front, sections⟩, given, made⟩ := Option.bind_eq_some_iff.1 read
  obtain ⟨tidy, inner⟩ := tidy_of_statements given
  exact keyed_documentOf tidy inner made

end Toml

end Gangway
