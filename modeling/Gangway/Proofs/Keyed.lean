import Gangway.Entries
import Mathlib.Data.List.Nodup

/-!
# Each key once

The entries of a table are `Keyed` if no key stands twice in them. Storing under a key keeps them
so, and looking a key up finds what was stored under it last.
-/

namespace Gangway

variable {α : Type} {key name : String} {content : α} {entries : List (String × α)}

theorem mem_keys_put :
    name ∈ (put key content entries).map Prod.fst ↔
      name = key ∨ name ∈ entries.map Prod.fst := by
  induction entries with
  | nil => simp [put]
  | cons head rest ih =>
    obtain ⟨k, c⟩ := head
    rw [put]
    split
    case isTrue same =>
      subst same
      simp
    case isFalse =>
      rw [List.map_cons, List.mem_cons, ih, List.map_cons, List.mem_cons]
      exact or_left_comm

theorem lookup_cons_eq_ite :
    ((key, content) :: entries).lookup name =
      if name = key then some content else entries.lookup name := by
  split
  case isTrue same => simp [same]
  case isFalse different => simp [List.lookup_cons, beq_eq_false_iff_ne.2 different]

theorem lookup_put :
    (put key content entries).lookup name =
      if name = key then some content else entries.lookup name := by
  induction entries with
  | nil => rw [put, lookup_cons_eq_ite]
  | cons head rest ih =>
    obtain ⟨k, c⟩ := head
    rw [put]
    split
    case isTrue same =>
      subst same
      rw [lookup_cons_eq_ite, lookup_cons_eq_ite]
      split <;> rfl
    case isFalse different =>
      rw [lookup_cons_eq_ite, lookup_cons_eq_ite, ih]
      by_cases first : name = k
      · subst first
        rw [if_pos rfl, if_pos rfl, if_neg different]
      · rw [if_neg first, if_neg first]

/-- The later of two contents replaces the earlier one. -/
theorem put_put {earlier : α} :
    put key content (put key earlier entries) = put key content entries := by
  induction entries with
  | nil => simp [put]
  | cons head rest ih =>
    obtain ⟨k, c⟩ := head
    by_cases same : k = key
    · simp [put, same]
    · simp [put, same, ih]

/-- To store what is there changes nothing. -/
theorem put_of_lookup (found : entries.lookup key = some content) :
    put key content entries = entries := by
  induction entries with
  | nil => cases found
  | cons head rest ih =>
    obtain ⟨k, c⟩ := head
    rw [lookup_cons_eq_ite] at found
    rw [put]
    by_cases same : k = key
    · rw [if_pos same.symm] at found
      rw [if_pos same, Option.some.inj found]
    · rw [if_neg (Ne.symm same)] at found
      rw [if_neg same, ih found]

theorem lookup_eq_none_of_notMem (absent : key ∉ entries.map Prod.fst) :
    entries.lookup key = none := by
  rw [List.lookup_eq_none_iff]
  intro entry member
  rw [bne_iff_ne]
  rintro rfl
  exact absent (List.mem_map_of_mem member)

/-- Where no key stands twice, looking a key up finds what stands under it. -/
theorem lookup_eq_some_iff_mem (once : (entries.map Prod.fst).Nodup) :
    entries.lookup key = some content ↔ (key, content) ∈ entries := by
  constructor
  · intro found
    obtain ⟨before, after, rfl, -⟩ := List.lookup_eq_some_iff.1 found
    exact List.mem_append_right before List.mem_cons_self
  · intro member
    obtain ⟨before, after, rfl⟩ := List.append_of_mem member
    refine List.lookup_eq_some_iff.2 ⟨before, after, rfl, fun entry earlier => bne_iff_ne.2 ?_⟩
    rintro rfl
    rw [List.map_append, List.map_cons] at once
    apply List.disjoint_of_nodup_append once (List.mem_map_of_mem earlier)
    exact List.mem_cons_self

/-- No key stands twice, and what stands under each is good. -/
structure Keyed (good : α → Prop) (entries : List (String × α)) : Prop where
  once : (entries.map Prod.fst).Nodup
  inner : ∀ entry ∈ entries, good entry.2

namespace Keyed

variable {good : α → Prop}

theorem nil : Keyed good [] := ⟨List.nodup_nil, nofun⟩

theorem singleton (holds : good content) : Keyed good [(key, content)] :=
  ⟨List.nodup_singleton _, fun _ member => List.mem_singleton.1 member ▸ holds⟩

theorem cons (fresh : key ∉ entries.map Prod.fst) (holds : good content)
    (rest : Keyed good entries) : Keyed good ((key, content) :: entries) :=
  ⟨List.nodup_cons.2 ⟨fresh, rest.once⟩, List.forall_mem_cons.2 ⟨holds, rest.inner⟩⟩

theorem tail {head : String × α} (keyed : Keyed good (head :: entries)) : Keyed good entries :=
  ⟨(List.nodup_cons.1 keyed.once).2, (List.forall_mem_cons.1 keyed.inner).2⟩

theorem append_singleton (keyed : Keyed good entries) (fresh : entries.lookup key = none)
    (holds : good content) : Keyed good (entries ++ [(key, content)]) := by
  constructor
  · rw [List.map_append, List.nodup_append]
    refine ⟨keyed.once, List.nodup_singleton _, fun name member other last same => ?_⟩
    obtain ⟨entry, inside, rfl⟩ := List.mem_map.1 member
    rw [List.map_singleton, List.mem_singleton] at last
    exact bne_iff_ne.1 (List.lookup_eq_none_iff.1 fresh entry inside) (last ▸ same).symm
  · exact List.forall_mem_append.2 ⟨keyed.inner, List.forall_mem_singleton.2 holds⟩

theorem lookup (keyed : Keyed good entries) (found : entries.lookup key = some content) :
    good content := by
  obtain ⟨before, after, rfl, -⟩ := List.lookup_eq_some_iff.1 found
  exact keyed.inner (key, content) (List.mem_append_right _ List.mem_cons_self)

theorem put (keyed : Keyed good entries) (holds : good content) :
    Keyed good (put key content entries) := by
  induction entries with
  | nil => exact .singleton holds
  | cons head rest ih =>
    obtain ⟨k, c⟩ := head
    have fresh := (List.nodup_cons.1 keyed.once).1
    rw [Gangway.put]
    split
    case isTrue => exact keyed.tail.cons fresh holds
    case isFalse different =>
      refine (ih keyed.tail).cons ?_ (keyed.inner (k, c) List.mem_cons_self)
      exact fun member => (mem_keys_put.1 member).elim different fresh

end Keyed

end Gangway
