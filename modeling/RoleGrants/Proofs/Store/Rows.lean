import Mathlib.Data.List.Nodup
import RoleGrants.Table

/-! # Rows and the view of a table

A table has a row exactly where its view shows a value (`mem_rows`), since no key
stands twice.  So a filter shows the values that satisfy its test (`get?_filter`), and
tables with one view differ at most in the order of their rows (`rows_perm`). -/

set_option autoImplicit false

namespace RoleGrants.Table

variable {α : Type}

theorem find?_of_mem {rows : List (String × α)} (distinct : (rows.map Prod.fst).Nodup)
    {key : String} {value : α} (member : (key, value) ∈ rows) :
    rows.find? (fun row => row.1 == key) = some (key, value) := by
  induction rows with
  | nil => cases member
  | cons row rest ih =>
      rw [List.map_cons, List.nodup_cons] at distinct
      obtain ⟨new, distinct⟩ := distinct
      rcases List.mem_cons.mp member with same | later
      · subst same
        simp
      · have apart : row.1 ≠ key := by
          rintro rfl
          exact new (List.mem_map.mpr ⟨_, later, rfl⟩)
        rw [List.find?_cons_of_neg (by simpa using apart)]
        exact ih distinct later

theorem mem_rows (table : Table α) (key : String) (value : α) :
    (key, value) ∈ table.rows ↔ table.get? key = some value := by
  constructor
  · intro member
    rw [get?, find?_of_mem table.distinct member]
    rfl
  · intro given
    obtain ⟨row, found, same⟩ := Option.map_eq_some_iff.mp given
    have named : row.1 = key := by simpa using List.find?_some found
    have member := List.mem_of_find?_eq_some found
    rw [← named, ← same]
    exact member

theorem get?_filter (table : Table α) (keep : String → α → Bool) (key : String) :
    (table.filter keep).get? key = (table.get? key).filter (keep key) := by
  apply Option.ext
  intro value
  rw [← mem_rows, Option.filter_eq_some_iff, ← mem_rows]
  exact List.mem_filter

theorem get?_of_get?_filter {table : Table α} {keep : String → α → Bool} {key : String} {value : α}
    (given : (table.filter keep).get? key = some value) : table.get? key = some value := by
  rw [get?_filter] at given
  exact (Option.filter_eq_some_iff.mp given).1

theorem size_filter_notMem (table : Table α) {doomed : List String} (distinct : doomed.Nodup)
    (stored : ∀ key ∈ doomed, table.contains key = true) :
    (table.filter fun key _ => !doomed.contains key).size + doomed.length = table.size := by
  have gone : ((table.rows.map Prod.fst).filter doomed.contains).Perm doomed := by
    rw [List.perm_ext_iff_of_nodup (table.distinct.filter _) distinct]
    intro key
    rw [List.mem_filter, List.contains_iff_mem, and_iff_right_iff_imp]
    intro member
    obtain ⟨row, present, same⟩ := List.any_eq_true.mp (stored key member)
    exact List.mem_map.mpr ⟨row, present, by simpa using same⟩
  have count := gone.length_eq
  rw [List.filter_map, List.length_map] at count
  have parts := List.length_eq_length_filter_add (l := table.rows)
    (doomed.contains ∘ Prod.fst)
  rw [size, size, parts, count, Nat.add_comm]
  rfl

theorem contains_insert (table : Table α) (key other : String) (value : α) :
    (table.insert key value).contains other = true ↔
      other = key ∨ table.contains other = true := by
  rw [contains_eq_isSome, contains_eq_isSome, get?_insert]
  split
  next same => simp [same]
  next apart => simp [apart]

theorem contains_erase (table : Table α) (key other : String) :
    (table.erase key).contains other = true ↔ other ≠ key ∧ table.contains other = true := by
  rw [contains_eq_isSome, contains_eq_isSome, get?_erase]
  split
  next same => simp [same]
  next apart => simp [apart]

theorem exists_of_mem_values {table : Table α} {value : α} (member : value ∈ table.values) :
    ∃ key, table.get? key = some value := by
  obtain ⟨⟨key, row⟩, present, same⟩ := List.mem_map.mp member
  cases same
  exact ⟨key, (table.mem_rows key row).mp present⟩

/-! ## Tables that show the same rows -/

section SameView

variable {table other : Table α}

theorem nodup_rows (table : Table α) : table.rows.Nodup :=
  List.Nodup.of_map Prod.fst table.distinct

theorem rows_perm (same : ∀ key, other.get? key = table.get? key) :
    other.rows.Perm table.rows := by
  rw [List.perm_ext_iff_of_nodup other.nodup_rows table.nodup_rows]
  rintro ⟨key, value⟩
  rw [mem_rows, mem_rows, same]

theorem values_perm (same : ∀ key, other.get? key = table.get? key) :
    other.values.Perm table.values :=
  (rows_perm same).map Prod.snd

theorem size_eq_of_get?_eq (same : ∀ key, other.get? key = table.get? key) :
    other.size = table.size :=
  (rows_perm same).length_eq

end SameView

/-! ## Rows that stand under their own keys -/

def KeyedBy (table : Table α) (own : α → String) : Prop :=
  ∀ key value, table.get? key = some value → own value = key

variable {table : Table α} {own : α → String}

theorem KeyedBy.insert (keyed : table.KeyedBy own) {key : String} {value : α}
    (same : own value = key) : (table.insert key value).KeyedBy own := by
  intro other row found
  rw [get?_insert] at found
  split at found
  next here =>
    cases found
    rw [same, here]
  · exact keyed other row found

theorem KeyedBy.nodup_values (keyed : table.KeyedBy own) : (table.values.map own).Nodup := by
  have keys : table.values.map own = table.rows.map Prod.fst := by
    rw [values, List.map_map, List.map_inj_left]
    rintro ⟨key, value⟩ member
    exact keyed key value ((table.mem_rows key value).mp member)
  rw [keys]
  exact table.distinct

theorem KeyedBy.nodup_filter (keyed : table.KeyedBy own) (keep : α → Bool) :
    ((table.values.filter keep).map own).Nodup :=
  (List.filter_sublist.map own).nodup keyed.nodup_values

theorem KeyedBy.filter (keyed : table.KeyedBy own) (keep : String → α → Bool) :
    (table.filter keep).KeyedBy own :=
  fun key value found => keyed key value (get?_of_get?_filter found)

end RoleGrants.Table
