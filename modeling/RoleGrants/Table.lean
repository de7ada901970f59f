/-! # Tables

Rows under distinct text keys.  The order of the rows carries no meaning: every
listing that shows an order sorts by a key of its own.

`get?` is the view of a table; a lemma for each operation says what it does to
that view. -/

set_option autoImplicit false

namespace RoleGrants

structure Table (α : Type) where
  rows : List (String × α) := []
  distinct : (rows.map Prod.fst).Nodup := by simp

namespace Table

variable {α : Type}

def empty : Table α := {}

instance : Inhabited (Table α) := ⟨empty⟩

def get? (table : Table α) (key : String) : Option α :=
  (table.rows.find? fun row => row.1 == key).map Prod.snd

def contains (table : Table α) (key : String) : Bool :=
  table.rows.any fun row => row.1 == key

def values (table : Table α) : List α :=
  table.rows.map Prod.snd

def size (table : Table α) : Nat :=
  table.rows.length

def filter (table : Table α) (keep : String → α → Bool) : Table α where
  rows := table.rows.filter fun row => keep row.1 row.2
  distinct := (List.filter_sublist.map Prod.fst).nodup table.distinct

def erase (table : Table α) (key : String) : Table α :=
  table.filter fun candidate _ => candidate != key

/-- The row under the key is replaced, or a new one is added. -/
def insert (table : Table α) (key : String) (value : α) : Table α where
  rows := (key, value) :: (table.erase key).rows
  distinct := by
    rw [List.map_cons, List.nodup_cons]
    refine ⟨?_, (table.erase key).distinct⟩
    intro member
    obtain ⟨row, present, same⟩ := List.mem_map.mp member
    have kept := (List.mem_filter.mp present).2
    simp [same] at kept

def mapValues (table : Table α) (change : α → α) : Table α where
  rows := table.rows.map fun row => (row.1, change row.2)
  distinct := by
    have same : (table.rows.map fun row => (row.1, change row.2)).map Prod.fst =
        table.rows.map Prod.fst := by simp
    rw [same]
    exact table.distinct

/-! ## The view -/

theorem contains_eq_isSome (table : Table α) (key : String) :
    table.contains key = (table.get? key).isSome := by
  rw [Bool.eq_iff_iff]
  simp [contains, get?, List.find?_isSome]

@[simp] theorem get?_empty (key : String) : (empty : Table α).get? key = none := rfl

theorem find?_filter_ne (rows : List (String × α)) (key other : String) :
    (rows.filter fun row => row.1 != key).find? (fun row => row.1 == other) =
      if other = key then none else rows.find? fun row => row.1 == other := by
  induction rows with
  | nil => simp
  | cons row rest ih =>
      by_cases same : row.1 = key
      · simp only [List.filter_cons, same, bne_self_eq_false, Bool.false_eq_true, if_false, ih]
        by_cases asked : other = key
        · simp [asked]
        · have apart : (row.1 == other) = false := by
            simp only [beq_eq_false_iff_ne, same]
            exact fun equal => asked equal.symm
          simp [asked, apart]
      · by_cases asked : row.1 = other
        · subst asked
          simp [same]
        · have apart : (row.1 == other) = false := by simpa using asked
          simp [same, apart, ih]

@[simp] theorem get?_erase (table : Table α) (key other : String) :
    (table.erase key).get? other = if other = key then none else table.get? other := by
  simp only [get?, erase, filter, find?_filter_ne]
  split <;> rfl

@[simp] theorem get?_insert (table : Table α) (key other : String) (value : α) :
    (table.insert key value).get? other = if other = key then some value else table.get? other := by
  by_cases same : other = key
  · simp [get?, insert, same]
  · have apart : (key == other) = false := by
      simpa using fun equal => same (Eq.symm equal)
    have erased := get?_erase table key other
    simp only [get?, insert, List.find?_cons, apart, same, if_false] at erased ⊢
    exact erased

@[simp] theorem get?_mapValues (table : Table α) (change : α → α) (key : String) :
    (table.mapValues change).get? key = (table.get? key).map change := by
  simp only [get?, mapValues, List.find?_map, Option.map_map]
  rfl

end Table

end RoleGrants
