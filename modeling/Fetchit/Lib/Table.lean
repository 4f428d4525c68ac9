import Mathlib.Data.List.Nodup

/-! Tables with a unique key, in the order in which their rows were inserted. -/
namespace Fetchit.Lib

structure Table {Row Key : Type*} (key : Row → Key) where
  rows : List Row
  unique : (rows.map key).Nodup

namespace Table

variable {Row Key : Type*} {key : Row → Key}

theorem ext_rows {first second : Table key} (h : first.rows = second.rows) : first = second := by
  cases first
  cases h
  rfl

instance [DecidableEq Row] : DecidableEq (Table key) := fun first second =>
  decidable_of_iff (first.rows = second.rows) ⟨ext_rows, fun h => h ▸ rfl⟩

def empty : Table key := ⟨[], List.nodup_nil⟩

theorem eq_of_key_eq {table : Table key} (mem : first ∈ table.rows)
    (mem' : second ∈ table.rows) (same : key first = key second) : first = second :=
  List.inj_on_of_nodup_map table.unique mem mem' same

def deleteWhere (table : Table key) (chosen : Row → Bool) : Table key where
  rows := table.rows.filter fun row => !chosen row
  unique := table.unique.sublist (List.filter_sublist.map _)

variable {chosen : Row → Bool} {change : Row → Row}

theorem deleteWhere_eq_self {table : Table key} :
    table.deleteWhere chosen = table ↔ ∀ row ∈ table.rows, chosen row = false := by
  constructor
  · intro same row mem
    have kept := List.filter_eq_self.mp (congrArg rows same) row mem
    simpa using kept
  · intro none
    apply ext_rows
    refine List.filter_eq_self.mpr ?_
    intro row mem
    rw [none row mem]
    rfl

def update (table : Table key) (change : Row → Row) (keeps : ∀ row, key (change row) = key row) :
    Table key where
  rows := table.rows.map change
  unique := by
    rw [List.map_map]
    have same : key ∘ change = key := funext keeps
    rw [same]
    exact table.unique

theorem update_eq_self {table : Table key} :
    table.update change keeps = table ↔ ∀ row ∈ table.rows, change row = row := by
  rw [← List.map_inj_left, List.map_id']
  exact ⟨congrArg rows, fun same => ext_rows same⟩

section
variable {keep : Row → Bool} {table : Table key}

def view (table : Table key) (keep : Row → Bool) : List Row := table.rows.filter keep

theorem view_deleteWhere :
    (table.deleteWhere chosen).view keep = (table.view keep).filter fun row => !chosen row := by
  unfold view deleteWhere
  rw [List.filter_filter, List.filter_filter]
  simp only [Bool.and_comm]

theorem view_deleteWhere_of_hidden (hidden : ∀ row, chosen row = true → keep row = false) :
    (table.deleteWhere chosen).view keep = table.view keep := by
  rw [view_deleteWhere, List.filter_eq_self]
  intro row mem
  cases picked : chosen row with
  | false => rfl
  | true => exact absurd (List.mem_filter.mp mem).2 (by simp [hidden row picked])

theorem view_update (same : ∀ row, keep (change row) = keep row) :
    (table.update change keeps).view keep = (table.view keep).map change := by
  unfold view update
  rw [List.filter_map]
  simp only [Function.comp_def, same]

end

variable [DecidableEq Key]

def holds (table : Table key) (wanted : Key) : Bool :=
  table.rows.any fun row => key row = wanted

theorem holds_eq_true {table : Table key} :
    table.holds wanted = true ↔ ∃ row ∈ table.rows, key row = wanted := by
  simp [holds]

theorem holds_eq_false {table : Table key} :
    table.holds wanted = false ↔ ∀ row ∈ table.rows, key row ≠ wanted := by
  simp [holds]

theorem holds_of_deleteWhere {table : Table key}
    (h : (table.deleteWhere chosen).holds wanted = true) : table.holds wanted = true := by
  obtain ⟨row, mem, same⟩ := holds_eq_true.mp h
  exact holds_eq_true.mpr ⟨row, List.mem_of_mem_filter mem, same⟩

theorem holds_update {table : Table key} :
    (table.update change keeps).holds wanted = table.holds wanted := by
  unfold holds update
  rw [List.any_map]
  congr 1
  funext row
  simp only [Function.comp, keeps]

def find? (table : Table key) (wanted : Key) : Option Row :=
  table.rows.find? fun row => key row = wanted

theorem find?_eq_none {table : Table key} :
    table.find? wanted = none ↔ table.holds wanted = false := by
  simp [find?, holds]

theorem holds_of_find? {table : Table key}
    (h : table.find? wanted = some row) : table.holds wanted = true := by
  rw [← Bool.not_eq_false, ← find?_eq_none, h]
  exact Option.some_ne_none row

def append (table : Table key) (row : Row) (fresh : table.holds (key row) = false) :
    Table key where
  rows := table.rows ++ [row]
  unique := by
    rw [List.map_append, List.nodup_append]
    refine ⟨table.unique, List.nodup_singleton _, ?_⟩
    intro first mem second mem'
    obtain ⟨other, there, rfl⟩ := List.mem_map.mp mem
    rw [List.mem_singleton.mp mem']
    exact holds_eq_false.mp fresh other there

def insertOrIgnore (table : Table key) (row : Row) : Bool × Table key :=
  if h : table.holds (key row) = false then (true, table.append row h) else (false, table)

theorem insertOrIgnore_of_holds {table : Table key}
    (h : table.holds (key row) = true) : table.insertOrIgnore row = (false, table) := by
  unfold insertOrIgnore
  rw [dif_neg (by simp [h])]

theorem rows_insertOrIgnore {table : Table key} (h : table.holds (key row) = false) :
    (table.insertOrIgnore row).2.rows = table.rows ++ [row] := by
  unfold insertOrIgnore
  rw [dif_pos h]
  rfl

theorem insertOrIgnore_eq_self {table : Table key} :
    (table.insertOrIgnore row).2 = table ↔ table.holds (key row) = true := by
  constructor
  · intro same
    by_contra absent
    have rows := rows_insertOrIgnore (Bool.not_eq_true _ ▸ absent)
    rw [same] at rows
    have length := congrArg List.length rows
    simp at length
  · intro there
    rw [insertOrIgnore_of_holds there]

theorem mem_insertOrIgnore {table : Table key} :
    other ∈ (table.insertOrIgnore row).2.rows ↔
      other ∈ table.rows ∨ table.holds (key row) = false ∧ other = row := by
  cases there : table.holds (key row) with
  | true =>
    rw [insertOrIgnore_of_holds there]
    simp
  | false =>
    rw [rows_insertOrIgnore there]
    simp

theorem holds_insertOrIgnore {table : Table key} :
    (table.insertOrIgnore row).2.holds wanted = true ↔
      table.holds wanted = true ∨ key row = wanted := by
  rw [holds_eq_true, holds_eq_true]
  constructor
  · rintro ⟨other, mem, rfl⟩
    rcases mem_insertOrIgnore.mp mem with mem | ⟨_, rfl⟩
    · exact .inl ⟨other, mem, rfl⟩
    · exact .inr rfl
  · rintro (⟨other, mem, rfl⟩ | rfl)
    · exact ⟨other, mem_insertOrIgnore.mpr (.inl mem), rfl⟩
    · cases there : table.holds (key row) with
      | true =>
        obtain ⟨other, mem, same⟩ := holds_eq_true.mp there
        exact ⟨other, mem_insertOrIgnore.mpr (.inl mem), same⟩
      | false => exact ⟨row, mem_insertOrIgnore.mpr (.inr ⟨there, rfl⟩), rfl⟩

def upsert (table : Table key) (row : Row) : Table key :=
  (table.update (fun other => if key other = key row then row else other) (by
    intro other
    split
    · rename_i same
      exact same.symm
    · rfl)).insertOrIgnore row |>.2

theorem mem_upsert {table : Table key} :
    other ∈ (table.upsert row).rows ↔
      other = row ∨ other ∈ table.rows ∧ key other ≠ key row := by
  unfold upsert
  rw [mem_insertOrIgnore, holds_update]
  have replaced : other ∈ (table.rows.map fun other => if key other = key row then row else other) ↔
      table.holds (key row) = true ∧ other = row ∨ other ∈ table.rows ∧ key other ≠ key row := by
    rw [List.mem_map, holds_eq_true]
    constructor
    · rintro ⟨old, mem, rfl⟩
      by_cases same : key old = key row
      · rw [if_pos same]
        exact .inl ⟨⟨old, mem, same⟩, rfl⟩
      · rw [if_neg same]
        exact .inr ⟨mem, same⟩
    · rintro (⟨⟨old, mem, same⟩, rfl⟩ | ⟨mem, apart⟩)
      · exact ⟨old, mem, if_pos same⟩
      · exact ⟨other, mem, if_neg apart⟩
  refine (or_congr_left replaced).trans ?_
  cases table.holds (key row) <;> simp [or_comm]

theorem holds_upsert {table : Table key} :
    (table.upsert row).holds wanted = true ↔ table.holds wanted = true ∨ key row = wanted := by
  unfold upsert
  rw [holds_insertOrIgnore, holds_update]

theorem rows_upsert_of_absent {table : Table key} (absent : table.holds (key row) = false) :
    (table.upsert row).rows = table.rows ++ [row] := by
  unfold upsert
  rw [rows_insertOrIgnore (holds_update.trans absent)]
  refine congrArg (· ++ [row]) ((List.map_congr_left fun other mem => ?_).trans (List.map_id' _))
  exact if_neg (holds_eq_false.mp absent other mem)

theorem upsert_eq_self {table : Table key} : table.upsert row = table ↔ row ∈ table.rows := by
  constructor
  · intro same
    rw [← same]
    exact mem_upsert.mpr (.inl rfl)
  · intro mem
    have there : table.holds (key row) = true := holds_eq_true.mpr ⟨row, mem, rfl⟩
    unfold upsert
    rw [insertOrIgnore_of_holds (holds_update.trans there), update_eq_self]
    intro other mem'
    split
    · next same => exact table.eq_of_key_eq mem mem' same.symm
    · rfl

/-! What is looked up after an operation. -/

theorem find?_eq_some {table : Table key} :
    table.find? wanted = some row ↔ row ∈ table.rows ∧ key row = wanted := by
  constructor
  · intro found
    refine ⟨List.mem_of_find?_eq_some found, ?_⟩
    have keyed := List.find?_some found
    exact of_decide_eq_true keyed
  · rintro ⟨mem, rfl⟩
    cases found : table.find? (key row) with
    | none => exact absurd rfl (holds_eq_false.mp (find?_eq_none.mp found) row mem)
    | some other =>
      have keyed := List.find?_some found
      rw [eq_of_key_eq (List.mem_of_find?_eq_some found) mem (of_decide_eq_true keyed)]

theorem find?_update {table : Table key} :
    (table.update change keeps).find? wanted = (table.find? wanted).map change := by
  unfold find? update
  rw [List.find?_map]
  simp only [Function.comp_def, keeps]

theorem find?_deleteWhere {table : Table key} :
    (table.deleteWhere chosen).find? wanted =
      (table.find? wanted).filter fun row => !chosen row := by
  ext row
  rw [Option.filter_eq_some_iff, find?_eq_some, find?_eq_some]
  simp only [deleteWhere, List.mem_filter]
  exact and_right_comm

theorem find?_upsert {table : Table key} :
    (table.upsert row).find? wanted =
      if key row = wanted then some row else table.find? wanted := by
  ext other
  rw [find?_eq_some, mem_upsert]
  by_cases same : key row = wanted
  · subst same
    rw [if_pos rfl]
    constructor
    · rintro ⟨rfl | ⟨_, apart⟩, keyed⟩
      · rfl
      · exact absurd keyed apart
    · intro found
      cases found
      exact ⟨.inl rfl, rfl⟩
  · rw [if_neg same, find?_eq_some]
    constructor
    · rintro ⟨rfl | ⟨mem, _⟩, keyed⟩
      · exact absurd keyed same
      · exact ⟨mem, keyed⟩
    · rintro ⟨mem, rfl⟩
      exact ⟨.inr ⟨mem, Ne.symm same⟩, rfl⟩

section
variable {keep : Row → Bool} {first second table : Table key} {wanted : Key} {row : Row}

section
variable (kept : ∀ row, key row = wanted → keep row = true)
include kept

theorem find?_eq_view :
    table.find? wanted = (table.view keep).find? fun row => key row = wanted := by
  unfold find? view
  rw [List.find?_filter]
  congr 1
  funext row
  by_cases same : key row = wanted
  · simp [kept row same]
  · simp [same]

theorem holds_eq_view :
    table.holds wanted = (table.view keep).any fun row => key row = wanted := by
  unfold holds view
  rw [List.any_filter]
  congr 1
  funext row
  by_cases same : key row = wanted
  · simp [kept row same]
  · simp [same]

theorem holds_congr
    (same : first.view keep = second.view keep) : first.holds wanted = second.holds wanted := by
  rw [holds_eq_view kept, holds_eq_view kept, same]

end

theorem view_insertOrIgnore_of_hidden (hidden : keep row = false) :
    (table.insertOrIgnore row).2.view keep = table.view keep := by
  cases there : table.holds (key row) with
  | true => rw [insertOrIgnore_of_holds there]
  | false =>
    unfold view
    rw [rows_insertOrIgnore there, List.filter_append, List.filter_cons_of_neg (by simp [hidden]),
      List.filter_nil, List.append_nil]

theorem insertOrIgnore_congr (row : Row) (kept : ∀ other, key other = key row → keep other = true)
    (same : first.view keep = second.view keep) :
    (first.insertOrIgnore row).1 = (second.insertOrIgnore row).1 ∧
      (first.insertOrIgnore row).2.view keep = (second.insertOrIgnore row).2.view keep := by
  have holds := holds_congr kept same
  cases there : second.holds (key row) with
  | true =>
    rw [insertOrIgnore_of_holds there, insertOrIgnore_of_holds (holds.trans there)]
    exact ⟨rfl, same⟩
  | false =>
    constructor
    · unfold insertOrIgnore
      rw [dif_pos there, dif_pos (holds.trans there)]
    · unfold view at same ⊢
      rw [rows_insertOrIgnore there, rows_insertOrIgnore (holds.trans there), List.filter_append,
        List.filter_append, same]

theorem view_upsert_of_hidden (hidden : ∀ other, key other = key row → keep other = false) :
    (table.upsert row).view keep = table.view keep := by
  unfold upsert
  rw [view_insertOrIgnore_of_hidden (hidden row rfl), view_update]
  · refine (List.map_congr_left ?_).trans (List.map_id _)
    intro other mem
    have kept := (List.mem_filter.mp mem).2
    refine if_neg ?_
    intro same
    rw [hidden other same] at kept
    cases kept
  · intro other
    split
    · rename_i same
      rw [hidden other same, hidden row rfl]
    · rfl

theorem upsert_congr (kept : ∀ other, key other = key row → keep other = true)
    (same : first.view keep = second.view keep) :
    (first.upsert row).view keep = (second.upsert row).view keep := by
  refine (insertOrIgnore_congr row kept ?_).2
  have keeps : ∀ other, keep (if key other = key row then row else other) = keep other := by
    intro other
    split
    · rename_i match'
      rw [kept other match', kept row rfl]
    · rfl
  rw [view_update keeps, view_update keeps, same]

end

end Table

end Fetchit.Lib
