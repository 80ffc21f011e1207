import Mathlib.Data.List.AList
import Mathlib.Data.List.DropRight

/-!
# Tables in a file of keys and values

A file of keys and values has no tables. A program that wants one gives the keys of a row a
number: the value of the row 2 in the column `name` is the value of the key `name2`. Such a table
is a list of entries here (`Numbered.Schema.table`), with the rows numbered from `first` on; a row
need not have a value in every column.

No name of a column ends in a digit, so no key stands for two values (`Numbered.key_inj`). In a
file with the entries of a table, in any order and with other entries between them, the keys of a
row have the values of that row (`Numbered.Schema.HasTable.dlookup_key`).
-/

namespace Numbered

/-- The key of a column in the row with a number. -/
def key (column : List Char) (no : ℕ) : List Char := column ++ Nat.toDigits 10 no

/-- **The name of a column**: it does not end in a digit, so that the number can be told from it. -/
def IsName (column : List Char) : Prop := (column.getLast?.any Char.isDigit) = false

instance : DecidablePred IsName := fun _ => inferInstanceAs (Decidable (_ = _))

variable {ρ ν : Type*}

/-- **A column**: its name, and the value of each row that has one. -/
structure Column (ρ ν : Type*) where
  /-- The name of the column. -/
  name : List Char
  /-- The value of a row. -/
  value : ρ → Option ν

/-- **The columns of a table.** -/
structure Schema (ρ ν : Type*) where
  /-- The columns. -/
  columns : List (Column ρ ν)
  /-- Their names can be told from the numbers, -/
  names : ∀ name ∈ columns.map Column.name, IsName name
  /-- and they are different. -/
  nodup : (columns.map Column.name).Nodup

/-- The row with a number. -/
def rowAt (first : ℕ) (rows : List ρ) (no : ℕ) : Option ρ :=
  if first ≤ no then rows[no - first]? else none

namespace Schema

variable (schema : Schema ρ ν)

/-- The entries of a row. -/
def rowEntries (row : ρ) (no : ℕ) : List (Σ _ : List Char, ν) :=
  schema.columns.filterMap
    (fun column => (column.value row).map (fun v => ⟨key column.name no, v⟩))

/-- **The entries of a table**, with its rows numbered from `first` on. -/
def table (first : ℕ) (rows : List ρ) : List (Σ _ : List Char, ν) :=
  (rows.zipIdx first).flatMap (fun r => schema.rowEntries r.1 r.2)

/-- **A file with a table in it**: the entries of the table are there, in any order, and no other
key looks like one of the table. -/
def HasTable (entries : List (Σ _ : List Char, ν)) (first : ℕ) (rows : List ρ) : Prop :=
  ∃ other, entries.Perm (schema.table first rows ++ other)
    ∧ ∀ entry ∈ other, ∀ column ∈ schema.columns, ∀ no, entry.1 ≠ key column.name no

end Schema

/-! ## No key is there twice -/

/-- The digits of a key are those of its number. -/
theorem rdropWhile_key {column : List Char} (h : IsName column) (no : ℕ) :
    (key column no).rdropWhile Char.isDigit = column := by
  have hdigits : ∀ c ∈ (Nat.toDigits 10 no).reverse, c.isDigit = true := fun c hc =>
    Nat.isDigit_of_mem_toDigits (by decide) (by decide) (List.mem_reverse.mp hc)
  unfold List.rdropWhile key
  rw [List.reverse_append, List.dropWhile_append_of_pos hdigits]
  rcases List.eq_nil_or_concat column with rfl | ⟨column, c, rfl⟩
  · rfl
  · unfold IsName at h
    rw [List.concat_eq_append, List.getLast?_concat] at h
    rw [List.concat_eq_append, List.reverse_append]
    show ((c :: column.reverse).dropWhile Char.isDigit).reverse = _
    rw [List.dropWhile_cons_of_neg (by rw [show c.isDigit = false from h]; decide),
      List.reverse_cons, List.reverse_reverse]

/-- **A key has one column and one number.** -/
theorem key_inj {column column' : List Char} {no no' : ℕ} (h : IsName column) (h' : IsName column')
    (heq : key column no = key column' no') : column = column' ∧ no = no' := by
  have hcolumn : column = column' := by
    rw [← rdropWhile_key h no, heq, rdropWhile_key h']
  subst hcolumn
  have hdigits : Nat.toDigits 10 no = Nat.toDigits 10 no' := List.append_cancel_left heq
  refine ⟨rfl, ?_⟩
  rw [← Nat.ofDigitChars_ten_toDigits (n := no), hdigits, Nat.ofDigitChars_ten_toDigits]

/-- A name is no key. -/
theorem ne_key_of_isName {name : List Char} (h : IsName name) (column : List Char) (no : ℕ) :
    name ≠ key column no := by
  rintro rfl
  obtain ⟨digits, c, hdigits⟩ :=
    List.eq_nil_or_concat (Nat.toDigits 10 no) |>.resolve_left Nat.toDigits_ne_nil
  rw [List.concat_eq_append] at hdigits
  have hmem : c ∈ Nat.toDigits 10 no := by
    rw [hdigits]
    exact List.mem_append_right _ (List.mem_singleton_self c)
  have hc : c.isDigit = true := Nat.isDigit_of_mem_toDigits (by decide) (by decide) hmem
  unfold IsName key at h
  rw [hdigits, ← List.append_assoc, List.getLast?_concat] at h
  exact Bool.noConfusion (hc.symm.trans h)

/-! ## The rows of a file -/

/-- **Rows that are numbered from one** are the rows with the numbers from one on. -/
theorem map_rowAt_one {β : Type*} (rows : List ρ) (f : Option ρ → β) :
    (List.range rows.length).map (fun i => f (rowAt 1 rows (i + 1)))
      = rows.map (fun row => f (some row)) := by
  refine List.ext_getElem (by simp) (fun i hi hi' => ?_)
  rw [List.length_map] at hi'
  simp [rowAt, hi']

/-- **Rows that are numbered from zero** lose the first one to them, and the last of the numbers
has no row. -/
theorem map_rowAt_zero {β : Type*} {rows : List ρ} (h : rows ≠ []) (f : Option ρ → β) :
    (List.range rows.length).map (fun i => f (rowAt 0 rows (i + 1)))
      = rows.tail.map (fun row => f (some row)) ++ [f none] := by
  obtain ⟨row, rows, rfl⟩ := List.exists_cons_of_ne_nil h
  rw [List.length_cons, List.range_succ, List.map_append, List.tail_cons, List.map_singleton]
  congr 1
  · refine List.ext_getElem (by simp) (fun i hi hi' => ?_)
    rw [List.length_map] at hi'
    simp [rowAt, hi']
  · simp [rowAt]

/-! ## Looking up a key -/

namespace Schema

variable {schema : Schema ρ ν} {entries : List (Σ _ : List Char, ν)} {first : ℕ} {rows : List ρ}

/-- **A table that is written with other entries**, none of which has a number, is in the file. -/
theorem hasTable_append {other : List (Σ _ : List Char, ν)}
    (h : ∀ entry ∈ other, IsName entry.1) :
    schema.HasTable (schema.table first rows ++ other) first rows :=
  ⟨other, List.Perm.refl _, fun entry hentry _ _ no => ne_key_of_isName (h entry hentry) _ no⟩

/-- **The entries of a table** are the values of its rows. -/
theorem mem_table {entry : Σ _ : List Char, ν} :
    entry ∈ schema.table first rows
      ↔ ∃ no row column v, rowAt first rows no = some row ∧ column ∈ schema.columns
        ∧ column.value row = some v ∧ entry = ⟨key column.name no, v⟩ := by
  have hrow : ∀ row no, (row, no) ∈ rows.zipIdx first ↔ rowAt first rows no = some row := by
    intro row no
    unfold rowAt
    rw [List.mk_mem_zipIdx_iff_le_and_getElem?_sub]
    split
    · next hle => exact and_iff_right hle
    · next hlt => exact iff_of_false (fun h => hlt h.1) (by simp)
  unfold table rowEntries
  rw [List.mem_flatMap]
  constructor
  · rintro ⟨⟨row, no⟩, hmem, hentry⟩
    obtain ⟨column, hcolumn, hvalue⟩ := List.mem_filterMap.mp hentry
    obtain ⟨v, hv, rfl⟩ := Option.map_eq_some_iff.mp hvalue
    exact ⟨no, row, column, v, (hrow row no).mp hmem, hcolumn, hv, rfl⟩
  · rintro ⟨no, row, column, v, hat, hcolumn, hv, rfl⟩
    exact ⟨(row, no), (hrow row no).mpr hat, List.mem_filterMap.mpr
      ⟨column, hcolumn, Option.map_eq_some_iff.mpr ⟨v, hv, rfl⟩⟩⟩

/-- **A file with a table in it has the values of the table.** -/
theorem HasTable.dlookup_key (h : schema.HasTable entries first rows)
    (hentries : entries.NodupKeys) {column : Column ρ ν} (hcolumn : column ∈ schema.columns)
    (no : ℕ) :
    entries.dlookup (key column.name no) = (rowAt first rows no).bind column.value := by
  obtain ⟨other, hperm, hother⟩ := h
  ext v
  rw [← Option.mem_def, List.mem_dlookup_iff hentries, hperm.mem_iff, List.mem_append, mem_table,
    Option.bind_eq_some_iff]
  constructor
  · rintro (⟨no', row, column', v', hat, hcolumn', hv, heq⟩ | hmem)
    · obtain ⟨hkey, hvalue⟩ := Sigma.mk.inj heq
      obtain ⟨hname, rfl⟩ :=
        key_inj (schema.names _ (List.mem_map_of_mem hcolumn))
          (schema.names _ (List.mem_map_of_mem hcolumn')) hkey
      obtain rfl : column = column' :=
        List.inj_on_of_nodup_map schema.nodup hcolumn hcolumn' hname
      obtain rfl := eq_of_heq hvalue
      exact ⟨row, hat, hv⟩
    · exact absurd rfl (hother _ hmem column hcolumn no)
  · rintro ⟨row, hat, hv⟩
    exact .inl ⟨no, row, column, v, hat, hcolumn, hv, rfl⟩

end Schema

end Numbered
