/-! # Tables keyed by names

A table holds at most one value per name. Its entries are kept in strictly
increasing order of their names, so two tables that answer every look-up alike
are equal.
-/

namespace HlsEmit

/-- A finite map from names to values. -/
structure Table (α : Type) where
  /-- The names with their values, in increasing order of the names. -/
  entries : List (String × α)
  /-- Each name comes before every later one. -/
  sorted : entries.Pairwise (fun a b => a.1 < b.1)
  deriving DecidableEq

namespace Table

variable {α : Type}

/-- The table without entries. -/
def empty : Table α := ⟨[], .nil⟩

instance : EmptyCollection (Table α) := ⟨empty⟩

instance : Inhabited (Table α) := ⟨empty⟩

/-- Put `value` under `name` into an ordered list of entries. An entry of the
    same name gives way to the new one. -/
def insertEntry (name : String) (value : α) : List (String × α) → List (String × α)
  | [] => [(name, value)]
  | entry :: rest =>
      if name < entry.1 then (name, value) :: entry :: rest
      else if entry.1 < name then entry :: insertEntry name value rest
      else (name, value) :: rest

theorem fst_of_mem_insertEntry {name : String} {value : α} {entries : List (String × α)}
    {entry : String × α} (h : entry ∈ insertEntry name value entries) :
    entry.1 = name ∨ entry ∈ entries := by
  induction entries with
  | nil => simp_all [insertEntry]
  | cons head rest ih =>
      simp only [insertEntry] at h
      split at h
      · rcases List.mem_cons.mp h with rfl | h
        · exact .inl rfl
        · exact .inr h
      · split at h
        · rcases List.mem_cons.mp h with rfl | h
          · exact .inr (by simp)
          · exact (ih h).imp_right (List.mem_cons_of_mem _)
        · rcases List.mem_cons.mp h with rfl | h
          · exact .inl rfl
          · exact .inr (List.mem_cons_of_mem _ h)

theorem pairwise_insertEntry (name : String) (value : α) {entries : List (String × α)}
    (h : entries.Pairwise (fun a b => a.1 < b.1)) :
    (insertEntry name value entries).Pairwise (fun a b => a.1 < b.1) := by
  induction entries with
  | nil => simp [insertEntry]
  | cons head rest ih =>
      obtain ⟨first, tail⟩ := List.pairwise_cons.mp h
      simp only [insertEntry]
      split
      · rename_i before
        refine List.pairwise_cons.mpr ⟨fun entry inside => ?_, h⟩
        rcases List.mem_cons.mp inside with rfl | inside
        · exact before
        · exact String.lt_trans before (first entry inside)
      · rename_i notBefore
        split
        · rename_i after
          refine List.pairwise_cons.mpr ⟨fun entry inside => ?_, ih tail⟩
          rcases fst_of_mem_insertEntry inside with same | inside
          · exact same ▸ after
          · exact first entry inside
        · rename_i notAfter
          have same : head.1 = name :=
            String.le_antisymm (String.not_lt.mp notBefore) (String.not_lt.mp notAfter)
          exact List.pairwise_cons.mpr ⟨fun entry inside => same ▸ first entry inside, tail⟩

/-- The table with `value` under `name`, whatever stood there before. -/
def insert (table : Table α) (name : String) (value : α) : Table α :=
  ⟨insertEntry name value table.entries, pairwise_insertEntry name value table.sorted⟩

/-- The value under `name`, if there is one. -/
def find? (table : Table α) (name : String) : Option α :=
  (table.entries.find? (·.1 = name)).map (·.2)

/-- Whether there is a value under `name`. -/
def contains (table : Table α) (name : String) : Bool :=
  (table.find? name).isSome

/-- The number of names with a value. -/
def size (table : Table α) : Nat := table.entries.length

/-- Whether no name has a value. -/
def isEmpty (table : Table α) : Bool := table.entries.isEmpty

/-- Insert every pair in turn, so that the last pair of a name counts. -/
def insertAll (table : Table α) (pairs : List (String × α)) : Table α :=
  pairs.foldl (fun t pair => t.insert pair.1 pair.2) table

/-- The table of the given pairs, in which the last pair of a name counts. -/
def ofList (pairs : List (String × α)) : Table α := insertAll ∅ pairs

@[simp, grind =] theorem find?_empty (name : String) : (∅ : Table α).find? name = none := rfl

theorem find?_insertEntry (name other : String) (value : α) (entries : List (String × α)) :
    ((insertEntry name value entries).find? (·.1 = other)).map (·.2) =
      if name = other then some value else (entries.find? (·.1 = other)).map (·.2) := by
  induction entries with
  | nil => by_cases h : name = other <;> simp [insertEntry, h]
  | cons head rest ih =>
      simp only [insertEntry]
      split
      · by_cases h : name = other <;> simp [h]
      · rename_i notBefore
        split
        · rename_i after
          by_cases same : head.1 = other
          · have differ : name ≠ other := fun h => absurd after (by simp [same, h])
            simp [same, differ]
          · simp [same, ih]
        · rename_i notAfter
          have same : head.1 = name :=
            String.le_antisymm (String.not_lt.mp notBefore) (String.not_lt.mp notAfter)
          by_cases h : name = other <;> simp [same, h]

@[grind =] theorem find?_insert (table : Table α) (name other : String) (value : α) :
    (table.insert name value).find? other =
      if name = other then some value else table.find? other :=
  find?_insertEntry name other value table.entries

@[simp] theorem find?_insert_self (table : Table α) (name : String) (value : α) :
    (table.insert name value).find? name = some value := by
  simp [find?_insert]

theorem find?_insert_of_ne (table : Table α) {name other : String} (value : α)
    (h : name ≠ other) : (table.insert name value).find? other = table.find? other := by
  simp [find?_insert, h]

theorem find?_insertAll (pairs : List (String × α)) (table : Table α) (name : String) :
    (table.insertAll pairs).find? name =
      ((pairs.reverse.find? (·.1 = name)).map (·.2)).or (table.find? name) := by
  induction pairs generalizing table with
  | nil => simp [insertAll]
  | cons pair rest ih =>
      have step : (table.insertAll (pair :: rest)) =
          (table.insert pair.1 pair.2).insertAll rest := rfl
      rw [step, ih, find?_insert]
      by_cases h : pair.1 = name
      · cases found : rest.reverse.find? (·.1 = name) <;> simp [List.find?_append, found, h]
      · cases found : rest.reverse.find? (·.1 = name) <;> simp [List.find?_append, found, h]

@[simp, grind =] theorem contains_eq_isSome (table : Table α) (name : String) :
    table.contains name = (table.find? name).isSome := rfl

theorem find?_eq_some_iff {table : Table α} {name : String} {value : α} :
    table.find? name = some value ↔ (name, value) ∈ table.entries := by
  obtain ⟨entries, sorted⟩ := table
  simp only [find?]
  induction entries with
  | nil => simp
  | cons head rest ih =>
      obtain ⟨first, tail⟩ := List.pairwise_cons.mp sorted
      by_cases same : head.1 = name
      · have absent : (name, value) ∉ rest := fun inside =>
          String.lt_irrefl name (by simpa [same] using first _ inside)
        obtain ⟨key, held⟩ := head
        simp only [List.find?_cons, show key = name from same, decide_true, List.mem_cons, absent,
          or_false]
        simp [eq_comm]
      · have differ : (name, value) ≠ head := fun h => same (h ▸ rfl)
        simp only [List.find?_cons, same, decide_false, List.mem_cons, differ, false_or]
        exact ih tail

/-- Tables that answer every look-up alike are equal. -/
theorem ext {s t : Table α} (h : ∀ name, s.find? name = t.find? name) : s = t := by
  have members : ∀ entry, entry ∈ s.entries ↔ entry ∈ t.entries := fun entry => by
    rw [show entry = (entry.1, entry.2) from rfl, ← find?_eq_some_iff, h, find?_eq_some_iff]
  obtain ⟨left, hleft⟩ := s
  obtain ⟨right, hright⟩ := t
  have same : left = right := by
    clear h
    induction left generalizing right with
    | nil =>
        cases right with
        | nil => rfl
        | cons b right => simpa using members b
    | cons a left ih =>
        cases right with
        | nil => simpa using members a
        | cons b right =>
            obtain ⟨afirst, atail⟩ := List.pairwise_cons.mp hleft
            obtain ⟨bfirst, btail⟩ := List.pairwise_cons.mp hright
            have heads : a = b := by
              rcases List.mem_cons.mp ((members a).mp (by simp)) with same | inRight
              · exact same
              · rcases List.mem_cons.mp ((members b).mpr (by simp)) with same | inLeft
                · exact same.symm
                · exact absurd (bfirst a inRight) (String.lt_asymm (afirst b inLeft))
            subst heads
            have tails : ∀ entry, entry ∈ left ↔ entry ∈ right := fun entry => by
              constructor
              · intro inside
                rcases List.mem_cons.mp ((members entry).mp (by simp [inside])) with same | h
                · exact absurd (afirst entry inside) (same ▸ String.lt_irrefl _)
                · exact h
              · intro inside
                rcases List.mem_cons.mp ((members entry).mpr (by simp [inside])) with same | h
                · exact absurd (bfirst entry inside) (same ▸ String.lt_irrefl _)
                · exact h
            rw [ih atail right btail tails]
  subst same
  rfl

end Table

end HlsEmit
