/-! # Dictionaries

A dictionary maps texts to values. It is kept as a list of entries with strictly increasing keys, so two
dictionaries with the same look-ups are equal, and the order in which entries were put in cannot be seen. -/

namespace HostingClient

/-- Puts an entry into a sorted list of entries, in place of one with the same key. -/
def insertEntry {α : Type} (key : String) (value : α) : List (String × α) → List (String × α)
  | [] => [(key, value)]
  | (k, v) :: rest =>
    if key < k then (key, value) :: (k, v) :: rest
    else if k < key then (k, v) :: insertEntry key value rest
    else (key, value) :: rest

/-- Keys strictly increase. -/
abbrev SortedEntries {α : Type} (entries : List (String × α)) : Prop :=
  entries.Pairwise fun a b => a.1 < b.1

section
variable {α : Type}

theorem mem_insertEntry {key : String} {value : α} {entries : List (String × α)} {e : String × α}
    (h : e ∈ insertEntry key value entries) : e = (key, value) ∨ e ∈ entries := by
  induction entries with
  | nil => simpa [insertEntry] using h
  | cons x rest ih =>
    rw [insertEntry] at h
    split at h
    · simpa using h
    · split at h
      · rcases List.mem_cons.1 h with h | h
        · simp [h]
        · rcases ih h with h | h <;> simp [h]
      · rcases List.mem_cons.1 h with h | h <;> simp [h]

theorem sorted_insertEntry {key : String} {value : α} {entries : List (String × α)}
    (h : SortedEntries entries) : SortedEntries (insertEntry key value entries) := by
  induction entries with
  | nil => simp [insertEntry, SortedEntries]
  | cons x rest ih =>
    obtain ⟨hx, hr⟩ := List.pairwise_cons.1 h
    rw [insertEntry]
    split
    · next hk =>
      refine List.pairwise_cons.2 ⟨fun e he => ?_, h⟩
      rcases List.mem_cons.1 he with rfl | he
      · exact hk
      · exact String.lt_trans hk (hx e he)
    · next hk =>
      split
      · next hk' =>
        refine List.pairwise_cons.2 ⟨fun e he => ?_, ih hr⟩
        rcases mem_insertEntry he with rfl | he
        · exact hk'
        · exact hx e he
      · next hk' =>
        have : key = x.1 := String.le_antisymm (String.not_lt.1 hk') (String.not_lt.1 hk)
        exact List.pairwise_cons.2 ⟨fun e he => this ▸ hx e he, hr⟩

end

/-- A dictionary from texts to values. -/
structure Dict (α : Type) where
  entries : List (String × α)
  sorted : SortedEntries entries

namespace Dict
variable {α : Type}

/-- The dictionary without entries. -/
def empty : Dict α := ⟨[], List.Pairwise.nil⟩

instance : Inhabited (Dict α) := ⟨empty⟩

instance [Repr α] : Repr (Dict α) := ⟨fun d n => reprPrec d.entries n⟩

instance [DecidableEq α] : DecidableEq (Dict α) := fun a b =>
  decidable_of_iff (a.entries = b.entries) (by cases a; cases b; simp)

/-- The value of a key. -/
def find? (d : Dict α) (key : String) : Option α := d.entries.lookup key

/-- Gives a key a value, in place of the one it had. -/
def insert (d : Dict α) (key : String) (value : α) : Dict α :=
  ⟨insertEntry key value d.entries, sorted_insertEntry d.sorted⟩

/-- Takes a key out; nothing changes if it is not there. -/
def erase (d : Dict α) (key : String) : Dict α :=
  ⟨d.entries.filter fun e => e.1 != key, d.sorted.filter _⟩

/-- The dictionary of a list of entries, of which the last one with a key counts. -/
def ofList (entries : List (String × α)) : Dict α := entries.foldl (fun d e => d.insert e.1 e.2) empty

@[simp] theorem find?_empty (key : String) : (empty : Dict α).find? key = none := rfl

theorem lookup_entry (k' k : String) (v : α) (rest : List (String × α)) :
    ((k', v) :: rest).lookup k = if k = k' then some v else rest.lookup k := by
  rw [List.lookup_cons]
  by_cases h : k = k'
  · simp [h]
  · simp [h, beq_false_of_ne h]

theorem lookup_insertEntry (key k : String) (value : α) (entries : List (String × α)) :
    (insertEntry key value entries).lookup k = if k = key then some value else entries.lookup k := by
  induction entries with
  | nil => rw [insertEntry, lookup_entry]
  | cons x rest ih =>
    obtain ⟨k', v'⟩ := x
    rw [insertEntry]
    split
    · rw [lookup_entry]
    · next h1 =>
      split
      · next h2 =>
        have hne : k' ≠ key := fun e => String.lt_irrefl _ (e ▸ h2)
        rw [lookup_entry, lookup_entry, ih]
        by_cases h : k = k'
        · simp [h, hne]
        · simp [h]
      · next h2 =>
        have : key = k' := String.le_antisymm (String.not_lt.1 h2) (String.not_lt.1 h1)
        subst this
        rw [lookup_entry, lookup_entry]
        by_cases h : k = key <;> simp [h]

theorem lookup_filter (key k : String) (entries : List (String × α)) :
    (entries.filter fun e => e.1 != key).lookup k = if k = key then none else entries.lookup k := by
  induction entries with
  | nil => simp
  | cons x rest ih =>
    obtain ⟨k', v'⟩ := x
    rw [lookup_entry]
    by_cases hk : k' = key
    · rw [List.filter_cons_of_neg (by simp [hk]), ih]
      by_cases h : k = key
      · simp [h]
      · simp [h, show k ≠ k' from fun e => h (e.trans hk)]
    · rw [List.filter_cons_of_pos (by simp [hk]), lookup_entry, ih]
      by_cases h : k = k'
      · simp [h, hk]
      · simp [h]

@[simp] theorem find?_insert (d : Dict α) (key k : String) (value : α) :
    (d.insert key value).find? k = if k = key then some value else d.find? k :=
  lookup_insertEntry key k value d.entries

@[simp] theorem find?_erase (d : Dict α) (key k : String) :
    (d.erase key).find? k = if k = key then none else d.find? k :=
  lookup_filter key k d.entries

end Dict

end HostingClient
