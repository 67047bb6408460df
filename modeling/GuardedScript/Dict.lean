/-!
# Dictionaries in key order

A dictionary is a list of entries whose keys ascend, in the order of code points. Inserting
under a key that is present replaces its value, so the last value written under a key is
the one that is found.

The laws of `get?` hold for every list of entries. That the keys ascend is stated apart, as
`Dict.Ascending`, and kept when a value is inserted.
-/

namespace GuardedScript

/-- Entries under string keys. -/
abbrev Dict (α : Type u) := List (String × α)

namespace Dict

variable {α : Type u}

/-- The value under a key. -/
def get? (key : String) : Dict α → Option α
  | [] => none
  | (k, v) :: rest => if k = key then some v else get? key rest

/-- The dictionary with a value under a key, in place of the value that was there. -/
def insert (key : String) (value : α) : Dict α → Dict α
  | [] => [(key, value)]
  | (k, v) :: rest =>
    if key < k then (key, value) :: (k, v) :: rest
    else if k = key then (key, value) :: rest
    else (k, v) :: insert key value rest

/-- The dictionary without the entries under a key. -/
def erase (key : String) (d : Dict α) : Dict α :=
  d.filter fun entry => entry.1 ≠ key

/-- The dictionary of a list of entries; of entries under one key, the last counts. -/
def ofList (entries : List (String × α)) : Dict α :=
  entries.foldl (fun d entry => d.insert entry.1 entry.2) []

/-- The keys ascend strictly. -/
def Ascending (d : Dict α) : Prop :=
  d.Pairwise fun a b => a.1 < b.1

@[simp]
theorem get?_nil (key : String) :
  get? key ([] : Dict α) = none
  := by
  rfl

@[simp]
theorem get?_insert_self (key : String) (value : α) (d : Dict α) :
  (d.insert key value).get? key = some value
  := by
  induction d with
  | nil => simp [insert, get?]
  | cons entry rest ih =>
    obtain ⟨k, v⟩ := entry
    simp only [insert]
    split
    · simp [get?]
    · split
      · simp [get?]
      · simp [get?, *]

theorem get?_insert_of_ne {key other : String} (h : key ≠ other) (value : α) (d : Dict α) :
  (d.insert key value).get? other = d.get? other
  := by
  induction d with
  | nil => simp [insert, get?, h]
  | cons entry rest ih =>
    obtain ⟨k, v⟩ := entry
    simp only [insert]
    split
    · simp [get?, h]
    · split
      · rename_i hk
        subst hk
        simp [get?, h]
      · simp [get?, ih]

/-- The value under a key is that of an entry. -/
theorem mem_of_get? {key : String} {value : α} {d : Dict α} (h : d.get? key = some value) :
  (key, value) ∈ d
  := by
  induction d with
  | nil => cases h
  | cons entry rest ih =>
    obtain ⟨k, v⟩ := entry
    rw [get?] at h
    split at h
    · rename_i hkey
      cases h
      rw [hkey]
      apply List.mem_cons_self
    · apply List.mem_cons_of_mem _ (ih h)

/-! ### The order of the keys -/

/-- Of two different keys, one comes before the other. -/
theorem lt_of_not_lt_of_ne {a b : String} (h : ¬ a < b) (hne : b ≠ a) :
  b < a
  := by
  apply Decidable.byContradiction
  intro hba
  apply hne
  apply String.le_antisymm
  · exact String.not_lt.mp h
  · exact String.not_lt.mp hba

/-- Every entry after an insertion is the new one or was there before. -/
theorem eq_or_mem_of_mem_insert {key : String} {value : α} {d : Dict α} {entry : String × α}
    (h : entry ∈ d.insert key value) :
  entry = (key, value) ∨ entry ∈ d
  := by
  induction d with
  | nil => simp_all [insert]
  | cons first rest ih =>
    obtain ⟨k, v⟩ := first
    simp only [insert] at h
    split at h
    · apply List.mem_cons.mp h
    · split at h
      · rcases List.mem_cons.mp h with rfl | h
        · exact .inl rfl
        · exact .inr (List.mem_cons_of_mem _ h)
      · rcases List.mem_cons.mp h with rfl | h
        · exact .inr List.mem_cons_self
        · rcases ih h with rfl | h
          · exact .inl rfl
          · exact .inr (List.mem_cons_of_mem _ h)

/-- Inserting keeps the keys ascending. -/
theorem Ascending.insert {d : Dict α} (h : d.Ascending) (key : String) (value : α) :
  (d.insert key value).Ascending
  := by
  induction d with
  | nil => simp [Ascending, Dict.insert]
  | cons first rest ih =>
    obtain ⟨k, v⟩ := first
    obtain ⟨hfirst, hrest⟩ := List.pairwise_cons.mp h
    simp only [Dict.insert]
    split
    · rename_i hlt
      apply List.pairwise_cons.mpr
      constructor
      · intro entry hentry
        rcases List.mem_cons.mp hentry with rfl | hentry
        · exact hlt
        · exact String.lt_trans hlt (hfirst entry hentry)
      · exact h
    · rename_i hlt
      split
      · rename_i heq
        subst heq
        exact List.pairwise_cons.mpr ⟨fun entry hentry => hfirst entry hentry, hrest⟩
      · rename_i hne
        apply List.pairwise_cons.mpr
        constructor
        · intro entry hentry
          rcases eq_or_mem_of_mem_insert hentry with rfl | hmem
          · exact lt_of_not_lt_of_ne hlt hne
          · exact hfirst entry hmem
        · exact ih hrest

/-- The dictionary of a list has its keys in order. -/
theorem ascending_ofList (entries : List (String × α)) :
  (ofList entries).Ascending
  := by
  suffices h : ∀ d : Dict α, d.Ascending →
      Ascending (entries.foldl (fun d entry => d.insert entry.1 entry.2) d) by
    exact h [] List.Pairwise.nil
  induction entries with
  | nil =>
    intro d hd
    exact hd
  | cons entry rest ih =>
    intro d hd
    apply ih
    apply hd.insert

/-- A key after all others is inserted at the end. -/
theorem insert_of_forall_lt {key : String} {d : Dict α} (h : ∀ entry ∈ d, entry.1 < key)
    (value : α) :
  d.insert key value = d ++ [(key, value)]
  := by
  induction d with
  | nil => rfl
  | cons first rest ih =>
    obtain ⟨k, v⟩ := first
    obtain ⟨hfirst, hrest⟩ := List.forall_mem_cons.mp h
    have hne : k ≠ key := by
      rintro rfl
      apply String.lt_irrefl k hfirst
    rw [insert, if_neg (String.lt_asymm hfirst), if_neg hne, ih hrest, List.cons_append]

/-- Entries that go on ascending are inserted one behind the other. -/
theorem foldl_insert_of_ascending {front d : Dict α} (h : Ascending (front ++ d)) :
  d.foldl (fun d entry => Dict.insert entry.1 entry.2 d) front = front ++ d
  := by
  induction d generalizing front with
  | nil => rw [List.foldl_nil, List.append_nil]
  | cons entry rest ih =>
    have hlast : ∀ other ∈ front, other.1 < entry.1 := by
      intro other hother
      apply (List.pairwise_append.mp h).2.2 other hother entry List.mem_cons_self
    rw [List.append_cons] at h
    rw [List.foldl_cons, insert_of_forall_lt hlast, ih h, ← List.append_cons]

/-- Entries whose keys ascend are a dictionary as they stand. -/
theorem ofList_of_ascending {d : Dict α} (h : d.Ascending) :
  ofList d = d
  := by
  have hnil : Ascending ([] ++ d) := h
  apply foldl_insert_of_ascending hnil

end Dict

end GuardedScript
