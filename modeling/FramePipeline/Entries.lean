/-!
# Entries by key

Lists of values by key, each key once, in the order in which the keys were first set.

Main definitions: `Entries`, `Entries.put`, `Entries.erase`; `Entries.lookup_put` and `Entries.lookup_erase`
say what these do to look-ups, `Entries.nodup_put` and `Entries.nodup_erase` that keys stay apart, and
`Entries.mem_values_iff` that the values are those that are found.
-/

namespace FramePipeline

/-- Values by key. -/
abbrev Entries (α : Type) := List (String × α)

namespace Entries

variable {α : Type}

/-- Sets the value of a key: a key that is there already keeps its place. -/
def put (key : String) (a : α) : Entries α → Entries α
  | [] => [(key, a)]
  | (k, b) :: rest => if k = key then (k, a) :: rest else (k, b) :: put key a rest

/-- Removes a key. -/
def erase (key : String) (es : Entries α) : Entries α :=
  es.filter (·.1 ≠ key)

theorem lookup_put_self (key : String) (a : α) (es : Entries α) :
    List.lookup key (put key a es) = some a := by
  induction es with
  | nil => simp [put]
  | cons e rest ih =>
    obtain ⟨k, b⟩ := e
    by_cases h : k = key
    · simp [put, h]
    · simp [put, h, List.lookup_cons, ih, beq_eq_false_iff_ne.mpr (Ne.symm h)]

theorem lookup_put_of_ne {key other : String} (h : other ≠ key) (a : α) (es : Entries α) :
    List.lookup other (put key a es) = List.lookup other es := by
  have hb : (other == key) = false := beq_eq_false_iff_ne.mpr h
  induction es with
  | nil => simp [put, List.lookup_cons, hb]
  | cons e rest ih =>
    obtain ⟨k, b⟩ := e
    by_cases hk : k = key
    · subst hk
      simp [put, List.lookup_cons, hb]
    · simp [put, hk, List.lookup_cons, ih]

theorem put_of_not_mem {key : String} {es : Entries α} (h : key ∉ es.map (·.1)) (a : α) :
    put key a es = es ++ [(key, a)] := by
  induction es with
  | nil => rfl
  | cons e rest ih =>
    obtain ⟨k, b⟩ := e
    simp only [List.map_cons, List.mem_cons, not_or] at h
    simp [put, Ne.symm h.1, ih h.2]

theorem mem_keys_put {key other : String} {a : α} {es : Entries α} (mem : other ∈ (put key a es).map (·.1)) :
    other = key ∨ other ∈ es.map (·.1) := by
  induction es with
  | nil => exact .inl (List.mem_singleton.mp mem)
  | cons e rest ih =>
    obtain ⟨k, b⟩ := e
    by_cases same : k = key
    · simp only [put, if_pos same] at mem
      exact .inr mem
    · simp only [put, if_neg same, List.map_cons, List.mem_cons] at mem
      obtain rfl | mem := mem
      · exact .inr (List.mem_cons_self ..)
      · exact (ih mem).imp_right (List.mem_cons_of_mem _)

theorem nodup_put {es : Entries α} (once : (es.map (·.1)).Nodup) (key : String) (a : α) :
    ((put key a es).map (·.1)).Nodup := by
  induction es with
  | nil => simp [put]
  | cons e rest ih =>
    obtain ⟨k, b⟩ := e
    obtain ⟨fresh, once'⟩ := List.nodup_cons.mp once
    by_cases same : k = key
    · simp only [put, if_pos same]
      exact once
    · simp only [put, if_neg same, List.map_cons]
      exact List.nodup_cons.mpr ⟨fun mem => (mem_keys_put mem).elim same fresh, ih once'⟩

theorem lookup_erase_self (key : String) (es : Entries α) : List.lookup key (erase key es) = none := by
  refine List.lookup_eq_none_iff.mpr fun e mem => ?_
  have kept : e.1 ≠ key := by simpa using (List.mem_filter.mp mem).2
  simpa using Ne.symm kept

theorem lookup_erase_of_ne {key other : String} (h : other ≠ key) (es : Entries α) :
    List.lookup other (erase key es) = List.lookup other es := by
  induction es with
  | nil => rfl
  | cons e rest ih =>
    obtain ⟨k, b⟩ := e
    by_cases hk : k = key
    · subst hk
      simpa [erase, List.lookup_cons, beq_eq_false_iff_ne.mpr h] using ih
    · have kept : erase key ((k, b) :: rest) = (k, b) :: erase key rest := by simp [erase, hk]
      rw [kept, List.lookup_cons, List.lookup_cons, ih]

theorem erase_of_not_mem {key : String} {es : Entries α} (h : key ∉ es.map (·.1)) :
    erase key es = es := by
  refine List.filter_eq_self.mpr fun e mem => ?_
  simpa using fun same : e.1 = key => h (same ▸ List.mem_map_of_mem mem)

/-- With each key once, erasing a key removes the entry that a look-up finds. -/
theorem perm_erase {key : String} {a : α} {es : Entries α} (once : (es.map (·.1)).Nodup)
    (found : List.lookup key es = some a) : es.Perm ((key, a) :: erase key es) := by
  induction es with
  | nil => cases found
  | cons e rest ih =>
    obtain ⟨k, b⟩ := e
    simp only [List.map_cons, List.nodup_cons] at once
    by_cases hk : k = key
    · subst hk
      obtain rfl : b = a := by simpa using found
      have gone : erase k ((k, b) :: rest) = rest := by
        rw [← erase_of_not_mem once.1]
        simp [erase]
      rw [gone]
    · have kept : erase key ((k, b) :: rest) = (k, b) :: erase key rest := by simp [erase, hk]
      rw [List.lookup_cons, beq_eq_false_iff_ne.mpr (Ne.symm hk)] at found
      rw [kept]
      exact ((ih once.2 found).cons _).trans (List.Perm.swap ..)

variable {key other : String} {a : α} {es : Entries α}

theorem lookup_put (key other : String) (a : α) (es : Entries α) :
    List.lookup other (put key a es) = if other = key then some a else List.lookup other es := by
  split
  · next same => rw [same, lookup_put_self]
  · next differ => exact lookup_put_of_ne differ a es

theorem lookup_erase (key other : String) (es : Entries α) :
    List.lookup other (erase key es) = if other = key then none else List.lookup other es := by
  split
  · next same => rw [same, lookup_erase_self]
  · next differ => exact lookup_erase_of_ne differ es

theorem nodup_erase (once : (es.map (·.1)).Nodup) (key : String) : ((erase key es).map (·.1)).Nodup :=
  once.sublist (List.filter_sublist.map _)

theorem mem_values_put {b : α} (mem : b ∈ (put key a es).map (·.2)) : b = a ∨ b ∈ es.map (·.2) := by
  induction es with
  | nil => exact .inl (List.mem_singleton.mp mem)
  | cons e rest ih =>
    obtain ⟨k, c⟩ := e
    by_cases same : k = key
    · simp only [put, if_pos same, List.map_cons, List.mem_cons] at mem
      exact mem.imp_right (List.mem_cons_of_mem _)
    · simp only [put, if_neg same, List.map_cons, List.mem_cons] at mem
      obtain rfl | mem := mem
      · exact .inr (List.mem_cons_self ..)
      · exact (ih mem).imp_right (List.mem_cons_of_mem _)

theorem mem_values_of_lookup (found : List.lookup key es = some a) : a ∈ es.map (·.2) := by
  obtain ⟨before, after, rfl, -⟩ := List.lookup_eq_some_iff.mp found
  simp

/-- With each key once, the values are those that are found. -/
theorem mem_values_iff (once : (es.map (·.1)).Nodup) :
    a ∈ es.map (·.2) ↔ ∃ key, List.lookup key es = some a := by
  constructor
  · intro mem
    obtain ⟨⟨key, b⟩, there, rfl⟩ := List.mem_map.mp mem
    obtain ⟨before, after, rfl⟩ := List.append_of_mem there
    refine ⟨key, List.lookup_eq_some_iff.mpr ⟨before, after, rfl, fun entry earlier => ?_⟩⟩
    rw [List.map_append, List.nodup_append] at once
    have differs := once.2.2 _ (List.mem_map_of_mem earlier) key (List.mem_cons_self ..)
    simpa using Ne.symm differs
  · exact fun ⟨_, found⟩ => mem_values_of_lookup found

end Entries

end FramePipeline
