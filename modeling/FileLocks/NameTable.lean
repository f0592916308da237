/-
  FileLocks/NameTable.lean
  ========================
  **Tables of named things.**

  A table holds at most one thing under a name and lists them in ascending order
  of the names.  The order is part of the table, so what it lists is what is found in it
  (`find?_eq_some_iff`), and the place of a name in the list is unique.
-/

namespace FileLocks

theorem mem_of_lookup_eq_some {κ α : Type} [BEq κ] [LawfulBEq κ] {entries : List (κ × α)} {key : κ}
    {value : α} (h : entries.lookup key = some value) : (key, value) ∈ entries := by
  obtain ⟨front, back, rfl, -⟩ := List.lookup_eq_some_iff.mp h
  exact List.mem_append_right front List.mem_cons_self

/-- Things under names, in ascending order of the names. -/
structure NameTable (α : Type) where
  entries : List (String × α)
  ascending : (entries.map Prod.fst).Pairwise (· < ·)

namespace NameTable

variable {α : Type}

/-! ### Ordered lists -/

/-- Put a thing at its place in an ordered list, instead of what had its name. -/
def insertEntry (name : String) (value : α) : List (String × α) → List (String × α)
  | [] => [(name, value)]
  | entry :: rest =>
    if name = entry.1 then (name, value) :: rest
    else if name < entry.1 then (name, value) :: entry :: rest
    else entry :: insertEntry name value rest

/-- A name that may follow two others may follow the list that has one put in. -/
theorem forall_lt_insertEntry {lower name : String} {value : α} (hname : lower < name) :
    ∀ {entries : List (String × α)}, (∀ other ∈ entries.map Prod.fst, lower < other) →
      ∀ other ∈ (insertEntry name value entries).map Prod.fst, lower < other := by
  intro entries
  induction entries with
  | nil =>
    intro _ other hother
    simp only [insertEntry, List.map_cons, List.map_nil, List.mem_singleton] at hother
    exact hother ▸ hname
  | cons entry rest ih =>
    intro hlower other hother
    simp only [List.map_cons, List.forall_mem_cons] at hlower
    unfold insertEntry at hother
    split at hother
    · rcases List.mem_cons.mp hother with h | h
      · exact h ▸ hname
      · exact hlower.2 other h
    · split at hother
      · rcases List.mem_cons.mp hother with h | h
        · exact h ▸ hname
        · rcases List.mem_cons.mp h with h | h
          · exact h ▸ hlower.1
          · exact hlower.2 other h
      · rcases List.mem_cons.mp hother with h | h
        · exact h ▸ hlower.1
        · exact ih hlower.2 other h

theorem pairwise_insertEntry (name : String) (value : α) :
    ∀ {entries : List (String × α)}, (entries.map Prod.fst).Pairwise (· < ·) →
      ((insertEntry name value entries).map Prod.fst).Pairwise (· < ·) := by
  intro entries
  induction entries with
  | nil => intro _; exact List.pairwise_singleton _ _
  | cons entry rest ih =>
    intro hordered
    rcases List.pairwise_cons.mp hordered with ⟨hhead, hrest⟩
    unfold insertEntry
    by_cases heq : name = entry.1
    · rw [if_pos heq]
      exact List.pairwise_cons.mpr ⟨heq ▸ hhead, hrest⟩
    · rw [if_neg heq]
      by_cases hlt : name < entry.1
      · rw [if_pos hlt]
        refine List.pairwise_cons.mpr ⟨?_, hordered⟩
        intro other hother
        rcases List.mem_cons.mp hother with h | h
        · exact h ▸ hlt
        · exact String.lt_trans hlt (hhead other h)
      · rw [if_neg hlt]
        have hgt : entry.1 < name := by
          rcases Std.le_iff_lt_or_eq.mp (String.not_lt.mp hlt) with h | h
          · exact h
          · exact absurd h.symm heq
        exact List.pairwise_cons.mpr ⟨forall_lt_insertEntry hgt hhead, ih hrest⟩

/-! ### Tables -/

/-- The table that holds nothing. -/
def empty : NameTable α :=
  ⟨[], List.Pairwise.nil⟩

/-- What the table holds under a name. -/
def find? (t : NameTable α) (name : String) : Option α :=
  t.entries.lookup name

/-- Put a thing under a name, instead of what was there. -/
def insert (t : NameTable α) (name : String) (value : α) : NameTable α :=
  ⟨insertEntry name value t.entries, pairwise_insertEntry name value t.ascending⟩

/-- Take away what is under a name. -/
def erase (t : NameTable α) (name : String) : NameTable α :=
  ⟨t.entries.filter fun entry => entry.1 != name,
    t.ascending.sublist (List.filter_sublist.map Prod.fst)⟩

/-- The things of the table, in the order of their names. -/
def values (t : NameTable α) : List α :=
  t.entries.map Prod.snd

/-- The names of the table, in the order in which it lists them. -/
def names (t : NameTable α) : List String :=
  t.entries.map Prod.fst

theorem nodup_names (t : NameTable α) : t.names.Nodup := by
  refine List.Pairwise.imp ?_ t.ascending
  intro a b hlt heq
  exact String.lt_irrefl a (heq ▸ hlt)

/-! ### Looking up after a change -/

theorem lookup_cons_eq_ite (name key : String) (value : α) (entries : List (String × α)) :
    ((key, value) :: entries).lookup name
      = if name = key then some value else entries.lookup name := by
  by_cases h : name = key
  · simp [h]
  · have : (name == key) = false := by simpa using h
    rw [List.lookup_cons, this, if_neg h]

theorem lookup_insertEntry (name other : String) (value : α) (entries : List (String × α)) :
    (insertEntry name value entries).lookup other
      = if other = name then some value else entries.lookup other := by
  induction entries with
  | nil => rw [insertEntry, lookup_cons_eq_ite]
  | cons entry rest ih =>
    obtain ⟨key, held⟩ := entry
    unfold insertEntry
    dsimp only
    split
    case isTrue h =>
      subst h
      simp only [lookup_cons_eq_ite]
      grind
    case isFalse h =>
      split
      case isTrue => simp only [lookup_cons_eq_ite]
      case isFalse =>
        simp only [lookup_cons_eq_ite, ih]
        grind

theorem find?_insert (t : NameTable α) (name other : String) (value : α) :
    (t.insert name value).find? other
      = if other = name then some value else t.find? other :=
  lookup_insertEntry name other value t.entries

theorem lookup_filter_ne (name other : String) (entries : List (String × α)) :
    (entries.filter fun entry => entry.1 != name).lookup other
      = if other = name then none else entries.lookup other := by
  induction entries with
  | nil => simp
  | cons entry rest ih =>
    obtain ⟨key, held⟩ := entry
    rw [List.filter_cons, lookup_cons_eq_ite]
    by_cases h : key = name
    · simp only [h, bne_self_eq_false, Bool.false_eq_true, if_false, ih]
      grind
    · have : (key != name) = true := by simpa using h
      simp only [this, if_true, lookup_cons_eq_ite, ih]
      grind

theorem find?_erase (t : NameTable α) (name other : String) :
    (t.erase name).find? other = if other = name then none else t.find? other :=
  lookup_filter_ne name other t.entries

/-! ### What is listed -/

/-- Without repeated names, what is listed is found. -/
theorem lookup_eq_some_of_mem {entries : List (String × α)} (h : (entries.map Prod.fst).Nodup)
    {name : String} {value : α} (listed : (name, value) ∈ entries) :
    entries.lookup name = some value := by
  induction entries with
  | nil => cases listed
  | cons entry rest ih =>
    rcases List.nodup_cons.mp h with ⟨hnew, hrest⟩
    rcases List.mem_cons.mp listed with rfl | hlisted
    · rw [lookup_cons_eq_ite, if_pos rfl]
    · obtain ⟨key, held⟩ := entry
      rw [lookup_cons_eq_ite, if_neg, ih hrest hlisted]
      rintro rfl
      exact hnew (List.mem_map.mpr ⟨_, hlisted, rfl⟩)

theorem find?_eq_some_iff {t : NameTable α} {name : String} {value : α} :
    t.find? name = some value ↔ (name, value) ∈ t.entries :=
  ⟨mem_of_lookup_eq_some, lookup_eq_some_of_mem t.nodup_names⟩

theorem mem_values_of_find? {t : NameTable α} {name : String} {value : α}
    (found : t.find? name = some value) : value ∈ t.values :=
  List.mem_map.mpr ⟨(name, value), find?_eq_some_iff.mp found, rfl⟩

end NameTable

end FileLocks
