/-
  FileLocks/Proofs/Kernel/Descriptors.lean
  ========================================
  **Opening and closing.**

  A new descriptor gets a number that was free, and changes no lock and no other
  descriptor.  Closing one takes away the locks of the process, and those of its
  description if no other descriptor is left of it.
-/
import FileLocks.Proofs.Kernel.Requests

namespace FileLocks.Kernel

theorem sound_initial : initial.Sound :=
  ⟨LockTable.consistent_nil, nofun⟩

/-! ### New descriptors -/

theorem lowestFree?_eq_some {k : Kernel} {number : Int32} (h : k.lowestFree? = some number) :
    0 ≤ number ∧ k.descriptor? number = none := by
  rcases Option.map_eq_some_iff.mp h with ⟨i, hfind, rfl⟩
  have hfree := List.find?_some hfind
  simp only [Bool.and_eq_true, decide_eq_true_eq, Bool.not_eq_true'] at hfree
  obtain ⟨hsmall, hunused⟩ := hfree
  constructor
  · rw [Int32.le_iff_toInt_le, Int32.toInt_ofNat_of_lt hsmall]
    exact Int.natCast_nonneg _
  · apply List.find?_eq_none.mpr
    intro d hd hnumber
    exact List.any_eq_false.mp hunused d hd hnumber

/-- A descriptor was added under a number that was free. -/
structure Adds (k k' : Kernel) (number : Int32) : Prop where
  locks : k'.locks = k.locks
  free : k.descriptor? number = none
  keeps : ∀ n d, k.descriptor? n = some d → k'.descriptor? n = some d
  sound : k.Sound → k'.Sound

theorem adds_of_cons {k k' : Kernel} {d : Descriptor} (locks : k'.locks = k.locks)
    (hnumber : k.lowestFree? = some d.number)
    (hdescriptors : k'.descriptors = d :: k.descriptors) : Adds k k' d.number := by
  obtain ⟨hnonneg, hfree⟩ := lowestFree?_eq_some hnumber
  refine ⟨locks, hfree, ?_, ?_⟩
  · intro n d' hd'
    have hne : (d.number == n) = false := by
      rw [beq_eq_false_iff_ne]
      rintro rfl
      rw [hfree] at hd'
      cases hd'
    rw [descriptor?, hdescriptors, List.find?_cons_of_neg (by rw [hne]; exact Bool.noConfusion)]
    exact hd'
  · intro hk
    refine ⟨locks ▸ hk.consistent, ?_⟩
    rw [hdescriptors]
    exact List.forall_mem_cons.mpr ⟨hnonneg, hk.numbers⟩

theorem adds_openFile {k k' : Kernel} {access : Access} {number : Int32}
    (h : k.openFile access = .ok (number, k')) : Adds k k' number := by
  unfold openFile at h
  split at h
  · cases h
  · next hnumber =>
    cases h
    exact adds_of_cons (d := ⟨_, k.opened, access⟩) rfl hnumber rfl

theorem adds_dup {k k' : Kernel} {number copy : Int32} (h : k.dup number = .ok (copy, k')) :
    Adds k k' copy := by
  unfold dup at h
  split at h
  · cases h
  · next d hd =>
    split at h
    · cases h
    · next hcopy =>
      cases h
      exact adds_of_cons (d := { d with number := copy }) rfl hcopy rfl

/-! ### Closed descriptors -/

theorem exists_of_close {k k' : Kernel} {number : Int32} (h : k.close number = .ok k') :
    ∃ d, k.descriptor? number = some d ∧
      k'.descriptors = (k.descriptors.filter fun other => other.number != number) ∧
      k'.locks = locksAfterClose k.locks d.description k'.descriptors := by
  unfold close at h
  split at h
  · cases h
  · next d hd =>
    cases h
    exact ⟨d, hd, rfl, rfl⟩

theorem descriptor?_close {k k' : Kernel} {number n : Int32} (h : k.close number = .ok k')
    (hn : n ≠ number) : k'.descriptor? n = k.descriptor? n := by
  obtain ⟨d, -, hdescriptors, -⟩ := exists_of_close h
  rw [descriptor?, descriptor?, hdescriptors, List.find?_filter]
  congr 1
  funext other
  by_cases hother : other.number = n
  · subst hother
    simp [hn]
  · simp [hother]

theorem Sound.close {k k' : Kernel} (hk : k.Sound) {number : Int32}
    (h : k.close number = .ok k') : k'.Sound := by
  obtain ⟨d, -, hdescriptors, hlocks⟩ := exists_of_close h
  constructor
  · rw [hlocks, locksAfterClose]
    have hprocess := hk.consistent.dropOwner .process
    split
    · exact hprocess
    · exact hprocess.dropOwner _
  · intro other hother
    rw [hdescriptors] at hother
    exact hk.numbers other (List.mem_filter.mp hother).1

theorem number_of_descriptor? {k : Kernel} {number : Int32} {d : Descriptor}
    (h : k.descriptor? number = some d) : d.number = number := by
  have hfound := List.find?_some h
  exact beq_iff_eq.mp hfound

/-- To close the descriptor ends the locks of an owner: those of the process in any case,
    and those of its description if no other descriptor is left of that. -/
def Frees (k : Kernel) (d : Descriptor) (o : Owner) : Prop :=
  o = .process ∨ o = .description d.description ∧
    ∀ other ∈ k.descriptors, other.number ≠ d.number → other.description ≠ d.description

instance (k : Kernel) (d : Descriptor) (o : Owner) : Decidable (k.Frees d o) := by
  unfold Frees
  infer_instance

/-- Closing takes away the locks that it ends, and no others. -/
theorem view_close_eq {k k' : Kernel} {number : Int32} {d : Descriptor}
    (h : k.close number = .ok k') (found : k.descriptor? number = some d) (o : Owner) (b : Nat) :
    k'.view o b = if k.Frees d o then none else k.view o b := by
  obtain ⟨d', hfound, hdescriptors, hlocks⟩ := exists_of_close h
  obtain rfl := Option.some.inj (found.symm.trans hfound)
  obtain rfl := number_of_descriptor? found
  have hstays : (k'.descriptors.any fun other => other.description == d.description) = true ↔
      ∃ other ∈ k.descriptors, other.number ≠ d.number ∧ other.description = d.description := by
    rw [hdescriptors, List.any_eq_true]
    simp only [List.mem_filter, bne_iff_ne, beq_iff_eq, and_assoc]
  rw [view, hlocks, locksAfterClose]
  by_cases hprocess : o = .process
  · have hfrees : k.Frees d o := Or.inl hprocess
    rw [if_pos hfrees]
    split
    · rw [LockTable.modeAt_dropOwner, if_pos hprocess]
    · rw [LockTable.modeAt_dropOwner, LockTable.modeAt_dropOwner, if_pos hprocess, ite_self]
  · split
    · next hany =>
      obtain ⟨other, hother, hnumber, hsame⟩ := hstays.mp hany
      rw [LockTable.modeAt_dropOwner, if_neg hprocess, if_neg]
      · rfl
      · rintro (heq | ⟨-, hnone⟩)
        · exact hprocess heq
        · exact hnone other hother hnumber hsame
    · next hlast =>
      rw [LockTable.modeAt_dropOwner, LockTable.modeAt_dropOwner, if_neg hprocess]
      by_cases howner : o = .description d.description
      · rw [if_pos howner, if_pos]
        refine Or.inr ⟨howner, ?_⟩
        intro other hother hnumber hsame
        exact hlast (hstays.mpr ⟨other, hother, hnumber, hsame⟩)
      · rw [if_neg howner, if_neg]
        · rfl
        · rintro (heq | ⟨heq, -⟩)
          · exact hprocess heq
          · exact howner heq

/-- Closing only takes locks away. -/
theorem view_close {k k' : Kernel} {number : Int32} (h : k.close number = .ok k') (o : Owner)
    (b : Nat) : k'.view o b = none ∨ k'.view o b = k.view o b := by
  obtain ⟨d, hfound, -, -⟩ := exists_of_close h
  rw [view_close_eq h hfound]
  split
  · exact Or.inl rfl
  · exact Or.inr rfl

/-- A description keeps its locks as long as one of its descriptors stays. -/
theorem view_close_of_descriptor? {k k' : Kernel} {number n : Int32} {d : Descriptor}
    (h : k.close number = .ok k') (hn : n ≠ number) (hd : k.descriptor? n = some d) (b : Nat) :
    k'.view (.description d.description) b = k.view (.description d.description) b := by
  obtain ⟨closed, hfound, -, -⟩ := exists_of_close h
  rw [view_close_eq h hfound, if_neg]
  rintro (heq | ⟨heq, hnone⟩)
  · exact Owner.noConfusion heq
  · have hother : d.number ≠ closed.number := by
      rw [number_of_descriptor? hd, number_of_descriptor? hfound]
      exact hn
    exact hnone d (List.mem_of_find?_eq_some hd) hother (Owner.description.inj heq)

end FileLocks.Kernel
