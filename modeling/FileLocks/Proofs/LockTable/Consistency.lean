/-
  FileLocks/Proofs/LockTable/Consistency.lean
  ===========================================
  **Tables whose locks exclude each other.**

  In a consistent table the locks of one owner have no byte in common, and locks of
  two owners have one in common only if both are shared.  Unlocking, locking what
  conflicts with nothing, and dropping an owner keep a table consistent.

  In a consistent table every lock shows in the view: what an owner holds on a byte
  is the mode of the one lock that covers it.  Conflicts can therefore be read off
  the view (`Consistent.conflicts_iff`).
-/
import FileLocks.LockTable.Lemmas

namespace FileLocks

/-! ### What is left of a lock -/

namespace Lock

theorem mem_of_mem_without {l l' : Lock} {s : Span} (h : l' ∈ l.without s) {b : Nat}
    (hb : b ∈ l'.span) : b ∈ l.span ∧ b ∉ s :=
  exists_mem_without_iff.mp ⟨l', h, hb⟩

/-- The two sides of a span have no byte in common. -/
theorem pairwise_without (l : Lock) (s : Span) :
    (l.without s).Pairwise fun a b => ∀ x, x ∈ a.span → x ∉ b.span := by
  unfold without
  rw [List.pairwise_append]
  refine ⟨?_, ?_, ?_⟩
  · split
    · exact List.pairwise_singleton _ _
    · exact List.Pairwise.nil
  · split
    · exact List.pairwise_singleton _ _
    · exact List.Pairwise.nil
  · intro a ha b hb x hxa hxb
    split at ha
    · next hleft =>
      split at hb
      · next hright =>
        obtain rfl := List.mem_singleton.mp ha
        obtain rfl := List.mem_singleton.mp hb
        have hbefore := ((Span.mem_before hleft).mp hxa).2
        have hafter := ((Span.mem_after hright).mp hxb).2
        have hs := s.first_le_last
        omega
      · cases hb
    · cases ha

end Lock

namespace LockTable

/-! ### Locks after an operation -/

/-- A lock that is there after a span was cleared is left of a lock that was there
    before, and covers none of the cleared bytes if it has the owner they were
    taken from. -/
theorem exists_of_mem_clear {t : LockTable} {o : Owner} {s : Span} {l' : Lock}
    (h : l' ∈ t.clear o s) :
    ∃ l ∈ t, l'.owner = l.owner ∧ l'.mode = l.mode ∧
      ∀ b, b ∈ l'.span → b ∈ l.span ∧ (l'.owner = o → b ∉ s) := by
  rcases List.mem_flatMap.mp h with ⟨l, hl, hmem⟩
  refine ⟨l, hl, ?_⟩
  split at hmem
  · obtain ⟨howner, hmode⟩ := Lock.owner_of_mem_without hmem
    refine ⟨howner, hmode, fun b hb => ?_⟩
    obtain ⟨hin, hout⟩ := Lock.mem_of_mem_without hmem hb
    exact ⟨hin, fun _ => hout⟩
  · next hne =>
    obtain rfl := List.mem_singleton.mp hmem
    exact ⟨rfl, rfl, fun b hb => ⟨hb, fun howner => absurd howner hne⟩⟩

/-- The locks of one owner have no byte in common. -/
def Apart (l l' : Lock) : Prop :=
  l.owner = l'.owner → ∀ b, b ∈ l.span → b ∉ l'.span

/-- Locks of two owners have a byte in common only if both are shared. -/
def Compatible (l l' : Lock) : Prop :=
  l.owner ≠ l'.owner → ∀ b, b ∈ l.span → b ∈ l'.span → l.mode = .shared ∧ l'.mode = .shared

/-- A table whose locks exclude each other. -/
structure Consistent (t : LockTable) : Prop where
  apart : t.Pairwise Apart
  compatible : ∀ l ∈ t, ∀ l' ∈ t, Compatible l l'

theorem consistent_nil : Consistent [] where
  apart := List.Pairwise.nil
  compatible _ h := by cases h

theorem Consistent.clear {t : LockTable} (h : t.Consistent) (o : Owner) (s : Span) :
    (t.clear o s).Consistent where
  apart := by
    unfold LockTable.clear
    rw [List.pairwise_flatMap]
    constructor
    · intro l _
      split
      · refine List.Pairwise.imp ?_ (l.pairwise_without s)
        intro a b hdisjoint _
        exact hdisjoint
      · exact List.pairwise_singleton _ _
    · -- pieces of two locks keep the owners and lie within the two
      have within : ∀ {l l' : Lock}, l' ∈ (if l.owner = o then l.without s else [l]) →
          l'.owner = l.owner ∧ ∀ b, b ∈ l'.span → b ∈ l.span := by
        intro l l' hmem
        split at hmem
        · exact ⟨(Lock.owner_of_mem_without hmem).1,
            fun b hb => (Lock.mem_of_mem_without hmem hb).1⟩
        · obtain rfl := List.mem_singleton.mp hmem
          exact ⟨rfl, fun _ hb => hb⟩
      apply h.apart.imp
      intro l₁ l₂ hapart a ha b hb howner x hxa hxb
      obtain ⟨hownera, hina⟩ := within ha
      obtain ⟨hownerb, hinb⟩ := within hb
      exact hapart (hownera.symm.trans (howner.trans hownerb)) x (hina x hxa) (hinb x hxb)
  compatible l₁ hl₁ l₂ hl₂ hne b hb₁ hb₂ := by
    obtain ⟨k₁, hk₁, howner₁, hmode₁, hin₁⟩ := exists_of_mem_clear hl₁
    obtain ⟨k₂, hk₂, howner₂, hmode₂, hin₂⟩ := exists_of_mem_clear hl₂
    rw [hmode₁, hmode₂]
    exact h.compatible k₁ hk₁ k₂ hk₂ (howner₁ ▸ howner₂ ▸ hne) b (hin₁ b hb₁).1 (hin₂ b hb₂).1

/-- What does not conflict is compatible with all locks of other owners. -/
theorem compatible_of_conflicts_eq_false {t : LockTable} {o : Owner} {m : Mode} {s : Span}
    (h : t.conflicts o m s = false) {l : Lock} (hl : l ∈ t) : Compatible l ⟨o, m, s⟩ := by
  intro hne b hbl hbs
  have hnot := List.any_eq_false.mp h l hl
  have hoverlaps : l.span.overlaps s = true := Span.overlaps_iff.mpr ⟨b, hbl, hbs⟩
  have hconflict : m.conflictsWith l.mode = false := by
    simpa [hoverlaps, bne_iff_ne.mpr hne] using hnot
  revert hconflict
  cases m <;> cases hmode : l.mode <;> simp [Mode.conflictsWith]

theorem Consistent.place {t : LockTable} (h : t.Consistent) {o : Owner} {m : Mode} {s : Span}
    (hc : t.conflicts o m s = false) : (t.place o m s).Consistent := by
  have hclear := h.clear o s
  have hnew : ∀ l ∈ t.clear o s, Compatible l ⟨o, m, s⟩ := by
    intro l hl hne b hbl hbs
    obtain ⟨k, hk, howner, hmode, hin⟩ := exists_of_mem_clear hl
    rw [hmode]
    exact compatible_of_conflicts_eq_false hc hk (howner ▸ hne) b (hin b hbl).1 hbs
  constructor
  · refine List.pairwise_cons.mpr ⟨?_, hclear.apart⟩
    intro l hl howner b hbs hbl
    obtain ⟨k, hk, -, -, hin⟩ := exists_of_mem_clear hl
    exact (hin b hbl).2 howner.symm hbs
  · intro l₁ hl₁ l₂ hl₂ hne b hb₁ hb₂
    rcases List.mem_cons.mp hl₁ with rfl | hl₁
    · rcases List.mem_cons.mp hl₂ with rfl | hl₂
      · exact absurd rfl hne
      · exact (hnew l₂ hl₂ (Ne.symm hne) b hb₂ hb₁).symm
    · rcases List.mem_cons.mp hl₂ with rfl | hl₂
      · exact hnew l₁ hl₁ hne b hb₁ hb₂
      · exact hclear.compatible l₁ hl₁ l₂ hl₂ hne b hb₁ hb₂

theorem Consistent.dropOwner {t : LockTable} (h : t.Consistent) (o : Owner) :
    (t.dropOwner o).Consistent where
  apart := h.apart.sublist List.filter_sublist
  compatible l hl l' hl' :=
    h.compatible l (List.mem_filter.mp hl).1 l' (List.mem_filter.mp hl').1

/-! ### The view of a consistent table -/

theorem exists_mem_of_modeAt {t : LockTable} {o : Owner} {b : Nat} {m : Mode}
    (h : t.modeAt o b = some m) : ∃ l ∈ t, l.owner = o ∧ l.mode = m ∧ b ∈ l.span := by
  rcases Option.map_eq_some_iff.mp h with ⟨l, hfind, hmode⟩
  have hfound := List.find?_some hfind
  simp only [decide_eq_true_eq] at hfound
  obtain ⟨howner, hb⟩ := hfound
  exact ⟨l, List.mem_of_find?_eq_some hfind, howner, hmode, hb⟩

theorem Consistent.modeAt_of_mem {t : LockTable} (h : t.Consistent) {l : Lock} (hl : l ∈ t)
    {b : Nat} (hb : b ∈ l.span) : t.modeAt l.owner b = some l.mode := by
  have hapart := h.apart
  clear h
  induction t with
  | nil => cases hl
  | cons head rest ih =>
    rcases List.pairwise_cons.mp hapart with ⟨hhead, hrest⟩
    rw [modeAt_cons]
    rcases List.mem_cons.mp hl with rfl | hl
    · rw [if_pos ⟨rfl, hb⟩]
    · have hnot : ¬ (head.owner = l.owner ∧ b ∈ head.span) := fun hboth =>
        hhead l hl hboth.1 b hboth.2 hb
      rw [if_neg hnot]
      exact ih hl hrest

/-- Every lock shows on its first byte. -/
theorem Consistent.modeAt_first {t : LockTable} (h : t.Consistent) {l : Lock} (hl : l ∈ t) :
    t.modeAt l.owner l.span.first = some l.mode :=
  h.modeAt_of_mem hl ⟨Nat.le_refl _, l.span.first_le_last⟩

theorem Consistent.conflicts_iff {t : LockTable} (h : t.Consistent) {o : Owner} {m : Mode}
    {s : Span} :
    t.conflicts o m s = true ↔
      ∃ b ∈ s, ∃ o', o' ≠ o ∧ ∃ m', t.modeAt o' b = some m' ∧
        (m = .exclusive ∨ m' = .exclusive) := by
  unfold conflicts
  rw [List.any_eq_true]
  constructor
  · rintro ⟨l, hl, hall⟩
    simp only [Bool.and_eq_true, bne_iff_ne, ne_eq, Mode.conflictsWith_eq_true_iff] at hall
    obtain ⟨⟨hne, hoverlaps⟩, hmode⟩ := hall
    rcases Span.overlaps_iff.mp hoverlaps with ⟨b, hbl, hbs⟩
    exact ⟨b, hbs, l.owner, hne, l.mode, h.modeAt_of_mem hl hbl, hmode⟩
  · rintro ⟨b, hbs, o', hne, m', hmode, hexclusive⟩
    obtain ⟨l, hl, rfl, rfl, hbl⟩ := exists_mem_of_modeAt hmode
    refine ⟨l, hl, ?_⟩
    simp only [Bool.and_eq_true, bne_iff_ne, ne_eq, Mode.conflictsWith_eq_true_iff]
    exact ⟨⟨hne, Span.overlaps_iff.mpr ⟨b, hbl, hbs⟩⟩, hexclusive⟩

/-- A consistent table that shows nothing holds nothing. -/
theorem Consistent.eq_nil {t : LockTable} (h : t.Consistent)
    (hnone : ∀ o b, t.modeAt o b = none) : t = [] := by
  cases t with
  | nil => rfl
  | cons l rest =>
    have hshows := h.modeAt_first List.mem_cons_self
    rw [hnone] at hshows
    cases hshows

end LockTable

end FileLocks
