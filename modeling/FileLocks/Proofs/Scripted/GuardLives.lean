/-
  FileLocks/Proofs/Scripted/GuardLives.lean
  =========================================
  **The lives of guards.**

  A guard lives from the step that makes it to the first later step that empties
  its slot, or to the end of the script.  `guards_release_once` says that the ends
  of these lives are exactly the places where a guard asks the system to release
  something, and that what is released there is what was locked at the start.  The
  replies of the system have no say in it.

  The invariant behind it is `Occupancy`: a slot holds a guard just when a life is
  open in it, and that guard still holds its lock and releases the counterpart of
  what was asked when it was made.
-/
import FileLocks.Proofs.Scripted.Steps
import Mathlib.Data.Nat.Find
import Mathlib.Logic.ExistsUnique

namespace FileLocks.Script

variable {p : Platform}

/-! ### Runs, move by move -/

namespace State

/-- The state after the first `n` moves. -/
def after (s : State p) (moves : List (Move p)) (n : Nat) : State p :=
  (s.run (moves.take n)).2

theorem after_succ {s : State p} {moves : List (Move p)} {n : Nat} {m : Move p}
    (hm : moves[n]? = some m) :
    s.after moves (n + 1) = ((s.after moves n).advance m).2 :=
  runAll_take_succ hm

theorem after_length (s : State p) (moves : List (Move p)) :
    s.after moves moves.length = (s.run moves).2 := by
  rw [after, List.take_length]

/-- Guards are put into empty slots only. -/
def ClaimsVacant (s : State p) (moves : List (Move p)) : Prop :=
  Along advance (fun s m => ∀ slot, m.step.claims? = some slot → s.slots.find? slot = none) s moves

theorem ClaimsVacant.find?_eq_none {s : State p} {moves : List (Move p)}
    (h : s.ClaimsVacant moves) {n : Nat} {m : Move p} (hm : moves[n]? = some m) {slot : String}
    (claims : m.step.claims? = some slot) : (s.after moves n).slots.find? slot = none :=
  Along.of_getElem? h hm slot claims

end State

/-! ### Places and lives -/

/-- A place of a transcript: a step, or one of the requests made when the script is
    over. -/
inductive Place where
  | step (index : Nat)
  | closing (rank : Nat)

/-- What is asked of the system at a place, waits apart. -/
def Transcript.requestsAt (t : Transcript p) : Place → List (Event p)
  | .step i => (t.entries[i]?.map fun e => e.seen.requests).getD []
  | .closing rank => t.closing.requests[rank]?.toList

/-- The step makes a guard and keeps it in the slot. -/
def Grants (moves : List (Move p)) (t : Transcript p) (i : Nat) (slot : String) : Prop :=
  ∃ m e g, moves[i]? = some m ∧ t.entries[i]? = some e ∧
    m.step.claims? = some slot ∧ e.answer = .granted g

/-- The step is to empty the slot. -/
def Frees (moves : List (Move p)) (i : Nat) (slot : String) : Prop :=
  ∃ m, moves[i]? = some m ∧ m.step.frees? = some slot

/-- Where a guard that step `i` keeps in the slot comes to its end: at the first
    later step that is to empty the slot.  If there is none, the guard is let go of
    when the script is over, in the order of the slots that are filled then. -/
def Ends (moves : List (Move p)) (i : Nat) (slot : String) : Place → Prop
  | .step j => i < j ∧ Frees moves j slot ∧ ∀ k, i < k → k < j → ¬ Frees moves k slot
  | .closing rank =>
    (∀ k, i < k → ¬ Frees moves k slot) ∧
      (State.initial.run moves).2.slots.names[rank]? = some slot

/-- At the place something is released that no request without a guard releases. -/
def ReleasesGuard (moves : List (Move p)) (t : Transcript p) (place : Place) : Prop :=
  (∀ i m, place = .step i → moves[i]? = some m → m.step.isInvocation = false) ∧
    ∃ r ∈ t.requestsAt place, r.releases = true

/-- A guard was made by step `i` and its slot was not emptied before step `n`. -/
def OpenSince (moves : List (Move p)) (t : Transcript p) (i : Nat) (slot : String)
    (n : Nat) : Prop :=
  Grants moves t i slot ∧ i < n ∧ ∀ k, i < k → k < n → ¬ Frees moves k slot

/-- The guard still holds its lock, and will release what step `i` asked to lock. -/
def Undoes (t : Transcript p) (i : Nat) (g : Guard Recorder p) : Prop :=
  g.held = true ∧ ∃ a r, t.requestsAt (.step i) = [a] ∧ a.counterpart? = some r ∧
    g.releaseEvent? = some r

theorem OpenSince.succ {moves : List (Move p)} {t : Transcript p} {i n : Nat} {slot : String}
    {m : Move p} (h : OpenSince moves t i slot n) (hm : moves[n]? = some m)
    (hfrees : m.step.frees? ≠ some slot) : OpenSince moves t i slot (n + 1) := by
  refine ⟨h.1, Nat.lt_succ_of_lt h.2.1, ?_⟩
  intro k hik hkn
  rcases Nat.lt_succ_iff_lt_or_eq.mp hkn with hlt | rfl
  · exact h.2.2 k hik hlt
  · rintro ⟨m', hm', hfrees'⟩
    obtain rfl := Option.some.inj (hm.symm.trans hm')
    exact hfrees hfrees'

theorem OpenSince.before {moves : List (Move p)} {t : Transcript p} {i j n : Nat}
    {slot : String} (h : OpenSince moves t i slot n) (hij : i < j) (hjn : j ≤ n) :
    OpenSince moves t i slot j :=
  ⟨h.1, hij, fun k hik hkj => h.2.2 k hik (Nat.lt_of_lt_of_le hkj hjn)⟩

/-- A life that is open after a step was begun by the step or was open before. -/
theorem OpenSince.of_succ {moves : List (Move p)} {t : Transcript p} {i n : Nat}
    {slot : String} {m : Move p} (h : OpenSince moves t i slot (n + 1))
    (hm : moves[n]? = some m) :
    i = n ∨ (OpenSince moves t i slot n ∧ m.step.frees? ≠ some slot) := by
  rcases Nat.lt_succ_iff_lt_or_eq.mp h.2.1 with hin | rfl
  · refine Or.inr ⟨h.before hin (Nat.le_succ n), ?_⟩
    intro hfrees
    exact h.2.2 n hin (Nat.lt_succ_self n) ⟨m, hm, hfrees⟩
  · exact Or.inl rfl

theorem Grants.at_entry {moves : List (Move p)} {t : Transcript p} {n : Nat} {slot : String}
    {m : Move p} {e : Entry p} (h : Grants moves t n slot) (hm : moves[n]? = some m)
    (he : t.entries[n]? = some e) :
    m.step.claims? = some slot ∧ ∃ g, e.answer = .granted g := by
  obtain ⟨m', e', g, hm', he', claims, answer⟩ := h
  obtain rfl := Option.some.inj (hm.symm.trans hm')
  obtain rfl := Option.some.inj (he.symm.trans he')
  exact ⟨claims, g, answer⟩

/-! ### The invariant -/

/-- A slot holds a guard just when a life is open in it. -/
structure Occupancy (moves : List (Move p)) (t : Transcript p) (n : Nat) (s : State p) :
    Prop where
  since : ∀ {slot g}, s.slots.find? slot = some g → ∃ i, OpenSince moves t i slot n
  holds : ∀ {i slot}, OpenSince moves t i slot n →
    ∃ g, s.slots.find? slot = some g ∧ Undoes t i g

theorem occupancy_zero (moves : List (Move p)) (t : Transcript p) :
    Occupancy moves t 0 .initial where
  since h := by cases h
  holds h := absurd h.2.1 (Nat.not_lt_zero _)

section Step

variable {moves : List (Move p)} {t : Transcript p} {n : Nat} {s next : State p}
variable {m : Move p} {e : Entry p}

/-- A step that makes no guard and empties no filled slot keeps the invariant. -/
theorem Occupancy.succ_of_slots_eq (h : Occupancy moves t n s) (hm : moves[n]? = some m)
    (nothing : ∀ slot, ¬ Grants moves t n slot)
    (frees : ∀ slot, m.step.frees? = some slot → s.slots.find? slot = none)
    (slots : next.slots = s.slots) : Occupancy moves t (n + 1) next := by
  constructor
  · intro slot g hfound
    rw [slots] at hfound
    obtain ⟨i, hopen⟩ := h.since hfound
    refine ⟨i, hopen.succ hm ?_⟩
    intro hfrees
    rw [frees slot hfrees] at hfound
    cases hfound
  · intro i slot hopen
    rcases hopen.of_succ hm with rfl | ⟨hopen', -⟩
    · exact absurd hopen.1 (nothing slot)
    · exact slots ▸ h.holds hopen'

/-- A step that fills an empty slot opens a life. -/
theorem Occupancy.succ_of_insert {slot : String} {g : Guard Recorder p} {a r : Event p}
    (h : Occupancy moves t n s) (hm : moves[n]? = some m) (he : t.entries[n]? = some e)
    (claims : m.step.claims? = some slot) (vacant : s.slots.find? slot = none)
    (answer : e.answer = .granted g) (held : g.held = true) (asked : e.seen.requests = [a])
    (counterpart : a.counterpart? = some r) (release : g.releaseEvent? = some r)
    (slots : next.slots = s.slots.insert slot g) : Occupancy moves t (n + 1) next := by
  constructor
  · intro other g' hfound
    rw [slots, NameTable.find?_insert] at hfound
    split at hfound
    · next hother =>
      subst hother
      exact ⟨n, ⟨m, e, g, hm, he, claims, answer⟩, Nat.lt_succ_self n,
        fun k hnk hkn => absurd hkn (Nat.not_lt.mpr hnk)⟩
    · obtain ⟨i, hopen⟩ := h.since hfound
      refine ⟨i, hopen.succ hm ?_⟩
      rw [Step.frees?_eq_none_of_claims claims]
      exact nofun
  · intro i other hopen
    rw [slots, NameTable.find?_insert]
    rcases hopen.of_succ hm with rfl | ⟨hopen', -⟩
    · obtain ⟨claims', -⟩ := hopen.1.at_entry hm he
      obtain rfl := Option.some.inj (claims.symm.trans claims')
      refine ⟨g, if_pos rfl, held, a, r, ?_, counterpart, release⟩
      simp only [Transcript.requestsAt, he, Option.map_some, Option.getD_some, asked]
    · obtain ⟨g', hfound, hundoes⟩ := h.holds hopen'
      have hne : other ≠ slot := by
        rintro rfl
        rw [vacant] at hfound
        cases hfound
      exact ⟨g', by rw [if_neg hne, hfound], hundoes⟩

/-- A step that empties a slot closes the life in it. -/
theorem Occupancy.succ_of_erase {slot : String} (h : Occupancy moves t n s)
    (hm : moves[n]? = some m) (nothing : ∀ slot, ¬ Grants moves t n slot)
    (frees : m.step.frees? = some slot) (slots : next.slots = s.slots.erase slot) :
    Occupancy moves t (n + 1) next := by
  constructor
  · intro other g hfound
    rw [slots, NameTable.find?_erase] at hfound
    split at hfound
    · cases hfound
    · next hne =>
      obtain ⟨i, hopen⟩ := h.since hfound
      refine ⟨i, hopen.succ hm ?_⟩
      intro hfrees
      exact hne (Option.some.inj (hfrees.symm.trans frees))
  · intro i other hopen
    rcases hopen.of_succ hm with rfl | ⟨hopen', hfrees⟩
    · exact absurd hopen.1 (nothing other)
    · have hne : other ≠ slot := fun heq => hfrees (heq ▸ frees)
      rw [slots, NameTable.find?_erase, if_neg hne]
      exact h.holds hopen'

/-- Every step keeps the invariant. -/
theorem Occupancy.succ (h : Occupancy moves t n s) (hm : moves[n]? = some m)
    (he : t.entries[n]? = some e)
    (vacant : ∀ slot, m.step.claims? = some slot → s.slots.find? slot = none)
    (change : SlotChange s m e next) : Occupancy moves t (n + 1) next := by
  have nothing_of_claims : m.step.claims? = none → ∀ slot, ¬ Grants moves t n slot := by
    intro hnone slot hgrants
    have hclaims := (hgrants.at_entry hm he).1
    rw [hnone] at hclaims
    cases hclaims
  cases change with
  | granted slot g a r claims answer held asked counterpart release slots =>
    exact h.succ_of_insert hm he claims (vacant slot claims) answer held asked counterpart
      release slots
  | refused slot f claims answer asked slots =>
    refine h.succ_of_slots_eq hm ?_ ?_ slots
    · intro other hgrants
      obtain ⟨-, g, hgranted⟩ := hgrants.at_entry hm he
      rw [answer] at hgranted
      cases hgranted
    · intro other hfrees
      rw [Step.frees?_eq_none_of_claims claims] at hfrees
      cases hfrees
  | freed slot g frees found asked slots =>
    exact h.succ_of_erase hm (nothing_of_claims (Step.claims?_eq_none_of_frees frees)) frees slots
  | vacant slot frees found asked slots =>
    refine h.succ_of_slots_eq hm (nothing_of_claims (Step.claims?_eq_none_of_frees frees)) ?_ slots
    intro other hfrees
    obtain rfl := Option.some.inj (hfrees.symm.trans frees)
    exact found
  | untouched claims frees asked slots =>
    refine h.succ_of_slots_eq hm (nothing_of_claims claims) ?_ slots
    intro other hfrees
    rw [frees] at hfrees
    cases hfrees

end Step

section Play

variable {moves : List (Move p)} (endReplies : List Reply)

theorem getElem?_play_entries {n : Nat} {m : Move p} (hm : moves[n]? = some m) :
    (play moves endReplies).entries[n]? = some ((State.initial.after moves n).advance m).1 := by
  show (State.initial.run moves).1[n]? = _
  rw [getElem?_runAll, hm]
  rfl

theorem slotChange_after (vacant : State.initial.ClaimsVacant moves) {n : Nat} {m : Move p}
    (hm : moves[n]? = some m) :
    SlotChange (State.initial.after moves n) m ((State.initial.after moves n).advance m).1
      (State.initial.after moves (n + 1)) := by
  rw [State.after_succ hm]
  exact advance_slotChange _ m fun _ claims => vacant.find?_eq_none hm claims

/-- The invariant holds all along a script. -/
theorem occupancy_after (vacant : State.initial.ClaimsVacant moves) {n : Nat}
    (hn : n ≤ moves.length) :
    Occupancy moves (play moves endReplies) n (State.initial.after moves n) := by
  induction n with
  | zero => exact occupancy_zero moves _
  | succ n ih =>
    have hm : moves[n]? = some moves[n] := List.getElem?_eq_getElem hn
    exact (ih (Nat.le_of_succ_le hn)).succ hm (getElem?_play_entries endReplies hm)
      (fun _ claims => vacant.find?_eq_none hm claims) (slotChange_after vacant hm)

theorem Grants.lt_length {i : Nat} {slot : String} {t : Transcript p}
    (h : Grants moves t i slot) : i < moves.length := by
  obtain ⟨m, -, -, hm, -⟩ := h
  exact (List.getElem?_eq_some_iff.mp hm).1

theorem Frees.lt_length {i : Nat} {slot : String} (h : Frees moves i slot) :
    i < moves.length := by
  obtain ⟨m, hm, -⟩ := h
  exact (List.getElem?_eq_some_iff.mp hm).1

/-- At most one life is open in a slot: a second one would have been begun while the
    slot was filled. -/
theorem OpenSince.unique (vacant : State.initial.ClaimsVacant moves) {i j n : Nat}
    {slot : String} (hi : OpenSince moves (play moves endReplies) i slot n)
    (hj : OpenSince moves (play moves endReplies) j slot n) : i = j := by
  have not_lt : ∀ {i j : Nat}, OpenSince moves (play moves endReplies) i slot n →
      OpenSince moves (play moves endReplies) j slot n → ¬ i < j := by
    intro i j hi hj hij
    obtain ⟨m, e, g, hm, he, claims, answer⟩ := hj.1
    have hopen := hi.before hij (Nat.le_of_lt hj.2.1)
    obtain ⟨g', hfound, -⟩ :=
      (occupancy_after endReplies vacant (Nat.le_of_lt hj.1.lt_length)).holds hopen
    rw [vacant.find?_eq_none hm claims] at hfound
    cases hfound
  exact Nat.le_antisymm (Nat.not_lt.mp (not_lt hj hi)) (Nat.not_lt.mp (not_lt hi hj))

/-! ### Ends of lives -/

theorem getElem?_filterMap_of_forall {α β : Type} {f : α → Option β} {l : List α}
    (h : ∀ a ∈ l, ∃ b, f a = some b) (k : Nat) : (l.filterMap f)[k]? = l[k]?.bind f := by
  induction l generalizing k with
  | nil => rfl
  | cons a rest ih =>
    rw [List.forall_mem_cons] at h
    obtain ⟨⟨b, hb⟩, hrest⟩ := h
    rw [List.filterMap_cons_some hb]
    cases k with
    | zero => exact hb.symm
    | succ k => exact ih hrest k

/-- When the script is over, the guards that are left release in the order of their
    slots, each what it locked. -/
theorem requestsAt_closing (vacant : State.initial.ClaimsVacant moves) (rank : Nat) :
    (play moves endReplies).requestsAt (.closing rank)
      = ((State.initial.run moves).2.slots.entries[rank]?.bind
          fun entry => entry.2.releaseEvent?).toList := by
  have hfinal := occupancy_after endReplies vacant (Nat.le_refl moves.length)
  rw [State.after_length] at hfinal
  have hall : ∀ g ∈ (State.initial.run moves).2.slots.values,
      g.held = true ∧ ∃ r, g.releaseEvent? = some r := by
    intro g hg
    rcases List.mem_map.mp hg with ⟨⟨slot, g'⟩, hentry, rfl⟩
    obtain ⟨i, hopen⟩ := hfinal.since (NameTable.find?_eq_some_iff.mpr hentry)
    obtain ⟨g'', hfound, held, a, r, -, -, hr⟩ := hfinal.holds hopen
    rw [NameTable.find?_eq_some_iff.mpr hentry] at hfound
    obtain rfl := Option.some.inj hfound
    exact ⟨held, r, hr⟩
  have hrequests : (play moves endReplies).closing.requests
      = (State.initial.run moves).2.slots.values.filterMap Guard.releaseEvent? :=
    Step.requests_dropAll (fun g hg => (hall g hg).1) _
  show ((play moves endReplies).closing.requests[rank]?).toList = _
  rw [hrequests, getElem?_filterMap_of_forall (fun g hg => (hall g hg).2), NameTable.values,
    List.getElem?_map]
  cases (State.initial.run moves).2.slots.entries[rank]? <;> rfl

theorem exists_ends (vacant : State.initial.ClaimsVacant moves) {i : Nat} {slot : String}
    (h : Grants moves (play moves endReplies) i slot) : ∃ place, Ends moves i slot place := by
  classical
  by_cases hfree : ∃ j, i < j ∧ Frees moves j slot
  · refine ⟨.step (Nat.find hfree), (Nat.find_spec hfree).1, (Nat.find_spec hfree).2, ?_⟩
    intro k hik hk hfrees
    exact Nat.find_min hfree hk ⟨hik, hfrees⟩
  · have never : ∀ k, i < k → ¬ Frees moves k slot := fun k hik hfrees =>
      hfree ⟨k, hik, hfrees⟩
    have hfinal := occupancy_after endReplies vacant (Nat.le_refl moves.length)
    obtain ⟨g, hfound, -⟩ := hfinal.holds ⟨h, h.lt_length, fun k hik _ => never k hik⟩
    rw [NameTable.find?_eq_some_iff, State.after_length] at hfound
    rcases List.mem_iff_getElem?.mp hfound with ⟨rank, hrank⟩
    refine ⟨.closing rank, never, ?_⟩
    rw [NameTable.names, List.getElem?_map, hrank]
    rfl

theorem Ends.unique {i : Nat} {slot : String} {place place' : Place}
    (h : Ends moves i slot place) (h' : Ends moves i slot place') : place = place' := by
  cases place with
  | step j =>
    cases place' with
    | step j' =>
      have hle : ∀ {j j' : Nat}, Ends moves i slot (.step j) → Ends moves i slot (.step j') →
          j ≤ j' := fun h h' => Nat.not_lt.mp fun hlt => h.2.2 _ h'.1 hlt h'.2.1
      rw [Nat.le_antisymm (hle h h') (hle h' h)]
    | closing => exact absurd h.2.1 (h'.1 j h.1)
  | closing rank =>
    cases place' with
    | step j' => exact absurd h'.2.1 (h.1 j' h'.1)
    | closing rank' =>
      rcases List.getElem?_eq_some_iff.mp h.2 with ⟨hlt, -⟩
      rw [(List.getElem?_inj hlt (NameTable.nodup_names _)).mp (h.2.trans h'.2.symm)]

/-- A guard's life is closed by what undoes its beginning. -/
theorem requestsAt_ends (vacant : State.initial.ClaimsVacant moves) {i : Nat} {slot : String}
    {place : Place} (h : Grants moves (play moves endReplies) i slot)
    (hends : Ends moves i slot place) :
    ∃ a r, (play moves endReplies).requestsAt (.step i) = [a] ∧ a.counterpart? = some r ∧
      (play moves endReplies).requestsAt place = [r] := by
  cases place with
  | step j =>
    obtain ⟨hij, ⟨m, hm, frees⟩, hbetween⟩ := hends
    have hj := (List.getElem?_eq_some_iff.mp hm).1
    obtain ⟨g, hfound, held, a, r, hasked, hcounter, hr⟩ :=
      (occupancy_after endReplies vacant (Nat.le_of_lt hj)).holds ⟨h, hij, hbetween⟩
    refine ⟨a, r, hasked, hcounter, ?_⟩
    simp only [Transcript.requestsAt, getElem?_play_entries endReplies hm, Option.map_some,
      Option.getD_some]
    cases slotChange_after vacant hm with
    | freed slot' g' frees' found asked _ =>
      obtain rfl := Option.some.inj (frees.symm.trans frees')
      obtain rfl := Option.some.inj (hfound.symm.trans found)
      rw [asked held, hr]
      rfl
    | vacant slot' frees' found _ _ =>
      obtain rfl := Option.some.inj (frees.symm.trans frees')
      rw [found] at hfound
      cases hfound
    | granted _ _ _ _ claims | refused _ _ claims =>
      rw [Step.frees?_eq_none_of_claims claims] at frees
      cases frees
    | untouched _ frees' =>
      rw [frees'] at frees
      cases frees
  | closing rank =>
    have hfinal := occupancy_after endReplies vacant (Nat.le_refl moves.length)
    obtain ⟨g, hfound, -, a, r, hasked, hcounter, hr⟩ :=
      hfinal.holds ⟨h, h.lt_length, fun k hik _ => hends.1 k hik⟩
    refine ⟨a, r, hasked, hcounter, ?_⟩
    rw [requestsAt_closing endReplies vacant]
    rw [State.after_length] at hfinal hfound
    have hname := hends.2
    rw [NameTable.names, List.getElem?_map] at hname
    rcases Option.map_eq_some_iff.mp hname with ⟨⟨slot', g'⟩, hentry, rfl⟩
    rw [NameTable.find?_eq_some_iff.mpr (List.mem_of_getElem? hentry)] at hfound
    obtain rfl := Option.some.inj hfound
    rw [hentry, Option.bind_some, hr]
    rfl

/-- What is released at the end of a life is released for a guard. -/
theorem releasesGuard_ends (vacant : State.initial.ClaimsVacant moves) {i : Nat}
    {slot : String} {place : Place} (h : Grants moves (play moves endReplies) i slot)
    (hends : Ends moves i slot place) :
    ReleasesGuard moves (play moves endReplies) place := by
  obtain ⟨a, r, -, hcounter, hasked⟩ := requestsAt_ends endReplies vacant h hends
  refine ⟨?_, r, hasked ▸ List.mem_singleton_self r,
    (Event.releases_of_counterpart?_eq_some hcounter).2⟩
  rintro j m rfl hm
  obtain ⟨m', hm', frees⟩ := hends.2.1
  obtain rfl := Option.some.inj (hm.symm.trans hm')
  exact Step.isInvocation_eq_false_of_frees frees

/-- Whatever is released for a guard closes a life. -/
theorem exists_life_of_releasesGuard (vacant : State.initial.ClaimsVacant moves)
    {place : Place} (h : ReleasesGuard moves (play moves endReplies) place) :
    ∃ i slot, Grants moves (play moves endReplies) i slot ∧ Ends moves i slot place := by
  obtain ⟨houtside, e, he, hreleases⟩ := h
  cases place with
  | step j =>
    cases hm : moves[j]? with
    | none =>
      have hentry : (play moves endReplies).entries[j]? = none := by
        show (State.initial.run moves).1[j]? = none
        rw [getElem?_runAll, hm]
        rfl
      simp only [Transcript.requestsAt, hentry] at he
      cases he
    | some m =>
      have hinvoke := houtside j m rfl hm
      have hj := (List.getElem?_eq_some_iff.mp hm).1
      simp only [Transcript.requestsAt, getElem?_play_entries endReplies hm, Option.map_some,
        Option.getD_some] at he
      cases slotChange_after vacant hm with
      | freed slot g frees found asked _ =>
        obtain ⟨i, hopen⟩ := (occupancy_after endReplies vacant (Nat.le_of_lt hj)).since found
        exact ⟨i, slot, hopen.1, hopen.2.1, ⟨m, hm, frees⟩, hopen.2.2⟩
      | granted _ _ a r _ _ _ asked counterpart =>
        rw [asked] at he
        obtain rfl := List.mem_singleton.mp he
        rw [(Event.releases_of_counterpart?_eq_some counterpart).1] at hreleases
        cases hreleases
      | refused _ _ _ _ asked =>
        exact absurd (List.mem_filter.mpr ⟨he, hreleases⟩) (asked ▸ List.not_mem_nil)
      | vacant _ _ _ asked =>
        rw [asked] at he
        cases he
      | untouched _ _ asked =>
        rw [asked hinvoke] at he
        cases he
  | closing rank =>
    have hfinal := occupancy_after endReplies vacant (Nat.le_refl moves.length)
    rw [State.after_length] at hfinal
    rw [requestsAt_closing endReplies vacant] at he
    cases hentry : (State.initial.run moves).2.slots.entries[rank]? with
    | none =>
      rw [hentry] at he
      cases he
    | some entry =>
      obtain ⟨slot, g⟩ := entry
      obtain ⟨i, hopen⟩ :=
        hfinal.since (NameTable.find?_eq_some_iff.mpr (List.mem_of_getElem? hentry))
      refine ⟨i, slot, hopen.1, ?_, ?_⟩
      · intro k hik hfrees
        exact hopen.2.2 k hik hfrees.lt_length hfrees
      · rw [NameTable.names, List.getElem?_map, hentry]
        rfl

/-- No two lives end at one place. -/
theorem life_unique (vacant : State.initial.ClaimsVacant moves) {i j : Nat}
    {slot slot' : String} {place : Place}
    (hi : Grants moves (play moves endReplies) i slot) (hiends : Ends moves i slot place)
    (hj : Grants moves (play moves endReplies) j slot') (hjends : Ends moves j slot' place) :
    i = j := by
  cases place with
  | step n =>
    obtain ⟨m, hm, frees⟩ := hiends.2.1
    obtain ⟨m', hm', frees'⟩ := hjends.2.1
    obtain rfl := Option.some.inj (hm.symm.trans hm')
    obtain rfl := Option.some.inj (frees.symm.trans frees')
    exact OpenSince.unique endReplies vacant ⟨hi, hiends.1, hiends.2.2⟩
      ⟨hj, hjends.1, hjends.2.2⟩
  | closing rank =>
    obtain rfl := Option.some.inj (hiends.2.symm.trans hjends.2)
    exact OpenSince.unique endReplies vacant ⟨hi, hi.lt_length, fun k hik _ => hiends.1 k hik⟩
      ⟨hj, hj.lt_length, fun k hjk _ => hjends.1 k hjk⟩

end Play

/-- **Guards release once, and what they locked.**  Every step that makes a guard
    has one place where the guard's life ends and the guard releases; there, and in
    that step, the system is asked for one thing each, and the second undoes the
    first.  Conversely every place where something is released for a guard is the
    end of the life of exactly one guard. -/
theorem guards_release_once (moves : List (Move p)) (endReplies : List Reply)
    (vacant : State.initial.ClaimsVacant moves) :
    (∀ i slot, Grants moves (play moves endReplies) i slot →
      (∃! place, Ends moves i slot place) ∧
      ∀ place, Ends moves i slot place →
        ReleasesGuard moves (play moves endReplies) place ∧
        ∃ a r, (play moves endReplies).requestsAt (.step i) = [a] ∧
          a.counterpart? = some r ∧ (play moves endReplies).requestsAt place = [r]) ∧
    ∀ place, ReleasesGuard moves (play moves endReplies) place →
      ∃! i, ∃ slot, Grants moves (play moves endReplies) i slot ∧ Ends moves i slot place := by
  refine ⟨fun i slot h => ⟨?_, ?_⟩, fun place h => ?_⟩
  · obtain ⟨place, hends⟩ := exists_ends endReplies vacant h
    exact ⟨place, hends, fun place' hends' => hends'.unique hends⟩
  · exact fun place hends =>
      ⟨releasesGuard_ends endReplies vacant h hends, requestsAt_ends endReplies vacant h hends⟩
  · obtain ⟨i, slot, hgrants, hends⟩ := exists_life_of_releasesGuard endReplies vacant h
    refine ⟨i, ⟨slot, hgrants, hends⟩, ?_⟩
    rintro j ⟨slot', hgrants', hends'⟩
    exact life_unique endReplies vacant hgrants' hends' hgrants hends

/-- A guard whose unlocking is interrupted, in a slot that is to be emptied twice,
    beside one that is left over. -/
def unlockInterrupted : List (Move .posix) :=
  [⟨.lock "a" (.descriptor 3) ⟨0, 10⟩ .exclusive, []⟩,
    ⟨.guard "b" (.reference (.fcntl .openFileDescription)) (.descriptor 4) .nonblocking
      (.toEnd 5) .shared, []⟩,
    ⟨.unlock "a", [⟨-1, Errno.EINTR⟩]⟩,
    ⟨.drop "a", []⟩]

theorem claimsVacant_unlockInterrupted : State.initial.ClaimsVacant unlockInterrupted := by
  refine ⟨?_, ?_, nofun, nofun, trivial⟩
  · intro slot claims
    cases claims
    rfl
  · intro slot claims
    cases claims
    decide

/-- The interrupted guard releases once all the same, and the other one at the end. -/
theorem unlockInterrupted_releases :
    State.initial.ClaimsVacant unlockInterrupted ∧
      Grants unlockInterrupted (play unlockInterrupted []) 0 "a" ∧
      (∃! place, Ends unlockInterrupted 0 "a" place) ∧
      ReleasesGuard unlockInterrupted (play unlockInterrupted []) (.closing 0) ∧
      ∃! i, ∃ slot, Grants unlockInterrupted (play unlockInterrupted []) i slot ∧
        Ends unlockInterrupted i slot (.closing 0) := by
  have lives := guards_release_once unlockInterrupted [] claimsVacant_unlockInterrupted
  have grants : Grants unlockInterrupted (play unlockInterrupted []) 0 "a" :=
    ⟨_, _, _, rfl, rfl, rfl, rfl⟩
  have closing : ReleasesGuard unlockInterrupted (play unlockInterrupted []) (.closing 0) :=
    ⟨nofun, by decide⟩
  exact ⟨claimsVacant_unlockInterrupted, grants, (lives.1 0 "a" grants).1, closing,
    lives.2 _ closing⟩

end FileLocks.Script
