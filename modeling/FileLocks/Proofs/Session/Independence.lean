/-
  FileLocks/Proofs/Session/Independence.lean
  ==========================================
  **Independent requests may be made in any order.**

  What comes of a request depends on the file, the range and the bytes of the range
  alone (`Demand.Met.outcome_eq`), and a request changes bytes of its range alone.  Two
  requests that have no byte in common are therefore blind to each other.  So are two
  releases, which never look at a lock and leave the same wherever both are served.
-/
import FileLocks.Proofs.Session.Accounts
import FileLocks.Proofs.Session.Demands

namespace FileLocks

/-! ### What a request depends on -/

namespace ByteTable

variable {t t' : ByteTable} {self : Owner} {scope : Posix.Scope} {r : ByteRange}
  {d? : Option Descriptor} {operation : Operation}

/-- The code of a refusal does not depend on the locks. -/
theorem Refuses.code_eq {code code' : Int32} (h : t.Refuses self scope r d? operation code)
    (h' : t'.Refuses self scope r d? operation code') : code' = code := by
  -- the rules exclude each other, and only the last of them looks at the table
  cases h with
  | notOpen =>
    cases h'
    rfl
  | beforeStart d _ range =>
    cases h' with
    | beforeStart => rfl
    | beyondEnd => omega
    | noAccess _ _ _ range' | blocked _ _ _ range' =>
      unfold ByteRange.Acceptable at range'
      omega
  | beyondEnd d _ start upwards range =>
    cases h' with
    | beforeStart => omega
    | beyondEnd => rfl
    | noAccess _ _ _ range' | blocked _ _ _ range' =>
      unfold ByteRange.Acceptable at range'
      omega
  | noAccess d wait mode range access =>
    cases h' with
    | beforeStart | beyondEnd =>
      unfold ByteRange.Acceptable at range
      omega
    | noAccess => rfl
    | blocked _ _ _ _ access' =>
      rw [access] at access'
      cases access'
  | blocked d wait mode range access =>
    cases h' with
    | beforeStart | beyondEnd =>
      unfold ByteRange.Acceptable at range
      omega
    | noAccess _ _ _ _ access' =>
      rw [access] at access'
      cases access'
    | blocked => rfl

theorem blocks_congr {o : Owner} {m : Mode}
    (agree : ∀ o' b, r.Covers b → t' o' b = t o' b) : t'.Blocks o m r ↔ t.Blocks o m r := by
  refine exists_congr fun b => and_congr_right fun hb => ?_
  simp only [agree _ b hb]

theorem admits_congr (agree : ∀ m, operation.leaves = some m → r.Acceptable →
      ∀ o b, r.Covers b → t' o b = t o b) :
    t'.Admits self scope d? r operation ↔ t.Admits self scope d? r operation := by
  cases operation with
  | release => exact Iff.rfl
  | acquire wait mode =>
    refine exists_congr fun d => and_congr_right fun _ => and_congr_right fun hrange =>
      and_congr_right fun _ => not_congr ?_
    exact blocks_congr (agree mode rfl hrange)

end ByteTable

namespace Demand

variable {d d' : Demand} {k k' k₁ k₁' : Kernel} {o o' : Outcome .posix}

/-- What the request depends on is the same in both kernels. -/
structure SeesAlike (d : Demand) (k k' : Kernel) : Prop where
  descriptors : k'.descriptors = k.descriptors
  /-- A release does not look at locks. -/
  view : ∀ m, d.request.operation.leaves = some m → d.request.range.Acceptable →
    ∀ o b, d.request.range.Covers b → k'.view o b = k.view o b

/-- A request comes to the same wherever it sees the same. -/
theorem Met.outcome_eq (h : d.Met k o k₁) (h' : d.Met k' o' k₁') (alike : d.SeesAlike k k') :
    o' = o := by
  have hdescriptor := Kernel.descriptorOf?_eq_of_descriptors alike.descriptors d.request.handle
  have hiff : o' = .ok () ↔ o = .ok () := by
    rw [h.succeeds_iff, h'.succeeds_iff, hdescriptor]
    exact ByteTable.admits_congr alike.view
  cases o with
  | ok => exact hiff.mpr rfl
  | error f =>
    cases o' with
    | ok => cases hiff.mp rfl
    | error f' =>
      have hrefuses := (h.refused f.code rfl).2
      have hrefuses' := (h'.refused f'.code rfl).2
      rw [hdescriptor] at hrefuses'
      have hcode : f'.code = f.code := hrefuses.code_eq hrefuses'
      obtain ⟨code⟩ := f
      obtain ⟨code'⟩ := f'
      exact congrArg (fun c : Int32 => (.error ⟨c⟩ : Outcome .posix)) hcode

theorem Met.acceptable (h : d.Met k (.ok ()) k') : d.request.range.Acceptable := by
  obtain ⟨-, -, hrange⟩ := (h.succeeds_iff.mp rfl).acceptable
  exact hrange

/-- The requests do not meddle with each other: both release, or they have no byte in
    common.  A range that is not accepted has none. -/
def Independent (d d' : Demand) : Prop :=
  (d.request.operation = .release ∧ d'.request.operation = .release) ∨
    (d.request.range.Acceptable → d'.request.range.Acceptable →
      ∀ b, d.request.range.Covers b → ¬ d'.request.range.Covers b)

theorem Independent.symm (h : d.Independent d') : d'.Independent d := by
  rcases h with ⟨hreleases, hreleases'⟩ | hdisjoint
  · exact Or.inl ⟨hreleases', hreleases⟩
  · refine Or.inr fun hrange' hrange b hcovers' hcovers => ?_
    exact hdisjoint hrange hrange' b hcovers hcovers'

end Demand

namespace Session

variable {s next : Session} {action : Action} {answer : Answer} {d : Demand}

/-! ### Between actions -/

/-- A session between two actions: no child is at work, so none has locks. -/
structure AtRest (s : Session) : Prop where
  sound : s.Sound
  childless : ∀ b, s.process.kernel.view .child b = none

theorem view_child_of_served {p p' : Process} {scope : Posix.Scope} {r : Request .posix}
    {o : Outcome .posix} (served : p.Served scope r o p') (parent : p.self = .process) (b : Nat) :
    p'.kernel.view .child b = p.kernel.view .child b := by
  have hmet : Demand.Met ⟨p.self, scope, r⟩ p.kernel o p'.kernel := served.conforms
  exact hmet.view_of_not_reaches fun _ => Demand.not_reaches_child parent b

theorem Change.atRest (change : Change s action answer next) (h : s.AtRest) : next.AtRest := by
  refine ⟨change.sound h.sound, ?_⟩
  intro b
  have hnone := h.childless b
  cases change with
  | invoked _ _ _ served => exact (view_child_of_served served h.sound.self b).trans hnone
  | granted _ _ _ _ _ _ _ _ served =>
    exact (view_child_of_served served h.sound.self b).trans hnone
  | displaced _ _ _ _ _ _ _ _ _ _ _ served released =>
    have hself := served.self_eq.trans h.sound.self
    exact (view_child_of_served released hself b).trans
      ((view_child_of_served served h.sound.self b).trans hnone)
  | refused _ _ _ _ _ _ _ served => exact (view_child_of_served served h.sound.self b).trans hnone
  | looked | vacant | failed => exact hnone
  | freed _ _ _ _ _ _ _ _ released =>
    exact (view_child_of_served released h.sound.self b).trans hnone
  | opened _ _ _ kernel _ adds =>
    show kernel.locks.modeAt .child b = none
    rw [adds.locks]
    exact hnone
  | closed _ _ _ _ closes =>
    rcases Kernel.view_close closes .child b with hview | hview
    · exact hview
    · exact hview.trans hnone
  | child =>
    show LockTable.modeAt (LockTable.dropOwner _ .child) .child b = none
    rw [LockTable.modeAt_dropOwner, if_pos rfl]

theorem AtRest.advance (h : s.AtRest) (action : Action) : (s.advance action).2.AtRest :=
  (advance_change h.sound action).atRest h

theorem AtRest.run (h : s.AtRest) (actions : List Action) : (s.run actions).2.AtRest :=
  runAll_keeps (fun _ action h => h.advance action) h actions

theorem atRest_initial : initial.AtRest :=
  ⟨sound_initial, fun _ => rfl⟩

/-! ### What an action leaves alone -/

/-- The slot that an action fills or empties. -/
def Action.slot? : Action → Option String
  | step taken => taken.claims?.or taken.frees?
  | _ => none

/-- An action with a request opens and closes nothing. -/
theorem Change.files_eq (change : Change s action answer next) (asks : s.demand? action = some d) :
    next.files = s.files ∧ next.process.kernel.descriptors = s.process.kernel.descriptors := by
  cases change with
  | invoked _ _ _ served => exact ⟨rfl, served.descriptors_eq⟩
  | granted _ _ _ _ _ _ _ _ served => exact ⟨rfl, served.descriptors_eq⟩
  | displaced _ _ _ _ _ _ _ _ _ _ _ served released =>
    exact ⟨rfl, released.descriptors_eq.trans served.descriptors_eq⟩
  | refused _ _ _ _ _ _ _ served => exact ⟨rfl, served.descriptors_eq⟩
  | freed _ _ _ _ _ _ _ _ released => exact ⟨rfl, released.descriptors_eq⟩
  | looked | vacant | failed => exact ⟨rfl, rfl⟩
  | opened action _ _ _ opens =>
    cases action with
    | openFile | dup => cases asks
    | step | close | child => cases opens
  | closed => cases asks
  | child _ _ served => exact ⟨rfl, served.descriptors_eq⟩

/-- An action leaves all slots alone but its own. -/
theorem Change.find?_eq (change : Change s action answer next) {slot : String}
    (elsewhere : action.slot? ≠ some slot) : next.slots.find? slot = s.slots.find? slot := by
  cases change with
  | granted step name _ _ _ claims =>
    rw [NameTable.find?_insert, if_neg]
    rintro rfl
    exact elsewhere (by simp only [Action.slot?, claims, Option.some_or])
  | displaced step name _ _ _ _ _ _ claims =>
    rw [NameTable.find?_insert, if_neg]
    rintro rfl
    exact elsewhere (by simp only [Action.slot?, claims, Option.some_or])
  | freed step name _ _ _ _ frees =>
    rw [NameTable.find?_erase, if_neg]
    rintro rfl
    exact elsewhere (by
      simp only [Action.slot?, Step.claims?_eq_none_of_frees frees, frees, Option.none_or])
  | invoked | refused | looked | vacant | opened | closed | failed | child => rfl

/-- What an action asks for depends on the open files and its own slot. -/
theorem demand?_eq (files : next.files = s.files)
    (own : ∀ slot, action.slot? = some slot → next.slots.find? slot = s.slots.find? slot) :
    next.demand? action = s.demand? action := by
  cases action with
  | step taken =>
    rw [demand?, demand?, resolve_eq_of_files files]
    cases taken with
    | unlock slot | drop slot =>
      simp only [Step.mapFile, Step.enters?, own slot rfl]
    | invoke | lock | tryLock | guard | info => rfl
  | child => rw [demand?, demand?, resolve_eq_of_files files]
  | openFile | dup | close => rfl

theorem clears?_eq
    (own : ∀ slot, action.slot? = some slot → next.slots.find? slot = s.slots.find? slot) :
    next.clears? action = s.clears? action := by
  cases action with
  | step taken =>
    cases taken with
    | lock slot | tryLock slot | guard slot =>
      simp only [clears?, Step.displaces?, Step.claims?, Option.bind_some, own slot rfl]
    | invoke | info | unlock | drop => rfl
  | child | openFile | dup | close => rfl

theorem shows_eq (files : next.files = s.files) (o : Outcome .posix) :
    next.shows action o = s.shows action o := by
  cases action with
  | step => rw [shows, shows, resolve_eq_of_files files]
  | child | openFile | dup | close => rfl

/-! ### One request -/

/-- The action makes one request and no other. -/
structure AsksOnly (s : Session) (action : Action) (d : Demand) : Prop where
  demand : s.demand? action = some d
  clears : s.clears? action = none

section AsksOnly

variable {action' : Action} {d' : Demand} {result : Outcome .posix} {k : Kernel}

theorem AtRest.view_advance (h : s.AtRest) (asks : s.AsksOnly action d)
    (serves : s.Serves action d result k) (o : Owner) (b : Nat) :
    (s.advance action).2.process.kernel.view o b
      = if o ≠ .child ∧ result = .ok () ∧ d.Reaches s.process.kernel o b
        then d.request.operation.leaves else s.process.kernel.view o b := by
  by_cases hchild : o = .child
  · -- what a child has locked in its own name is gone by now
    subst hchild
    rw [(h.advance action).childless, if_neg fun hall => hall.1 rfl, h.childless]
  · have hrest : (s.advance action).2.process.kernel.view o b = k.view o b := by
      apply serves.rest o b hchild
      intro _ d' hclears
      rw [asks.clears] at hclears
      cases hclears
    rw [hrest]
    by_cases hreaches : result = .ok () ∧ d.Reaches s.process.kernel o b
    · obtain ⟨rfl, hreaches⟩ := hreaches
      rw [serves.met.view_of_reaches hreaches, if_pos ⟨hchild, rfl, hreaches⟩]
    · rw [if_neg fun hall => hreaches hall.2]
      exact serves.met.view_of_not_reaches fun hok hr => hreaches ⟨hok, hr⟩

theorem AtRest.seesAlike (h : s.AtRest) (asks : s.AsksOnly action d)
    (serves : s.Serves action d result k) (independent : d.Independent d') :
    d'.SeesAlike s.process.kernel (s.advance action).2.process.kernel := by
  refine ⟨((advance_change h.sound action).files_eq asks.demand).2, ?_⟩
  intro m hacquires hrange' o b hcovers'
  rw [h.view_advance asks serves, if_neg]
  rintro ⟨-, rfl, -, hcovers⟩
  rcases independent with ⟨-, hreleases⟩ | hdisjoint
  · rw [hreleases] at hacquires
    cases hacquires
  · exact hdisjoint serves.met.acceptable hrange' b hcovers hcovers'

/-- After an independent action in another slot an action asks for what it asked for
    before, and comes to the same. -/
theorem AtRest.serves_after (h : s.AtRest) (asks : s.AsksOnly action d)
    (asks' : s.AsksOnly action' d')
    (elsewhere : ∀ slot, action'.slot? = some slot → action.slot? ≠ some slot)
    (independent : d.Independent d') :
    (s.advance action).2.AsksOnly action' d' ∧
      ∃ result' k' k'', s.Serves action' d' result' k' ∧
        (s.advance action).2.Serves action' d' result' k'' ∧
        ((s.advance action).2.advance action').1 = (s.advance action').1 := by
  have hchange := advance_change h.sound action
  have hfiles := (hchange.files_eq asks.demand).1
  have hslots : ∀ slot, action'.slot? = some slot →
      (s.advance action).2.slots.find? slot = s.slots.find? slot :=
    fun slot hslot => hchange.find?_eq (elsewhere slot hslot)
  have hasks : (s.advance action).2.AsksOnly action' d' :=
    ⟨(demand?_eq hfiles hslots).trans asks'.demand, (clears?_eq hslots).trans asks'.clears⟩
  obtain ⟨result, k, hserves⟩ := exists_serves h.sound asks.demand
  obtain ⟨result', k', hserves'⟩ := exists_serves h.sound asks'.demand
  obtain ⟨result'', k'', hserves''⟩ := exists_serves (h.advance action).sound hasks.demand
  -- asked before or after the other action, the request comes to one outcome
  obtain rfl := hserves'.met.outcome_eq hserves''.met (h.seesAlike asks hserves independent)
  refine ⟨hasks, result'', k', k'', hserves', hserves'', ?_⟩
  rw [hserves''.answer, hserves'.answer, shows_eq hfiles]

theorem AtRest.view_comm (h : s.AtRest) (asks : s.AsksOnly action d)
    (asks' : s.AsksOnly action' d')
    (elsewhere : ∀ slot, action'.slot? = some slot → action.slot? ≠ some slot)
    (independent : d.Independent d') :
    ((s.advance action).2.advance action').2.process.kernel.view
      = ((s.advance action').2.advance action).2.process.kernel.view := by
  obtain ⟨hasks', o', _, _, hserves', hlast', -⟩ :=
    h.serves_after asks asks' elsewhere independent
  obtain ⟨hasks, o, _, _, hserves, hlast, -⟩ :=
    h.serves_after asks' asks (fun slot hslot hslot' => elsewhere slot hslot' hslot)
      independent.symm
  have hdescriptors := ((advance_change h.sound action).files_eq asks.demand).2
  have hdescriptors' := ((advance_change h.sound action').files_eq asks'.demand).2
  funext owner b
  rw [(h.advance action).view_advance hasks' hlast', h.view_advance asks hserves,
    (h.advance action').view_advance hasks hlast, h.view_advance asks' hserves']
  simp only [Demand.reaches_iff_of_descriptors hdescriptors,
    Demand.reaches_iff_of_descriptors hdescriptors']
  split
  · next hwritten' =>
    split
    · next hwritten =>
      -- both write the byte, so both release
      obtain ⟨-, rfl, -, hcovers⟩ := hwritten
      obtain ⟨-, rfl, -, hcovers'⟩ := hwritten'
      rcases independent with ⟨hreleases, hreleases'⟩ | hdisjoint
      · rw [hreleases, hreleases']
      · exact absurd hcovers' (hdisjoint hserves.met.acceptable hserves'.met.acceptable b hcovers)
    · rfl
  · rfl

end AsksOnly

/-! ### Letting go of guards -/

/-- To let go of the guard in a slot frees a byte of an owner. -/
def LetsGo (s : Session) (o : Owner) (b : Nat) (slot : String) : Prop :=
  ∃ g, s.slots.find? slot = some g ∧ g.range.Acceptable ∧
    s.process.kernel.holder? g = some o ∧ g.range.Covers b

/-- Let go of the guards in some slots. -/
def drops (slots : List String) : List Action :=
  slots.map fun slot => .step (.drop slot)

theorem advance_drop_of_vacant {slot : String} (vacant : s.slots.find? slot = none) :
    (s.advance (.step (.drop slot))).2 = s := by
  simp only [advance, Step.mapFile, Step.perform, vacant]
  rfl

section Drop

variable {slot : String} {g : Guard Empty .posix} {o : Owner} {b : Nat} {m : Mode}

theorem asksOnly_drop (kept : s.slots.find? slot = some g) :
    s.AsksOnly (.step (.drop slot)) ⟨.process, g.backend.lockScope, g.releaseRequest⟩ := by
  refine ⟨?_, rfl⟩
  rw [demand?, enters?_of_frees (.drop slot) rfl kept]
  rfl

theorem descriptors_advance_drop (hs : s.Sound) (slot : String) :
    (s.advance (.step (.drop slot))).2.process.kernel.descriptors
      = s.process.kernel.descriptors := by
  cases hfound : s.slots.find? slot with
  | none => rw [advance_drop_of_vacant hfound]
  | some g => exact ((advance_change hs _).files_eq (asksOnly_drop hfound).demand).2

theorem find?_advance_drop (hs : s.Sound) (slot other : String) :
    (s.advance (.step (.drop slot))).2.slots.find? other
      = if other = slot then none else s.slots.find? other := by
  cases hfound : s.slots.find? slot with
  | none =>
    rw [advance_drop_of_vacant hfound]
    split
    · next heq => rw [heq, hfound]
    · rfl
  | some g =>
    rw [advance_of_enters hs.held (enters?_of_frees (.drop slot) rfl hfound),
      ← NameTable.find?_erase]
    dsimp only
    generalize (((Route.checked g.backend).perform g.releaseRequest).run s.process).1 = o
    cases o <;> rfl

theorem letsGo_iff_of_kept (kept : s.slots.find? slot = some g) :
    s.LetsGo o b slot ↔
      g.range.Acceptable ∧ s.process.kernel.holder? g = some o ∧ g.range.Covers b := by
  constructor
  · rintro ⟨g', kept', hall⟩
    obtain rfl := Option.some.inj (kept.symm.trans kept')
    exact hall
  · intro hall
    exact ⟨g, kept, hall⟩

theorem not_letsGo_of_vacant (vacant : s.slots.find? slot = none) : ¬ s.LetsGo o b slot := by
  rintro ⟨g, kept, -⟩
  rw [vacant] at kept
  cases kept

theorem AtRest.view_drop_iff (h : s.AtRest) (slot : String) :
    (s.advance (.step (.drop slot))).2.process.kernel.view o b = some m ↔
      s.process.kernel.view o b = some m ∧ ¬ s.LetsGo o b slot := by
  cases hfound : s.slots.find? slot with
  | none =>
    rw [advance_drop_of_vacant hfound]
    exact (and_iff_left (not_letsGo_of_vacant hfound)).symm
  | some g =>
    have hasks := asksOnly_drop hfound
    obtain ⟨result, k, hserves⟩ := exists_serves h.sound hasks.demand
    have hwrites : (o ≠ .child ∧ result = .ok () ∧
        Demand.Reaches ⟨.process, g.backend.lockScope, g.releaseRequest⟩ s.process.kernel o b) ↔
          s.LetsGo o b slot := by
      rw [letsGo_iff_of_kept hfound]
      constructor
      · rintro ⟨-, rfl, howner, hcovers⟩
        exact ⟨hserves.met.acceptable, howner, hcovers⟩
      · rintro ⟨hrange, howner, hcovers⟩
        have hreaches : Demand.Reaches ⟨.process, g.backend.lockScope, g.releaseRequest⟩
            s.process.kernel o b := ⟨howner, hcovers⟩
        rcases Option.map_eq_some_iff.mp howner with ⟨desc, hdesc, -⟩
        refine ⟨?_, hserves.met.succeeds_iff.mpr ⟨desc, hdesc, hrange⟩, hreaches⟩
        rintro rfl
        exact Demand.not_reaches_child rfl b hreaches
    rw [h.view_advance hasks hserves]
    by_cases hlets : s.LetsGo o b slot
    · rw [if_pos (hwrites.mpr hlets)]
      exact ⟨nofun, fun hboth => absurd hlets hboth.2⟩
    · rw [if_neg fun hall => hlets (hwrites.mp hall)]
      exact (and_iff_left hlets).symm

theorem letsGo_advance_drop_iff (hs : s.Sound) (slot other : String) :
    (s.advance (.step (.drop slot))).2.LetsGo o b other ↔ other ≠ slot ∧ s.LetsGo o b other := by
  have hdescriptor := Kernel.descriptorOf?_eq_of_descriptors (descriptors_advance_drop hs slot)
  unfold LetsGo Kernel.holder?
  simp only [find?_advance_drop hs, hdescriptor]
  split
  · next heq =>
    constructor
    · rintro ⟨g, hnone, -⟩
      cases hnone
    · rintro ⟨hne, -⟩
      exact absurd heq hne
  · next hne => exact (and_iff_right hne).symm

/-- What is held after some guards were let go of is what was held, but for their bytes. -/
theorem AtRest.view_drops_iff (h : s.AtRest) (slots : List String) :
    (s.run (drops slots)).2.process.kernel.view o b = some m ↔
      s.process.kernel.view o b = some m ∧ ∀ slot ∈ slots, ¬ s.LetsGo o b slot := by
  induction slots generalizing s with
  | nil => exact (and_iff_left nofun).symm
  | cons slot rest ih =>
    -- a slot that comes twice is empty the second time
    have hrest := ih (h.advance (.step (.drop slot)))
    have hrun : (s.run (drops (slot :: rest))).2
        = ((s.advance (.step (.drop slot))).2.run (drops rest)).2 := rfl
    rw [hrun, hrest, h.view_drop_iff, List.forall_mem_cons, and_assoc]
    refine and_congr_right fun _ => and_congr_right fun hslot => ?_
    refine forall_congr' fun other => forall_congr' fun _ => ?_
    rw [letsGo_advance_drop_iff h.sound, not_and]
    constructor
    · intro hother hlets
      by_cases heq : other = slot
      · exact hslot (heq ▸ hlets)
      · exact hother heq hlets
    · intro hother _
      exact hother

end Drop

/-- **Independent requests commute.**  At every state that a session reaches, two actions
    that make one request each, and are about different slots, may be taken in either
    order if their requests are independent.  Each is answered as if it came first, and
    the same bytes are locked afterwards.  Guards may be let go of in any order. -/
theorem independent_requests_commute (before : List Action) :
    let s := (initial.run before).2
    (∀ action action' d d', s.AsksOnly action d → s.AsksOnly action' d' →
      (∀ slot, action.slot? = some slot → action'.slot? ≠ some slot) → d.Independent d' →
      ((s.advance action').2.advance action).1 = (s.advance action).1 ∧
      ((s.advance action).2.advance action').1 = (s.advance action').1 ∧
      ((s.advance action).2.advance action').2.process.kernel.view
        = ((s.advance action').2.advance action).2.process.kernel.view) ∧
    ∀ slots slots', List.Perm slots slots' →
      (s.run (drops slots)).2.process.kernel.view
        = (s.run (drops slots')).2.process.kernel.view := by
  intro s
  have h : s.AtRest := atRest_initial.run before
  constructor
  · intro action action' d d' asks asks' apart independent
    have apart' : ∀ slot, action'.slot? = some slot → action.slot? ≠ some slot :=
      fun slot hslot' hslot => apart slot hslot hslot'
    obtain ⟨-, -, _, _, -, -, hanswer⟩ := h.serves_after asks' asks apart independent.symm
    obtain ⟨-, -, _, _, -, -, hanswer'⟩ := h.serves_after asks asks' apart' independent
    exact ⟨hanswer, hanswer', h.view_comm asks asks' apart' independent⟩
  · intro slots slots' hperm
    funext o b
    apply Option.ext
    intro m
    rw [h.view_drops_iff, h.view_drops_iff]
    simp only [hperm.mem_iff]

/-- Two descriptions of the file, of which one has a shared lock on all of it. -/
def sharedFile : List Action :=
  [.openFile "a" .readWrite, .openFile "b" .readWrite,
    .step (.guard "w" (.fcntl .openFileDescription) (.file "b") .nonblocking .wholeFile .shared)]

/-- The other one locks the bytes before an offset. -/
def lockBefore : Action :=
  .step (.guard "x" (.fcntl .openFileDescription) (.file "a") .blocking ⟨10, -10⟩ .shared)

/-- A child wants all bytes from there on for itself. -/
def lockAfter : Action :=
  .child (.acquireCode (.file "b") false 10 0 false)

/-- The two neighbours do not see each other: one is granted and one refused, in either
    order. -/
theorem neighbours_commute :
    let d : Demand := ⟨.process, .openFileDescription,
      ⟨.descriptor 3, ⟨10, -10⟩, .acquire .blocking .shared⟩⟩
    let d' : Demand := ⟨.child, .process,
      ⟨.descriptor 4, ⟨10, 0⟩, .acquire .nonblocking .exclusive⟩⟩
    (initial.run sharedFile).2.AsksOnly lockBefore d ∧
      (initial.run sharedFile).2.AsksOnly lockAfter d' ∧ d.Independent d' ∧
      (((initial.run sharedFile).2.advance lockAfter).2.advance lockBefore).1.Succeeds ∧
      ¬ (((initial.run sharedFile).2.advance lockBefore).2.advance lockAfter).1.Succeeds ∧
      (((initial.run sharedFile).2.advance lockAfter).2.advance lockBefore).2.process.kernel.view
        (.description 0) 9 = some .shared := by
  intro d d'
  have asks : (initial.run sharedFile).2.AsksOnly lockBefore d :=
    ⟨by decide +kernel, by decide +kernel⟩
  have asks' : (initial.run sharedFile).2.AsksOnly lockAfter d' :=
    ⟨by decide +kernel, by decide +kernel⟩
  have independent : d.Independent d' := by
    refine Or.inr fun _ _ b hcovers hcovers' => ?_
    have hten : (10 : Int64).toInt = 10 := rfl
    have hback : (-10 : Int64).toInt = -10 := rfl
    have hzero : (0 : Int64).toInt = 0 := rfl
    simp only [d, d', ByteRange.Covers, hten, hback, hzero] at hcovers hcovers'
    omega
  obtain ⟨hanswer, hanswer', hview⟩ := (independent_requests_commute sharedFile).1 lockBefore
    lockAfter d d' asks asks' (fun slot _ => nofun) independent
  refine ⟨asks, asks', independent, ?_, ?_, ?_⟩
  · rw [hanswer]
    decide +kernel
  · rw [hanswer']
    decide +kernel
  · rw [← hview]
    decide +kernel

end Session

end FileLocks
