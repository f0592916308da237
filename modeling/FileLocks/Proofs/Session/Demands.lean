/-
  FileLocks/Proofs/Session/Demands.lean
  =====================================
  **What an action asks of the kernel.**

  An action of a session makes at most one request, and if that makes a guard in
  place of another, the other guard makes a second one.  A `Demand` is such a
  request with the process that makes it and the scope of its lock, so that it
  tells which bytes of which owner it is about.

  `exists_serves` says how the demand of an action is met, whether it is that of a
  step or of a child, and what is seen of it.
-/
import FileLocks.Proofs.Entries
import FileLocks.Proofs.Session.Locks

namespace FileLocks

theorem ByteTable.Refuses.code_ne_zero {t : ByteTable} {self : Owner} {scope : Posix.Scope}
    {r : ByteRange} {d? : Option Descriptor} {operation : Operation} {code : Int32}
    (h : t.Refuses self scope r d? operation code) : code ≠ 0 := by
  cases h with
  | blocked _ wait => cases wait <;> decide
  | notOpen | beforeStart | beyondEnd | noAccess => decide

/-- The code zero tells of success. -/
theorem Kernel.Conforms.toCode_eq_zero_iff {before after : Kernel} {asker : Owner}
    {scope : Posix.Scope} {r : Request .posix} {o : Outcome .posix}
    (h : before.Conforms asker scope r o after) : o.toCode = 0 ↔ o = .ok () := by
  rcases o with f | _
  · have hcode : f.code ≠ 0 := (h.refused f.code rfl).2.code_ne_zero
    exact iff_of_false hcode (by simp)
  · exact iff_of_true rfl rfl

/-! ### Demands -/

/-- A request, with the process that makes it and the scope of its lock. -/
structure Demand where
  asker : Owner
  scope : Posix.Scope
  request : Request .posix
deriving DecidableEq

namespace Demand

variable {k k' : Kernel} {d : Demand} {o : Owner} {b : Nat}

/-- The owner for whom the request is served, if its file is open. -/
def owner? (k : Kernel) (d : Demand) : Option Owner :=
  (k.descriptorOf? d.request.handle).map fun desc => Kernel.ownerOf d.asker desc d.scope

/-- The request is about a byte of an owner. -/
def Reaches (d : Demand) (k : Kernel) (o : Owner) (b : Nat) : Prop :=
  d.owner? k = some o ∧ d.request.range.Covers b

instance : Decidable (d.Reaches k o b) := by
  unfold Reaches
  infer_instance

theorem reaches_iff_of_descriptors (h : k'.descriptors = k.descriptors) :
    d.Reaches k' o b ↔ d.Reaches k o b := by
  unfold Reaches owner?
  rw [Kernel.descriptorOf?_eq_of_descriptors h]

/-- The parent asks nothing in the name of a child. -/
theorem not_reaches_child (asker : d.asker = .process) (b : Nat) : ¬ d.Reaches k .child b := by
  rintro ⟨howner, -⟩
  rcases Option.map_eq_some_iff.mp howner with ⟨desc, -, hchild⟩
  rw [asker] at hchild
  cases hscope : d.scope with
  | process =>
    rw [hscope] at hchild
    cases hchild
  | openFileDescription =>
    rw [hscope] at hchild
    cases hchild

/-- The request came to an outcome, and to a kernel after it. -/
def Met (d : Demand) (k : Kernel) (result : Outcome .posix) (k' : Kernel) : Prop :=
  k.Conforms d.asker d.scope d.request result k'

/-- Who is not asked about, or in vain, keeps what he has. -/
theorem Met.view_of_not_reaches {result : Outcome .posix} (h : d.Met k result k')
    (away : result = .ok () → ¬ d.Reaches k o b) : k'.view o b = k.view o b := by
  cases result with
  | error f => rw [(h.refused f.code rfl).1]
  | ok =>
    rcases h.written rfl with ⟨desc, hdesc, hview⟩
    rw [hview, ByteTable.write, if_neg]
    rintro ⟨howner, hcovers⟩
    apply away rfl
    constructor
    · rw [owner?, hdesc, Option.map_some, howner]
    · exact hcovers

theorem Met.view_of_reaches (h : d.Met k (.ok ()) k') (reaches : d.Reaches k o b) :
    k'.view o b = d.request.operation.leaves := by
  obtain ⟨howner, hcovers⟩ := reaches
  rcases h.written rfl with ⟨desc, hdesc, hview⟩
  rw [owner?, hdesc, Option.map_some] at howner
  rw [hview, ByteTable.write, if_pos ⟨(Option.some.inj howner).symm, hcovers⟩]

/-- Who holds a byte after a request held it before, or the request has locked it. -/
theorem Met.held_or_reached {result : Outcome .posix} {m : Mode} (h : d.Met k result k')
    (held : k'.view o b = some m) :
    k.view o b = some m ∨ d.request.operation.leaves = some m ∧ d.Reaches k o b := by
  by_cases hreaches : result = .ok () ∧ d.Reaches k o b
  · obtain ⟨rfl, hreaches⟩ := hreaches
    rw [h.view_of_reaches hreaches] at held
    exact Or.inr ⟨held, hreaches⟩
  · rw [h.view_of_not_reaches fun hok hr => hreaches ⟨hok, hr⟩] at held
    exact Or.inl held

/-- A byte was locked, so nobody else had it in a mode that forbids this. -/
theorem Met.not_exclusive (h : d.Met k (.ok ()) k') {m m' : Mode} {o' : Owner}
    (acquires : d.request.operation.leaves = some m) (reaches : d.Reaches k o b)
    (other : o' ≠ o) (held : k.view o' b = some m') : ¬ (m = .exclusive ∨ m' = .exclusive) := by
  obtain ⟨howner, hcovers⟩ := reaches
  have hadmits := h.succeeds_iff.mp rfl
  cases hoperation : d.request.operation with
  | release =>
    rw [hoperation] at acquires
    cases acquires
  | acquire wait mode =>
    rw [hoperation] at acquires hadmits
    cases acquires
    obtain ⟨desc, hdesc, -, -, hfree⟩ := hadmits
    rw [owner?, hdesc, Option.map_some] at howner
    rw [Option.some.inj howner] at hfree
    intro hexclusive
    exact hfree ⟨b, hcovers, o', other, m', held, hexclusive⟩

end Demand

namespace Session

variable {s next : Session}

/-! ### The demands of an action -/

theorem resolve_eq_of_files (h : next.files = s.files) : next.resolve = s.resolve := by
  funext target
  cases target with
  | handle => rfl
  | file name => simp only [resolve, h]

theorem enters?_of_frees (step : Step Empty .posix Target) {slot : String}
    {g : Guard Empty .posix} (frees : step.frees? = some slot)
    (kept : s.slots.find? slot = some g) :
    (step.mapFile s.resolve).enters? s.slots = some (.checked g.backend, g.releaseRequest) := by
  cases step with
  | unlock | drop =>
    cases frees
    simp only [Step.mapFile, Step.enters?, kept, Option.map_some]
  | invoke | lock | tryLock | guard | info => cases frees

theorem runChild_eq (parent : Process) (invocation : Invocation Empty .posix (Handle .posix)) :
    let asked := (invocation.route.perform invocation.asked).run { parent with self := .child }
    (runChild parent invocation).1.toCode = asked.1.toCode ∧
      (runChild parent invocation).2
        = { asked.2.kernel with locks := asked.2.kernel.locks.dropOwner .child } := by
  simp only [runChild, Invocation.perform_eq]
  constructor
  · cases invocation <;> rfl
  · rfl

/-- The request that an action makes. -/
def demand? (s : Session) : Action → Option Demand
  | .step step =>
    ((step.mapFile s.resolve).enters? s.slots).map fun (route, r) => ⟨.process, route.lockScope, r⟩
  | .child invocation =>
    some ⟨.child, invocation.lockScope, (invocation.mapFile s.resolve).asked⟩
  | _ => none

/-- The request of the guard that an action displaces, once its own is granted. -/
def clears? (s : Session) : Action → Option Demand
  | .step step =>
    (step.displaces? s.slots).map fun g => ⟨.process, g.backend.lockScope, g.releaseRequest⟩
  | _ => none

/-- All that is asked of the kernel if an action succeeds, in order. -/
def demands (s : Session) (action : Action) : List Demand :=
  (s.demand? action).toList ++ (s.clears? action).toList

theorem mem_demands {action : Action} {d : Demand} :
    d ∈ s.demands action ↔ s.demand? action = some d ∨ s.clears? action = some d := by
  rw [demands, List.mem_append, Option.mem_toList, Option.mem_toList]

/-- The answer tells of success.  To let go of a guard tells nothing, and counts as
    one. -/
def Answer.Succeeds : Answer → Prop
  | .step answer => answer.Tells (.ok ())
  | .outcome o => o = .ok ()
  | .child code => code = 0

instance (o : Outcome .posix) : Decidable (o = .ok ()) :=
  match o with
  | .ok () => isTrue rfl
  | .error _ => isFalse nofun

instance : (answer : Answer) → Decidable answer.Succeeds
  | .step (.report (.outcome o)) => inferInstanceAs (Decidable (o = .ok ()))
  | .step (.report (.code c)) => inferInstanceAs (Decidable (c = 0))
  | .step (.granted _) => isTrue rfl
  | .step (.described _) => isFalse id
  | .step .dropped => isTrue trivial
  | .step .empty => isFalse id
  | .outcome o => inferInstanceAs (Decidable (o = .ok ()))
  | .child code => inferInstanceAs (Decidable (code = 0))

/-- What is seen of an action when its request comes to an outcome. -/
def shows (s : Session) : Action → Outcome .posix → Answer
  | .step step, o => .step ((step.mapFile s.resolve).tells o)
  | .child _, o => .child o.toCode
  | _, o => .outcome o

/-- How the demand of an action is met, and what is seen of it. -/
structure Serves (s : Session) (action : Action) (d : Demand) (result : Outcome .posix)
    (k : Kernel) : Prop where
  met : d.Met s.process.kernel result k
  answer : (s.advance action).1 = s.shows action result
  succeeds : result = .ok () → (s.advance action).1.Succeeds
  acquired : ∀ m, d.request.operation.leaves = some m → (s.advance action).1.Succeeds →
    result = .ok ()
  /-- Nothing happens to the locks afterwards, except by a guard that is displaced and to
      what a child has locked in its own name. -/
  rest : ∀ o b, o ≠ .child →
    (result = .ok () → ∀ d', s.clears? action = some d' → ¬ d'.Reaches s.process.kernel o b) →
    (s.advance action).2.process.kernel.view o b = k.view o b

/-- What a step tells of an acquisition is how it went. -/
theorem eq_ok_of_tells {slots : Slots Empty .posix} {step : Step Empty .posix (Handle .posix)}
    {route : Route Empty .posix} {r : Request .posix} {result : Outcome .posix} {m : Mode}
    (entry : step.enters? slots = some (route, r)) (acquires : r.operation.leaves = some m)
    (code : result.toCode = 0 → result = .ok ()) (tells : (step.tells result).Tells (.ok ())) :
    result = .ok () := by
  cases step with
  | invoke invocation =>
    cases invocation with
    | request => exact tells
    | acquireCode | releaseCode => exact code tells
  | lock | tryLock | guard =>
    cases result with
    | ok => rfl
    | error f => exact tells
  | info => cases entry
  | unlock slot | drop slot =>
    -- a drop tells nothing, but it acquires nothing either
    rcases Option.map_eq_some_iff.mp entry with ⟨g, -, hentry⟩
    cases hentry
    cases acquires

/-- To clear the place of a guard is to do nothing, or to make the request by which the
    displaced guard lets go of its bytes. -/
theorem clearPlace_cases {p : Process} (hp : p.kernel.Sound) {slots : Slots Empty .posix}
    (held : slots.Held) (step : Step Empty .posix (Handle .posix)) (result : Outcome .posix) :
    ((step.clearPlace slots result).run p).2.kernel = p.kernel ∨
      result = .ok () ∧ ∃ old o, step.displaces? slots = some old ∧
        Demand.Met ⟨p.self, old.backend.lockScope, old.releaseRequest⟩ p.kernel o
          ((step.clearPlace slots result).run p).2.kernel := by
  cases result with
  | error f => exact Or.inl rfl
  | ok =>
    unfold Step.clearPlace
    cases hold : step.displaces? slots with
    | none => exact Or.inl rfl
    | some old =>
      obtain ⟨slot, -, hfound⟩ := Option.bind_eq_some_iff.mp hold
      obtain ⟨o, hreleased⟩ := Process.served_drop hp (held slot old hfound)
      exact Or.inr ⟨rfl, old, o, rfl, hreleased.conforms⟩

/-- A guard that is displaced has only its own bytes to let go of. -/
theorem view_clearPlace {p : Process} (hp : p.kernel.Sound) {slots : Slots Empty .posix}
    (held : slots.Held) {step : Step Empty .posix (Handle .posix)} {result : Outcome .posix}
    {o : Owner} {b : Nat}
    (away : result = .ok () → ∀ old, step.displaces? slots = some old →
      ¬ Demand.Reaches ⟨p.self, old.backend.lockScope, old.releaseRequest⟩ p.kernel o b) :
    ((step.clearPlace slots result).run p).2.kernel.view o b = p.kernel.view o b := by
  rcases clearPlace_cases hp held step result with hsame | ⟨hok, old, o', hold, hmet⟩
  · rw [hsame]
  · apply hmet.view_of_not_reaches
    intro _
    exact away hok old hold

/-- To take a step that makes a request is to make it, to let go of the guard that is
    displaced, and to tell and keep what comes of it. -/
theorem advance_of_enters (held : s.slots.Held) {step : Step Empty .posix Target}
    {route : Route Empty .posix} {r : Request .posix}
    (entry : (step.mapFile s.resolve).enters? s.slots = some (route, r)) :
    let asked := (route.perform r).run s.process
    s.advance (.step step)
      = (.step ((step.mapFile s.resolve).tells asked.1),
        { s with
          process := (((step.mapFile s.resolve).clearPlace s.slots asked.1).run asked.2).2
          slots := (step.mapFile s.resolve).keeps s.slots asked.1 }) := by
  rw [advance_step, Step.perform_eq held entry]
  rfl

theorem serves_step (hs : s.Sound) {step : Step Empty .posix Target} {d : Demand}
    (demand : s.demand? (.step step) = some d) :
    ∃ result k, s.Serves (.step step) d result k := by
  rcases Option.map_eq_some_iff.mp demand with ⟨⟨route, r⟩, hentry, rfl⟩
  have hserved := Process.served_route hs.kernel route r
  have hadvance := advance_of_enters hs.held hentry
  dsimp only at hadvance
  -- the request leads from `s.process` to `between`, the guard that is displaced on from there
  generalize ((route.perform r).run s.process).1 = result at hserved hadvance
  generalize ((route.perform r).run s.process).2 = between at hserved hadvance
  have hmet : Demand.Met ⟨.process, route.lockScope, r⟩ s.process.kernel result between.kernel :=
    hs.self ▸ hserved.conforms
  refine ⟨result, between.kernel, hmet, congrArg Prod.fst hadvance, ?_, ?_, ?_⟩
  · rintro rfl
    rw [hadvance]
    exact Step.tells_tells _ _
  · intro m acquires
    rw [hadvance]
    exact eq_ok_of_tells hentry acquires hmet.toCode_eq_zero_iff.mp
  · intro o b _ away
    rw [hadvance]
    apply view_clearPlace (hserved.sound hs.kernel) hs.held
    intro hok old hold
    rw [Demand.reaches_iff_of_descriptors hserved.descriptors_eq, hserved.self_eq, hs.self]
    apply away hok
    rw [Step.displaces?, Step.claims?_mapFile] at hold
    rw [clears?, Step.displaces?, hold, Option.map_some]

/-- What a child has locked in its own name ends with it, and nothing else does. -/
theorem view_advance_child (s : Session) (invocation : Invocation Empty .posix Target) (o : Owner)
    (b : Nat) : (s.advance (.child invocation)).2.process.kernel.view o b
      = if o = .child then none else (s.forked invocation).kernel.view o b :=
  LockTable.modeAt_dropOwner _ _ _ _

theorem serves_child (hs : s.Sound) (invocation : Invocation Empty .posix Target) :
    ∃ result k, s.Serves (.child invocation)
      ⟨.child, invocation.lockScope, (invocation.mapFile s.resolve).asked⟩ result k := by
  obtain ⟨result, hanswer, hserved⟩ := served_child hs invocation
  have hmet : Demand.Met ⟨.child, invocation.lockScope, (invocation.mapFile s.resolve).asked⟩
    s.process.kernel result (s.forked invocation).kernel := hserved.conforms
  refine ⟨result, (s.forked invocation).kernel, hmet, hanswer, ?_, ?_, ?_⟩
  · rintro rfl
    rw [hanswer]
    rfl
  · intro m _ succeeds
    rw [hanswer] at succeeds
    exact hmet.toCode_eq_zero_iff.mp succeeds
  · intro o b hchild _
    rw [view_advance_child, if_neg hchild]

/-- The demand of an action is met, and nothing else is done to the locks. -/
theorem exists_serves (hs : s.Sound) {action : Action} {d : Demand}
    (demand : s.demand? action = some d) : ∃ result k, s.Serves action d result k := by
  cases action with
  | step => exact serves_step hs demand
  | child invocation =>
    cases demand
    exact serves_child hs invocation
  | openFile | dup | close => cases demand

end Session

end FileLocks
