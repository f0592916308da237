/-
  FileLocks/Proofs/Scripted/Completion.lean
  =========================================
  **How a request on Windows comes to its end.**

  The system answers a request at once, or says that it goes on in the background.
  Then its end is waited for, once, and the answer to that is final, even if it says
  that the request still goes on.  The final answer is traced and told; only when an
  unlocking finds nothing to unlock, what is told is success.
-/
import FileLocks.Proofs.Scripted.Tracing

namespace FileLocks.Win32

/-- What a reply to a call says: any number but zero is success.  Without a reply the
    call succeeds. -/
def answer : Option Reply → Outcome .win32
  | none => .ok ()
  | some reply => if reply.ret = 0 then .error ⟨reply.code⟩ else .ok ()

theorem firstResult_eq_answer (replies : List Reply) :
    firstResult replies = answer replies.head? := by
  cases replies with
  | nil => rfl
  | cons reply rest =>
    simp only [firstResult, verdict, List.head?_cons, Platform.reportsFailure, beq_iff_eq, answer]
    split <;> rfl

/-- After a request the trace has one record more, of its call with the final answer.  This
    is also what is told of it, but that it is no failure to unlock what is not locked. -/
structure Concludes (r : Request .win32) (call : Call .win32) (s : Scripted .win32)
    (run : Outcome .win32 × Scripted .win32) (final : Outcome .win32) : Prop where
  traced : ∃ record, run.2.trace = s.trace ++ [record] ∧ record.answeredCall = ⟨call, final⟩
  locking : ∀ wait mode, r.operation = .acquire wait mode → run.1 = final
  unlocking : r.operation = .release → final ≠ .error ⟨Win32Error.notLocked⟩ → run.1 = final
  notLocked : r.operation = .release → final = .error ⟨Win32Error.notLocked⟩ → run.1 = .ok ()

theorem submit_of_negative {r : Request .win32} (h : r.range.offset < 0 ∨ r.range.length < 0)
    (s : Scripted .win32) : (submit r).run s = (.error ⟨Win32Error.invalidParameter⟩, s) := by
  have hextent : extent? r.range = none := by
    unfold extent?
    rw [if_pos h]
  unfold submit
  rw [hextent]
  rfl

theorem overlapped?_encode (file : Handle .win32) (e : Extent) (operation : Operation) :
    (encode file e operation).overlapped? = some (overlappedAt e.offset) := by
  cases operation <;> rfl

theorem run_submit_of_extent? {r : Request .win32} {e : Extent}
    (hextent : extent? r.range = some e) (s : Scripted .win32) :
    let asked : List (Event .win32) :=
      .call (encode r.handle e r.operation)
        :: if isPending (firstResult s.replies) then
            [.call (.getOverlappedResult r.handle (overlappedAt e.offset) 1)]
          else []
    ∃ code, (submit r).run s
      = (settle r.operation (finalResult s.replies),
          ⟨s.replies.drop asked.length, code, s.events ++ asked,
            s.trace ++ [traceRecord r.handle e r.operation (finalResult s.replies)]⟩) := by
  obtain ⟨code, hrun⟩ := Backend.run_submit .lockFileEx r s
  simp only [Backend.reaction, hextent] at hrun
  exact ⟨code, hrun⟩

theorem events_submit {r : Request .win32} {e : Extent} (hextent : extent? r.range = some e)
    (s : Scripted .win32) :
    ((submit r).run s).2.events
      = s.events ++ .call (encode r.handle e r.operation)
          :: if isPending (firstResult s.replies) then
              [.call (.getOverlappedResult r.handle (overlappedAt e.offset) 1)]
            else [] := by
  obtain ⟨code, hrun⟩ := run_submit_of_extent? hextent s
  rw [hrun]

theorem submit_concludes {r : Request .win32} {e : Extent} (hextent : extent? r.range = some e)
    (s : Scripted .win32) :
    Concludes r (encode r.handle e r.operation) s ((submit r).run s) (finalResult s.replies) := by
  obtain ⟨code, hrun⟩ := run_submit_of_extent? hextent s
  rw [hrun]
  refine ⟨⟨_, rfl, answeredCall_traceRecord _ _ _ _⟩, ?_, ?_, ?_⟩
  · intro wait mode hacquire
    rw [hacquire]
    rfl
  · intro hrelease hfinal
    rw [hrelease]
    rcases hresult : finalResult s.replies with ⟨code⟩ | _
    · apply if_neg
      intro hcode
      apply hfinal
      rw [hresult, ← hcode]
    · rfl
  · intro hrelease hfinal
    rw [hrelease, hfinal]
    rfl

/-- **A request comes to its end once.**  A range with a negative word is refused with 87
    and leaves everything as it was.  Any other request is one call, which tells it.  If
    the first reply is not that it goes on in the background, that is final; else the
    system is asked once more, to wait for the end of this call, and what that comes to is
    final. -/
theorem request_completes (r : Request .win32) (s : Scripted .win32) :
    let run := (submit r).run s
    (r.range.offset < 0 ∨ r.range.length < 0 →
      run = (.error ⟨Win32Error.invalidParameter⟩, s)) ∧
    (0 ≤ r.range.offset → 0 ≤ r.range.length →
      ∃ call overlapped, call.request? = some (none, r) ∧ call.overlapped? = some overlapped ∧
        (answer s.replies.head? ≠ .error ⟨Win32Error.ioPending⟩ →
          run.2.events = s.events ++ [.call call] ∧
            Concludes r call s run (answer s.replies.head?)) ∧
        (answer s.replies.head? = .error ⟨Win32Error.ioPending⟩ →
          run.2.events
              = s.events ++ [.call call, .call (.getOverlappedResult r.handle overlapped 1)] ∧
            Concludes r call s run (answer s.replies.tail.head?))) ∧
    Win32Error.invalidParameter = 87 ∧ Win32Error.notLocked = 158 ∧
      Win32Error.ioPending = 997 := by
  intro run
  refine ⟨fun hnegative => submit_of_negative hnegative s, ?_, rfl, rfl, rfl⟩
  intro hoffset hlength
  obtain ⟨e, hextent⟩ := extent?_of_nonneg hoffset hlength
  have hevents := events_submit hextent s
  have hconcludes := submit_concludes hextent s
  have htells : (encode r.handle e r.operation).request? = some (none, r) := by
    rw [Call.request?, decode?_encode hextent]
    rfl
  refine ⟨_, _, htells, overlapped?_encode _ _ _, ?_, ?_⟩
  · intro hfinal
    rw [← firstResult_eq_answer] at hfinal ⊢
    have hdone : ¬ isPending (firstResult s.replies) = true := mt isPending_iff.mp hfinal
    rw [if_neg hdone] at hevents
    rw [finalResult, if_neg hdone] at hconcludes
    exact ⟨hevents, hconcludes⟩
  · intro hpending
    rw [← firstResult_eq_answer] at hpending ⊢
    have hpending : isPending (firstResult s.replies) = true := isPending_iff.mpr hpending
    rw [if_pos hpending] at hevents
    rw [finalResult, if_pos hpending] at hconcludes
    exact ⟨hevents, hconcludes⟩

/-- A release that goes on in the background and then finds nothing to unlock succeeds; a
    lock that still goes on after the wait fails with 997; a negative length fails with 87. -/
theorem request_completes_background :
    let unlock : Request .win32 := ⟨.object 4, .toEnd 5, .release⟩
    let lock : Request .win32 := ⟨.object 4, .toEnd 5, .acquire .blocking .shared⟩
    let thenNotLocked : Scripted .win32 := Scripted.fresh 0 [⟨0, 997⟩, ⟨0, 158⟩]
    let stillPending : Scripted .win32 := Scripted.fresh 0 [⟨0, 997⟩, ⟨0, 997⟩, ⟨1, 0⟩]
    ((submit unlock).run thenNotLocked).1 = .ok () ∧
      ((submit unlock).run thenNotLocked).2.events.length = 2 ∧
      ((submit lock).run stillPending).1 = .error ⟨Win32Error.ioPending⟩ ∧
      ((submit lock).run stillPending).2.events.length = 2 ∧
      ((submit ⟨.object 4, ⟨5, -1⟩, .release⟩).run thenNotLocked).1
        = .error ⟨Win32Error.invalidParameter⟩ := by
  intro unlock lock thenNotLocked stillPending
  obtain ⟨-, hunlock, -⟩ := request_completes unlock thenNotLocked
  obtain ⟨-, hlock, -⟩ := request_completes lock stillPending
  obtain ⟨hnegative, -⟩ := request_completes ⟨.object 4, ⟨5, -1⟩, .release⟩ thenNotLocked
  obtain ⟨_, _, -, -, -, hunlock⟩ := hunlock (by decide) (by decide)
  obtain ⟨_, _, -, -, -, hlock⟩ := hlock (by decide) (by decide)
  obtain ⟨hunlockEvents, hunlocks⟩ := hunlock rfl
  obtain ⟨hlockEvents, hlocks⟩ := hlock rfl
  refine ⟨hunlocks.notLocked rfl rfl, ?_, hlocks.locking _ _ rfl, ?_, ?_⟩
  · rw [hunlockEvents]
    rfl
  · rw [hlockEvents]
    rfl
  · rw [hnegative (Or.inr (by decide))]

end FileLocks.Win32
