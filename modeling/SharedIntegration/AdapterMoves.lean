import SharedIntegration.AdapterScans
import SharedIntegration.Library.Slots

/-!
# What a step of the scans of an adapter does

Every step is one of a few moves on the semaphore, the temporary files, the processes and the scans. Permits are
neither lost nor gained, every scan that goes on has a file of its own with its payload, and a process that nobody
has told to stop is the one its scan waits for.
-/

namespace SharedIntegration

open Transition Slots

/-- The outcome is no list of findings. -/
def ScanOutcome.Fails (outcome : ScanOutcome) : Prop := ∀ found, outcome ≠ .findings found

/-- An error of a product is no list of findings. -/
theorem ScanOutcome.fails_productError (error : ProductCLIError) : (ScanOutcome.productError error).Fails :=
  fun _ h => nomatch h

/-- Neither is another exception. -/
theorem ScanOutcome.fails_otherError (message : String) : (ScanOutcome.otherError message).Fails := fun _ h => nomatch h

/-- An exception is no list of findings. -/
theorem ScanFailure.fails_outcome (failure : ScanFailure) : failure.outcome.Fails := by
  cases failure with
  | product error => exact ScanOutcome.fails_productError error
  | uncaught message => exact ScanOutcome.fails_otherError message

namespace AdapterHost

variable (adapter : JSONSubprocessAdapter) (library : AdapterLibrary)

/-- What a step with a given label does. -/
inductive Move (label : HostLabel) : AdapterHost → AdapterHost → Prop
  | refuse (s : AdapterHost) (entries : List (PyText × JsonValue)) (outcome : ScanOutcome) (hfails : outcome.Fails) :
    Move label s (s.add entries (.done outcome))
  | litter (s : AdapterHost) (entries : List (PyText × JsonValue)) (outcome : ScanOutcome) (hfails : outcome.Fails)
    (path : String) (bytes : List UInt8) (hnew : s.files path = none)
    (hlabel : ∃ message, label = .call entries (.unwritten (some (path, bytes)) message)) :
    Move label s ((s.create path bytes).add entries (.done outcome))
  | enqueue (s : AdapterHost) (entries : List (PyText × JsonValue)) (path : String) (bytes : List UInt8)
    (hnew : s.files path = none) (hbytes : adapter.writePayload library (.obj entries) = .ok bytes) :
    Move label s ((s.create path bytes).add entries (.queued path))
  | acquire (s : AdapterHost) (scan : ℕ) (call : ProductScan) (path : String) (hscan : s.scans[scan]? = some call)
    (hpc : call.pc = .queued path) (hpermits : 0 < s.permits) :
    Move label s { s.goto scan (.spawning path) with permits := s.permits - 1 }
  | spawn (s : AdapterHost) (scan : ℕ) (call : ProductScan) (path : String) (hscan : s.scans[scan]? = some call)
    (hpc : call.pc = .spawning path) :
    Move label s ((s.start scan path).goto scan (.communicating path s.processes.length))
  | conclude (s : AdapterHost) (scan : ℕ) (call : ProductScan) (path : String) (process : ℕ)
    (ended : ProductProcess) (exit : ProcessExit) (hscan : s.scans[scan]? = some call)
    (hpc : call.pc = .communicating path process) (hprocess : s.processes[process]? = some ended)
    (hexit : ended.exit = some exit) :
    Move label s (s.finish scan path (adapter.conclude library exit))
  | giveUp (s : AdapterHost) (scan : ℕ) (call : ProductScan) (path : String) (outcome : ScanOutcome)
    (hscan : s.scans[scan]? = some call) (hpath : call.pc.path? = some path) (hholds : call.pc.holds = true)
    (hfails : outcome.Fails)
    (hended : ∀ process, call.pc.process? = some process →
      (∃ ended, s.processes[process]? = some ended ∧ ended.exit.isSome = true) ∨
        (label = .cancel scan ∧ call.pc.isStopping = true)) :
    Move label s (s.finish scan path outcome)
  | leave (s : AdapterHost) (scan : ℕ) (call : ProductScan) (path : String) (hscan : s.scans[scan]? = some call)
    (hpc : call.pc = .queued path) :
    Move label s { s.goto scan (.done .cancelled) with files := Function.update s.files path none }
  | signal (s : AdapterHost) (scan : ℕ) (call : ProductScan) (path : String) (process : ℕ) (stopped : ProductProcess)
    (timedOut : Bool) (hscan : s.scans[scan]? = some call) (hpc : call.pc = .communicating path process)
    (hprocess : s.processes[process]? = some stopped) :
    Move label s ((s.modifyProcess process fun process => { process with signalled := true }).goto scan
      (.stopping path process false timedOut))
  | kill (s : AdapterHost) (scan : ℕ) (call : ProductScan) (path : String) (process : ℕ) (stubborn : ProductProcess)
    (timedOut : Bool) (hscan : s.scans[scan]? = some call) (hpc : call.pc = .stopping path process false timedOut)
    (hprocess : s.processes[process]? = some stubborn) :
    Move label s ((s.modifyProcess process fun process => { process with killed := true }).goto scan
      (.stopping path process true timedOut))
  | read (s : AdapterHost) (process : ℕ) (reader : ProductProcess) (hprocess : s.processes[process]? = some reader)
    (hexit : reader.exit = none) (hreading : reader.reading = none) :
    Move label s (s.modifyProcess process fun process => { process with
      reading := some (InputReading.mk (!process.signalled) (s.readInput adapter library process.path)) })
  | exit (s : AdapterHost) (process : ℕ) (ended : ProductProcess) (exit : ProcessExit)
    (hprocess : s.processes[process]? = some ended) (hexit : ended.exit = none) :
    Move label s (s.modifyProcess process fun process => { process with exit := some exit })

variable {adapter library}

/-- A scan whose process was stopped fails. -/
theorem fails_stopOutcome (timedOut : Bool) : (stopOutcome adapter library timedOut).Fails := by
  intro found h
  cases timedOut <;> cases h

/-- Stopping a process that has ended ends the scan; one that has not is told to stop. -/
theorem stop_move {s s' : AdapterHost} {label : HostLabel} {scan : ℕ} {call : ProductScan} {path : String}
    {process : ℕ} {timedOut : Bool} (hscan : s.scans[scan]? = some call) (hpc : call.pc = .communicating path process)
    (h : s.stop adapter library scan path process timedOut = some s') : Move adapter library label s s' := by
  obtain ⟨stopped, hprocess, h⟩ := Option.bind_eq_some_iff.mp h
  split at h
  · next hexit =>
    cases h
    refine .giveUp s scan call path _ hscan (by rw [hpc]; rfl) (by rw [hpc]; rfl) (fails_stopOutcome timedOut) ?_
    intro other hother
    rw [hpc] at hother
    cases hother
    exact .inl ⟨stopped, hprocess, hexit⟩
  · cases h
    exact .signal s scan call path process stopped timedOut hscan hpc hprocess

/-- The beginning of a scan. -/
theorem call_move {s s' : AdapterHost} {entries : List (PyText × JsonValue)} {start : ScanStart}
    (h : s.call adapter library entries start = some s') : Move adapter library (.call entries start) s s' := by
  cases start with
  | unavailable =>
    cases h
    exact .refuse s entries _ (ScanOutcome.fails_productError _)
  | written path =>
    dsimp only [call] at h
    split at h
    · next failure _ =>
      cases h
      exact .refuse s entries _ failure.fails_outcome
    · next bytes hpayload =>
      split at h
      · next hnew =>
        cases h
        exact .enqueue s entries path bytes hnew hpayload
      · cases h
  | unwritten leftover message =>
    dsimp only [call] at h
    split at h
    · next failure _ =>
      cases h
      exact .refuse s entries _ failure.fails_outcome
    · split at h
      · cases h
        exact .refuse s entries _ (ScanOutcome.fails_otherError _)
      · next path bytes =>
        split at h
        · next hnew =>
          cases h
          exact .litter s entries _ (ScanOutcome.fails_otherError _) path bytes hnew ⟨message, rfl⟩
        · cases h

/-- A cancellation. -/
theorem cancel_move {s s' : AdapterHost} {scan : ℕ} {call : ProductScan} (hscan : s.scans[scan]? = some call)
    (h : s.cancel adapter library scan call.pc = some s') : Move adapter library (.cancel scan) s s' := by
  cases hpc : call.pc with
  | queued path =>
    rw [hpc] at h
    cases h
    exact .leave s scan call path hscan hpc
  | spawning path =>
    rw [hpc] at h
    cases h
    refine .giveUp s scan call path _ hscan (by rw [hpc]; rfl) (by rw [hpc]; rfl) (fun _ h => nomatch h) ?_
    intro process hprocess
    rw [hpc] at hprocess
    cases hprocess
  | communicating path process =>
    rw [hpc] at h
    exact stop_move hscan hpc h
  | stopping path process killed timedOut =>
    rw [hpc] at h
    cases h
    exact .giveUp s scan call path _ hscan (by rw [hpc]; rfl) (by rw [hpc]; rfl) (fun _ h => nomatch h)
      fun _ _ => .inr ⟨rfl, by rw [hpc]; rfl⟩
  | done outcome =>
    rw [hpc] at h
    cases h

/-- Every step is a move. -/
theorem step_move {s s' : AdapterHost} {label : HostLabel} (h : s.step adapter library label = some s') :
    Move adapter library label s s' := by
  cases label with
  | call entries start => exact call_move h
  | acquire scan =>
    obtain ⟨call, hscan, h⟩ := Option.bind_eq_some_iff.mp h
    split at h
    · next path hpc =>
      split at h
      · next hpermits =>
        cases h
        exact .acquire s scan call path hscan hpc hpermits
      · cases h
    · cases h
  | spawn scan started =>
    obtain ⟨call, hscan, h⟩ := Option.bind_eq_some_iff.mp h
    split at h
    · next path hpc =>
      split at h
      · cases h
        exact .spawn s scan call path hscan hpc
      · cases h
        refine .giveUp s scan call path _ hscan (by rw [hpc]; rfl) (by rw [hpc]; rfl)
          (ScanOutcome.fails_productError _) ?_
        intro process hprocess
        rw [hpc] at hprocess
        cases hprocess
    · cases h
  | communicate scan =>
    obtain ⟨call, hscan, h⟩ := Option.bind_eq_some_iff.mp h
    split at h
    · next path process hpc =>
      obtain ⟨ended, hprocess, h⟩ := Option.bind_eq_some_iff.mp h
      obtain ⟨exit, hexit, h⟩ := Option.bind_eq_some_iff.mp h
      cases h
      exact .conclude s scan call path process ended exit hscan hpc hprocess hexit
    · cases h
  | timeout scan =>
    obtain ⟨call, hscan, h⟩ := Option.bind_eq_some_iff.mp h
    split at h
    · next path process hpc => exact stop_move hscan hpc h
    · cases h
  | graceEnds scan =>
    obtain ⟨call, hscan, h⟩ := Option.bind_eq_some_iff.mp h
    split at h
    · next path process timedOut hpc =>
      obtain ⟨stubborn, hprocess, h⟩ := Option.bind_eq_some_iff.mp h
      split at h
      · cases h
        exact .kill s scan call path process stubborn timedOut hscan hpc hprocess
      · cases h
    · cases h
  | stopped scan =>
    obtain ⟨call, hscan, h⟩ := Option.bind_eq_some_iff.mp h
    split at h
    · next path process killed timedOut hpc =>
      obtain ⟨ended, hprocess, h⟩ := Option.bind_eq_some_iff.mp h
      split at h
      · next hexit =>
        cases h
        refine .giveUp s scan call path _ hscan (by rw [hpc]; rfl) (by rw [hpc]; rfl) (fails_stopOutcome timedOut) ?_
        intro other hother
        rw [hpc] at hother
        cases hother
        exact .inl ⟨ended, hprocess, hexit⟩
      · cases h
    · cases h
  | cancel scan =>
    obtain ⟨call, hscan, h⟩ := Option.bind_eq_some_iff.mp h
    exact cancel_move hscan h
  | reads process =>
    obtain ⟨reader, hprocess, h⟩ := Option.bind_eq_some_iff.mp h
    split at h
    · next hfirst =>
      cases h
      exact .read s process reader hprocess hfirst.1 hfirst.2
    · cases h
  | exits process exit =>
    obtain ⟨ended, hprocess, h⟩ := Option.bind_eq_some_iff.mp h
    split at h
    · next hexit =>
      cases h
      exact .exit s process ended exit hprocess hexit
    · cases h

end AdapterHost

end SharedIntegration
