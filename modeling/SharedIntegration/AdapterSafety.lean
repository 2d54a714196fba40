import SharedIntegration.AdapterMoves
import SharedIntegration.FindingDict

/-!
# Scans keep to their limits and clean up

In every run of the scans of an adapter the permits of the semaphore are accounted for, so that never more
processes run without having been told to stop than the adapter allows. A process that reads its input before it is
told to stop gets the payload of the scan that has started it, and findings come from what such a process has
printed. A scan that has ended has removed its file. A process can be left behind only by a cancellation
that meets a scan while it stops its process; without one, every process that runs has a scan that waits for it.
-/

namespace SharedIntegration

open Transition Slots

/-- Unless its strings are malformed, the payload has reached the product. -/
def AdapterLibrary.Delivers (library : AdapterLibrary) (entries : List (PyText × JsonValue))
    (result : Except WorkerExit PyText) : Prop :=
  (Json.obj entries : JsonValue).Readable → ∃ argument, result = .ok argument ∧
    JsonText.loads library.nesting argument = .ok (.obj entries)

namespace AdapterHost

variable (adapter : JSONSubprocessAdapter) (library : AdapterLibrary)

/-- Every permit is there or held by a scan. -/
def Permitted (s : AdapterHost) : Prop :=
  s.permits + s.scans.countP (fun call => call.pc.holds) = adapter.maxConcurrency.toNat

/-- Every scan that goes on has a file of its own, with its payload. -/
structure Filed (s : AdapterHost) : Prop where
  stored : ∀ (scan : ℕ) (call : ProductScan) (path : String), s.scans[scan]? = some call →
    call.pc.path? = some path →
      ∃ bytes, s.files path = some bytes ∧ adapter.writePayload library (.obj call.entries) = .ok bytes
  apart : ∀ (scan scan' : ℕ) (call call' : ProductScan) (path : String), s.scans[scan]? = some call →
    s.scans[scan']? = some call' → call.pc.path? = some path → call'.pc.path? = some path → scan = scan'

/-- Every process that runs and was not told to stop has the scan waiting for it that has started it, and findings
come from what the process of their scan has printed. -/
structure Attended (s : AdapterHost) : Prop where
  attended : ∀ (process : ℕ) (started : ProductProcess), s.processes[process]? = some started →
    started.running = true →
      ∃ call, s.scans[started.scan]? = some call ∧ call.pc = .communicating started.path process
  own : ∀ (scan : ℕ) (call : ProductScan) (path : String) (process : ℕ), s.scans[scan]? = some call →
    call.pc = .communicating path process →
      ∃ started, s.processes[process]? = some started ∧ started.scan = scan ∧ started.signalled = false
  answered : ∀ (scan : ℕ) (call : ProductScan) (found : List Finding), s.scans[scan]? = some call →
    call.pc = .done (.findings found) →
      ∃ (process : ℕ) (ended : ProductProcess) (exit : ProcessExit), s.processes[process]? = some ended ∧
        ended.scan = scan ∧ ended.signalled = false ∧ ended.exit = some exit ∧
        adapter.conclude library exit = .findings found

/-- What was read in time was the payload of the scan that has started the process. -/
def PayloadsDelivered (s : AdapterHost) : Prop :=
  ∀ (process : ℕ) (reader : ProductProcess) (reading : InputReading), s.processes[process]? = some reader →
    reader.reading = some reading → reading.inTime = true →
      ∃ call, s.scans[reader.scan]? = some call ∧ library.Delivers call.entries reading.result

/-- Every file belongs to a scan that goes on. -/
def Tidy (s : AdapterHost) : Prop :=
  ∀ path, s.files path ≠ none →
    ∃ (scan : ℕ) (call : ProductScan), s.scans[scan]? = some call ∧ call.pc.path? = some path

/-- Every process that runs has the scan waiting for it that has started it. -/
def Watched (s : AdapterHost) : Prop :=
  ∀ (process : ℕ) (started : ProductProcess), s.processes[process]? = some started → started.alive = true →
    ∃ call, s.scans[started.scan]? = some call ∧ call.pc.process? = some process

variable {adapter library} {s s' : AdapterHost} {label : HostLabel}

/-- A scan of a state in which one scan was moved. -/
theorem of_goto {scan other : ℕ} {call call' : ProductScan} {pc : ProductPc} (hscan : s.scans[scan]? = some call)
    (h : (s.goto scan pc).scans[other]? = some call') :
    (other = scan ∧ call' = { call with pc }) ∨ (other ≠ scan ∧ s.scans[other]? = some call') :=
  of_getElem?_modify hscan h

/-- The scan that was moved. -/
theorem goto_self {scan : ℕ} {call : ProductScan} (pc : ProductPc) (hscan : s.scans[scan]? = some call) :
    (s.goto scan pc).scans[scan]? = some { call with pc } := by
  rw [goto, List.getElem?_modify_eq, hscan]
  rfl

/-- Another scan. -/
theorem goto_of_ne {scan other : ℕ} (pc : ProductPc) (h : other ≠ scan) :
    (s.goto scan pc).scans[other]? = s.scans[other]? := List.getElem?_modify_ne _ _ (Ne.symm h)

/-! ### Permits -/

/-- A move of a scan that takes a permit or returns the one it holds. -/
theorem Permitted.goto (h : Permitted adapter s) {scan : ℕ} {call : ProductScan} {pc : ProductPc}
    (hscan : s.scans[scan]? = some call) {permits : ℕ} {files : String → Option (List UInt8)}
    {processes : List ProductProcess} (hpermits : permits + pc.holds.toNat = s.permits + call.pc.holds.toNat) :
    Permitted adapter ⟨permits, files, processes, (s.goto scan pc).scans⟩ := by
  have hcount := countP_modify (fun call : ProductScan => { call with pc }) (fun call => call.pc.holds) hscan
  unfold Permitted at h ⊢
  simp only [AdapterHost.goto] at hcount ⊢
  omega

/-- A scan that holds no permit is added. -/
theorem Permitted.add (h : Permitted adapter s) {entries : List (PyText × JsonValue)} {pc : ProductPc}
    (hpc : pc.holds = false) {files : String → Option (List UInt8)} :
    Permitted adapter ⟨s.permits, files, s.processes, (s.add entries pc).scans⟩ := by
  unfold Permitted at h ⊢
  simpa [AdapterHost.add, hpc] using h

/-- Permits stay accounted for. -/
theorem Permitted.move (h : Permitted adapter s) (hmove : Move adapter library label s s') : Permitted adapter s' := by
  cases hmove with
  | refuse => exact h.add rfl
  | litter => exact h.add rfl
  | enqueue => exact h.add rfl
  | acquire scan call path hscan hpc hpermits =>
    refine h.goto hscan ?_
    rw [hpc]
    change s.permits - 1 + 1 = s.permits + 0
    omega
  | spawn scan call path hscan hpc =>
    refine h.goto hscan ?_
    rw [hpc]
    rfl
  | conclude scan call path process ended exit hscan hpc =>
    refine h.goto hscan ?_
    rw [hpc]
    rfl
  | giveUp scan call path outcome hscan hpath hholds =>
    refine h.goto hscan ?_
    rw [hholds]
    rfl
  | leave scan call path hscan hpc =>
    refine h.goto hscan ?_
    rw [hpc]
    rfl
  | signal scan call path process stopped timedOut hscan hpc =>
    refine h.goto hscan ?_
    rw [hpc]
    rfl
  | kill scan call path process stubborn timedOut hscan hpc =>
    refine h.goto hscan ?_
    rw [hpc]
    rfl
  | read => exact h
  | exit => exact h

/-! ### Files -/

/-- A move of a scan that keeps its file, or removes it. -/
theorem Filed.goto (h : Filed adapter library s) {scan : ℕ} {call : ProductScan} {pc : ProductPc}
    (hscan : s.scans[scan]? = some call) (hpath : pc.path? = none ∨ pc.path? = call.pc.path?) {permits : ℕ}
    {files : String → Option (List UInt8)} {processes : List ProductProcess}
    (hfiles : ∀ path, call.pc.path? ≠ some path ∨ pc.path? = some path → files path = s.files path) :
    Filed adapter library ⟨permits, files, processes, (s.goto scan pc).scans⟩ := by
  have hkept : ∀ path, pc.path? = some path → call.pc.path? = some path := by
    intro path hsome
    rcases hpath with hnone | hsame
    · rw [hnone] at hsome
      cases hsome
    · rw [← hsame, hsome]
  refine ⟨fun other call' path hother hsome => ?_, fun other other' call' call'' path hother hother' hsome hsome' => ?_⟩
  · rcases of_goto hscan hother with ⟨rfl, rfl⟩ | ⟨hne, hold⟩
    · obtain ⟨bytes, hbytes, hpayload⟩ := h.stored other call path hscan (hkept path hsome)
      exact ⟨bytes, (hfiles path (.inr hsome)).trans hbytes, hpayload⟩
    · have hother : call.pc.path? ≠ some path := fun hcall =>
        hne (h.apart other scan call' call path hold hscan hsome hcall)
      obtain ⟨bytes, hbytes, hpayload⟩ := h.stored other call' path hold hsome
      exact ⟨bytes, (hfiles path (.inl hother)).trans hbytes, hpayload⟩
  · rcases of_goto hscan hother with ⟨rfl, rfl⟩ | ⟨hne, hold⟩
    · rcases of_goto hscan hother' with ⟨rfl, rfl⟩ | ⟨hne', hold'⟩
      · rfl
      · exact h.apart _ _ call call'' path hscan hold' (hkept path hsome) hsome'
    · rcases of_goto hscan hother' with ⟨rfl, rfl⟩ | ⟨hne', hold'⟩
      · exact h.apart _ _ call' call path hold hscan hsome (hkept path hsome')
      · exact h.apart _ _ call' call'' path hold hold' hsome hsome'

/-- A scan that ends removes its file and no other. -/
theorem files_finished {call : ProductScan} {path : String} (hpath : call.pc.path? = some path)
    (files : String → Option (List UInt8)) (outcome : ScanOutcome) : ∀ other,
      call.pc.path? ≠ some other ∨ (ProductPc.done outcome).path? = some other →
        Function.update files path none other = files other := by
  intro other hother
  refine Function.update_of_ne ?_ _ _
  rintro rfl
  exact hother.elim (fun hne => hne hpath) fun h => nomatch h

/-- A scan is added that has ended, or has a new file with its payload. -/
theorem Filed.add (h : Filed adapter library s) {entries : List (PyText × JsonValue)} {pc : ProductPc}
    {files : String → Option (List UInt8)} (hfiles : ∀ path, s.files path ≠ none → files path = s.files path)
    (hnew : ∀ path, pc.path? = some path → s.files path = none ∧
      ∃ bytes, files path = some bytes ∧ adapter.writePayload library (.obj entries) = .ok bytes) :
    Filed adapter library ⟨s.permits, files, s.processes, (s.add entries pc).scans⟩ := by
  have hold : ∀ {scan : ℕ} {call : ProductScan} {path : String}, s.scans[scan]? = some call →
      call.pc.path? = some path → s.files path ≠ none := by
    intro scan call path hscan hpath hnone
    obtain ⟨bytes, hbytes, -⟩ := h.stored scan call path hscan hpath
    rw [hnone] at hbytes
    cases hbytes
  refine ⟨fun scan call path hscan hpath => ?_, fun scan scan' call call' path hscan hscan' hpath hpath' => ?_⟩
  · rcases of_getElem?_concat hscan with ⟨-, rfl⟩ | hscan
    · exact (hnew path hpath).2
    · obtain ⟨bytes, hbytes, hpayload⟩ := h.stored scan call path hscan hpath
      exact ⟨bytes, (hfiles path (hold hscan hpath)).trans hbytes, hpayload⟩
  · rcases of_getElem?_concat hscan with ⟨rfl, rfl⟩ | hscan
    · rcases of_getElem?_concat hscan' with ⟨rfl, rfl⟩ | hscan'
      · rfl
      · exact absurd (hnew path hpath).1 (hold hscan' hpath')
    · rcases of_getElem?_concat hscan' with ⟨rfl, rfl⟩ | hscan'
      · exact absurd (hnew path hpath').1 (hold hscan hpath)
      · exact h.apart scan scan' call call' path hscan hscan' hpath hpath'

/-- A new file leaves the others as they are. -/
theorem files_created {path : String} (hnew : s.files path = none) (bytes : List UInt8) : ∀ other,
    s.files other ≠ none → (s.create path bytes).files other = s.files other := by
  intro other hother
  refine Function.update_of_ne ?_ _ _
  rintro rfl
  exact hother hnew

/-- Files stay with their scans. -/
theorem Filed.move (h : Filed adapter library s) (hmove : Move adapter library label s s') :
    Filed adapter library s' := by
  cases hmove with
  | refuse entries outcome => exact h.add (fun _ _ => rfl) fun _ hpath => nomatch hpath
  | litter entries outcome hfails path bytes hnew =>
    exact h.add (files_created hnew bytes) fun _ hpath => nomatch hpath
  | enqueue entries path bytes hnew hbytes =>
    refine h.add (files_created hnew bytes) fun other hother => ?_
    cases hother
    exact ⟨hnew, bytes, Function.update_self .., hbytes⟩
  | acquire scan call path hscan hpc =>
    exact h.goto hscan (.inr (by rw [hpc]; rfl)) fun _ _ => rfl
  | spawn scan call path hscan hpc =>
    exact h.goto hscan (.inr (by rw [hpc]; rfl)) fun _ _ => rfl
  | conclude scan call path process ended exit hscan hpc =>
    exact h.goto hscan (.inl rfl) (files_finished (by rw [hpc]; rfl) _ _)
  | giveUp scan call path outcome hscan hpath =>
    exact h.goto hscan (.inl rfl) (files_finished hpath _ _)
  | leave scan call path hscan hpc =>
    exact h.goto hscan (.inl rfl) (files_finished (by rw [hpc]; rfl) _ _)
  | signal scan call path process stopped timedOut hscan hpc =>
    exact h.goto hscan (.inr (by rw [hpc]; rfl)) fun _ _ => rfl
  | kill scan call path process stubborn timedOut hscan hpc =>
    exact h.goto hscan (.inr (by rw [hpc]; rfl)) fun _ _ => rfl
  | read => exact ⟨h.stored, h.apart⟩
  | exit => exact ⟨h.stored, h.apart⟩

/-! ### Processes -/

/-- A process of a state in which one was changed. -/
theorem of_modifyProcess {process other : ℕ} {change : ProductProcess → ProductProcess} {started' : ProductProcess}
    (h : (s.modifyProcess process change).processes[other]? = some started') :
    ∃ started, s.processes[other]? = some started ∧ started' = if process = other then change started else started := by
  rw [modifyProcess, List.getElem?_modify] at h
  obtain ⟨started, hstarted, rfl⟩ := Option.map_eq_some_iff.mp h
  exact ⟨started, hstarted, rfl⟩

/-- A process after one was changed. -/
theorem modifyProcess_of {process other : ℕ} {started : ProductProcess} (change : ProductProcess → ProductProcess)
    (h : s.processes[other]? = some started) :
    (s.modifyProcess process change).processes[other]? = some (if process = other then change started else started) := by
  rw [modifyProcess, List.getElem?_modify, h]
  rfl

/-- Processes that nobody told to stop stay with their scans when one scan is moved that waits for none of them. -/
theorem Attended.goto (h : Attended adapter library s) {scan : ℕ} {call : ProductScan} {pc : ProductPc}
    (hscan : s.scans[scan]? = some call) {permits : ℕ} {files : String → Option (List UInt8)}
    {processes : List ProductProcess}
    (hrunning : ∀ (process : ℕ) (started' : ProductProcess), processes[process]? = some started' →
      started'.running = true → (started'.scan = scan ∧ pc = .communicating started'.path process) ∨
        ∃ started, s.processes[process]? = some started ∧ started.running = true ∧ started'.scan = started.scan ∧
          started'.path = started.path ∧ call.pc ≠ .communicating started.path process)
    (hkept : ∀ (process : ℕ) (started : ProductProcess), s.processes[process]? = some started →
      started.scan ≠ scan → ∃ started', processes[process]? = some started' ∧ started'.scan = started.scan ∧
        started'.signalled = started.signalled ∧ started'.exit = started.exit)
    (hown : ∀ path process, pc = .communicating path process →
      ∃ started, processes[process]? = some started ∧ started.scan = scan ∧ started.signalled = false)
    (hanswered : ∀ found, pc = .done (.findings found) →
      ∃ (process : ℕ) (ended : ProductProcess) (exit : ProcessExit), processes[process]? = some ended ∧
        ended.scan = scan ∧ ended.signalled = false ∧ ended.exit = some exit ∧
        adapter.conclude library exit = .findings found) :
    Attended adapter library ⟨permits, files, processes, (s.goto scan pc).scans⟩ := by
  refine ⟨fun process started' hprocess hruns => ?_, fun other call' path process hother hpc => ?_,
    fun other call' found hother hpc => ?_⟩
  · rcases hrunning process started' hprocess hruns with ⟨rfl, rfl⟩ | ⟨started, hstarted, hruns, hsame, hpath, hpc⟩
    · exact ⟨_, goto_self _ hscan, rfl⟩
    · obtain ⟨call', hcall', hpc'⟩ := h.attended process started hstarted hruns
      have hne : started.scan ≠ scan := by
        rintro rfl
        rw [hscan, Option.some.injEq] at hcall'
        subst hcall'
        exact hpc hpc'
      refine ⟨call', ?_, hpath ▸ hpc'⟩
      rw [hsame]
      exact (goto_of_ne pc hne).trans hcall'
  · rcases of_goto hscan hother with ⟨rfl, rfl⟩ | ⟨hne, hold⟩
    · exact hown path process hpc
    · obtain ⟨started, hstarted, rfl, hsignalled⟩ := h.own other call' path process hold hpc
      obtain ⟨started', hstarted', hsame, hsignalled', -⟩ := hkept process started hstarted hne
      exact ⟨started', hstarted', hsame, hsignalled'.trans hsignalled⟩
  · rcases of_goto hscan hother with ⟨rfl, rfl⟩ | ⟨hne, hold⟩
    · exact hanswered found hpc
    · obtain ⟨process, ended, exit, hended, rfl, hsignalled, hexit, hfound⟩ := h.answered other call' found hold hpc
      obtain ⟨ended', hended', hsame, hsignalled', hexit'⟩ := hkept process ended hended hne
      exact ⟨process, ended', exit, hended', hsame, hsignalled'.trans hsignalled, hexit'.trans hexit, hfound⟩

/-- So they do when a scan is added. -/
theorem Attended.add (h : Attended adapter library s) {entries : List (PyText × JsonValue)} {pc : ProductPc}
    {files : String → Option (List UInt8)} (hpc : ∀ path process, pc ≠ .communicating path process)
    (hfound : ∀ found, pc ≠ .done (.findings found)) :
    Attended adapter library ⟨s.permits, files, s.processes, (s.add entries pc).scans⟩ := by
  refine ⟨fun process started hprocess hruns => ?_, fun scan call path process hscan hcall => ?_,
    fun scan call found hscan hcall => ?_⟩
  · obtain ⟨call, hcall, hpc⟩ := h.attended process started hprocess hruns
    exact ⟨call, getElem?_concat _ hcall, hpc⟩
  · rcases of_getElem?_concat hscan with ⟨-, rfl⟩ | hscan
    · exact absurd hcall (hpc path process)
    · exact h.own scan call path process hscan hcall
  · rcases of_getElem?_concat hscan with ⟨-, rfl⟩ | hscan
    · exact absurd hcall (hfound found)
    · exact h.answered scan call found hscan hcall

/-- So they do when a process reads its input or ends. -/
theorem Attended.modifyProcess (h : Attended adapter library s) {process : ℕ} {change : ProductProcess → ProductProcess}
    (hchange : ∀ started, s.processes[process]? = some started → (change started).scan = started.scan ∧
      (change started).path = started.path ∧ (change started).signalled = started.signalled ∧
      ((change started).running = true → started.running = true) ∧
      ∀ exit, started.exit = some exit → (change started).exit = some exit) :
    Attended adapter library (s.modifyProcess process change) := by
  have hkept : ∀ (other : ℕ) (started : ProductProcess), s.processes[other]? = some started →
      ∃ started', (s.modifyProcess process change).processes[other]? = some started' ∧
        started'.scan = started.scan ∧ started'.signalled = started.signalled ∧
        ∀ exit, started.exit = some exit → started'.exit = some exit := by
    intro other started hstarted
    refine ⟨_, modifyProcess_of change hstarted, ?_⟩
    split
    · next hother =>
      subst hother
      obtain ⟨hscan, -, hsignalled, -, hexit⟩ := hchange started hstarted
      exact ⟨hscan, hsignalled, hexit⟩
    · exact ⟨rfl, rfl, fun _ hexit => hexit⟩
  refine ⟨fun other started' hother hruns => ?_, fun scan call path other hscan hpc => ?_,
    fun scan call found hscan hpc => ?_⟩
  · obtain ⟨started, hstarted, rfl⟩ := of_modifyProcess hother
    by_cases hsame : process = other
    · subst hsame
      obtain ⟨hscan, hpath, -, hrunning, -⟩ := hchange started hstarted
      rw [if_pos rfl] at hruns ⊢
      rw [hscan, hpath]
      exact h.attended process started hstarted (hrunning hruns)
    · rw [if_neg hsame] at hruns ⊢
      exact h.attended other started hstarted hruns
  · obtain ⟨started, hstarted, hsame, hsignalled⟩ := h.own scan call path other hscan hpc
    obtain ⟨started', hstarted', hsame', hsignalled', -⟩ := hkept other started hstarted
    exact ⟨started', hstarted', hsame'.trans hsame, hsignalled'.trans hsignalled⟩
  · obtain ⟨other, ended, exit, hended, hsame, hsignalled, hexit, hfound⟩ := h.answered scan call found hscan hpc
    obtain ⟨ended', hended', hsame', hsignalled', hexit'⟩ := hkept other ended hended
    exact ⟨other, ended', exit, hended', hsame'.trans hsame, hsignalled'.trans hsignalled, hexit' exit hexit, hfound⟩

/-- A scan that ends without findings, or goes on without waiting for a process that runs. -/
theorem Attended.settle (h : Attended adapter library s) {scan : ℕ} {call : ProductScan} {pc : ProductPc}
    (hscan : s.scans[scan]? = some call) {permits : ℕ} {files : String → Option (List UInt8)}
    (hidle : ∀ path process started, call.pc = .communicating path process →
      s.processes[process]? = some started → started.running = false)
    (hpc : ∀ path process, pc ≠ .communicating path process)
    (hanswered : ∀ found, pc = .done (.findings found) →
      ∃ (process : ℕ) (ended : ProductProcess) (exit : ProcessExit), s.processes[process]? = some ended ∧
        ended.scan = scan ∧ ended.signalled = false ∧ ended.exit = some exit ∧
        adapter.conclude library exit = .findings found) :
    Attended adapter library ⟨permits, files, s.processes, (s.goto scan pc).scans⟩ := by
  refine h.goto hscan (fun process started hstarted hruns => .inr ⟨started, hstarted, hruns, rfl, rfl, ?_⟩)
    (fun process started hstarted _ => ⟨started, hstarted, rfl, rfl, rfl⟩)
    (fun path process hcommunicating => absurd hcommunicating (hpc path process)) hanswered
  intro hcall
  rw [hidle _ process started hcall hstarted] at hruns
  cases hruns

/-- Processes that nobody told to stop stay with their scans. -/
theorem Attended.move (h : Attended adapter library s) (hmove : Move adapter library label s s') :
    Attended adapter library s' := by
  cases hmove with
  | refuse entries outcome hfails =>
    exact h.add (fun _ _ h => nomatch h) fun found hfound => hfails found (ProductPc.done.inj hfound)
  | litter entries outcome hfails =>
    exact h.add (fun _ _ h => nomatch h) fun found hfound => hfails found (ProductPc.done.inj hfound)
  | enqueue => exact h.add (fun _ _ h => nomatch h) fun _ h => nomatch h
  | acquire scan call path hscan hpc =>
    refine h.settle hscan (fun _ _ _ hcall => ?_) (fun _ _ h => nomatch h) fun _ h => nomatch h
    rw [hpc] at hcall
    cases hcall
  | spawn scan call path hscan hpc =>
    refine h.goto hscan (fun process started' hstarted' hruns => ?_) (fun process started hstarted _ =>
      ⟨started, getElem?_concat _ hstarted, rfl, rfl, rfl⟩) (fun path' process hcommunicating => ?_) fun _ h => nomatch h
    · rcases of_getElem?_concat hstarted' with ⟨rfl, rfl⟩ | hstarted
      · exact .inl ⟨rfl, rfl⟩
      · refine .inr ⟨started', hstarted, hruns, rfl, rfl, ?_⟩
        rw [hpc]
        exact fun h => nomatch h
    · cases hcommunicating
      exact ⟨_, List.getElem?_concat_length, rfl, rfl⟩
  | conclude scan call path process ended exit hscan hpc hprocess hexit =>
    obtain ⟨started, hstarted, hsame, hsignalled⟩ := h.own scan call path process hscan hpc
    rw [hprocess, Option.some.injEq] at hstarted
    subst hstarted
    refine h.settle hscan (fun path' process' started hcall hstarted => ?_) (fun _ _ h => nomatch h) fun found hfound =>
      ⟨process, ended, exit, hprocess, hsame, hsignalled, hexit, ProductPc.done.inj hfound⟩
    rw [hpc] at hcall
    cases hcall
    rw [hprocess, Option.some.injEq] at hstarted
    rw [← hstarted, ProductProcess.running, hexit, Option.isNone_some, Bool.and_false]
  | giveUp scan call path outcome hscan hpath hholds hfails hended =>
    refine h.settle hscan (fun path' process started hcall hstarted => ?_) (fun _ _ h => nomatch h) fun found hfound =>
      absurd (ProductPc.done.inj hfound) (hfails found)
    rw [hcall] at hended
    rcases hended process rfl with ⟨ended, hended, hexit⟩ | ⟨-, hstopping⟩
    · rw [hstarted, Option.some.injEq] at hended
      rw [hended, ProductProcess.running, Option.isNone_eq_false_iff.mpr hexit, Bool.and_false]
    · cases hstopping
  | leave scan call path hscan hpc =>
    refine h.settle hscan (fun _ _ _ hcall => ?_) (fun _ _ h => nomatch h) fun _ h => nomatch h
    rw [hpc] at hcall
    cases hcall
  | signal scan call path process stopped timedOut hscan hpc hprocess =>
    obtain ⟨started, hstarted, hsame, -⟩ := h.own scan call path process hscan hpc
    refine h.goto hscan (fun other started' hother hruns => ?_) (fun other started hother hne => ?_)
      (fun _ _ h => nomatch h) fun _ h => nomatch h
    · obtain ⟨started, hstarted, rfl⟩ := of_modifyProcess hother
      split at hruns
      · cases hruns
      · next hne =>
        rw [if_neg hne]
        refine .inr ⟨started, hstarted, hruns, rfl, rfl, fun hcall => hne ?_⟩
        rw [hpc] at hcall
        cases hcall
        rfl
    · have hother' : process ≠ other := by
        rintro rfl
        rw [hstarted, Option.some.injEq] at hother
        exact hne (hother ▸ hsame)
      exact ⟨started, by rw [modifyProcess_of _ hother, if_neg hother'], rfl, rfl, rfl⟩
  | kill scan call path process stubborn timedOut hscan hpc hprocess =>
    refine h.goto hscan (fun other started' hother hruns => ?_) (fun other started hother _ => ?_)
      (fun _ _ h => nomatch h) fun _ h => nomatch h
    · obtain ⟨started, hstarted, rfl⟩ := of_modifyProcess hother
      refine .inr ⟨started, hstarted, ?_, ?_, ?_, ?_⟩
      · split at hruns <;> exact hruns
      · split <;> rfl
      · split <;> rfl
      · rw [hpc]
        exact fun h => nomatch h
    · refine ⟨_, modifyProcess_of _ hother, ?_⟩
      split <;> exact ⟨rfl, rfl, rfl⟩
  | read process reader hprocess hexit hreading =>
    exact h.modifyProcess fun started _ => ⟨rfl, rfl, rfl, fun hruns => hruns, fun _ hexit => hexit⟩
  | exit process ended exit hprocess hexit =>
    refine h.modifyProcess fun started hstarted => ⟨rfl, rfl, rfl, fun hruns => ?_, fun exit' hexit' => ?_⟩
    · simp [ProductProcess.running] at hruns
    · rw [hprocess, Option.some.injEq] at hstarted
      rw [← hstarted, hexit] at hexit'
      cases hexit'

/-! ### Payloads -/

/-- A scan stays, with its payload. -/
theorem entries_kept (hmove : Move adapter library label s s') {scan : ℕ} {call : ProductScan}
    (hscan : s.scans[scan]? = some call) :
    ∃ call', s'.scans[scan]? = some call' ∧ call'.entries = call.entries := by
  have hgoto : ∀ {moved : ℕ} {pc : ProductPc}, ∃ call', (s.goto moved pc).scans[scan]? = some call' ∧
      call'.entries = call.entries := by
    intro moved pc
    refine ⟨_, by rw [goto, List.getElem?_modify, hscan]; rfl, ?_⟩
    split <;> rfl
  cases hmove with
  | refuse | litter | enqueue => exact ⟨call, getElem?_concat _ hscan, rfl⟩
  | acquire | spawn | conclude | giveUp | leave | signal | kill => exact hgoto
  | read | exit => exact ⟨call, hscan, rfl⟩

/-- What a process has read it had read before, or it reads it now. -/
theorem reading_of_move (hmove : Move adapter library label s s') {process : ℕ} {reader' : ProductProcess}
    {reading : InputReading} (hreader' : s'.processes[process]? = some reader')
    (hreading : reader'.reading = some reading) : ∃ reader, s.processes[process]? = some reader ∧
      reader'.scan = reader.scan ∧ (reader.reading = some reading ∨
        (reader.exit = none ∧ reading = ⟨!reader.signalled, s.readInput adapter library reader.path⟩)) := by
  cases hmove with
  | refuse | litter | enqueue | acquire | conclude | giveUp | leave => exact ⟨reader', hreader', rfl, .inl hreading⟩
  | spawn =>
    rcases of_getElem?_concat hreader' with ⟨-, rfl⟩ | hreader
    · cases hreading
    · exact ⟨reader', hreader, rfl, .inl hreading⟩
  | signal | kill =>
    obtain ⟨reader, hreader, rfl⟩ := of_modifyProcess hreader'
    refine ⟨reader, hreader, ?_, .inl ?_⟩
    · split <;> rfl
    · split at hreading <;> exact hreading
  | exit =>
    obtain ⟨reader, hreader, rfl⟩ := of_modifyProcess hreader'
    refine ⟨reader, hreader, ?_, .inl ?_⟩
    · split <;> rfl
    · split at hreading <;> exact hreading
  | read other first hprocess hexit hfirst =>
    obtain ⟨reader, hreader, rfl⟩ := of_modifyProcess hreader'
    refine ⟨reader, hreader, by split <;> rfl, ?_⟩
    split at hreading
    · next hsame =>
      subst hsame
      rw [hprocess, Option.some.injEq] at hreader
      subst hreader
      cases hreading
      exact .inr ⟨hexit, rfl⟩
    · exact .inl hreading

/-- A process that runs and was not told to stop reads the payload of its scan. -/
theorem delivered_readInput (hfiled : Filed adapter library s) (hattended : Attended adapter library s) {process : ℕ}
    {reader : ProductProcess} (hreader : s.processes[process]? = some reader) (hruns : reader.running = true) :
    ∃ call, s.scans[reader.scan]? = some call ∧
      library.Delivers call.entries (s.readInput adapter library reader.path) := by
  obtain ⟨call, hcall, hpc⟩ := hattended.attended process reader hreader hruns
  obtain ⟨bytes, hbytes, hpayload⟩ := hfiled.stored reader.scan call reader.path hcall (by rw [hpc]; rfl)
  refine ⟨call, hcall, fun hreadable => ?_⟩
  rw [readInput, hbytes]
  exact JSONSubprocessAdapter.workerMain_writePayload hreadable hpayload

/-- Payloads are delivered. -/
theorem PayloadsDelivered.move (h : PayloadsDelivered library s) (hfiled : Filed adapter library s)
    (hattended : Attended adapter library s) (hmove : Move adapter library label s s') :
    PayloadsDelivered library s' := by
  intro process reader' reading hreader' hreading hintime
  obtain ⟨reader, hreader, hsame, hold | ⟨hexit, rfl⟩⟩ := reading_of_move hmove hreader' hreading
  · obtain ⟨call, hcall, hdelivered⟩ := h process reader reading hreader hold hintime
    obtain ⟨call', hcall', hentries⟩ := entries_kept hmove hcall
    exact ⟨call', by rw [hsame, hcall'], by rwa [hentries]⟩
  · have hruns : reader.running = true := by
      rw [ProductProcess.running, hexit]
      simpa using hintime
    obtain ⟨call, hcall, hdelivered⟩ := delivered_readInput hfiled hattended hreader hruns
    obtain ⟨call', hcall', hentries⟩ := entries_kept hmove hcall
    exact ⟨call', by rw [hsame, hcall'], by rwa [hentries]⟩

/-! ### Cleaning up -/

/-- The step leaves no file behind whose payload could not be written. -/
def WritesWell : HostLabel → Prop
  | .call _ (.unwritten (some _) _) => False
  | _ => True

/-- The step does not cancel a scan that is stopping its process. -/
def calmAt (s : AdapterHost) : HostLabel → Bool
  | .cancel scan => (s.scans[scan]?).all fun call => !call.pc.isStopping
  | _ => true

/-- A file stays with its scan, or goes when the scan ends. -/
theorem Tidy.goto (h : Tidy s) {scan : ℕ} {call : ProductScan} {pc : ProductPc} (hscan : s.scans[scan]? = some call)
    {permits : ℕ} {files : String → Option (List UInt8)} {processes : List ProductProcess}
    (hfiles : ∀ path, files path ≠ none →
      s.files path ≠ none ∧ (call.pc.path? = some path → pc.path? = some path)) :
    Tidy ⟨permits, files, processes, (s.goto scan pc).scans⟩ := by
  intro path hpath
  obtain ⟨hold, hmoved⟩ := hfiles path hpath
  obtain ⟨other, call', hother, hsome⟩ := h path hold
  by_cases hne : other = scan
  · subst hne
    rw [hscan, Option.some.injEq] at hother
    subst hother
    exact ⟨other, _, goto_self pc hscan, hmoved hsome⟩
  · exact ⟨other, call', (goto_of_ne pc hne).trans hother, hsome⟩

/-- The file of a scan that ends is gone. -/
theorem files_removed {call : ProductScan} {path : String} (hpath : call.pc.path? = some path)
    {files : String → Option (List UInt8)} (pc : ProductPc) : ∀ other, Function.update files path none other ≠ none →
      files other ≠ none ∧ (call.pc.path? = some other → pc.path? = some other) := by
  intro other hother
  have hne : other ≠ path := by
    rintro rfl
    exact hother (Function.update_self ..)
  rw [Function.update_of_ne hne] at hother
  refine ⟨hother, fun hsome => absurd ?_ hne⟩
  rw [hpath] at hsome
  exact (Option.some.inj hsome).symm

/-- Unless writing a payload fails, every file belongs to a scan that goes on. -/
theorem Tidy.move (h : Tidy s) (hwrites : WritesWell label) (hmove : Move adapter library label s s') : Tidy s' := by
  have hadd : ∀ {entries : List (PyText × JsonValue)} {pc : ProductPc}, Tidy (s.add entries pc) := by
    intro entries pc path hpath
    obtain ⟨scan, call, hscan, hsome⟩ := h path hpath
    exact ⟨scan, call, getElem?_concat _ hscan, hsome⟩
  cases hmove with
  | refuse => exact hadd
  | litter entries outcome hfails path bytes hnew hlabel =>
    obtain ⟨message, rfl⟩ := hlabel
    exact hwrites.elim
  | enqueue entries path bytes hnew hbytes =>
    intro other hother
    by_cases hsame : other = path
    · subst hsame
      exact ⟨s.scans.length, _, List.getElem?_concat_length, rfl⟩
    · obtain ⟨scan, call, hscan, hsome⟩ := h other ((Function.update_of_ne hsame ..).symm.trans_ne hother)
      exact ⟨scan, call, getElem?_concat _ hscan, hsome⟩
  | acquire scan call path hscan hpc =>
    exact h.goto hscan fun other hother => ⟨hother, by rw [hpc]; exact fun hsome => hsome⟩
  | spawn scan call path hscan hpc =>
    exact h.goto hscan fun other hother => ⟨hother, by rw [hpc]; exact fun hsome => hsome⟩
  | conclude scan call path process ended exit hscan hpc =>
    exact h.goto hscan (files_removed (by rw [hpc]; rfl) _)
  | giveUp scan call path outcome hscan hpath => exact h.goto hscan (files_removed hpath _)
  | leave scan call path hscan hpc => exact h.goto hscan (files_removed (by rw [hpc]; rfl) _)
  | signal scan call path process stopped timedOut hscan hpc =>
    exact h.goto hscan fun other hother => ⟨hother, by rw [hpc]; exact fun hsome => hsome⟩
  | kill scan call path process stubborn timedOut hscan hpc =>
    exact h.goto hscan fun other hother => ⟨hother, by rw [hpc]; exact fun hsome => hsome⟩
  | read => exact h
  | exit => exact h

/-- A process that runs keeps the scan that waits for it when a scan is moved that waits for none, goes on waiting for
its own, or whose process has ended. -/
theorem Watched.goto (h : Watched s) {scan : ℕ} {call : ProductScan} {pc : ProductPc}
    (hscan : s.scans[scan]? = some call) {permits : ℕ} {files : String → Option (List UInt8)}
    {processes : List ProductProcess}
    (halive : ∀ (process : ℕ) (started' : ProductProcess), processes[process]? = some started' →
      started'.alive = true → (started'.scan = scan ∧ pc.process? = some process) ∨
        ∃ started, s.processes[process]? = some started ∧ started.alive = true ∧ started'.scan = started.scan ∧
          (call.pc.process? = some process → pc.process? = some process)) :
    Watched ⟨permits, files, processes, (s.goto scan pc).scans⟩ := by
  intro process started' hprocess hlives
  rcases halive process started' hprocess hlives with ⟨rfl, hpc⟩ | ⟨started, hstarted, hlived, hsame, hmoved⟩
  · exact ⟨_, goto_self pc hscan, hpc⟩
  · obtain ⟨call', hcall', hwaits⟩ := h process started hstarted hlived
    rw [hsame]
    by_cases hne : started.scan = scan
    · subst hne
      rw [hscan, Option.some.injEq] at hcall'
      subst hcall'
      exact ⟨_, goto_self pc hscan, hmoved hwaits⟩
    · exact ⟨call', (goto_of_ne pc hne).trans hcall', hwaits⟩

/-- Unless a scan is cancelled while it stops its process, every process that runs has a scan that waits for it. -/
theorem Watched.move (h : Watched s) (hcalm : s.calmAt label = true) (hmove : Move adapter library label s s') :
    Watched s' := by
  have hadd : ∀ {entries : List (PyText × JsonValue)} {pc : ProductPc}, Watched (s.add entries pc) := by
    intro entries pc process started hprocess hlives
    obtain ⟨call, hcall, hwaits⟩ := h process started hprocess hlives
    exact ⟨call, getElem?_concat _ hcall, hwaits⟩
  cases hmove with
  | refuse => exact hadd
  | litter => exact hadd
  | enqueue => exact hadd
  | acquire scan call path hscan hpc =>
    refine h.goto hscan fun process started hstarted hlives => .inr ⟨started, hstarted, hlives, rfl, ?_⟩
    rw [hpc]
    exact fun hwaits => nomatch hwaits
  | spawn scan call path hscan hpc =>
    refine h.goto hscan fun process started' hstarted' hlives => ?_
    rcases of_getElem?_concat hstarted' with ⟨rfl, rfl⟩ | hstarted
    · exact .inl ⟨rfl, rfl⟩
    · refine .inr ⟨started', hstarted, hlives, rfl, ?_⟩
      rw [hpc]
      exact fun hwaits => nomatch hwaits
  | conclude scan call path process ended exit hscan hpc hprocess hexit =>
    refine h.goto hscan fun other started hstarted hlives => .inr ⟨started, hstarted, hlives, rfl, ?_⟩
    rw [hpc]
    intro hwaits
    cases hwaits
    have hsame : started = ended := Option.some.inj (hstarted.symm.trans hprocess)
    rw [hsame, ProductProcess.alive, hexit] at hlives
    cases hlives
  | giveUp scan call path outcome hscan hpath hholds hfails hended =>
    refine h.goto hscan fun other started hstarted hlives => .inr ⟨started, hstarted, hlives, rfl, fun hwaits => ?_⟩
    rcases hended other hwaits with ⟨ended, hother, hexit⟩ | ⟨hlabel, hstopping⟩
    · have hsame : started = ended := Option.some.inj (hstarted.symm.trans hother)
      rw [hsame, ProductProcess.alive, Option.isNone_eq_false_iff.mpr hexit] at hlives
      cases hlives
    · rw [hlabel, calmAt, hscan, Option.all_some, hstopping] at hcalm
      cases hcalm
  | leave scan call path hscan hpc =>
    refine h.goto hscan fun process started hstarted hlives => .inr ⟨started, hstarted, hlives, rfl, ?_⟩
    rw [hpc]
    exact fun hwaits => nomatch hwaits
  | signal scan call path process stopped timedOut hscan hpc hprocess =>
    refine h.goto hscan fun other started' hother hlives => .inr ?_
    obtain ⟨started, hstarted, rfl⟩ := of_modifyProcess hother
    refine ⟨started, hstarted, by split at hlives <;> exact hlives, by split <;> rfl, ?_⟩
    rw [hpc]
    exact fun hwaits => hwaits
  | kill scan call path process stubborn timedOut hscan hpc hprocess =>
    refine h.goto hscan fun other started' hother hlives => .inr ?_
    obtain ⟨started, hstarted, rfl⟩ := of_modifyProcess hother
    refine ⟨started, hstarted, by split at hlives <;> exact hlives, by split <;> rfl, ?_⟩
    rw [hpc]
    exact fun hwaits => hwaits
  | read process reader hprocess =>
    intro other started' hother hlives
    obtain ⟨started, hstarted, rfl⟩ := of_modifyProcess hother
    have hlived : started.alive = true := by split at hlives <;> exact hlives
    obtain ⟨call, hcall, hwaits⟩ := h other started hstarted hlived
    exact ⟨call, by split <;> exact hcall, hwaits⟩
  | exit process ended exit hprocess =>
    intro other started' hother hlives
    obtain ⟨started, hstarted, rfl⟩ := of_modifyProcess hother
    split at hlives
    · cases hlives
    · next hne =>
      rw [if_neg hne]
      exact h other started hstarted hlives

/-! ### Whole runs -/

/-- What holds of a run however it goes. -/
structure Sound (adapter : JSONSubprocessAdapter) (library : AdapterLibrary) (s : AdapterHost) : Prop where
  permitted : Permitted adapter s
  filed : Filed adapter library s
  attended : Attended adapter library s
  delivered : PayloadsDelivered library s

variable {schedule : List HostLabel}

/-- Every run is sound. -/
theorem sound_of_run (hrun : runSteps (step adapter library) (initial adapter) schedule = some s) :
    Sound adapter library s := by
  have hempty : ∀ {α : Type} {index : ℕ} {entry : α}, ([] : List α)[index]? ≠ some entry := fun h => by cases h
  refine runSteps_invariant (Sound adapter library) (fun s label s' hs hstep => ?_) ?_ hrun
  · have hmove := step_move hstep
    exact ⟨hs.permitted.move hmove, hs.filed.move hmove, hs.attended.move hmove,
      hs.delivered.move hs.filed hs.attended hmove⟩
  · exact ⟨Nat.add_zero _, ⟨fun _ _ _ h => absurd h hempty, fun _ _ _ _ _ h => absurd h hempty⟩,
      ⟨fun _ _ h => absurd h hempty, fun _ _ _ _ h => absurd h hempty, fun _ _ _ h => absurd h hempty⟩,
      fun _ _ _ h => absurd h hempty⟩

/-- As many scans at most are inside the semaphore as the adapter allows. -/
theorem Sound.holding_le (h : Sound adapter library s) :
    s.scans.countP (fun call => call.pc.holds) ≤ adapter.maxConcurrency.toNat := by
  have hpermitted : s.permits + s.scans.countP (fun call => call.pc.holds) = adapter.maxConcurrency.toNat := h.permitted
  omega

/-- A scan that waits for a process is inside the semaphore. -/
theorem holds_of_process? {pc : ProductPc} {process : ℕ} (h : pc.process? = some process) : pc.holds = true := by
  cases pc with
  | queued | spawning | done => cases h
  | communicating | stopping => rfl

/-- As many processes at most run without having been told to stop. -/
theorem Sound.running_le (h : Sound adapter library s) :
    s.processes.countP ProductProcess.running ≤ adapter.maxConcurrency.toNat := by
  refine (countP_le_of_claimed (fun call : ProductScan => call.pc.process?) ?_).trans h.holding_le
  intro process started hstarted hruns
  obtain ⟨call, hcall, hpc⟩ := h.attended.attended process started hstarted hruns
  have hwaits : call.pc.process? = some process := by rw [hpc]; rfl
  exact ⟨started.scan, call, hcall, holds_of_process? hwaits, hwaits⟩

/-- Scans that have ended hold no permits. -/
theorem Sound.permits_eq (h : Sound adapter library s) (hended : ∀ call ∈ s.scans, call.pc.path? = none) :
    s.permits = adapter.maxConcurrency.toNat := by
  have hnone : s.scans.countP (fun call => call.pc.holds) = 0 := by
    rw [List.countP_eq_zero]
    intro call hcall hholds
    have hpath := hended call hcall
    cases hpc : call.pc with
    | queued | done => simp [hpc, ProductPc.holds] at hholds
    | spawning | communicating | stopping =>
      rw [hpc] at hpath
      cases hpath
  have hpermitted : s.permits + s.scans.countP (fun call => call.pc.holds) = adapter.maxConcurrency.toNat := h.permitted
  rwa [hnone, Nat.add_zero] at hpermitted

end AdapterHost

/-- In every run of the scans of an adapter, whatever its processes do and however its tasks are cancelled, never
more processes run without having been told to stop than the adapter allows, and no permit is lost. If writing a
payload never leaves a file behind, no file is left when all scans have ended. If moreover no scan is cancelled while
it stops its process, no process is left either, and never more run than the adapter allows. -/
theorem adapter_scans_bounded (adapter : JSONSubprocessAdapter) (library : AdapterLibrary) {schedule : List HostLabel}
    {s : AdapterHost}
    (hrun : runSteps (AdapterHost.step adapter library) (AdapterHost.initial adapter) schedule = some s) :
    (s.processes.countP ProductProcess.running : ℤ) ≤ adapter.maxConcurrency ∧
    ((∀ call ∈ s.scans, call.pc.path? = none) → (s.permits : ℤ) = adapter.maxConcurrency) ∧
    ((∀ label ∈ schedule, AdapterHost.WritesWell label) → (∀ call ∈ s.scans, call.pc.path? = none) →
      ∀ path, s.files path = none) ∧
    (GuardedAlong (AdapterHost.step adapter library) (fun s label => s.calmAt label = true)
        (AdapterHost.initial adapter) schedule →
      (s.processes.countP ProductProcess.alive : ℤ) ≤ adapter.maxConcurrency ∧
      ((∀ call ∈ s.scans, call.pc.path? = none) → ∀ process ∈ s.processes, process.exit.isSome = true)) := by
  have hsound := AdapterHost.sound_of_run hrun
  have hpositive := adapter.maxConcurrency_pos
  have hmax : ∀ {n : ℕ}, n ≤ adapter.maxConcurrency.toNat → (n : ℤ) ≤ adapter.maxConcurrency := by omega
  refine ⟨hmax hsound.running_le, fun hended => ?_, fun hwrites hended path => ?_, fun hcalm => ?_⟩
  · rw [hsound.permits_eq hended]
    omega
  · have htidy : s.Tidy := runSteps_guarded_invariant AdapterHost.Tidy
      (fun s label s' hs hwell hstep => hs.move hwell (AdapterHost.step_move hstep)) (fun path h => absurd rfl h)
      (GuardedAlong.of_labels hwrites (AdapterHost.initial adapter)) hrun
    by_contra hpath
    obtain ⟨scan, call, hscan, hsome⟩ := htidy path hpath
    rw [hended call (List.mem_of_getElem? hscan)] at hsome
    cases hsome
  · have hwatched : s.Watched := runSteps_guarded_invariant AdapterHost.Watched
      (fun s label s' hs hcalm hstep => hs.move hcalm (AdapterHost.step_move hstep)) (fun _ _ h => by cases h) hcalm hrun
    refine ⟨hmax ((countP_le_of_claimed (fun call : ProductScan => call.pc.process?) ?_).trans hsound.holding_le), ?_⟩
    · intro process started hstarted hlives
      obtain ⟨call, hcall, hwaits⟩ := hwatched process started hstarted hlives
      exact ⟨started.scan, call, hcall, AdapterHost.holds_of_process? hwaits, hwaits⟩
    · intro hended process hprocess
      obtain ⟨index, hindex⟩ := List.mem_iff_getElem?.mp hprocess
      by_contra hlives
      obtain ⟨call, hcall, hwaits⟩ := hwatched index process hindex (by simpa [ProductProcess.alive] using hlives)
      have hpath := hended call (List.mem_of_getElem? hcall)
      cases hpc : call.pc with
      | queued | spawning | done =>
        rw [hpc] at hwaits
        cases hwaits
      | communicating | stopping =>
        rw [hpc] at hpath
        cases hpath

/-- `from_dict` takes the source of a finding from its dictionary, and sources differ in their texts. -/
structure AdapterLibrary.ReadsSources (library : AdapterLibrary) : Prop where
  source : ∀ entries finding, library.fromDict (.obj entries) = .ok finding →
    Json.getEntry entries (.of "source") = some (.str (.of (library.core.sourceValue finding.source)))
  sourceValue_injective : Function.Injective library.core.sourceValue

/-- A finding that an adapter yields has the adapter's source, whatever the product has printed. -/
theorem JSONSubprocessAdapter.source_of_yielded {adapter : JSONSubprocessAdapter} {library : AdapterLibrary}
    (hsources : library.ReadsSources) {item : JsonValue} {finding : Finding}
    (h : adapter.yielded library item = .ok finding) : finding.source = adapter.source := by
  obtain ⟨entries, hfinding, hentry⟩ := JSONSubprocessAdapter.yielded_ok h
  rw [hsources.source entries finding hfinding, Option.some.injEq, Json.str.injEq] at hentry
  exact hsources.sourceValue_injective (PyText.of_injective hentry)

/-- In every run of the scans of an adapter, a process that has read its input before it was told to stop was given
the payload of the scan that has started it, and the findings of a scan are what its own process has printed before
it ended well, all of them with the adapter's source. -/
theorem adapter_results_attributed (adapter : JSONSubprocessAdapter) (library : AdapterLibrary)
    (hsources : library.ReadsSources) {schedule : List HostLabel} {s : AdapterHost}
    (hrun : runSteps (AdapterHost.step adapter library) (AdapterHost.initial adapter) schedule = some s) :
    (∀ process ∈ s.processes, ∀ reading ∈ process.reading, reading.inTime = true →
      ∃ call, s.scans[process.scan]? = some call ∧ library.Delivers call.entries reading.result) ∧
    (∀ (scan : ℕ) (call : ProductScan) (found : List Finding), s.scans[scan]? = some call →
      call.pc = .done (.findings found) →
        ∃ process ∈ s.processes, ∃ exit, process.scan = scan ∧ process.signalled = false ∧
          process.exit = some exit ∧ exit.returncode = 0 ∧ (exit.stdout.length : ℤ) ≤ adapter.maxOutputBytes ∧
          adapter.conclude library exit = .findings found ∧
          ∀ finding ∈ found, finding.source = adapter.source) := by
  have hsound := AdapterHost.sound_of_run hrun
  refine ⟨fun process hprocess reading hreading hintime => ?_, fun scan call found hscan hpc => ?_⟩
  · obtain ⟨index, hindex⟩ := List.mem_iff_getElem?.mp hprocess
    exact hsound.delivered index process reading hindex hreading hintime
  · obtain ⟨index, ended, exit, hended, hsame, hsignalled, hexit, hfound⟩ :=
      hsound.attended.answered scan call found hscan hpc
    obtain ⟨hcode, hsize, hyielded⟩ := JSONSubprocessAdapter.conclude_findings hfound
    refine ⟨ended, List.mem_of_getElem? hended, exit, hsame, hsignalled, hexit, hcode, hsize, hfound,
      fun finding hfinding => ?_⟩
    obtain ⟨item, hitem⟩ := hyielded finding hfinding
    exact JSONSubprocessAdapter.source_of_yielded hsources hitem

namespace AdapterHost

/-- The firmware adapter of the gateway, which runs one process at a time. -/
def firmware : JSONSubprocessAdapter :=
  ⟨.firmware, 900, 1, 1048576, 10485760, by decide, by decide⟩

/-- A finding with a given source and nothing else. -/
def sourced (source : FindingSource) : Finding :=
  ⟨"", source, .medium, 1 / 2, "", "", none, none, none, [], [], ∅, .null⟩

/-- Reading the source of a printed finding. -/
def readSource (value : JsonValue) : Except String Finding :=
  match [FindingSource.soc, .vuln, .lab, .code, .reverse, .firmware, .external].find? fun source =>
    (value.get? (.of "source")).bind Json.asStr? = some (.of (FindingDict.sourceValue source)) with
  | some source => .ok (sourced source)
  | none => .error "source"

/-- An instance of what adapters use of other code. -/
def library : AdapterLibrary where
  core := FindingDict.core
  fromDict := readSource
  replaceErrors bytes := bytes.map UInt8.toNat
  formatG value := toString value.num
  uncaughtText _ := "error"
  nesting := 1000

/-- It takes the source from the dictionary. -/
theorem library_readsSources : library.ReadsSources where
  source entries finding h := by
    have hread : readSource (.obj entries) = .ok finding := h
    unfold readSource at hread
    split at hread
    · next source hfind =>
      cases hread
      have hsome := List.find?_some hfind
      rw [decide_eq_true_eq] at hsome
      cases hentry : Json.getEntry entries (PyText.of "source") with
      | none => simp [Json.get?, hentry] at hsome
      | some value =>
        simp only [Json.get?, hentry, Option.bind_some] at hsome
        cases value with
        | str text =>
          cases hsome
          rfl
        | null | bool | int | float | arr | obj => cases hsome
    · cases hread
  sourceValue_injective source source' h := by
    have hread := congrArg FindingDict.sourceOf h
    exact (FindingDict.sourceOf_sourceValue source).symm.trans (hread.trans (FindingDict.sourceOf_sourceValue source'))

/-- Two scans at once: the first one takes too long and its process is killed, the second one finds something. -/
def timeoutThenFinding : List HostLabel :=
  [.call [] (.written "a"), .call [] (.written "b"), .acquire 0, .spawn 0 true, .reads 0, .timeout 0, .graceEnds 0,
    .exits 0 ⟨-9, [], []⟩, .stopped 0, .acquire 1, .spawn 1 true, .reads 1,
    .exits 1 ⟨0, "[\x7b\x7d]".toUTF8.data.toList, []⟩, .communicate 1]

/-- The findings of a scan that has ended with findings. -/
def found? : ProductPc → Option (List Finding)
  | .done (.findings found) => some found
  | _ => none

end AdapterHost

/-- The theorem applies to that run, which leaves no process and no file behind. -/
theorem adapter_scans_bounded_timeout :
    ∃ s, runSteps (AdapterHost.step AdapterHost.firmware AdapterHost.library)
        (AdapterHost.initial AdapterHost.firmware) AdapterHost.timeoutThenFinding = some s ∧
      (s.permits : ℤ) = 1 ∧ (∀ path, s.files path = none) ∧ s.processes.length = 2 ∧
      ∀ process ∈ s.processes, process.exit.isSome = true := by
  have hreach : ∃ s ∈ runSteps (AdapterHost.step AdapterHost.firmware AdapterHost.library)
      (AdapterHost.initial AdapterHost.firmware) AdapterHost.timeoutThenFinding,
      (∀ call ∈ s.scans, call.pc.path? = none) ∧ s.processes.length = 2 := by decide +kernel
  have hcalm : GuardedAlong (AdapterHost.step AdapterHost.firmware AdapterHost.library)
      (fun s label => s.calmAt label = true) (AdapterHost.initial AdapterHost.firmware)
      AdapterHost.timeoutThenFinding := by decide +kernel
  have hwrites : ∀ label ∈ AdapterHost.timeoutThenFinding, AdapterHost.WritesWell label := by
    simp [AdapterHost.timeoutThenFinding, AdapterHost.WritesWell]
  obtain ⟨s, hrun, hended, hlength⟩ := hreach
  obtain ⟨-, hpermits, hfiles, hprocesses⟩ := adapter_scans_bounded AdapterHost.firmware AdapterHost.library hrun
  exact ⟨s, hrun, hpermits hended, hfiles hwrites hended, hlength, (hprocesses hcalm).2 hended⟩

/-- The theorem applies to that run, whose second scan finds something. -/
theorem adapter_results_attributed_timeout :
    ∃ s, runSteps (AdapterHost.step AdapterHost.firmware AdapterHost.library)
        (AdapterHost.initial AdapterHost.firmware) AdapterHost.timeoutThenFinding = some s ∧
      ∃ process ∈ s.processes, process.scan = 1 ∧ ∃ reading ∈ process.reading,
        (∃ argument, reading.result = .ok argument ∧ JsonText.loads 1000 argument = .ok (.obj [])) ∧
        ∃ exit, process.exit = some exit ∧ ∃ found, found.length = 1 ∧
          AdapterHost.firmware.conclude AdapterHost.library exit = .findings found ∧
          ∀ finding ∈ found, finding.source = .firmware := by
  have hreach : ∃ s ∈ runSteps (AdapterHost.step AdapterHost.firmware AdapterHost.library)
      (AdapterHost.initial AdapterHost.firmware) AdapterHost.timeoutThenFinding,
      (∃ call ∈ s.scans[1]?, call.entries.length = 0 ∧ ∃ found ∈ AdapterHost.found? call.pc, found.length = 1) ∧
      ∀ process ∈ s.processes, ∃ reading ∈ process.reading, reading.inTime = true := by decide +kernel
  obtain ⟨s, hrun, ⟨call, hscan, hentries, found, hfound, hlength⟩, hread⟩ := hreach
  obtain ⟨hdelivered, hanswered⟩ :=
    adapter_results_attributed AdapterHost.firmware AdapterHost.library AdapterHost.library_readsSources hrun
  have hpc : call.pc = .done (.findings found) := by
    unfold AdapterHost.found? at hfound
    split at hfound
    · next hpc =>
      cases hfound
      exact hpc
    · cases hfound
  obtain ⟨process, hprocess, exit, hsame, -, hexit, -, -, hconclude, hsources⟩ := hanswered 1 call found hscan hpc
  obtain ⟨reading, hreading, hintime⟩ := hread process hprocess
  obtain ⟨call', hcall', hpayload⟩ := hdelivered process hprocess reading hreading hintime
  rw [hsame, hscan, Option.some.injEq] at hcall'
  rw [← hcall', List.length_eq_zero_iff.mp hentries] at hpayload
  have hreadable : (Json.obj [] : JsonValue).Readable := .obj List.nodup_nil (fun _ h => nomatch h) fun _ h => nomatch h
  exact ⟨s, hrun, process, hprocess, hsame, reading, hreading, hpayload hreadable, exit, hexit, found, hlength, hconclude,
    hsources⟩

end SharedIntegration
