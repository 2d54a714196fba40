import SharedIntegration.Adapters
import SharedIntegration.Library.Transition
import Mathlib.Logic.Function.Basic

/-!
# The scans of one adapter

Any number of scans run in one event loop: each writes its payload to a temporary file, waits for a place
under the adapter's semaphore, starts a process and waits for it, up to the adapter's timeout. The task of a scan
may be cancelled at any await. A process that is to stop is told so, and killed after a period of grace,
unless the scan is cancelled once more, which leaves the process behind. The wrapper reads the file whenever
the operating system lets it, and processes end by themselves at any time. A process of which the start is
cancelled is killed and awaited by `asyncio` itself, and is not among the processes here.
-/

namespace SharedIntegration

open Transition

/-- Where a scan stands: waiting for a place, starting its process, waiting for the process to end, or for the
end of a process that was told to stop, by `terminate` or by `kill`, and why it was told so. -/
inductive ProductPc
  | queued (path : String)
  | spawning (path : String)
  | communicating (path : String) (process : ℕ)
  | stopping (path : String) (process : ℕ) (killed timedOut : Bool)
  | done (outcome : ScanOutcome)

namespace ProductPc

/-- The payload file of a scan that goes on. -/
def path? : ProductPc → Option String
  | queued path | spawning path | communicating path _ | stopping path _ _ _ => some path
  | done _ => none

/-- The process that a scan waits for. -/
def process? : ProductPc → Option ℕ
  | communicating _ process | stopping _ process _ _ => some process
  | queued _ | spawning _ | done _ => none

/-- The scan is inside `async with self._semaphore`. -/
def holds : ProductPc → Bool
  | spawning _ | communicating _ _ | stopping _ _ _ _ => true
  | queued _ | done _ => false

/-- The scan waits for a process that was told to stop. -/
def isStopping : ProductPc → Bool
  | stopping _ _ _ _ => true
  | queued _ | spawning _ | communicating _ _ | done _ => false

end ProductPc

/-- One call of `scan` with its payload, a dictionary. -/
structure ProductScan where
  entries : List (PyText × JsonValue)
  pc : ProductPc

/-- What the wrapper made of its input file, and whether it had not been told to stop by then. -/
structure InputReading where
  inTime : Bool
  result : Except WorkerExit PyText

/-- A process: the scan that has started it, its input file, and what has happened to it. -/
structure ProductProcess where
  scan : ℕ
  path : String
  reading : Option InputReading
  signalled : Bool
  killed : Bool
  exit : Option ProcessExit

/-- The process runs, and nobody has told it to stop. -/
def ProductProcess.running (process : ProductProcess) : Bool := !process.signalled && process.exit.isNone

/-- The process runs. -/
def ProductProcess.alive (process : ProductProcess) : Bool := process.exit.isNone

/-- The semaphore of an adapter, the directory of temporary files, the processes and the scans. -/
structure AdapterHost where
  permits : ℕ
  files : String → Option (List UInt8)
  processes : List ProductProcess
  scans : List ProductScan

/-- How a scan begins: the product is missing, its payload is written, or writing it raises, possibly behind a
file with some of it. -/
inductive ScanStart
  | unavailable
  | written (path : String)
  | unwritten (leftover : Option (String × List UInt8)) (message : String)

/-- What happens next. -/
inductive HostLabel
  | call (entries : List (PyText × JsonValue)) (start : ScanStart)
  | acquire (scan : ℕ)
  | spawn (scan : ℕ) (started : Bool)
  | communicate (scan : ℕ)
  | timeout (scan : ℕ)
  | graceEnds (scan : ℕ)
  | stopped (scan : ℕ)
  | cancel (scan : ℕ)
  | reads (process : ℕ)
  | exits (process : ℕ) (exit : ProcessExit)

namespace AdapterHost

variable (adapter : JSONSubprocessAdapter) (library : AdapterLibrary)

/-- No scans yet. -/
def initial : AdapterHost := ⟨adapter.maxConcurrency.toNat, fun _ => none, [], []⟩

/-- Move a scan. -/
def goto (s : AdapterHost) (scan : ℕ) (pc : ProductPc) : AdapterHost :=
  { s with scans := s.scans.modify scan fun call => { call with pc } }

/-- Leave the semaphore and remove the payload file. -/
def finish (s : AdapterHost) (scan : ℕ) (path : String) (outcome : ScanOutcome) : AdapterHost :=
  { s.goto scan (.done outcome) with
    permits := s.permits + 1
    files := Function.update s.files path none }

/-- Add a scan. -/
def add (s : AdapterHost) (entries : List (PyText × JsonValue)) (pc : ProductPc) : AdapterHost :=
  { s with scans := s.scans ++ [⟨entries, pc⟩] }

/-- Create a temporary file, whose name is new. -/
def create (s : AdapterHost) (path : String) (bytes : List UInt8) : AdapterHost :=
  { s with files := Function.update s.files path (some bytes) }

/-- Start a process for a scan. -/
def start (s : AdapterHost) (scan : ℕ) (path : String) : AdapterHost :=
  { s with processes := s.processes ++ [⟨scan, path, none, false, false, none⟩] }

/-- Change a process. -/
def modifyProcess (s : AdapterHost) (process : ℕ) (change : ProductProcess → ProductProcess) : AdapterHost :=
  { s with processes := s.processes.modify process change }

/-- How a scan ends whose process was told to stop. -/
def stopOutcome (timedOut : Bool) : ScanOutcome := if timedOut then adapter.timedOut library else .cancelled

/-- `_stop_process` up to its first await: a process that has ended is left alone. -/
def stop (s : AdapterHost) (scan : ℕ) (path : String) (process : ℕ) (timedOut : Bool) : Option AdapterHost := do
  let stopped ← s.processes[process]?
  if stopped.exit.isSome then some (s.finish scan path (stopOutcome adapter library timedOut))
  else some ((s.modifyProcess process fun process => { process with signalled := true }).goto scan
    (.stopping path process false timedOut))

/-- The beginning of `scan`, up to its first await. -/
def call (s : AdapterHost) (entries : List (PyText × JsonValue)) : ScanStart → Option AdapterHost
  | .unavailable => some (s.add entries (.done adapter.directoryMissing))
  | .written path =>
    match adapter.writePayload library (.obj entries) with
    | .error failure => some (s.add entries (.done failure.outcome))
    | .ok bytes => if s.files path = none then some ((s.create path bytes).add entries (.queued path)) else none
  | .unwritten leftover message =>
    match adapter.writePayload library (.obj entries) with
    | .error failure => some (s.add entries (.done failure.outcome))
    | .ok _ =>
      match leftover with
      | none => some (s.add entries (.done (.otherError message)))
      | some (path, bytes) =>
        if s.files path = none then some ((s.create path bytes).add entries (.done (.otherError message))) else none

/-- A cancellation of the task of a scan at the await where it stands. A process that is being started is
taken care of by the event loop. -/
def cancel (s : AdapterHost) (scan : ℕ) : ProductPc → Option AdapterHost
  | .queued path => some { s.goto scan (.done .cancelled) with files := Function.update s.files path none }
  | .spawning path => some (s.finish scan path .cancelled)
  | .communicating path process => s.stop adapter library scan path process false
  | .stopping path _ _ _ => some (s.finish scan path .cancelled)
  | .done _ => none

/-- What the wrapper makes of its input file. -/
def readInput (s : AdapterHost) (path : String) : Except WorkerExit PyText :=
  match s.files path with
  | none => .error .missingFile
  | some bytes => workerMain library.nesting adapter.maxInputBytes bytes

/-- One step. -/
def step (s : AdapterHost) : HostLabel → Option AdapterHost
  | .call entries start => s.call adapter library entries start
  | .acquire scan => do
    let call ← s.scans[scan]?
    match call.pc with
    | .queued path => if 0 < s.permits then some { s.goto scan (.spawning path) with permits := s.permits - 1 } else none
    | _ => none
  | .spawn scan started => do
    let call ← s.scans[scan]?
    match call.pc with
    | .spawning path =>
      if started then
        some ((s.start scan path).goto scan (.communicating path s.processes.length))
      else some (s.finish scan path adapter.notStarted)
    | _ => none
  | .communicate scan => do
    let call ← s.scans[scan]?
    match call.pc with
    | .communicating path process =>
      let ended ← s.processes[process]?
      let exit ← ended.exit
      some (s.finish scan path (adapter.conclude library exit))
    | _ => none
  | .timeout scan => do
    let call ← s.scans[scan]?
    match call.pc with
    | .communicating path process => s.stop adapter library scan path process true
    | _ => none
  | .graceEnds scan => do
    let call ← s.scans[scan]?
    match call.pc with
    | .stopping path process false timedOut =>
      let stubborn ← s.processes[process]?
      if stubborn.exit = none then
        some ((s.modifyProcess process fun process => { process with killed := true }).goto scan
          (.stopping path process true timedOut))
      else none
    | _ => none
  | .stopped scan => do
    let call ← s.scans[scan]?
    match call.pc with
    | .stopping path process _ timedOut =>
      let ended ← s.processes[process]?
      if ended.exit.isSome then some (s.finish scan path (stopOutcome adapter library timedOut)) else none
    | _ => none
  | .cancel scan => do
    let call ← s.scans[scan]?
    s.cancel adapter library scan call.pc
  | .reads process => do
    let reader ← s.processes[process]?
    if reader.exit = none ∧ reader.reading = none then
      some (s.modifyProcess process fun process => { process with
        reading := some (InputReading.mk (!process.signalled) (s.readInput adapter library process.path)) })
    else none
  | .exits process exit => do
    let ended ← s.processes[process]?
    if ended.exit = none then some (s.modifyProcess process fun process => { process with exit := some exit }) else none

end AdapterHost

end SharedIntegration
