import SharedIntegration.Execution
import SharedIntegration.Library.TextFile
import SharedIntegration.Library.Fallible
import Mathlib.Algebra.Order.Ring.Rat

/-!
# Product adapters

An adapter runs the command line of one product in a process of its own. The payload of a scan goes
through a temporary file and a wrapper to the product's `--input` argument, and what the process prints
comes back as findings of the adapter's source, or as an error whose class tells the executor whether
another attempt may help. The parts of the standard library and of `shared_llm_core` that are not in
this repository are parameters.
-/

namespace SharedIntegration

/-- `AdapterQueue`. -/
inductive AdapterQueue
  | fast | analysis | sandbox
deriving DecidableEq, Repr

/-- The class attributes of a subclass of `JSONSubprocessAdapter`. -/
structure AdapterClass where
  source : FindingSource
  module : String
  productId : String
  version : String := "0.6.0"
  queue : AdapterQueue := .analysis
  defaultTimeoutSeconds : ℚ := 300
  defaultMaxConcurrency : ℤ := 2
  defaultMaxInputBytes : ℤ := 1048576
  defaultMaxOutputBytes : ℤ := 10485760

namespace AdapterClass

/-- `SOCAdapter`. -/
def soc : AdapterClass where
  source := .soc
  module := "ai_soc_agent.cli"
  productId := "001-soc"
  queue := .fast
  defaultTimeoutSeconds := 60
  defaultMaxConcurrency := 4

/-- `VulnAdapter`. -/
def vuln : AdapterClass where
  source := .vuln
  module := "ai_vuln_agent.cli"
  productId := "002-vuln"
  queue := .analysis
  defaultTimeoutSeconds := 180

/-- `LabAdapter`. -/
def lab : AdapterClass where
  source := .lab
  module := "ai_agent_lab.cli"
  productId := "003-lab"
  queue := .sandbox
  defaultTimeoutSeconds := 300
  defaultMaxConcurrency := 1

/-- `CodeAdapter`. -/
def code : AdapterClass where
  source := .code
  module := "codeguard.cli"
  productId := "004-code"
  queue := .analysis
  defaultTimeoutSeconds := 300

/-- `ReverseAdapter`. -/
def reverse : AdapterClass where
  source := .reverse
  module := "ai_reverse_agent.cli"
  productId := "005-reverse"
  queue := .sandbox
  defaultTimeoutSeconds := 600
  defaultMaxConcurrency := 1

/-- `FirmwareAdapter`. -/
def firmware : AdapterClass where
  source := .firmware
  module := "ai_firmware_agent.cli"
  productId := "006-firmware"
  queue := .sandbox
  defaultTimeoutSeconds := 900
  defaultMaxConcurrency := 1

end AdapterClass

/-- A `JSONSubprocessAdapter` with the limits of its constructor. -/
structure JSONSubprocessAdapter extends AdapterClass where
  timeoutSeconds : ℚ
  maxConcurrency : ℤ
  maxInputBytes : ℤ
  maxOutputBytes : ℤ
  timeoutSeconds_pos : 0 < timeoutSeconds
  maxConcurrency_pos : 0 < maxConcurrency

/-- `limit or default`: a limit of zero counts as none. -/
def orDefault (limit : Option ℤ) (default : ℤ) : ℤ := (limit.filter (· ≠ 0)).getD default

/-- `JSONSubprocessAdapter.__init__`; the text of a `ValueError` otherwise. -/
def JSONSubprocessAdapter.init (attributes : AdapterClass) (timeoutSeconds : Option ℚ)
    (maxConcurrency maxInputBytes maxOutputBytes : Option ℤ) : Except String JSONSubprocessAdapter :=
  if htimeout : 0 < timeoutSeconds.getD attributes.defaultTimeoutSeconds then
    if hconcurrency : 0 < maxConcurrency.getD attributes.defaultMaxConcurrency then
      .ok ⟨attributes, _, _, orDefault maxInputBytes attributes.defaultMaxInputBytes,
        orDefault maxOutputBytes attributes.defaultMaxOutputBytes, htimeout, hconcurrency⟩
    else .error "max_concurrency must be positive"
  else .error "timeout_seconds must be positive"

namespace ProductCLIError

/-- `ProductCLIError` itself. -/
def plain (message : String) : ProductCLIError := ⟨"PRODUCT_CLI_ERROR", false, false, message⟩

/-- `ProductTimeoutError`. -/
def timedOut (message : String) : ProductCLIError := ⟨"ADAPTER_TIMEOUT", true, true, message⟩

/-- `ProductOutputLimitError`. -/
def outputLimit (message : String) : ProductCLIError := ⟨"ADAPTER_OUTPUT_LIMIT", false, false, message⟩

/-- `ProductUnavailableError`. -/
def unavailable (message : String) : ProductCLIError := ⟨"ADAPTER_UNAVAILABLE", true, false, message⟩

end ProductCLIError

/-- Exceptions of the standard library that no handler of an adapter catches. -/
inductive UncaughtError
  | dumps
  | encode
  | loads (error : JsonError)
deriving DecidableEq

/-- What adapters use of other code: the texts of sources and of exceptions, `from_dict` on what a product
has printed, `decode` with `errors="replace"`, the format `g`, and how deeply JSON may be nested. -/
structure AdapterLibrary where
  core : CoreLibrary
  fromDict : JsonValue → Except String Finding
  replaceErrors : List UInt8 → PyText
  formatG : ℚ → String
  uncaughtText : UncaughtError → String
  nesting : ℕ

/-- An exception that a scan raises: one of its own, or another one with its text. -/
inductive ScanFailure
  | product (error : ProductCLIError)
  | uncaught (message : String)

/-- What the caller of the scan gets. -/
def ScanFailure.outcome : ScanFailure → ScanOutcome
  | product error => .productError error
  | uncaught message => .otherError message

/-- How a process ended. -/
structure ProcessExit where
  returncode : ℤ
  stdout : List UInt8
  stderr : List UInt8

/-- Why the wrapper did not start the product. -/
inductive WorkerExit
  | missingFile
  | inputTooLarge
  | undecodable
  | invalidJson (error : JsonError)
  | notAnObject
  | unwritable
deriving DecidableEq

/-- The wrapper process `adapters/worker.py` on the bytes of its input file: the `--input` argument of the
product. -/
def workerMain (nesting : ℕ) (maxInputBytes : ℤ) (bytes : List UInt8) : Except WorkerExit PyText :=
  if maxInputBytes < bytes.length then .error .inputTooLarge
  else match PyText.readText bytes with
    | none => .error .undecodable
    | some text =>
      match JsonText.loads nesting text with
      | .error error => .error (.invalidJson error)
      | .ok (.obj entries) =>
        match Json.dumpsText ⟨true, false⟩ nesting (.obj entries) with
        | some argument => .ok argument
        | none => .error .unwritable
      | .ok _ => .error .notAnObject

namespace JSONSubprocessAdapter

variable (adapter : JSONSubprocessAdapter) (library : AdapterLibrary)

/-- `_write_payload` up to the temporary file: the bytes that are written. -/
def writePayload (payload : JsonValue) : Except ScanFailure (List UInt8) :=
  match Json.dumpsText .compact library.nesting payload with
  | none => .error (.uncaught (library.uncaughtText .dumps))
  | some text =>
    match PyText.encodeUtf8 text with
    | none => .error (.uncaught (library.uncaughtText .encode))
    | some bytes =>
      if adapter.maxInputBytes < bytes.length then
        .error (.product (.plain
          (adapter.productId ++ " input exceeded " ++ toString adapter.maxInputBytes ++ " bytes")))
      else .ok bytes

/-- `stderr[:65_536].decode("utf-8", errors="replace").strip()`. -/
def detail (stderr : List UInt8) : String :=
  String.ofList ((PyText.strip (library.replaceErrors (stderr.take 65536))).map Char.ofNat)

/-- `_execute` behind `communicate`: the value that the product has printed. -/
def decodeOutput (exit : ProcessExit) : Except ScanFailure JsonValue :=
  if adapter.maxOutputBytes < exit.stdout.length then
    .error (.product (.outputLimit
      (adapter.productId ++ " CLI output exceeded " ++ toString adapter.maxOutputBytes ++ " bytes")))
  else if exit.returncode ≠ 0 then
    .error (.product (.plain (adapter.productId ++ " CLI exited with " ++ toString exit.returncode ++ ": " ++
      detail library exit.stderr)))
  else
    let invalid : ScanFailure := .product (.plain (adapter.productId ++ " CLI emitted invalid JSON"))
    match PyText.decodeUtf8 exit.stdout with
    | none => .error invalid
    | some text =>
      match JsonText.loads library.nesting text with
      | .error .decode => .error invalid
      | .error error => .error (.uncaught (library.uncaughtText (.loads error)))
      | .ok (.obj entries) => .ok (.obj entries)
      | .ok (.arr items) => .ok (.arr items)
      | .ok _ => .error (.product (.plain (adapter.productId ++ " CLI output must be an object or list")))

/-- The items of what was printed: a list, or the `findings` of an object, by default none. -/
def outputItems : JsonValue → Except ScanFailure (List JsonValue)
  | .arr items => .ok items
  | decoded =>
    match (decoded.get? (.of "findings")).getD (.arr []) with
    | .arr items => .ok items
    | _ => .error (.product (.plain (adapter.productId ++ " CLI 'findings' must be a list")))

/-- The dictionary handed to `from_dict`: the item with its source replaced and its gaps filled. -/
def normalized (entries : List (PyText × JsonValue)) : List (PyText × JsonValue) :=
  let get (name : String) (default : JsonValue) := (Json.getEntry entries (.of name)).getD default
  let withId := Json.setEntry entries (.of "id") (get "id" (.str []))
  let withSource := Json.setEntry withId (.of "source") (.str (.of (library.core.sourceValue adapter.source)))
  let withSeverity := Json.setEntry withSource (.of "severity") (get "severity" (.str (.of "medium")))
  let withConfidence := Json.setEntry withSeverity (.of "confidence") (get "confidence" (.float (.of "0.5")))
  Json.setEntry withConfidence (.of "title") (get "title" (.str (.of "Untitled finding")))

/-- One round of the loop over items: a finding is yielded, or an exception is raised. -/
def yielded : JsonValue → Except ScanFailure Finding
  | .obj entries =>
    match library.fromDict (.obj (adapter.normalized library entries)) with
    | .ok finding => .ok finding
    | .error message => .error (.uncaught message)
  | _ => .error (.product (.plain (adapter.productId ++ " CLI finding must be an object")))

/-- What a caller that collects the findings of a scan gets when the process has ended. -/
def conclude (exit : ProcessExit) : ScanOutcome :=
  match (adapter.decodeOutput library exit).bind fun decoded =>
    (adapter.outputItems decoded).bind fun items => items.mapM (adapter.yielded library) with
  | .ok found => .findings found
  | .error failure => failure.outcome

/-- The scan of an adapter whose directory is missing. -/
def directoryMissing : ScanOutcome :=
  .productError (.unavailable (adapter.productId ++ " CLI directory is unavailable"))

/-- A process that could not be started. -/
def notStarted : ScanOutcome := .productError (.unavailable (adapter.productId ++ " CLI could not be started"))

/-- A process that took too long. -/
def timedOut : ScanOutcome :=
  .productError (.timedOut (adapter.productId ++ " CLI exceeded " ++ library.formatG adapter.timeoutSeconds ++ "s"))

variable {adapter library}

/-- The dictionary handed to `from_dict` names the adapter's source, whatever the product has printed. -/
theorem getEntry_normalized (entries : List (PyText × JsonValue)) :
    Json.getEntry (adapter.normalized library entries) (.of "source") =
      some (.str (.of (library.core.sourceValue adapter.source))) := by
  simp only [normalized, Json.getEntry_setEntry, if_true]
  rw [if_neg (by decide), if_neg (by decide), if_neg (by decide)]

/-- What a scan yields is read from an object with the adapter's source. -/
theorem yielded_ok {item : JsonValue} {finding : Finding} (h : adapter.yielded library item = .ok finding) :
    ∃ entries, library.fromDict (.obj entries) = .ok finding ∧
      Json.getEntry entries (.of "source") = some (.str (.of (library.core.sourceValue adapter.source))) := by
  unfold yielded at h
  split at h
  · next entries =>
    refine ⟨adapter.normalized library entries, ?_, getEntry_normalized entries⟩
    split at h
    · next found hfound =>
      cases h
      exact hfound
    · cases h
  · cases h

/-- Every finding of a scan was read from an item of its own. -/
theorem yielded_of_mapM {items : List JsonValue} {found : List Finding}
    (h : items.mapM (adapter.yielded library) = .ok found) :
    ∀ finding ∈ found, ∃ item ∈ items, adapter.yielded library item = .ok finding := by
  induction items generalizing found with
  | nil =>
    cases h
    exact fun _ h => nomatch h
  | cons item rest ih =>
    rw [List.mapM_cons] at h
    obtain ⟨first, hfirst, h⟩ := Fallible.bind_eq_ok.mp h
    obtain ⟨more, hmore, h⟩ := Fallible.bind_eq_ok.mp h
    cases h
    intro finding hfinding
    rcases List.mem_cons.mp hfinding with rfl | hfinding
    · exact ⟨item, List.mem_cons_self, hfirst⟩
    · obtain ⟨item', hitem', hfinding⟩ := ih hmore finding hfinding
      exact ⟨item', List.mem_cons_of_mem item hitem', hfinding⟩

/-- Findings come from a process that has ended well and printed no more than it may, each from one item. -/
theorem conclude_findings {exit : ProcessExit} {found : List Finding}
    (h : adapter.conclude library exit = .findings found) :
    exit.returncode = 0 ∧ (exit.stdout.length : ℤ) ≤ adapter.maxOutputBytes ∧
      ∀ finding ∈ found, ∃ item, adapter.yielded library item = .ok finding := by
  unfold conclude at h
  split at h
  · next found' hfound =>
    cases h
    obtain ⟨decoded, hdecoded, hfound⟩ := Fallible.bind_eq_ok.mp hfound
    obtain ⟨items, -, hitems⟩ := Fallible.bind_eq_ok.mp hfound
    have hends : ¬ adapter.maxOutputBytes < exit.stdout.length ∧ ¬ exit.returncode ≠ 0 := by
      unfold decodeOutput at hdecoded
      split at hdecoded
      · cases hdecoded
      · next hsize =>
        split at hdecoded
        · cases hdecoded
        · next hcode => exact ⟨hsize, hcode⟩
    refine ⟨Decidable.not_not.mp hends.2, Int.not_lt.mp hends.1, fun finding hfinding => ?_⟩
    obtain ⟨item, -, hitem⟩ := yielded_of_mapM hitems finding hfinding
    exact ⟨item, hitem⟩
  · next failure hfailure => cases failure <;> cases h

/-- A payload that was written reaches the product: the wrapper accepts the file, and its argument denotes the
payload. -/
theorem workerMain_writePayload {entries : List (PyText × JsonValue)} {bytes : List UInt8}
    (hpayload : (Json.obj entries : JsonValue).Readable)
    (h : adapter.writePayload library (.obj entries) = .ok bytes) :
    ∃ argument, workerMain library.nesting adapter.maxInputBytes bytes = .ok argument ∧
      JsonText.loads library.nesting argument = .ok (.obj entries) := by
  unfold writePayload Json.dumpsText at h
  split at h
  · cases h
  · next text htext =>
    split at htext
    · next hwritable =>
      cases htext
      obtain ⟨bytes', hbytes, hread⟩ := PyText.readText_write .compact hpayload
      rw [hbytes] at h
      dsimp only at h
      split at h
      · cases h
      · next hsize =>
        cases h
        refine ⟨Json.write ⟨true, false⟩ (.obj entries), ?_, Json.loads_write _ hpayload hwritable⟩
        rw [workerMain, if_neg hsize, hread]
        dsimp only
        rw [Json.loads_write _ hpayload hwritable]
        simp only [Json.dumpsText, hwritable, if_true]
    · cases htext

end JSONSubprocessAdapter

end SharedIntegration
