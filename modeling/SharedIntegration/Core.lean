import SharedIntegration.Library.Json
import Mathlib.Data.Finset.Basic
import Mathlib.Data.Rat.Defs
import Mathlib.Algebra.Order.Ring.Rat

/-!
# Findings and correlations as the gateway uses them

The data types of `shared_llm_core` are outside this repository; these structures hold the
fields that its code reads and writes. The dictionary form of a finding is only known
through `to_dict` and `from_dict`, so it is a parameter that carries its round trip.
-/

namespace SharedIntegration

/-- A finite `float`: a rational number, or the negative zero, which has a text of its own. -/
inductive PyFloat
  | rational (value : ℚ)
  | negativeZero
deriving DecidableEq

/-- A JSON document; a string is a well-formed text, unless a spelling says what else it stands for. -/
abbrev Document := Json String PyFloat

/-- A point in time, in microseconds; clock readings and stored columns are always UTC. -/
abbrev Instant := Int

/-- A text that counts as true; an empty one does not. -/
def nonEmpty (text : Option String) : Option String := text.filter fun text => text ≠ ""

/-- `FindingSource`: the products that report findings. -/
inductive FindingSource
  | soc | vuln | lab | code | reverse | firmware | external
deriving DecidableEq, Repr

/-- `FindingSeverity`. -/
inductive FindingSeverity
  | info | low | medium | high | critical
deriving DecidableEq, Repr

/-- The severity order used by merging and by the correlation rule. -/
def FindingSeverity.rank : FindingSeverity → ℕ
  | .info => 0
  | .low => 1
  | .medium => 2
  | .high => 3
  | .critical => 4

/-- A `datetime` by its instant, which compares and subtracts only with datetimes of its own awareness. -/
structure Timestamp where
  micros : Instant
  aware : Bool
deriving DecidableEq, Repr

/-- `_as_utc`: a naive datetime is read as UTC. -/
def asUtc (value : Timestamp) : Instant := value.micros

/-- `Finding`, with the fields this repository touches. -/
structure Finding where
  id : String
  source : FindingSource
  severity : FindingSeverity
  confidence : ℚ
  title : String
  description : String
  host : Option String
  cve : Option String
  ts : Option Timestamp
  evidence : List String
  related : List String
  tags : Finset String
  metadata : Document

/-- `Correlation`. -/
structure Correlation where
  ruleId : String
  findings : List String
  severity : FindingSeverity
  narrative : String
deriving DecidableEq

/-- `CorrelationRule.correlate`: a rule may raise, carrying the text of its exception. -/
abbrev CorrelationRule := Finding → List Finding → Except String (List Correlation)

/-- The parts of `shared_llm_core` the gateway calls: the texts of its enumerations and the
dictionary form of a finding, which `from_dict` reads back. -/
structure CoreLibrary where
  sourceValue : FindingSource → String
  severityValue : FindingSeverity → String
  toDict : Finding → Document
  fromDict : Document → Finding
  fromDict_toDict : ∀ finding, fromDict (toDict finding) = finding

end SharedIntegration
