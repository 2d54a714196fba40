import SharedIntegration.FindingLifecycle
import Mathlib.Data.Finset.Sort
import Mathlib.Data.String.Basic

/-!
# One dictionary form of findings

A concrete instance of the parts of `shared_llm_core` that the gateway calls, with the field
names and enumeration texts its payloads have, and Python's text functions on ASCII text. It
shows that the assumed round trip can be met and lets the gateway be run on examples.
-/

namespace SharedIntegration

namespace FindingDict

/-- `FindingSource.value`. -/
def sourceValue : FindingSource → String
  | .soc => "001"
  | .vuln => "002"
  | .lab => "003"
  | .code => "004"
  | .reverse => "005"
  | .firmware => "006"
  | .external => "external"

/-- `FindingSource(text)`. -/
def sourceOf (text : String) : FindingSource :=
  if text = "001" then .soc else if text = "002" then .vuln else if text = "003" then .lab
  else if text = "004" then .code else if text = "005" then .reverse
  else if text = "006" then .firmware else .external

/-- `FindingSeverity.value`. -/
def severityValue : FindingSeverity → String
  | .info => "info"
  | .low => "low"
  | .medium => "medium"
  | .high => "high"
  | .critical => "critical"

/-- `FindingSeverity(text)`. -/
def severityOf (text : String) : FindingSeverity :=
  if text = "low" then .low else if text = "medium" then .medium else if text = "high" then .high
  else if text = "critical" then .critical else .info

/-- A missing timestamp is null; the form of any other is immaterial to the gateway. -/
def timestampValue : Option Timestamp → Document
  | none => .null
  | some ts => .obj [("micros", .int ts.micros), ("aware", .bool ts.aware)]

/-- Read a timestamp back. -/
def timestampOf : Document → Option Timestamp
  | .obj [(_, .int micros), (_, .bool aware)] => some ⟨micros, aware⟩
  | _ => none

/-- A list of texts. -/
def texts (items : List String) : Document := .arr (items.map .str)

/-- Read a list of texts back. -/
def textsOf : Document → List String
  | .arr items => items.filterMap Json.asStr?
  | _ => []

/-- Read a text back. -/
def textOf (value : Document) : String := value.asStr?.getD ""

@[simp] theorem textOf_str (value : String) : textOf (.str value) = value := rfl

/-- Read a confidence back. -/
def confidenceOf : Document → ℚ
  | .float (.rational value) => value
  | _ => 0

/-- `Finding.to_dict`. -/
def toDict (finding : Finding) : Document :=
  .obj [("id", .str finding.id), ("source", .str (sourceValue finding.source)),
    ("severity", .str (severityValue finding.severity)), ("confidence", .float (.rational finding.confidence)),
    ("title", .str finding.title), ("description", .str finding.description),
    ("host", nullable finding.host), ("cve", nullable finding.cve),
    ("ts", timestampValue finding.ts), ("evidence", texts finding.evidence),
    ("related", texts finding.related), ("tags", texts (finding.tags.sort (· ≤ ·))),
    ("metadata", finding.metadata)]

/-- `Finding.from_dict`, by field name. -/
def fromDict (document : Document) : Finding :=
  let field (name : String) : Document := (document.get? name).getD .null
  { id := textOf (field "id")
    source := sourceOf (textOf (field "source"))
    severity := severityOf (textOf (field "severity"))
    confidence := confidenceOf (field "confidence")
    title := textOf (field "title")
    description := textOf (field "description")
    host := (field "host").asStr?
    cve := (field "cve").asStr?
    ts := timestampOf (field "ts")
    evidence := textsOf (field "evidence")
    related := textsOf (field "related")
    tags := (textsOf (field "tags")).toFinset
    metadata := field "metadata" }

/-- Source names are read back. -/
theorem sourceOf_sourceValue (source : FindingSource) : sourceOf (sourceValue source) = source := by
  cases source <;> decide

/-- Severity names are read back. -/
theorem severityOf_severityValue (severity : FindingSeverity) :
    severityOf (severityValue severity) = severity := by
  cases severity <;> decide

/-- Timestamps are read back. -/
theorem timestampOf_timestampValue (ts : Option Timestamp) : timestampOf (timestampValue ts) = ts := by
  cases ts <;> rfl

/-- Lists of texts are read back. -/
theorem textsOf_texts (items : List String) : textsOf (texts items) = items := by
  induction items with
  | nil => rfl
  | cons item rest ih => simpa [textsOf, texts, Json.asStr?] using ih

/-- Nullable texts are read back. -/
theorem asStr?_nullable (value : Option String) : (nullable value).asStr? = value := by
  cases value <;> rfl

/-- Reading the dictionary form back gives the finding. -/
theorem fromDict_toDict (finding : Finding) : fromDict (toDict finding) = finding := by
  obtain ⟨id, source, severity, confidence, title, description, host, cve, ts, evidence, related,
    tags, metadata⟩ := finding
  simp [fromDict, toDict, Json.get?, Json.getEntry, confidenceOf, sourceOf_sourceValue,
    severityOf_severityValue, timestampOf_timestampValue, textsOf_texts, asStr?_nullable]

/-- The instance of the core library. -/
def core : CoreLibrary := ⟨sourceValue, severityValue, toDict, fromDict, fromDict_toDict⟩

/-- `str.strip` on ASCII text. -/
def strip (text : String) : String :=
  String.ofList ((text.toList.dropWhile Char.isWhitespace).reverse.dropWhile
    Char.isWhitespace).reverse

mutual

/-- The canonical text of a document, in which different identities differ. -/
def canonical : Document → String
  | .null => "null"
  | .bool value => if value then "true" else "false"
  | .int value => toString value
  | .float (.rational value) => toString value
  | .float .negativeZero => "-0.0"
  | .str value => "\"" ++ value ++ "\""
  | .arr items => "[" ++ canonicalItems items ++ "]"
  | .obj entries => "\x7b" ++ canonicalEntries entries ++ "\x7d"

/-- The texts of a list of documents. -/
def canonicalItems : List Document → String
  | [] => ""
  | item :: rest => canonical item ++ "," ++ canonicalItems rest

/-- The texts of the entries of an object. -/
def canonicalEntries : List (String × Document) → String
  | [] => ""
  | (key, value) :: rest => "\"" ++ key ++ "\":" ++ canonical value ++ "," ++ canonicalEntries rest

end

/-- Python's text functions on ASCII text; a digest is represented by the text it digests. -/
def text : TextLibrary where
  strip := strip
  casefold value := String.ofList (value.toList.map Char.toLower)
  upper value := String.ofList (value.toList.map Char.toUpper)
  digest := canonical

/-- The relational gateway over these instances. -/
def backend : Backend Database := relationalBackend core text

end FindingDict

end SharedIntegration
