import Cockpitctl.Domain.Synthesis

/-!
# Explanations of finding codes

The explanations of the codes that cockpit gives to the findings it synthesizes.

## Main definitions

* `CodeExplanation`, `allCodes`, `explainCode`: the explanations

## Main results

* `explainCode_eq_some_iff`: an explanation is found under its code
-/

namespace Cockpitctl

/-- Explanation of a cockpit finding code. -/
structure CodeExplanation where
  code : String
  title : String
  description : String
  cause : String
  fix : String
deriving DecidableEq

/-- All known cockpit finding codes with explanations. -/
def allCodes : List CodeExplanation :=
  [{ code := cockpitCodes.missingReceipt
     title := "Missing Receipt"
     description := "A sensor declared in cockpit.toml did not produce a receipt file."
     cause := "The sensor either did not run, failed before writing output, or wrote to the " ++
      "wrong path."
     fix := "Ensure the sensor ran and wrote artifacts/<sensor>/report.json. Check the sensor's " ++
      "logs for errors." },
   { code := cockpitCodes.invalidReceipt
     title := "Invalid Receipt"
     description := "A sensor receipt file exists but could not be parsed as valid JSON."
     cause := "The sensor wrote malformed JSON (syntax error, truncated output, or binary data)."
     fix := "Validate the receipt file with `cockpitctl validate --input <path>`. Fix the " ++
      "sensor's output format." },
   { code := cockpitCodes.schemaViolation
     title := "Schema Violation"
     description := "A sensor receipt is valid JSON but does not conform to the " ++
      "sensor.report.v1 schema."
     cause := "The receipt is missing required fields, has wrong types, or includes disallowed " ++
      "properties."
     fix := "Run `cockpitctl validate --input <path> --strict` to see specific violations. " ++
      "Update the sensor to match the schema." },
   { code := cockpitCodes.receiptInconsistent
     title := "Receipt Inconsistent"
     description := "The verdict counts in a receipt do not match the actual findings array."
     cause := "The sensor reported different counts (info/warn/error) than what the findings " ++
      "array contains."
     fix := "Update the sensor to compute verdict counts from the findings array, or fix the " ++
      "findings array." },
   { code := cockpitCodes.sensorsTruncated
     title := "Sensors Truncated"
     description := "More sensor directories were found than the safety limit allows."
     cause := "The artifacts directory contains more sensor directories than max_receipts " ++
      "(default 100)."
     fix := "Review why so many sensors exist. Increase max_receipts if legitimate, or clean up " ++
      "stale sensor directories." },
   { code := cockpitCodes.pathTraversal
     title := "Path Traversal Rejected"
     description := "A sensor ID or artifact path attempted to escape the artifacts root directory."
     cause := "A sensor ID contains `..`, `/`, `\\`, or other unsafe path characters."
     fix := "Ensure sensor IDs contain only alphanumeric characters, hyphens, and underscores." },
   { code := cockpitCodes.receiptOversized
     title := "Receipt Oversized"
     description := "A sensor receipt exceeds the maximum allowed file size."
     cause := "The receipt file is larger than max_receipt_size_bytes (default 2MB)."
     fix := "Reduce the receipt size (fewer findings, smaller payloads) or increase " ++
      "max_receipt_size_bytes in cockpit.toml." }]

/-- Look up an explanation for a cockpit finding code. -/
def explainCode (code : String) : Option CodeExplanation :=
  allCodes.find? fun e => e.code = code

/-- The first explanation of a code is the only one. -/
theorem find?_eq_some_of_distinct {es : List CodeExplanation} {e : CodeExplanation}
    (h : es.Pairwise (·.code ≠ ·.code)) (he : e ∈ es) :
    es.find? (·.code = e.code) = some e := by
  induction es with
  | nil => cases he
  | cons e' es ih =>
    obtain ⟨hne, h⟩ := List.pairwise_cons.mp h
    rcases List.mem_cons.mp he with rfl | he
    · exact List.find?_cons_of_pos (decide_eq_true rfl)
    · rw [List.find?_cons_of_neg (by simpa using hne e he)]
      exact ih h he

/-- No code is explained twice. -/
theorem allCodes_distinct : allCodes.Pairwise (·.code ≠ ·.code) := by
  decide +kernel

/-- **An explanation is found** under its code. -/
theorem explainCode_eq_some_iff {code : String} {e : CodeExplanation} :
    explainCode code = some e ↔ e ∈ allCodes ∧ e.code = code := by
  constructor
  · intro h
    have hfound := List.find?_some h
    exact ⟨List.mem_of_find?_eq_some h, of_decide_eq_true hfound⟩
  · rintro ⟨he, rfl⟩
    exact find?_eq_some_of_distinct allCodes_distinct he

end Cockpitctl
