import Mathlib.Data.Prod.Lex
import Cockpitctl.Lib.KeyOrder
import Cockpitctl.Types.CockpitReport

/-!
# Findings

Counting, capping and ordering the findings of a receipt, and the fingerprint derived for a
finding that has none.

## Main definitions

* `computeCounts`, `capFindings`: counts by severity and the cap on surfaced findings
* `deriveFingerprint`: the fingerprint derived for a finding, from a hash function
* `FindingSortKey`, `findingSortKey`, `sortFindings`: the canonical order
-/

namespace Cockpitctl

/-! ## Counts and caps -/

/-- Addition that stays at the largest 64-bit integer. -/
def saturatingAdd (a b : UInt64) : UInt64 := UInt64.ofNat (min (a.toNat + b.toNat) (2 ^ 64 - 1))

/-- Count one more finding of a severity. -/
def VerdictCounts.count (c : VerdictCounts) : Severity → VerdictCounts
  | .info => { c with info := saturatingAdd c.info 1 }
  | .warn => { c with warn := saturatingAdd c.warn 1 }
  | .error => { c with error := saturatingAdd c.error 1 }

/-- The counts of findings by severity. -/
def computeCounts (findings : List Finding) : VerdictCounts :=
  findings.foldl (fun c f => c.count f.severity) {}

/-- The findings up to a cap, and whether some were dropped. -/
def capFindings (findings : List Finding) (max : ℕ) : List Finding × Bool :=
  if findings.length ≤ max then (findings, false) else (findings.take max, true)

/-! ## Fingerprints -/

/-- A hexadecimal digit. -/
def hexDigit (n : ℕ) : Char := "0123456789abcdef".toList.getD n '0'

/-- The lowercase hexadecimal encoding of bytes. -/
def hexEncode (bytes : Bytes) : String :=
  String.ofList (bytes.flatMap fun b => [hexDigit (b.toNat / 16), hexDigit (b.toNat % 16)])

/-- A field of the fingerprinted text, ended by a newline. -/
def fingerprintField (s : String) : Bytes := asBytes s ++ asBytes "\n"

/-- The text that is fingerprinted. -/
def fingerprintInput (sensorId : String) (finding : Finding) : Bytes :=
  fingerprintField sensorId ++ fingerprintField finding.code ++
    fingerprintField finding.message ++
    match finding.location with
    | none => []
    | some loc =>
      (loc.path.elim [] fingerprintField) ++
        loc.line.elim [] fun line => fingerprintField (toString line.toNat)

/-- A stable fingerprint for a finding, derived when absent. -/
def deriveFingerprint (sha256 : Bytes → Bytes) (sensorId : String) (finding : Finding) : String :=
  hexEncode (sha256 (fingerprintInput sensorId finding))

/-! ## The canonical order -/

/-- A stable key used for sorting findings deterministically. -/
structure FindingSortKey where
  severityRank : ℕ
  sensorId : String
  path : String
  line : UInt32
  code : String
  message : String
deriving DecidableEq

/-- The fields of the key in the order they are compared. -/
def FindingSortKey.toTuple (k : FindingSortKey) :
    ℕ ×ₗ String ×ₗ String ×ₗ ℕ ×ₗ String ×ₗ String :=
  toLex (k.severityRank, toLex (k.sensorId, toLex (k.path,
    toLex (k.line.toNat, toLex (k.code, k.message)))))

theorem FindingSortKey.toTuple_injective : Function.Injective FindingSortKey.toTuple := by
  intro a b h
  cases a
  cases b
  -- The tuple determines every field, since `toNat` is injective.
  simpa [FindingSortKey.toTuple, UInt32.toNat_inj] using h

/-- Keys compare field by field. -/
instance : LinearOrder FindingSortKey :=
  LinearOrder.lift' FindingSortKey.toTuple FindingSortKey.toTuple_injective

/-- The largest line number, which stands for an absent line. -/
def u32Max : UInt32 := 4294967295

/-- A deterministic sort key for a finding. -/
def findingSortKey (sensorId : String) (f : Finding) : FindingSortKey where
  severityRank := Cockpitctl.severityRank f.severity
  sensorId := sensorId
  -- A finding without a path sorts first, one without a line last.
  path := (f.location.bind Location.path).getD ""
  line := (f.location.bind Location.line).getD u32Max
  code := f.code
  message := f.message

/-- Findings sorted by severity, then path, line, code and message. -/
def sortFindings (sensorId : String) (findings : List Finding) : List Finding :=
  KeyOrder.sortByKey (findingSortKey sensorId) findings

end Cockpitctl
