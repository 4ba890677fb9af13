import Cockpitctl.Ingest.Ports
import Cockpitctl.Types.CockpitReportJson
import Cockpitctl.Types.Evidence

/-!
# Policy snapshot signing

The keyed hash over the serialized policy snapshot, from a hash function and a printer.

## Main definitions

* `hmacSha256`: the keyed hash
* `canonicalPolicySnapshotBytes`: the bytes that are signed
* `signPolicySnapshot`: the signature evidence of a snapshot
-/

namespace Cockpitctl

/-- The block size of the hash function. -/
def hmacBlock : ℕ := 64

/-- Bytes padded with zeros to the block size. -/
def padBlock (bytes : Bytes) : Bytes :=
  bytes ++ List.replicate (hmacBlock - bytes.length) 0

/-- The keyed hash of a message. -/
def hmacSha256 (sha256 : Bytes → Bytes) (key message : Bytes) : Bytes :=
  let keyBlock := padBlock (if hmacBlock < key.length then sha256 key else key)
  let inner := sha256 (keyBlock.map (0x36 ^^^ ·) ++ message)
  sha256 (keyBlock.map (0x5c ^^^ ·) ++ inner)

/-- The bytes of a snapshot that are signed, with the given printer of documents. -/
def canonicalPolicySnapshotBytes (toVec : Json → Result Bytes) (policy : PolicySnapshot) :
    Result Bytes :=
  Result.context
    (match policy.toJson? with
      | some j => toVec j
      | none => .error ["number out of range"])
    "serialize policy snapshot for signing"

/-- Sign a policy snapshot with the keyed hash. -/
def signPolicySnapshotHmacSha256 (sha256 : Bytes → Bytes) (toVec : Json → Result Bytes)
    (policy : PolicySnapshot) (key : Bytes) (keyId : Option String) :
    Result PolicySignatureEvidence := do
  if key.isEmpty then .error ["policy signing key is empty"]
  else
    let payload ← canonicalPolicySnapshotBytes toVec policy
    return {
      schema := policySignatureSchemaId
      algorithm := .hmacSha256
      policySha256 := hexEncode (sha256 payload)
      signature := hexEncode (hmacSha256 sha256 key payload)
      keyId }

/-- Sign a policy snapshot with the configured algorithm. -/
def signPolicySnapshot (sha256 : Bytes → Bytes) (toVec : Json → Result Bytes)
    (policy : PolicySnapshot) (algorithm : PolicySignatureAlgorithm) (key : Bytes)
    (keyId : Option String) : Result PolicySignatureEvidence :=
  match algorithm with
  | .hmacSha256 => signPolicySnapshotHmacSha256 sha256 toVec policy key keyId

end Cockpitctl
