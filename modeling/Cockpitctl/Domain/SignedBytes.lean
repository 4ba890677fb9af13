import Mathlib.Data.Set.Function
import Cockpitctl.Domain.Fingerprint
import Cockpitctl.Domain.Signing
import Cockpitctl.Lib.JsonText

/-!
# What a policy signature binds

The signed bytes are the compact text of the policy snapshot. No two snapshots have the same text,
so two snapshots have one digest or one signature only when the hash collides on their texts.

## Main definitions

* `toVec`: the printer of documents
* `policySnapshotSha256Hex`: the digest of a policy snapshot

## Main results

* `canonicalPolicySnapshotBytes_inj`: the signed bytes determine the policy
* `signature_binds_policy`: a policy that is changed has another digest and another signature
-/

namespace Cockpitctl

open Json

/-- The bytes of the compact text of a document. -/
def toVec (float : ℚ → List Char) (j : Json) : Result Bytes :=
  .ok (asBytes (String.ofList (compact float j)))

/-- The digest of the bytes of a snapshot. -/
def policySnapshotSha256Hex (sha256 : Bytes → Bytes) (toVec : Json → Result Bytes)
    (policy : PolicySnapshot) : Result String := do
  let payload ← canonicalPolicySnapshotBytes toVec policy
  return hexEncode (sha256 payload)

/-! ## The signed bytes -/

section Payload

variable {float : ℚ → List Char} {policy policy' : PolicySnapshot} {payload payload' : Bytes}
  {j : Json}

/-- The document of a snapshot has neither floats nor parts that are skipped. -/
theorem PolicySnapshot.plain_toJson? (h : policy.toJson? = some j) : plain j = true := by
  obtain ⟨maxHighlights, hhighlights, h⟩ := Option.bind_eq_some_iff.mp h
  obtain ⟨maxPerSensorFindings, hfindings, h⟩ := Option.bind_eq_some_iff.mp h
  obtain ⟨maxAnnotations, hannotations, h⟩ := Option.bind_eq_some_iff.mp h
  cases h
  have hsensor : ∀ p : PolicySensorSnapshot, plain p.toJson = true := fun p => by
    refine plain_record ?_
    simp
  have horder : plain (stringsToJson policy.sectionOrder) = true :=
    plain_array_map fun _ _ => rfl
  have hsensors : plain (array (policy.sensors.map PolicySensorSnapshot.toJson)) = true :=
    plain_array_map fun p _ => hsensor p
  refine plain_record ?_
  simp [isInteger_of_ofNat? hhighlights, isInteger_of_ofNat? hfindings,
    isInteger_of_ofNat? hannotations, horder, hsensors]

theorem canonicalPolicySnapshotBytes_eq_ok_iff :
    canonicalPolicySnapshotBytes (toVec float) policy = .ok payload ↔
      ∃ j, policy.toJson? = some j ∧ asBytes (String.ofList (compact float j)) = payload := by
  rw [canonicalPolicySnapshotBytes, Result.context_eq_ok]
  cases policy.toJson? <;> simp [toVec]

/-- **The signed bytes determine the policy.** -/
theorem canonicalPolicySnapshotBytes_inj
    (h : canonicalPolicySnapshotBytes (toVec float) policy = .ok payload)
    (h' : canonicalPolicySnapshotBytes (toVec float) policy' = .ok payload) :
    policy = policy' := by
  obtain ⟨j, hj, htext⟩ := canonicalPolicySnapshotBytes_eq_ok_iff.mp h
  obtain ⟨j', hj', htext'⟩ := canonicalPolicySnapshotBytes_eq_ok_iff.mp h'
  have hcompact : compact float j = compact float j' :=
    String.ofList_inj.mp (asBytes_injective (htext.trans htext'.symm))
  obtain rfl := compact_injective (PolicySnapshot.plain_toJson? hj)
    (PolicySnapshot.plain_toJson? hj') hcompact
  -- The document is decoded to the policy it was made of.
  have hdecode := PolicySnapshot.decode_toJson? hj
  rw [PolicySnapshot.decode_toJson? hj'] at hdecode
  exact (Option.some.inj hdecode).symm

theorem canonicalPolicySnapshotBytes_inj_iff
    (h : canonicalPolicySnapshotBytes (toVec float) policy = .ok payload)
    (h' : canonicalPolicySnapshotBytes (toVec float) policy' = .ok payload') :
    payload = payload' ↔ policy = policy' := by
  constructor
  · rintro rfl
    exact canonicalPolicySnapshotBytes_inj h h'
  · rintro rfl
    exact Except.ok.inj (h.symm.trans h')

end Payload

/-! ## Digests and signatures -/

section Signature

variable {sha256 : Bytes → Bytes} {toVec : Json → Result Bytes} {policy : PolicySnapshot}
  {key payload : Bytes} {keyId : Option String} {evidence : PolicySignatureEvidence}

theorem policySnapshotSha256Hex_of_payload
    (h : canonicalPolicySnapshotBytes toVec policy = .ok payload) :
    policySnapshotSha256Hex sha256 toVec policy = .ok (hexEncode (sha256 payload)) := by
  rw [policySnapshotSha256Hex, h]
  rfl

/-- The evidence of a snapshot is made of the hashes of its bytes. -/
theorem evidence_of_payload (h : canonicalPolicySnapshotBytes toVec policy = .ok payload)
    (hsign : signPolicySnapshotHmacSha256 sha256 toVec policy key keyId = .ok evidence) :
    evidence.policySha256 = hexEncode (sha256 payload) ∧
      evidence.signature = hexEncode (hmacSha256 sha256 key payload) := by
  unfold signPolicySnapshotHmacSha256 at hsign
  rw [h] at hsign
  split_ifs at hsign
  cases hsign
  exact ⟨rfl, rfl⟩

/-- Texts that do not collide have different hashes in hexadecimal. -/
theorem hexEncode_ne {hash : Bytes → Bytes} {payload payload' : Bytes}
    (hhash : Set.InjOn hash {payload, payload'}) (hne : payload ≠ payload') :
    hexEncode (hash payload) ≠ hexEncode (hash payload') := by
  rw [hexEncode_injective.ne_iff, hhash.ne_iff (Set.mem_insert payload _)
    (Set.mem_insert_of_mem payload rfl)]
  exact hne

/-- A hash that never collides makes a keyed hash that never collides. -/
theorem hmacSha256_injective (hsha : Function.Injective sha256) (key : Bytes) :
    Function.Injective (hmacSha256 sha256 key) := by
  intro message message' h
  -- Both hashes are of a text behind one pad.
  have hinner := List.append_cancel_left (hsha h)
  exact List.append_cancel_left (hsha hinner)

end Signature

/-- **A signature binds the policy.** Two snapshots have the same signed bytes exactly when they are
equal, and a policy that is changed has another digest and another signature, unless the hash or the
keyed hash collides on the two texts. -/
theorem signature_binds_policy (float : ℚ → List Char) (policy policy' : PolicySnapshot)
    (payload payload' : Bytes)
    (h : canonicalPolicySnapshotBytes (toVec float) policy = .ok payload)
    (h' : canonicalPolicySnapshotBytes (toVec float) policy' = .ok payload') :
    (payload = payload' ↔ policy = policy') ∧
      ∀ sha256 : Bytes → Bytes, policy ≠ policy' →
        (Set.InjOn sha256 {payload, payload'} →
          policySnapshotSha256Hex sha256 (toVec float) policy ≠
            policySnapshotSha256Hex sha256 (toVec float) policy') ∧
        ∀ key keyId keyId' evidence evidence',
          signPolicySnapshotHmacSha256 sha256 (toVec float) policy key keyId = .ok evidence →
          signPolicySnapshotHmacSha256 sha256 (toVec float) policy' key keyId' = .ok evidence' →
          (Set.InjOn sha256 {payload, payload'} →
            evidence.policySha256 ≠ evidence'.policySha256) ∧
          (Set.InjOn (hmacSha256 sha256 key) {payload, payload'} →
            evidence.signature ≠ evidence'.signature) := by
  have hiff := canonicalPolicySnapshotBytes_inj_iff h h'
  -- Different policies have different texts, which the hashes tell apart.
  refine ⟨hiff, fun sha256 hpolicy => ⟨fun hsha => ?_, ?_⟩⟩
  · rw [policySnapshotSha256Hex_of_payload h, policySnapshotSha256Hex_of_payload h', Ne,
      Except.ok.injEq]
    exact hexEncode_ne hsha (hiff.not.mpr hpolicy)
  · intro key keyId keyId' evidence evidence' hsign hsign'
    obtain ⟨hdigest, hsignature⟩ := evidence_of_payload h hsign
    obtain ⟨hdigest', hsignature'⟩ := evidence_of_payload h' hsign'
    rw [hdigest, hdigest', hsignature, hsignature']
    exact ⟨fun hsha => hexEncode_ne hsha (hiff.not.mpr hpolicy),
      fun hhmac => hexEncode_ne hhmac (hiff.not.mpr hpolicy)⟩

/-! ### A label that is required -/

/-- A policy with one sensor, and the label that the sensor requires, if any. -/
def labelPolicy (requireLabel : Option String) : PolicySnapshot where
  warnIsFail := false
  maxHighlights := 5
  maxPerSensorFindings := 20
  maxAnnotations := 10
  sectionOrder := []
  sensors := [{
    id := "lint"
    blocking := true
    missing := .fail
    sectionName := none
    requireLabel
    repro := none }]

/-- The text of a policy that requires no label. -/
def unlabelledText : String :=
  "\x7b\"warn_is_fail\":false,\"max_highlights\":5,\"max_per_sensor_findings\":20," ++
    "\"max_annotations\":10,\"section_order\":[],\"sensors\":[\x7b\"id\":\"lint\"," ++
    "\"blocking\":true,\"missing\":\"fail\"\x7d]\x7d"

/-- The text of a policy that requires a label. -/
def labelledText : String :=
  "\x7b\"warn_is_fail\":false,\"max_highlights\":5,\"max_per_sensor_findings\":20," ++
    "\"max_annotations\":10,\"section_order\":[],\"sensors\":[\x7b\"id\":\"lint\"," ++
    "\"blocking\":true,\"missing\":\"fail\",\"require_label\":\"ci\"\x7d]\x7d"

/-- A text in three parts. -/
theorem ofList_of_parts {l l₁ l₂ l₃ : List Char} (h : l = l₁ ++ l₂ ++ l₃) :
    String.ofList l = String.ofList l₁ ++ String.ofList l₂ ++ String.ofList l₃ := by
  rw [h, String.ofList_append, String.ofList_append]

set_option maxRecDepth 8000 in
theorem canonicalPolicySnapshotBytes_unlabelled :
    canonicalPolicySnapshotBytes (toVec fun _ => []) (labelPolicy none) =
      .ok (asBytes unlabelledText) :=
  canonicalPolicySnapshotBytes_eq_ok_iff.mpr ⟨_, rfl, congrArg asBytes (ofList_of_parts rfl)⟩

set_option maxRecDepth 8000 in
theorem canonicalPolicySnapshotBytes_labelled :
    canonicalPolicySnapshotBytes (toVec fun _ => []) (labelPolicy (some "ci")) =
      .ok (asBytes labelledText) :=
  canonicalPolicySnapshotBytes_eq_ok_iff.mpr ⟨_, rfl, congrArg asBytes (ofList_of_parts rfl)⟩

/-- A text behind the key `secret`, padded and combined with a pad. -/
def behindSecret (pad : UInt8) (text : Bytes) : Bytes :=
  (padBlock (asBytes "secret")).map (pad ^^^ ·) ++ text

/-- The digests of both texts, and of what is hashed for their signatures. -/
def policyDigests : List (Bytes × Bytes) :=
  let inner := [205, 126, 185, 125, 103, 174, 155, 26, 212, 208, 8, 168, 55, 172, 162, 241, 205, 18,
    247, 155, 145, 85, 10, 242, 172, 122, 99, 74, 156, 248, 93, 15]
  let inner' := [199, 127, 52, 214, 0, 201, 227, 218, 214, 203, 125, 225, 134, 42, 38, 52, 36, 57,
    64, 65, 170, 138, 102, 83, 136, 114, 181, 186, 46, 248, 37, 215]
  [(asBytes unlabelledText, [205, 241, 212, 158, 231, 96, 223, 15, 52, 66, 242, 228, 10, 3, 168,
      137, 195, 9, 185, 202, 181, 210, 231, 82, 150, 170, 55, 82, 236, 197, 155, 121]),
    (behindSecret 0x36 (asBytes unlabelledText), inner),
    (behindSecret 0x5c inner, [224, 94, 136, 250, 239, 49, 137, 136, 4, 238, 131, 46, 101, 93, 146,
      146, 100, 142, 106, 106, 228, 192, 101, 172, 199, 17, 196, 166, 103, 65, 211, 198]),
    (asBytes labelledText, [96, 80, 254, 230, 248, 92, 232, 254, 9, 197, 172, 134, 36, 201, 32,
      172, 117, 81, 64, 123, 69, 241, 179, 59, 250, 132, 59, 74, 82, 185, 189, 56]),
    (behindSecret 0x36 (asBytes labelledText), inner'),
    (behindSecret 0x5c inner', [232, 240, 14, 252, 120, 39, 56, 203, 37, 153, 224, 117, 22, 148,
      104, 231, 137, 226, 191, 72, 239, 246, 179, 143, 157, 95, 39, 205, 242, 236, 93, 40])]

theorem hashKnowing_policyDigests_injective : Function.Injective (hashKnowing policyDigests) := by
  refine hashKnowing_injective ?_ ?_
  · simp only [policyDigests, List.forall_mem_cons]
    exact ⟨rfl, rfl, rfl, rfl, rfl, rfl, fun _ h => absurd h List.not_mem_nil⟩
  · show List.Nodup [_, _, _, _, _, _]
    decide

theorem signature_binds_label : ∃ evidence evidence',
    signPolicySnapshotHmacSha256 (hashKnowing policyDigests) (toVec fun _ => [])
      (labelPolicy none) (asBytes "secret") none = .ok evidence ∧
    signPolicySnapshotHmacSha256 (hashKnowing policyDigests) (toVec fun _ => [])
      (labelPolicy (some "ci")) (asBytes "secret") none = .ok evidence' ∧
    evidence.policySha256 ≠ evidence'.policySha256 ∧ evidence.signature ≠ evidence'.signature := by
  have hpolicy : labelPolicy none ≠ labelPolicy (some "ci") := by decide
  have hsha := hashKnowing_policyDigests_injective
  have hsign : ∀ {policy payload}, canonicalPolicySnapshotBytes (toVec fun _ => []) policy =
      .ok payload → ∃ evidence, signPolicySnapshotHmacSha256 (hashKnowing policyDigests)
        (toVec fun _ => []) policy (asBytes "secret") none = .ok evidence := fun h => by
    rw [signPolicySnapshotHmacSha256, h, if_neg (by decide)]
    exact ⟨_, rfl⟩
  obtain ⟨evidence, hevidence⟩ := hsign canonicalPolicySnapshotBytes_unlabelled
  obtain ⟨evidence', hevidence'⟩ := hsign canonicalPolicySnapshotBytes_labelled
  obtain ⟨hdigest, hsignature⟩ := ((@signature_binds_policy (fun _ => []) (labelPolicy none)
    (labelPolicy (some "ci")) (asBytes unlabelledText) (asBytes labelledText)
    canonicalPolicySnapshotBytes_unlabelled canonicalPolicySnapshotBytes_labelled).2
    (hashKnowing policyDigests) hpolicy).2 (asBytes "secret") none none evidence evidence'
    hevidence hevidence'
  exact ⟨evidence, evidence', hevidence, hevidence', hdigest hsha.injOn,
    hsignature (hmacSha256_injective hsha _).injOn⟩

end Cockpitctl
