import Cockpitctl.Cli.Stored
import Cockpitctl.Domain.SignedBytes
import Cockpitctl.Lib.ValueCodec

/-!
# The evidence in the report file

What a run finds out about fixes and signs of its policy is stored as data of its report, and the
sections of the comment are rendered from what is decoded of this data again. Whoever reads the
report file decodes the summary of the plans, the apply evidence and the signature that the run has
computed, and can check the signature with the key.

## Main definitions

* `StoredEvidence`: what is decoded of a report is what a run has computed
* `SignatureVerifies`: signing the policy of a report again gives the signature in its data

## Main results

* `BuildfixSummary.decode_toValue?`, `BuildfixApplySummary.decode_toValue?`,
  `PolicySignatureEvidence.decode_toValue?`: evidence is read back from its value
* `storedEvidence_of_runIngest`: the evidence in the report file
* `signatureVerifies_of_runIngest`: the signature in the report file binds its policy
-/

namespace Cockpitctl

open Codec Effect

/-! ## Evidence as values -/

theorem SafetyLevel.normal_codec : SafetyLevel.codec.Normal := normal_variant _

theorem MatchedFinding.normal_codec : MatchedFinding.codec.Normal := by
  apply Normal.struct
  apply Record.Normal.optional ?_ normal_string
  apply Record.Normal.required ?_ normal_string
  apply Record.Normal.required ?_ normal_string
  exact Record.normal_pure _

theorem FixSummary.normal_codec : FixSummary.codec.Normal := by
  apply Normal.struct
  apply Record.Normal.required ?_ normal_bool
  apply Record.Normal.required ?_ MatchedFinding.normal_codec.vec
  apply Record.Normal.required ?_ normal_string
  apply Record.Normal.required ?_ SafetyLevel.normal_codec
  apply Record.Normal.required ?_ normal_string
  apply Record.Normal.required ?_ normal_string
  exact Record.normal_pure _

theorem BuildfixSummary.normal_codec : BuildfixSummary.codec.Normal := by
  apply Normal.struct
  apply Record.Normal.required ?_ normal_usize
  apply Record.Normal.required ?_ normal_usize
  apply Record.Normal.required ?_ normal_usize
  apply Record.Normal.required ?_ FixSummary.normal_codec.vec
  exact Record.normal_pure _

theorem BuildfixApplySummary.normal_codec : BuildfixApplySummary.codec.Normal := by
  apply Normal.struct
  apply Record.Normal.optional ?_ normal_string
  apply Record.Normal.optional ?_ normal_string
  apply Record.Normal.withDefault ?_ normal_string.vec
  apply Record.Normal.withDefault ?_ normal_string.vec
  apply Record.Normal.withDefault ?_ normal_string.vec
  apply Record.Normal.withDefault ?_ normal_string.vec
  apply Record.Normal.withDefault ?_ normal_string.vec
  apply Record.Normal.required ?_ normal_bool
  apply Record.Normal.required ?_ SafetyLevel.normal_codec
  apply Record.Normal.required ?_ normal_bool
  apply Record.Normal.required ?_ (normal_variant _)
  exact Record.normal_pure _

theorem PolicySignatureEvidence.normal_codec : PolicySignatureEvidence.codec.Normal := by
  apply Normal.struct
  apply Record.Normal.optional ?_ normal_string
  apply Record.Normal.required ?_ normal_string
  apply Record.Normal.required ?_ normal_string
  apply Record.Normal.required ?_ (normal_variant _)
  apply Record.Normal.required ?_ normal_string
  exact Record.normal_pure _

/-- The fields of a matched finding, in the order of their names. -/
theorem MatchedFinding.toJson_eq (m : MatchedFinding) : m.toJson = .record
    [("code", some (.string m.code)), ("fingerprint", m.fingerprint.map .string),
      ("sensor_id", some (.string m.sensorId))] := by
  unfold MatchedFinding.toJson
  cases m.fingerprint <;> rfl

theorem MatchedFinding.decode_toJson (m : MatchedFinding) :
    MatchedFinding.codec.decode m.toJson = some m := by
  rw [m.toJson_eq]
  obtain ⟨sensorId, code, fingerprint⟩ := m
  apply (decode_record (by simp)).trans
  refine Record.build_optional decode_string nofun ?_ rfl
  refine Record.build_required (decode_string _) ?_ rfl
  refine Record.build_required (decode_string _) ?_ rfl
  rfl

theorem FixSummary.toJson_eq (f : FixSummary) : f.toJson = .record
    [("description", some (.string f.description)), ("fix_id", some (.string f.fixId)),
      ("matched_findings", some (.array (f.matchedFindings.map MatchedFinding.toJson))),
      ("safety", some (.string f.safety.name)), ("sensor_id", some (.string f.sensorId)),
      ("unmatched", some (.bool f.unmatched))] := rfl

theorem FixSummary.decode_toJson (f : FixSummary) :
    FixSummary.codec.decode f.toJson = some f := by
  have hmatched := decode_vec_map (l := f.matchedFindings) (f := id) fun m _ =>
    MatchedFinding.decode_toJson m
  rw [List.map_id] at hmatched
  rw [f.toJson_eq]
  obtain ⟨fixId, sensorId, safety, description, matchedFindings, unmatched⟩ := f
  apply (decode_record (by simp)).trans
  refine Record.build_required (decode_bool _) ?_ rfl
  refine Record.build_required hmatched ?_ rfl
  refine Record.build_required (decode_string _) ?_ rfl
  refine Record.build_required (SafetyLevel.decode_name _) ?_ rfl
  refine Record.build_required (decode_string _) ?_ rfl
  refine Record.build_required (decode_string _) ?_ rfl
  rfl

theorem BuildfixSummary.decode_toJson? {s : BuildfixSummary} {j : Json} (h : s.toJson? = some j) :
    BuildfixSummary.codec.decode j = some s ∧ j.Clean := by
  obtain ⟨fixes, totalFixes, matchedCount, unmatchedCount⟩ := s
  obtain ⟨matched, hmatched, h⟩ := Option.bind_eq_some_iff.mp h
  obtain ⟨total, htotal, h⟩ := Option.bind_eq_some_iff.mp h
  obtain ⟨unmatched, hunmatched, h⟩ := Option.bind_eq_some_iff.mp h
  cases h
  have hfixes := decode_vec_map (l := fixes) (f := id) fun f _ => FixSummary.decode_toJson f
  rw [List.map_id] at hfixes
  have hfield : ∀ m : MatchedFinding, m.toJson.Clean := by
    intro m
    rw [m.toJson_eq]
    refine Json.clean_record (by simp) ?_
    simp
  have hfix : ∀ f : FixSummary, f.toJson.Clean := by
    intro f
    rw [f.toJson_eq]
    refine Json.clean_record (by simp) ?_
    simp [Json.clean_array_map, hfield]
  constructor
  · apply (@decode_record _ _ [("fixes", some _), ("matched_count", some _),
      ("total_fixes", some _), ("unmatched_count", some _)] (by simp)).trans
    refine Record.build_required (decode_ofNat? hunmatched) ?_ rfl
    refine Record.build_required (decode_ofNat? hmatched) ?_ rfl
    refine Record.build_required (decode_ofNat? htotal) ?_ rfl
    refine Record.build_required hfixes ?_ rfl
    rfl
  · refine @Json.clean_record [("fixes", some _), ("matched_count", some _),
      ("total_fixes", some _), ("unmatched_count", some _)] (by simp) ?_
    simp [Json.clean_array_map, hfix]

/-- **The summary of the plans** is read back from its value. -/
theorem BuildfixSummary.decode_toValue? {s : BuildfixSummary} {v : Value}
    (h : s.toValue? = some v) : BuildfixSummary.codec.decode v.json = some s := by
  obtain ⟨j, hj, hvalue⟩ := Option.bind_eq_some_iff.mp h
  obtain ⟨hdecode, hclean⟩ := BuildfixSummary.decode_toJson? hj
  exact BuildfixSummary.normal_codec.decode_toValue? hclean.distinct hvalue hdecode

/-- **Apply evidence** is read back from its value. -/
theorem BuildfixApplySummary.decode_toValue? {s : BuildfixApplySummary} {v : Value}
    (h : s.toJson.toValue? = some v) : BuildfixApplySummary.codec.decode v.json = some s := by
  have hstrings : ∀ l j, nonemptyStrings l = some j → j.Clean := by
    intro l j hj
    unfold nonemptyStrings at hj
    split_ifs at hj
    obtain rfl := Option.some.inj hj
    exact Json.clean_array_map fun s _ => Json.clean_string s
  have hclean : s.toJson.Clean := by
    refine Json.clean_record (by simp) ?_
    simpa using ⟨hstrings _, hstrings _, hstrings _, hstrings _, hstrings _⟩
  exact BuildfixApplySummary.normal_codec.decode_toValue? hclean.distinct h s.decode_toJson

/-- **Signature evidence** is read back from its value. -/
theorem PolicySignatureEvidence.decode_toValue? {e : PolicySignatureEvidence} {v : Value}
    (h : e.toJson.toValue? = some v) : PolicySignatureEvidence.codec.decode v.json = some e := by
  have hclean : e.toJson.Clean := by
    refine Json.clean_record (by simp) ?_
    simp
  exact PolicySignatureEvidence.normal_codec.decode_toValue? hclean.distinct h e.decode_toJson

/-! ## Evidence in reports -/

section Extract

variable {α : Type} {c : Codec α} {report : CockpitReport} {key key' : String} {v : Value}
  {keys : List String}

theorem extract_insertData (h : report.HasObject) :
    extractEvidence c key (report.insertData key v) = c.decode v.json := by
  show (((report.data.getD Value.emptyObject).insertMember key v).get? key).bind c.decode = _
  rw [Value.get?_insertMember (isObject_getD h), if_pos rfl, Option.bind_some]

theorem extract_insertData_of_ne (h : report.HasObject) (hne : key ≠ key') :
    extractEvidence c key (report.insertData key' v) = extractEvidence c key report := by
  show (((report.data.getD Value.emptyObject).insertMember key' v).get? key).bind c.decode = _
  rw [Value.get?_insertMember (isObject_getD h), if_neg hne]
  unfold extractEvidence
  cases report.data <;> rfl

theorem extract_removeData_of_mem (h : key ∈ keys) :
    extractEvidence c key (report.removeData keys) = none := by
  unfold extractEvidence CockpitReport.removeData
  cases report.data with
  | none => rfl
  | some v => rw [Option.map_some, Option.bind_some, get?_foldl_removeMember, if_pos h]; rfl

theorem extract_removeData_of_notMem (h : key ∉ keys) :
    extractEvidence c key (report.removeData keys) = extractEvidence c key report := by
  unfold extractEvidence CockpitReport.removeData
  cases report.data with
  | none => rfl
  | some v => rw [Option.map_some, Option.bind_some, get?_foldl_removeMember, if_neg h]; rfl

end Extract

/-! ## The command up to its evidence -/

/-- The command up to the buildfix stage. -/
def untilBuildfix (env : CliEnv) (opts : IngestOptions) :
    Command (CockpitConfig × BuildfixPolicy × IngestResult) := do
  let w ← .get
  let cfg ← .lift (loadPreConfig env opts w.files)
  let buildfix ← .lift (effectiveBuildfix cfg.buildfix opts)
  let result ← ingestStage env opts cfg
  reportStages env opts cfg result.report
  return (cfg, buildfix, result)

/-- The command up to the signing stage. -/
def untilSigning (env : CliEnv) (opts : IngestOptions) :
    Command (CockpitConfig × IngestResult) := do
  let (cfg, buildfix, result) ← untilBuildfix env opts
  let result ← buildfixStage env opts cfg buildfix result
  return (cfg, result)

/-- What is decoded of a report is what the stages of a run have computed: the summary of the plans
that were found, the outcome of the auto-apply, and the signature of the policy under the key that
the signing stage has loaded. -/
structure StoredEvidence (env : CliEnv) (opts : IngestOptions) (buildfix : BuildfixPolicy)
    (signing : PolicySigningConfig) (found : Option BuildfixSummary) (w : World)
    (report : CockpitReport) : Prop where
  plans : extractBuildfixSummary report = if (featureState opts).buildfix then found else none
  applied : (featureState opts).buildfix = true →
    (found.isSome || buildfixApplyRequested buildfix opts) = true →
    ∃ summary w', runAutoApply env buildfix found (untilBuildfix env opts w).2 =
        (.ok summary, w') ∧
      extractBuildfixApplySummary report = some summary
  notApplied : (featureState opts).buildfix = false ∨
    (found.isSome || buildfixApplyRequested buildfix opts) = false →
      extractBuildfixApplySummary report = none
  signed : signing.enabled = true → (featureState opts).policySigning = true →
    ∃ key e, (loadPolicySigningKey env.environment signing (untilSigning env opts w).2.files).1 =
        .ok (some key) ∧
      signPolicySnapshot env.lib.sha256 env.toVec report.policy signing.algorithm key
        signing.keyId = .ok e ∧
      extractPolicySignature report = some e
  unsigned : signing.enabled = false ∨ (featureState opts).policySigning = false →
    extractPolicySignature report = none

section Stages

variable {env : CliEnv} {opts : IngestOptions} {cfg : CockpitConfig} {w w' : World}
  {result result' : IngestResult} {buildfix : BuildfixPolicy} {signing : PolicySigningConfig}
  {discovery : DiscoveredSensors} {fs : FileSystem}

theorem EvidenceStep.buildfix_eq {slot : EvidenceSlot}
    (h : EvidenceStep env opts cfg slot result w result' w') :
    result'.buildfix = result.buildfix := by
  cases h with
  | store hstore =>
    obtain ⟨v, -, -, -, -, -, rfl, -⟩ := storeEvidence_eq_ok hstore
    rfl
  | drop hdrop =>
    obtain ⟨-, -, rfl, -⟩ := dropEvidence_eq_ok hdrop
    rfl
  | skip => rfl

/-- The evidence of an ingested report is the summary of the plans. -/
theorem Ingests.extracts (h : Ingests env opts fs cfg discovery result) :
    result.report.HasObject ∧
      ((∀ s ∈ result.buildfix, s.totalFixes < 2 ^ 64) →
        extractBuildfixSummary result.report = result.buildfix) ∧
      extractBuildfixApplySummary result.report = none ∧
      extractPolicySignature result.report = none := by
  obtain ⟨hobject, hnone⟩ := h.evidence_eq_none
  have happly : extractBuildfixApplySummary result.report = none := by
    show (result.report.evidence .buildfix).bind BuildfixApplySummary.codec.decode = none
    rw [hnone, Option.bind_none]
  have hsignature : extractPolicySignature result.report = none := by
    show (result.report.evidence .signature).bind PolicySignatureEvidence.codec.decode = none
    rw [hnone, Option.bind_none]
  refine ⟨hobject, fun hfits => ?_, happly, hsignature⟩
  obtain ⟨outs, fixes, hassembled, hbuildfix⟩ := h.assembled
  rw [hassembled.assembled]
  rw [hbuildfix] at hfits ⊢
  unfold summarizeFixes at hfits ⊢
  split_ifs at hfits ⊢ with hempty
  · rfl
  · obtain ⟨v, hv⟩ : ∃ v, (BuildfixSummary.ofFixes fixes).toValue? = some v := by
      have htotal : fixes.length < 2 ^ 64 := hfits _ rfl
      have hunmatched : (fixes.filter FixSummary.unmatched).length < 2 ^ 64 :=
        lt_of_le_of_lt (List.length_filter_le _ _) htotal
      have hmatched : fixes.length - (fixes.filter FixSummary.unmatched).length < 2 ^ 64 :=
        lt_of_le_of_lt (Nat.sub_le _ _) htotal
      obtain ⟨j, hj⟩ : ∃ j, (BuildfixSummary.ofFixes fixes).toJson? = some j := by
        exact ⟨_, Option.bind_eq_some_iff.mpr ⟨_, dif_pos hmatched,
          Option.bind_eq_some_iff.mpr ⟨_, dif_pos htotal,
            Option.bind_eq_some_iff.mpr ⟨_, dif_pos hunmatched, rfl⟩⟩⟩⟩
      have hclean := (BuildfixSummary.decode_toJson? hj).2
      refine ⟨⟨j.normalize, Json.isValue_normalize j hclean.readable⟩, ?_⟩
      rw [BuildfixSummary.toValue?, hj]
      exact dif_pos hclean.readable
    have hattached : ∀ report : CockpitReport, attachBuildfix report
        (some (BuildfixSummary.ofFixes fixes)) = report.insertData "_buildfix" v := by
      intro report
      unfold attachBuildfix
      rw [Option.bind_some, hv]
      rfl
    rw [hattached]
    exact (extract_insertData (hasObject_of_data_eq_none rfl)).trans
      (BuildfixSummary.decode_toValue? hv)

/-- The buildfix stage stores its evidence, or drops it together with the summary of the plans. -/
theorem extracts_of_buildfixStage (hobject : result.report.HasObject)
    (hplans : result.buildfix = none → extractBuildfixSummary result.report = none)
    (hnone : extractBuildfixApplySummary result.report = none)
    (h : buildfixStage env opts cfg buildfix result w = (.ok result', w')) :
    result'.report.HasObject ∧
      extractPolicySignature result'.report = extractPolicySignature result.report ∧
      extractBuildfixSummary result'.report =
        (if (featureState opts).buildfix then extractBuildfixSummary result.report else none) ∧
      ((featureState opts).buildfix = true →
        (result.buildfix.isSome || buildfixApplyRequested buildfix opts) = true →
        ∃ summary w', runAutoApply env buildfix result.buildfix w = (.ok summary, w') ∧
          extractBuildfixApplySummary result'.report = some summary) ∧
      ((featureState opts).buildfix = false ∨
        (result.buildfix.isSome || buildfixApplyRequested buildfix opts) = false →
          extractBuildfixApplySummary result'.report = none) := by
  rcases buildfixStage_cases h with ⟨henabled, hconcerned, summary, w₁, hauto, hstore⟩ |
    ⟨hdisabled, hconcerned, hdrop⟩ | ⟨hunconcerned, rfl, rfl⟩
  · obtain ⟨v, -, -, hv, -, -, rfl, -⟩ := storeEvidence_eq_ok hstore
    have hsummary : extractBuildfixApplySummary (result.report.insertData buildfixSlot.key v) =
        some summary :=
      (extract_insertData hobject).trans (BuildfixApplySummary.decode_toValue? hv)
    rw [henabled, hconcerned, if_pos rfl]
    refine ⟨hasObject_insertData hobject _,
      extract_insertData_of_ne hobject (by decide),
      extract_insertData_of_ne hobject (by decide), fun _ _ => ⟨_, _, hauto, hsummary⟩, fun h => ?_⟩
    rcases h with h | h <;> exact absurd h Bool.noConfusion
  · obtain ⟨-, -, rfl, -⟩ := dropEvidence_eq_ok hdrop
    rw [hdisabled]
    exact ⟨hasObject_removeData hobject, extract_removeData_of_notMem (by decide),
      extract_removeData_of_mem (by decide), fun h => absurd h Bool.false_ne_true,
      fun _ => extract_removeData_of_mem (by decide)⟩
  · rw [hunconcerned]
    refine ⟨hobject, rfl, ?_, fun _ h => absurd h Bool.false_ne_true, fun _ => hnone⟩
    -- Without plans there is no summary.
    rw [Bool.or_eq_false_iff, Option.isSome_eq_false_iff, Option.isNone_iff_eq_none] at hunconcerned
    rw [hplans hunconcerned.1, ite_self]

/-- The signing stage stores its evidence, or drops it. -/
theorem extracts_of_signingStage (hobject : result.report.HasObject)
    (hnone : extractPolicySignature result.report = none)
    (h : signingStage env opts cfg signing result w = (.ok result', w')) :
    extractBuildfixSummary result'.report = extractBuildfixSummary result.report ∧
      extractBuildfixApplySummary result'.report = extractBuildfixApplySummary result.report ∧
      (signing.enabled = true → (featureState opts).policySigning = true →
        ∃ key e, (loadPolicySigningKey env.environment signing w.files).1 = .ok (some key) ∧
          signPolicySnapshot env.lib.sha256 env.toVec result'.report.policy signing.algorithm key
            signing.keyId = .ok e ∧ extractPolicySignature result'.report = some e) ∧
      (signing.enabled = false ∨ (featureState opts).policySigning = false →
        extractPolicySignature result'.report = none) := by
  rcases signingStage_cases h with ⟨hrequested, henabled, key, e, hload, hsign, hstore⟩ |
    ⟨hrequested, hdisabled, hdrop⟩ | ⟨hrequested, rfl, rfl⟩
  · obtain ⟨v, -, -, hv, -, -, rfl, -⟩ := storeEvidence_eq_ok hstore
    have hsignature : extractPolicySignature (result.report.insertData signingSlot.key v) =
        some e := (extract_insertData hobject).trans (PolicySignatureEvidence.decode_toValue? hv)
    rw [hrequested, henabled]
    refine ⟨extract_insertData_of_ne hobject (by decide),
      extract_insertData_of_ne hobject (by decide),
      fun _ _ => ⟨key, e, congrArg Prod.fst hload, hsign, hsignature⟩, fun h => ?_⟩
    rcases h with h | h <;> exact absurd h Bool.noConfusion
  · obtain ⟨-, -, rfl, -⟩ := dropEvidence_eq_ok hdrop
    rw [hdisabled]
    exact ⟨extract_removeData_of_notMem (by decide), extract_removeData_of_notMem (by decide),
      fun _ h => absurd h Bool.false_ne_true, fun _ => extract_removeData_of_mem (by decide)⟩
  · rw [hrequested]
    exact ⟨rfl, rfl, fun h => absurd h Bool.false_ne_true, fun _ => hnone⟩

end Stages

/-! ## Evidence in the report file -/

section Runs

variable {env : CliEnv} {opts : IngestOptions} {w w' : World} {result : IngestResult}

/-- **A successful run** reaches its buildfix stage and its signing stage. -/
theorem runIngest_eq_ok_until (h : runIngest env opts w = (.ok result, w')) :
    ∃ cfg buildfix discovery ingested w₂ buildfixed w₃ w₄,
      Ingests env opts w.files cfg discovery ingested ∧
      effectiveBuildfix cfg.buildfix opts = .ok buildfix ∧
      untilBuildfix env opts w = (.ok (cfg, buildfix, ingested), w₂) ∧
      buildfixStage env opts cfg buildfix ingested w₂ = (.ok buildfixed, w₃) ∧
      untilSigning env opts w = (.ok (cfg, buildfixed), w₃) ∧
      signingStage env opts cfg (effectivePolicySigning cfg.policySigning opts) buildfixed w₃ =
        (.ok result, w₄) := by
  unfold runIngest at h
  obtain ⟨w₀, s₀, hget, h⟩ := bind_eq_ok_iff.mp h
  obtain ⟨cfg, s₁, hlift, h⟩ := bind_eq_ok_iff.mp h
  obtain ⟨buildfix, s₂, hlift', h⟩ := bind_eq_ok_iff.mp h
  obtain ⟨ingested, s₃, hingest, h⟩ := bind_eq_ok_iff.mp h
  obtain ⟨u, w₂, hreport, h⟩ := bind_eq_ok_iff.mp h
  obtain ⟨buildfixed, w₃, hbuildfix, h⟩ := bind_eq_ok_iff.mp h
  obtain ⟨signed, w₄, hsigning, hhooks⟩ := bind_eq_ok_iff.mp h
  obtain rfl := hooksStage_eq_ok hhooks
  have huntil : untilBuildfix env opts w = (.ok (cfg, buildfix, ingested), w₂) := by
    unfold untilBuildfix
    rw [bind_of_ok hget, bind_of_ok hlift, bind_of_ok hlift', bind_of_ok hingest,
      bind_of_ok hreport]
    rfl
  have huntil' : untilSigning env opts w = (.ok (cfg, buildfixed), w₃) :=
    (bind_of_ok huntil).trans ((bind_of_ok hbuildfix).trans rfl)
  obtain ⟨rfl, rfl⟩ := get_eq_ok_iff.mp hget
  obtain ⟨hcfg, rfl⟩ := lift_eq_ok_iff.mp hlift
  obtain ⟨heffective, rfl⟩ := lift_eq_ok_iff.mp hlift'
  obtain ⟨discovery, fs₁, hingests, -, -⟩ := ingests_of_ingestStage hcfg hingest
  exact ⟨cfg, buildfix, discovery, ingested, w₂, buildfixed, w₃, w₄, hingests, heffective, huntil,
    hbuildfix, huntil', hsigning⟩

/-- The report of a run that signs carries the signature. -/
theorem signed_of_runIngest (hrun : runIngest env opts w = (.ok result, w')) :
    ∃ cfg, loadPreConfig env opts w.files = .ok cfg ∧
      ((effectivePolicySigning cfg.policySigning opts).enabled = true →
        (featureState opts).policySigning = true →
        ∃ key e, (loadPolicySigningKey env.environment
            (effectivePolicySigning cfg.policySigning opts) (untilSigning env opts w).2.files).1 =
            .ok (some key) ∧
          signPolicySnapshot env.lib.sha256 env.toVec result.report.policy
            (effectivePolicySigning cfg.policySigning opts).algorithm key
            (effectivePolicySigning cfg.policySigning opts).keyId = .ok e ∧
          extractPolicySignature result.report = some e) := by
  obtain ⟨cfg, buildfix, discovery, ingested, w₂, buildfixed, w₃, w₄, hingests, -, -, hbuildfix,
    huntil', hsigning⟩ := runIngest_eq_ok_until hrun
  obtain ⟨hobject, hplans, hnotApplied, hunsigned⟩ := hingests.extracts
  obtain ⟨hobject', hsignature, -⟩ := extracts_of_buildfixStage hobject
    (fun h => (hplans (by rw [h]; nofun)).trans h) hnotApplied hbuildfix
  obtain ⟨-, -, hsigned, -⟩ :=
    extracts_of_signingStage hobject' (hsignature.trans hunsigned) hsigning
  refine ⟨cfg, hingests.config, ?_⟩
  rwa [huntil']

/-- The report of a run carries what the stages have computed. -/
theorem storedEvidence_of_stages (hrun : runIngest env opts w = (.ok result, w'))
    (hfits : ∀ s ∈ result.buildfix, s.totalFixes < 2 ^ 64) :
    ∃ cfg buildfix, loadPreConfig env opts w.files = .ok cfg ∧
      effectiveBuildfix cfg.buildfix opts = .ok buildfix ∧
      StoredEvidence env opts buildfix (effectivePolicySigning cfg.policySigning opts)
        result.buildfix w result.report := by
  obtain ⟨cfg, buildfix, discovery, ingested, w₂, buildfixed, w₃, w₄, hingests, heffective, huntil,
    hbuildfix, huntil', hsigning⟩ := runIngest_eq_ok_until hrun
  have hsame : result.buildfix = ingested.buildfix :=
    (evidenceStep_of_signingStage hsigning).buildfix_eq.trans
      (evidenceStep_of_buildfixStage hbuildfix).buildfix_eq
  rw [hsame] at hfits ⊢
  obtain ⟨hobject, hplans, hnotApplied, hunsigned⟩ := hingests.extracts
  have hnone : ingested.buildfix = none → extractBuildfixSummary ingested.report = none :=
    fun h => (hplans hfits).trans h
  obtain ⟨hobject', hsignature, hplans', happlied, hnotApplied'⟩ :=
    extracts_of_buildfixStage hobject hnone hnotApplied hbuildfix
  obtain ⟨hplans'', happly, hsigned, hunsigned'⟩ :=
    extracts_of_signingStage hobject' (hsignature.trans hunsigned) hsigning
  rw [hplans hfits] at hplans'
  refine ⟨cfg, buildfix, hingests.config, heffective, hplans''.trans hplans', ?_, ?_, ?_,
    hunsigned'⟩
  · rwa [happly, huntil]
  · rwa [happly]
  · rwa [huntil']

/-- **The evidence in the report file** is what the run has computed. -/
theorem storedEvidence_of_runIngest (hapart : OutputsApart opts.artifacts env.volume)
    (hrun : runIngest env opts w = (.ok result, w'))
    (hreads : env.lib.ReadsExactly result.report)
    (hspare : ∀ cfg, loadPreConfig env opts w.files = .ok cfg → HooksSpareReport env opts cfg)
    (hfits : ∀ s ∈ result.buildfix, s.totalFixes < 2 ^ 64) :
    ∃ cfg buildfix bytes stored, loadPreConfig env opts w.files = .ok cfg ∧
      effectiveBuildfix cfg.buildfix opts = .ok buildfix ∧
      w'.files.read (outputFile opts.artifacts "report.json") = .ok bytes ∧
      readReport env.lib bytes = some stored ∧
      StoredEvidence env opts buildfix (effectivePolicySigning cfg.policySigning opts)
        result.buildfix w stored := by
  obtain ⟨cfg, buildfix, hcfg, heffective, hevidence⟩ := storedEvidence_of_stages hrun hfits
  obtain ⟨bytes, hfile, hstored⟩ := readReport_of_runIngest hapart hrun hreads hspare
  exact ⟨cfg, buildfix, bytes, result.report, hcfg, heffective, hfile, hstored, hevidence⟩

/-- The command over one receipt, whose documents are printed as they are signed. -/
def signedEnv : CliEnv :=
  { receiptEnv receiptDocument with toVec := toVec fun _ => [] }

theorem signedEnv_outputsApart : OutputsApart IngestRun.signedOptions.artifacts signedEnv.volume :=
  outputsApart_stub

/-- A run that signs the policy of a receipt has its report read back. -/
theorem signedEnv_run : ∃ result w', runIngest signedEnv IngestRun.signedOptions
      { files := receiptTree } = (.ok result, w') ∧
    result.report.toJson? = some receiptDocument ∧ result.buildfix = none := by
  obtain ⟨result, w', hrun, hcheck⟩ := @exists_run_of_check signedEnv IngestRun.signedOptions
    { files := receiptTree }
    (fun result => decide (result.report.toJson? = some receiptDocument) && result.buildfix.isNone)
    (by decide +kernel)
  obtain ⟨hdocument, hplans⟩ := Bool.and_eq_true_iff.mp hcheck
  exact ⟨result, w', hrun, of_decide_eq_true hdocument, Option.isNone_iff_eq_none.mp hplans⟩

/-- The signature of a policy is read from the report file. -/
theorem storedEvidence_of_runIngest_signed : ∃ bytes stored,
    (runIngest signedEnv IngestRun.signedOptions { files := receiptTree }).2.files.read
        (outputFile "artifacts" "report.json") = .ok bytes ∧
      readReport signedEnv.lib bytes = some stored ∧
      (extractPolicySignature stored).isSome = true := by
  obtain ⟨result, w', hrun, hdocument, hplans⟩ := signedEnv_run
  obtain ⟨cfg, buildfix, bytes, stored, hcfg, heffective, hfile, hstored, hevidence⟩ :=
    storedEvidence_of_runIngest signedEnv_outputsApart hrun
      (printingLibraries_readsExactly hdocument) (fun _ => hooksSpareReport_receiptRun)
      (by rw [hplans]; nofun)
  obtain rfl := Except.ok.inj hcfg
  obtain ⟨key, e, -, -, he⟩ := hevidence.signed rfl rfl
  rw [hrun]
  exact ⟨bytes, stored, hfile, hstored, by rw [he]; rfl⟩

/-! ## The signature in the report file -/

/-- Signing the policy of a report again, as its signature says, gives this signature. -/
def SignatureVerifies (sha256 : Bytes → Bytes) (toVec : Json → Result Bytes) (key : Bytes)
    (report : CockpitReport) : Prop :=
  ∃ e, extractPolicySignature report = some e ∧
    signPolicySnapshot sha256 toVec report.policy e.algorithm key e.keyId = .ok e

theorem signPolicySnapshot_eq {sha256 : Bytes → Bytes} {toVec : Json → Result Bytes}
    {policy : PolicySnapshot} {algorithm : PolicySignatureAlgorithm} {key : Bytes}
    {keyId : Option String} : signPolicySnapshot sha256 toVec policy algorithm key keyId =
      signPolicySnapshotHmacSha256 sha256 toVec policy key keyId := by
  cases algorithm
  rfl

/-- Under one key, reports with one signature have one policy, unless the keyed hash collides. -/
theorem SignatureVerifies.policy_eq {sha256 : Bytes → Bytes} {float : ℚ → List Char} {key : Bytes}
    {report report' : CockpitReport} {payload payload' : Bytes}
    (h : SignatureVerifies sha256 (toVec float) key report)
    (h' : SignatureVerifies sha256 (toVec float) key report')
    (hsame : extractPolicySignature report' = extractPolicySignature report)
    (hpayload : canonicalPolicySnapshotBytes (toVec float) report.policy = .ok payload)
    (hpayload' : canonicalPolicySnapshotBytes (toVec float) report'.policy = .ok payload')
    (hhash : Set.InjOn (hmacSha256 sha256 key) {payload, payload'}) :
    report'.policy = report.policy := by
  obtain ⟨e, he, hsign⟩ := h
  obtain ⟨e', he', hsign'⟩ := h'
  obtain rfl : e' = e := Option.some.inj (he'.symm.trans (hsame.trans he))
  rw [signPolicySnapshot_eq] at hsign hsign'
  have hsignature := (evidence_of_payload hpayload hsign).2
  have hsignature' := (evidence_of_payload hpayload' hsign').2
  by_contra hpolicy
  have hne : payload ≠ payload' := by
    rintro rfl
    exact hpolicy (canonicalPolicySnapshotBytes_inj hpayload' hpayload)
  exact hexEncode_ne hhash hne (hsignature.symm.trans hsignature')

/-- A signature is made by the algorithm and for the key that it names. -/
theorem signPolicySnapshot_names {sha256 : Bytes → Bytes} {toVec : Json → Result Bytes}
    {policy : PolicySnapshot} {algorithm : PolicySignatureAlgorithm} {key : Bytes}
    {keyId : Option String} {e : PolicySignatureEvidence}
    (h : signPolicySnapshot sha256 toVec policy algorithm key keyId = .ok e) :
    signPolicySnapshot sha256 toVec policy e.algorithm key e.keyId = .ok e := by
  have hsign := h
  rw [signPolicySnapshot_eq] at h ⊢
  unfold signPolicySnapshotHmacSha256 at h
  split_ifs at h with hempty
  cases hpayload : canonicalPolicySnapshotBytes toVec policy with
  | error err =>
    rw [hpayload] at h
    cases h
  | ok payload =>
    rw [hpayload] at h
    cases h
    rwa [signPolicySnapshot_eq] at hsign

/-- **The signature in the report file** verifies under the key that the run has loaded, and binds
the policy of the file: a report that bears this signature and verifies has the same policy, unless
the keyed hash collides on the two texts. -/
theorem signatureVerifies_of_runIngest {float : ℚ → List Char}
    (hapart : OutputsApart opts.artifacts env.volume)
    (hrun : runIngest env opts w = (.ok result, w'))
    (hreads : env.lib.ReadsExactly result.report)
    (hspare : ∀ cfg, loadPreConfig env opts w.files = .ok cfg → HooksSpareReport env opts cfg)
    (hprints : env.toVec = toVec float) :
    ∃ cfg bytes stored, loadPreConfig env opts w.files = .ok cfg ∧
      w'.files.read (outputFile opts.artifacts "report.json") = .ok bytes ∧
      readReport env.lib bytes = some stored ∧
      ((effectivePolicySigning cfg.policySigning opts).enabled = true →
        (featureState opts).policySigning = true →
        ∃ key, (loadPolicySigningKey env.environment
            (effectivePolicySigning cfg.policySigning opts) (untilSigning env opts w).2.files).1 =
            .ok (some key) ∧
          SignatureVerifies env.lib.sha256 env.toVec key stored ∧
          ∀ report' payload payload', SignatureVerifies env.lib.sha256 env.toVec key report' →
            extractPolicySignature report' = extractPolicySignature stored →
            canonicalPolicySnapshotBytes env.toVec stored.policy = .ok payload →
            canonicalPolicySnapshotBytes env.toVec report'.policy = .ok payload' →
            Set.InjOn (hmacSha256 env.lib.sha256 key) {payload, payload'} →
            report'.policy = stored.policy) := by
  obtain ⟨cfg, hcfg, hsigned⟩ := signed_of_runIngest hrun
  obtain ⟨bytes, hfile, hstored⟩ := readReport_of_runIngest hapart hrun hreads hspare
  refine ⟨cfg, bytes, result.report, hcfg, hfile, hstored, fun henabled hfeature => ?_⟩
  obtain ⟨key, e, hkey, hsign, he⟩ := hsigned henabled hfeature
  have hverifies : SignatureVerifies env.lib.sha256 env.toVec key result.report :=
    ⟨e, he, signPolicySnapshot_names hsign⟩
  refine ⟨key, hkey, hverifies, ?_⟩
  intro report' payload payload' hverifies' hsame hpayload hpayload' hhash
  rw [hprints] at hverifies hverifies' hpayload hpayload'
  exact hverifies.policy_eq hverifies' hsame hpayload hpayload' hhash

/-- The signature of a policy is read from the report file and verifies. -/
theorem signatureVerifies_of_runIngest_signed : ∃ bytes stored,
    (runIngest signedEnv IngestRun.signedOptions { files := receiptTree }).2.files.read
        (outputFile "artifacts" "report.json") = .ok bytes ∧
      readReport signedEnv.lib bytes = some stored ∧
      SignatureVerifies signedEnv.lib.sha256 signedEnv.toVec (asBytes "secret") stored := by
  obtain ⟨result, w', hrun, hdocument, -⟩ := signedEnv_run
  obtain ⟨cfg, bytes, stored, hcfg, hfile, hstored, hverifies⟩ :=
    signatureVerifies_of_runIngest signedEnv_outputsApart hrun
      (printingLibraries_readsExactly hdocument) (fun _ => hooksSpareReport_receiptRun) rfl
  obtain rfl := Except.ok.inj hcfg
  obtain ⟨key, hkey, hkeyed, -⟩ := hverifies rfl rfl
  have hloaded : (loadPolicySigningKey signedEnv.environment
      (effectivePolicySigning (default : CockpitConfig).policySigning IngestRun.signedOptions)
      (untilSigning signedEnv IngestRun.signedOptions { files := receiptTree }).2.files).1 =
      .ok (some (asBytes "secret")) := rfl
  obtain rfl := Option.some.inj (Except.ok.inj (hkey.symm.trans hloaded))
  rw [hrun]
  exact ⟨bytes, stored, hfile, hstored, hkeyed⟩

end Runs

end Cockpitctl
