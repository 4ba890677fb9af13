import Cockpitctl.Ingest.Candidates
import Cockpitctl.Ingest.PrintedReport
import Cockpitctl.Lib.Decoded

/-!
# Reports that survive storage

A report is read back as it was when none of its payloads is `null`, which is read as an absent
one. An ingested report has no such payload: a receipt with one is read as a receipt without it,
and what cockpit adds itself are objects.

## Main definitions

* `CockpitReport.NullFree`: no payload of the report is `null`

## Main results

* `Assembled.nullFree`: an ingested report has no `null` among its payloads
* `readReport_of_readsExactly`: such a report is read back as it was
-/

namespace Cockpitctl

/-! ## Payloads -/

/-- No payload of the report is `null`. -/
structure CockpitReport.NullFree (report : CockpitReport) : Prop where
  findings : ∀ h ∈ report.highlights, ∀ v ∈ h.finding.data, v.json ≠ .null
  data : ∀ v ∈ report.data, v.json ≠ .null

theorem readPayload_eq_self {o : Option Value} (h : ∀ v ∈ o, v.json ≠ .null) :
    readPayload o = o := by
  cases o with
  | none => rfl
  | some v =>
    have hnull := h v rfl
    rw [readPayload, Option.filter_some]
    cases hjson : v.json with
    | null => exact absurd hjson hnull
    | _ => rfl

/-- **A report without `null`** is read back as it was. -/
theorem CockpitReport.NullFree.readBack_eq {report : CockpitReport} (h : report.NullFree) :
    report.readBack = report := by
  have hhighlights : report.highlights.map Highlight.readBack = report.highlights := by
    refine (List.map_congr_left fun g hg => ?_).trans (List.map_id _)
    rw [Highlight.readBack, Finding.readBack, readPayload_eq_self (h.findings g hg)]
    rfl
  rw [CockpitReport.readBack, hhighlights, readPayload_eq_self h.data]

/-- An object is not `null`. -/
theorem Value.ne_null_of_isObject {v : Value} (h : v.isObject = true) : v.json ≠ .null := by
  intro hnull
  rw [Value.isObject, hnull] at h
  cases h

/-! ## Receipts -/

/-- The payload of a finding that is read is not `null`. -/
theorem Finding.yields_codec : Finding.codec.Yields fun f => ∀ v ∈ f.data, v.json ≠ .null := by
  apply Codec.Yields.struct
  refine Record.Yields.optional ?_ Codec.yields_option_any nofun
  -- The other fields may be anything.
  apply Record.Yields.optional_any
  apply Record.Yields.optional_any
  apply Record.Yields.optional_any
  apply Record.Yields.optional_any
  apply Record.Yields.required_any
  apply Record.Yields.required_any
  apply Record.Yields.optional_any
  apply Record.Yields.required_any
  exact Record.yields_pure fun _ _ _ _ _ _ _ _ _ hdata => hdata

/-- Nor are the payloads of the findings of a receipt that is read. -/
theorem SensorReport.yields_codec : SensorReport.codec.Yields fun report =>
    ∀ f ∈ report.findings, ∀ v ∈ f.data, v.json ≠ .null := by
  apply Codec.Yields.struct
  apply Record.Yields.optional_any
  apply Record.Yields.withDefault_any
  refine Record.Yields.withDefault ?_ Finding.yields_codec.vec (List.forall_mem_nil _)
  apply Record.Yields.required_any
  apply Record.Yields.required_any
  apply Record.Yields.required_any
  apply Record.Yields.required_any
  exact Record.yields_pure fun _ _ _ _ _ hfindings _ _ => hfindings

section Run

variable {ω : Type} {lib : Libraries} {uc : IngestUseCase ω} {req : IngestRequest}
  {cfg : CockpitConfig} {discovery : DiscoveredSensors} {report : CockpitReport}
  {outs : List (String × SensorSummary × List Highlight)} {fixes : List FixSummary}

/-- A receipt that is parsed was read. -/
theorem ParsesReceipt.decoded {sensorId : String} {parsed : SensorReport}
    (h : ParsesReceipt lib uc req cfg discovery sensorId parsed) :
    ∃ document, SensorReport.codec.decode document = some parsed := by
  obtain ⟨comment, hdisposition⟩ := h.parsed
  rcases disposition_eq_ok_iff.mp hdisposition with ⟨-, hd, -⟩ | ⟨-, -, ⟨-, hd⟩ | ⟨-, hreceipt⟩⟩
  · cases hd
  · cases hd
  · rcases receiptDisposition_cases hreceipt with ⟨-, hd⟩ | ⟨-, hd⟩ | ⟨_, _, -, hd⟩ |
      ⟨bytes, -, ⟨_, -, hd⟩ | ⟨-, ⟨report, hparse, hd⟩ | ⟨_, -, hd⟩⟩⟩
    · cases hd
    · cases hd
    · cases hd
    · cases hd
    · cases hd
      rw [Libraries.sensorReportFromSlice_eq_ok_iff] at hparse
      obtain ⟨document, -, hdecode⟩ := Option.bind_eq_some_iff.mp hparse
      exact ⟨document, hdecode⟩
    · cases hd

/-- **An ingested report** has no `null` among its payloads. -/
theorem Assembled.nullFree (h : Assembled lib uc req cfg discovery outs fixes report) :
    report.NullFree := by
  constructor
  · intro g hg v hv
    obtain ⟨c, hc, rfl⟩ := (h.mem_highlights_iff.mp hg).exists_candidate
    change v ∈ c.finding.data at hv
    cases origin_of_mem_highlightCandidates hc with
    | receipt parsed parses found =>
      obtain ⟨document, hdecode⟩ := parses.decoded
      exact SensorReport.yields_codec document parsed hdecode _ found v hv
    | cockpit sensor synthesized =>
      rw [synthesized.data] at hv
      cases hv
    | truncated truncated notice =>
      rw [notice] at hv
      cases hv
  · intro v hv
    rw [h.assembled, attachBuildfix] at hv
    split at hv
    · cases hv
    · cases hv
      exact Value.ne_null_of_isObject (Value.isObject_insertMember _ _ _)

end Run

/-! ## Reading a printed report -/

/-- **A printed report is read back** as it was, when none of its payloads is `null`. -/
theorem readReport_of_readsExactly {lib : Libraries} {report : CockpitReport} {text : String}
    (hreads : lib.ReadsExactly report) (htext : reportText lib report = .ok text)
    (hnull : report.NullFree) : readReport lib (asBytes text) = some report := by
  obtain ⟨document, hdocument, hread⟩ := hreads text htext
  rw [readReport, hread, Option.bind_some, CockpitReport.decode_toJson? hdocument,
    hnull.readBack_eq]

end Cockpitctl
