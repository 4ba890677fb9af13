import Cockpitctl.Ingest.Candidates
import Cockpitctl.Ingest.Stub
import Cockpitctl.Types.CockpitReportJson

/-!
# The printed report

A run writes the pretty text of its report and a newline. The reader of JSON texts follows
arrays and objects up to a fixed depth, and a float that it reads may differ from the printed one
in its last place; everything else is read back as it was printed.

## Main definitions

* `reportText`: the text that a run writes
* `readReport`: the report that a text denotes
* `CockpitReport.Shallow`: the payloads of the report do not nest too deep
* `Libraries.PrintsBack`: what the reader does on a printed report
* `Libraries.ReadsExactly`: the reader reads a printed report exactly

## Main results

* `readReport_of_printsBack`: a printed report is read back up to its payloads, unless it nests
  too deep
* `Assembled.shallow_iff`: the data of an ingested report does not nest too deep
-/

namespace Cockpitctl

/-- The text of a report as it is written. -/
def reportText (lib : Libraries) (report : CockpitReport) : Result String :=
  (lib.toStringPretty report).map fun text => text ++ "\n"

/-- Decode a cockpit report. -/
def readReport (lib : Libraries) (bytes : Bytes) : Option CockpitReport :=
  (lib.document bytes).bind CockpitReport.codec.decode

/-- How deep the reader of JSON texts follows arrays and objects. -/
def maxNesting : ℕ := 127

/-- The highlight with its payload replaced. -/
def Highlight.mapPayload (g : Value → Value) (h : Highlight) : Highlight :=
  { h with finding := { h.finding with data := h.finding.data.map g } }

/-- The report with its payloads replaced. -/
def CockpitReport.mapPayloads (g : Value → Value) (r : CockpitReport) : CockpitReport :=
  { r with highlights := r.highlights.map (Highlight.mapPayload g), data := r.data.map g }

/-- The payloads of the report nest no deeper than the reader follows. -/
structure CockpitReport.Shallow (r : CockpitReport) : Prop where
  findings : ∀ h ∈ r.highlights, ∀ v ∈ h.finding.data, v.json.depth ≤ maxNesting - 4
  data : ∀ v ∈ r.data, v.json.depth ≤ maxNesting - 1

/-- The reader accepts the printed report unless it nests too deep; payloads keep their nesting,
but their floats may be read with another last place. -/
def Libraries.PrintsBack (lib : Libraries) (report : CockpitReport) : Prop :=
  ∀ text, reportText lib report = .ok text → ∃ (reread : Value → Value) (j : Json),
    (∀ v, (reread v).json.depth = v.json.depth) ∧
    (report.mapPayloads reread).toJson? = some j ∧
    lib.document (asBytes text) = if j.depth ≤ maxNesting then some j else none

/-- The reader reads the printed report exactly: its document is that of the report. -/
def Libraries.ReadsExactly (lib : Libraries) (report : CockpitReport) : Prop :=
  ∀ text, reportText lib report = .ok text →
    ∃ document, report.toJson? = some document ∧ lib.document (asBytes text) = some document

theorem CockpitReport.mapPayloads_id (r : CockpitReport) : r.mapPayloads id = r := by
  have hmap : Highlight.mapPayload id = id := by
    funext h
    simp [Highlight.mapPayload]
  rw [CockpitReport.mapPayloads, hmap, List.map_id, Option.map_id]
  rfl

section

variable {lib : Libraries} {report : CockpitReport} {text : String}

/-- Replaced payloads of the same nesting are shallow alike. -/
theorem CockpitReport.shallow_mapPayloads_iff {r : CockpitReport} {g : Value → Value}
    (hg : ∀ v, (g v).json.depth = v.json.depth) : (r.mapPayloads g).Shallow ↔ r.Shallow := by
  have hpayload : ∀ (o : Option Value) (n : ℕ),
      (∀ v ∈ o.map g, v.json.depth ≤ n) ↔ ∀ v ∈ o, v.json.depth ≤ n := by
    intro o n
    cases o <;> simp [hg]
  constructor
  · rintro ⟨hfindings, hdata⟩
    refine ⟨fun h hh => ?_, (hpayload _ _).mp hdata⟩
    exact (hpayload _ _).mp (hfindings _ (List.mem_map_of_mem hh))
  · rintro ⟨hfindings, hdata⟩
    refine ⟨fun h hmem => ?_, (hpayload _ _).mpr hdata⟩
    obtain ⟨g', hg', rfl⟩ := List.mem_map.mp hmem
    exact (hpayload _ _).mpr (hfindings g' hg')

/-- **The reader follows a printed report** exactly when its payloads are shallow. -/
theorem CockpitReport.depth_le_maxNesting_iff {r : CockpitReport} {j : Json}
    (h : r.toJson? = some j) : j.depth ≤ maxNesting ↔ r.Shallow := by
  rw [show maxNesting = 122 + 5 from rfl, CockpitReport.depth_toJson?_le_iff h]
  exact ⟨fun h => ⟨h.1, h.2⟩, fun h => ⟨h.findings, h.data⟩⟩

/-- **A printed report is read back** up to its payloads, unless they nest too deep. -/
theorem readReport_of_printsBack (hprints : lib.PrintsBack report)
    (htext : reportText lib report = .ok text) (hshallow : report.Shallow) :
    ∃ reread, readReport lib (asBytes text) = some (report.mapPayloads reread).readBack := by
  obtain ⟨reread, j, hdepth, hj, hdocument⟩ := hprints text htext
  refine ⟨reread, ?_⟩
  have hfits : j.depth ≤ maxNesting := (CockpitReport.depth_le_maxNesting_iff hj).mpr
    ((CockpitReport.shallow_mapPayloads_iff hdepth).mpr hshallow)
  rw [readReport, hdocument, if_pos hfits, Option.bind_some]
  exact CockpitReport.decode_toJson? hj

/-- What is read of a printed report is the report, up to its payloads. -/
theorem exists_readBack {read : CockpitReport} (hprints : lib.PrintsBack report)
    (htext : reportText lib report = .ok text) (hread : readReport lib (asBytes text) = some read) :
    ∃ reread, read = (report.mapPayloads reread).readBack := by
  obtain ⟨reread, j, -, hj, hdocument⟩ := hprints text htext
  refine ⟨reread, ?_⟩
  rw [readReport, hdocument] at hread
  split_ifs at hread
  · rw [Option.bind_some, CockpitReport.decode_toJson? hj] at hread
    exact (Option.some.inj hread).symm
  · cases hread

/-! ## The data that ingestion attaches -/

open Json

theorem MatchedFinding.depth_toJson (m : MatchedFinding) : m.toJson.depth ≤ 1 := by
  rw [MatchedFinding.toJson, depth, Nat.add_le_add_iff_right (k := 0), depthMembers_le_iff]
  cases m.fingerprint <;> simp

theorem FixSummary.depth_toJson (f : FixSummary) : f.toJson.depth ≤ 3 := by
  have hmatched : (array (f.matchedFindings.map MatchedFinding.toJson)).depth ≤ 2 :=
    depth_array_map_le_iff.mpr fun m _ => MatchedFinding.depth_toJson m
  rw [FixSummary.toJson, depth, Nat.add_le_add_iff_right, depthMembers_le_iff]
  simp [hmatched]

/-- The value of a summary nests five levels at most. -/
theorem BuildfixSummary.depth_toValue? {s : BuildfixSummary} {v : Value}
    (h : s.toValue? = some v) : v.json.depth ≤ 5 := by
  obtain ⟨j, hj, hv⟩ := Option.bind_eq_some_iff.mp h
  obtain ⟨matched, -, hj⟩ := Option.bind_eq_some_iff.mp hj
  obtain ⟨total, -, hj⟩ := Option.bind_eq_some_iff.mp hj
  obtain ⟨unmatched, -, hj⟩ := Option.bind_eq_some_iff.mp hj
  cases hj
  have hfixes : (array (s.fixes.map FixSummary.toJson)).depth ≤ 4 :=
    depth_array_map_le_iff.mpr fun f _ => FixSummary.depth_toJson f
  rw [Json.toValue?] at hv
  split_ifs at hv
  cases hv
  refine (depth_normalize_le _).trans ?_
  rw [depth, Nat.add_le_add_iff_right (k := 4), depthMembers_le_iff]
  simp [hfixes]

/-- The data of an ingested report does not nest too deep. -/
theorem attachBuildfix_data_shallow {buildfix : Option BuildfixSummary}
    (hdata : report.data = none) {v : Value} (hv : v ∈ (attachBuildfix report buildfix).data) :
    v.json.depth ≤ maxNesting - 1 := by
  rw [attachBuildfix] at hv
  split at hv
  · rw [hdata] at hv
    cases hv
  · next summary hsummary =>
    rw [hdata] at hv
    cases hv
    obtain ⟨s, -, hs⟩ := Option.bind_eq_some_iff.mp hsummary
    have hdepth := BuildfixSummary.depth_toValue? hs
    show (Json.object [("_buildfix", summary.json)]).depth ≤ 125 + 1
    rw [depth, Nat.add_le_add_iff_right, depthMembers_le_iff, List.forall_mem_singleton]
    exact hdepth.trans (by omega)

/-- An ingested report is shallow when the payloads of its highlights are. -/
theorem Assembled.shallow_iff {ω : Type} {uc : IngestUseCase ω} {req : IngestRequest}
    {cfg : CockpitConfig} {discovery : DiscoveredSensors}
    {outs : List (String × SensorSummary × List Highlight)} {fixes : List FixSummary}
    (h : Assembled lib uc req cfg discovery outs fixes report) :
    report.Shallow ↔
      ∀ h ∈ report.highlights, ∀ v ∈ h.finding.data, v.json.depth ≤ maxNesting - 4 := by
  refine ⟨fun hshallow => hshallow.findings, fun hfindings => ⟨hfindings, fun v hv => ?_⟩⟩
  rw [h.assembled] at hv
  exact attachBuildfix_data_shallow rfl hv

end

/-! ## In-memory printing -/

/-- The byte of a final newline is the last one. -/
theorem getLast?_asBytes_newline (s : String) : (asBytes (s ++ "\n")).getLast? = some 10 := by
  rw [asBytes_eq_flatMap, String.toList_append, List.flatMap_append]
  show (_ ++ [10]).getLast? = some 10
  rw [List.getLast?_concat]

/-- The in-memory libraries read exactly what they print. -/
theorem printingLibraries_readsExactly {receipt document : Json} {report : CockpitReport}
    (hdocument : report.toJson? = some document) :
    (printingLibraries receipt document).ReadsExactly report := by
  intro text htext
  refine ⟨document, hdocument, ?_⟩
  rw [reportText] at htext
  cases hprint : (printingLibraries receipt document).toStringPretty report with
  | error e =>
    rw [hprint] at htext
    cases htext
  | ok printed =>
    rw [hprint] at htext
    cases htext
    exact if_pos (getLast?_asBytes_newline printed)

/-- What the in-memory libraries print is what they read back. -/
theorem printingLibraries_printsBack {receipt document : Json} {report : CockpitReport}
    (hdocument : report.toJson? = some document) (hdepth : document.depth ≤ maxNesting) :
    (printingLibraries receipt document).PrintsBack report := by
  intro text htext
  obtain ⟨j, hj, hread⟩ := printingLibraries_readsExactly hdocument text htext
  obtain rfl := Option.some.inj (hj.symm.trans hdocument)
  refine ⟨id, j, fun _ => rfl, by rwa [CockpitReport.mapPayloads_id], ?_⟩
  rw [hread, if_pos hdepth]

/-- The text of an object with members starts with a brace. -/
theorem head?_of_prettyJson {level : ℕ} {m : String × Json} {ms : List (String × Json)}
    {text : String} (h : prettyJson? level (.object (m :: ms)) = some text) :
    (asBytes (text ++ "\n")).head? = some 123 := by
  rw [prettyJson?] at h
  obtain ⟨members, -, h⟩ := Option.bind_eq_some_iff.mp h
  cases h
  rw [asBytes_eq_flatMap]
  simp only [String.append_assoc, String.toList_append]
  rfl

theorem readingLibraries_document_comment (earlier document : Json) (text : String) :
    (readingLibraries earlier document).document (asBytes ("<" ++ text)) = none := by
  have hhead : (asBytes ("<" ++ text)).head? = some 60 := by
    rw [asBytes_eq_flatMap, String.toList_append]
    rfl
  simp only [readingLibraries, hhead, if_true]

/-- The in-memory libraries that reject comments read back what they print. -/
theorem readingLibraries_printsBack {earlier document : Json} {report : CockpitReport}
    (hdocument : report.toJson? = some document) (hdepth : document.depth ≤ maxNesting) :
    (readingLibraries earlier document).PrintsBack report := by
  intro text htext
  obtain ⟨reread, j, hj, hjson, hread⟩ :=
    @printingLibraries_printsBack earlier _ _ hdocument hdepth text htext
  refine ⟨reread, j, hj, hjson, ?_⟩
  rw [← hread]
  refine if_neg ?_
  -- The text is that of an object.
  rw [reportText] at htext
  cases hprint : report.toJson?.bind (prettyJson? 0) with
  | none =>
    simp only [readingLibraries, printingLibraries, hprint] at htext
    cases htext
  | some printed =>
    simp only [readingLibraries, printingLibraries, hprint] at htext
    cases htext
    obtain ⟨j, hobject, hpretty⟩ := Option.bind_eq_some_iff.mp hprint
    obtain ⟨policy, -, hrecord⟩ := Option.bind_eq_some_iff.mp hobject
    cases hrecord
    rw [head?_of_prettyJson hpretty]
    decide

end Cockpitctl
