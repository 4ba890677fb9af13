import Cockpitctl.Conform.Directory

/-!
# What the gate accepts

The stages of the gate record what they do, so that the gate is known from what each pass of its
loop and the stage of the cockpit do on their own. It accepts exactly the directories that pass, in
whatever order they are listed.

## Main definitions

* `GoesWell`: a stage does not end the gate, and notes no failure
* `sensorsRun`: what the loop did

## Main results

* `checkEntry_hadFailure_iff`: which passes of the loop note a failure
* `checkCockpitReport_goesWell_iff`: when the stage of the cockpit goes well
* `dirGate_eq`: the gate is the loop, and what follows it
* `checkDir_exact`: both gates accept exactly the directories that pass
-/

namespace Cockpitctl

open Effect (record Records)

namespace DirRun

theorem stderr_prod (runs : List DirRun) : runs.prod.stderr = runs.flatMap stderr := by
  induction runs with
  | nil => rfl
  | cons r runs ih => rw [List.prod_cons, stderr_mul, ih, List.flatMap_cons]

theorem hadFailure_prod (runs : List DirRun) : runs.prod.hadFailure = runs.any hadFailure := by
  induction runs with
  | nil => rfl
  | cons r runs ih => rw [List.prod_cons, hadFailure_mul, ih, List.any_cons]

end DirRun

/-! ## Stages that record -/

section Stages

variable {tool : DirTool} {libs : DirLibraries} {fs : FileSystem} {dir : Path}
  {checks : ConformChecks} {flags : DirFlags}

theorem checkCockpitSemantics_records (content : String) :
    Records (checkCockpitSemantics libs checks flags content) :=
  .ite ((Records.lift _).bind fun _ => .ite (.record _) (.record _)) (.record _)

theorem checkCockpitContent_records (content : String) :
    Records (checkCockpitContent libs checks flags content) :=
  (Records.lift _).bind fun _ => .ite (.record _)
    ((Records.record _).bind fun _ => checkCockpitSemantics_records content)

theorem checkCockpitReport_records : Records (checkCockpitReport libs fs dir checks flags) :=
  (Records.record _).bind fun _ =>
    .ite ((Records.lift _).bind fun content => checkCockpitContent_records content) (.record _)

/-! ## Stages that go well -/

/-- A stage goes well: it does not end the gate, and notes no failure. -/
def GoesWell (x : Effect DirRun Error Unit) : Prop :=
  (x 1).1 = .ok () ∧ (x 1).2.hadFailure = false

theorem goesWell_record_iff {r : DirRun} : GoesWell (record r) ↔ r.hadFailure = false := by
  show _ ∧ (1 * r).hadFailure = false ↔ _
  rw [one_mul]
  exact and_iff_right rfl

theorem goesWell_ite_iff {c : Prop} [Decidable c] {x y : Effect DirRun Error Unit} :
    GoesWell (if c then x else y) ↔ (c → GoesWell x) ∧ (¬ c → GoesWell y) := by
  split_ifs with hc <;> simp [hc]

theorem goesWell_record_bind_iff {r : DirRun} {x : Effect DirRun Error Unit}
    (hx : Records x) (hr : r.hadFailure = false) :
    GoesWell (record r >>= fun _ => x) ↔ GoesWell x := by
  -- The stage does what it does on its own, behind the record.
  have hrun : (record r >>= fun _ => x) 1 = ((x 1).1, r * (x 1).2) := by
    show x (1 * r) = _
    rw [one_mul, hx]
  rw [GoesWell, hrun, GoesWell]
  simp [hr]

theorem goesWell_lift_bind_iff {α : Type} {r : Result α} {f : α → Effect DirRun Error Unit} :
    GoesWell (Effect.lift r >>= f) ↔ ∃ a, r = .ok a ∧ GoesWell (f a) := by
  cases r with
  | error e =>
    refine iff_of_false (fun h => ?_) (by simp)
    have hok : (Except.error e : Result Unit) = .ok () := h.1
    cases hok
  | ok a =>
    show GoesWell (f a) ↔ _
    simp

/-- The extended checks pass when the report decodes and meets those that are enabled. -/
theorem checkCockpitExtended_eq_ok_nil_iff {content : String} {reasonLint presence : Bool} :
    checkCockpitExtended libs content reasonLint presence = .ok [] ↔
      ∃ parsed, readReport libs.lib (asBytes content) = some parsed ∧
        (reasonLint = true → checkCockpitReasonTokens libs.debug parsed = []) ∧
        (presence = true → checkPresenceSemantics parsed = []) := by
  unfold checkCockpitExtended
  cases readReport libs.lib (asBytes content) with
  | none => simp
  | some parsed => cases reasonLint <;> cases presence <;> simp [runCheck]

theorem checkCockpitSemantics_goesWell_iff {content : String} :
    GoesWell (checkCockpitSemantics libs checks flags content) ↔
      (checks.reasonLint = true ∨ flags.presenceSemantics = true →
        checkCockpitExtended libs content checks.reasonLint flags.presenceSemantics =
          .ok []) := by
  unfold checkCockpitSemantics
  rw [goesWell_ite_iff, goesWell_lift_bind_iff]
  simp [goesWell_ite_iff, goesWell_record_iff]

theorem checkCockpitContent_goesWell_iff {content : String} :
    GoesWell (checkCockpitContent libs checks flags content) ↔
      validateCockpitSchema libs.toConformLibraries content = .ok [] ∧
        GoesWell (checkCockpitSemantics libs checks flags content) := by
  unfold checkCockpitContent
  rw [goesWell_lift_bind_iff]
  simp [goesWell_ite_iff, goesWell_record_iff,
    goesWell_record_bind_iff (checkCockpitSemantics_records content)]

/-- **The stage of the cockpit goes well** when there is no report, or it passes. -/
theorem checkCockpitReport_goesWell_iff :
    GoesWell (checkCockpitReport libs fs dir checks flags) ↔
      (fs.pathExists (cockpitReportFile dir) = true →
        CockpitPasses libs fs dir checks flags) := by
  have hstage : Records (if fs.pathExists (cockpitReportFile dir) then do
      let content ← .lift <| (fs.readToString (cockpitReportFile dir)).context
        s!"read {displayPath (cockpitReportFile dir)}"
      checkCockpitContent libs checks flags content
    else record {
      stderr := ["  skip: no cockpit/report.json found"]
      results := [("cockpit", "skip (not found)")] }) :=
    .ite ((Records.lift _).bind fun content => checkCockpitContent_records content) (.record _)
  unfold checkCockpitReport
  rw [goesWell_record_bind_iff hstage rfl, goesWell_ite_iff, goesWell_lift_bind_iff]
  simp [goesWell_record_iff, CockpitPasses, Result.context_eq_ok, checkCockpitContent_goesWell_iff,
    checkCockpitSemantics_goesWell_iff, checkCockpitExtended_eq_ok_nil_iff]

theorem ConformResult.isPass_iff {result : ConformResult} :
    result.isPass = true ↔ result = ⟨[]⟩ := by
  obtain ⟨violations⟩ := result
  simp [isPass]

/-- A sensor with a report passes when the report conforms. -/
theorem sensorPasses_iff_of_found {entry : DirEntry}
    (hfound : fs.pathExists entry.report = true) :
    SensorPasses libs fs checks flags entry ↔ ∃ content,
      fs.readToString entry.report = .ok content ∧
      conformSingle libs.toConformLibraries content entry.fileName checks = .ok ⟨[]⟩ := by
  constructor
  · rintro (⟨content, -, read, passes⟩ | ⟨none, -⟩)
    · exact ⟨content, read, passes⟩
    · exact absurd none (by simp [hfound])
  · rintro ⟨content, read, passes⟩
    exact .conforms content hfound read passes

/-- **A pass of the loop** notes no failure exactly when its sensor passes, if it is one. -/
theorem checkEntry_hadFailure_iff {entry : DirEntry} :
    (checkEntry tool libs fs checks flags entry).hadFailure = false ↔
      (entry.fileName ≠ "cockpit" → SensorPasses libs fs checks flags entry) := by
  by_cases hname : entry.fileName = "cockpit"
  · simp [checkEntry, hname]
  -- One case for each way a pass can end.
  have hsensor : (checkEntry tool libs fs checks flags entry).hadFailure = false ↔
      SensorPasses libs fs checks flags entry := by
    cases hfound : fs.pathExists entry.report with
    | false =>
      cases hallowed : flags.allowMissingReport with
      | true =>
        exact iff_of_true (by simp [checkEntry, hname, hfound, hallowed])
          (.missing hfound hallowed)
      | false =>
        refine iff_of_false (by simp [checkEntry, hname, hfound, hallowed]) ?_
        rintro (⟨content, found, -, -⟩ | ⟨-, allowed⟩)
        · exact absurd found (by simp [hfound])
        · exact absurd allowed (by simp [hallowed])
    | true =>
      rw [sensorPasses_iff_of_found hfound]
      -- The report is there, so it is read, and checked when that succeeds.
      cases hread : fs.readToString entry.report with
      | error e => simp [checkEntry, hname, hfound, hread]
      | ok content =>
        cases hconform : conformSingle libs.toConformLibraries content entry.fileName checks with
        | error e => simp [checkEntry, hname, hfound, hread, hconform]
        | ok result =>
          by_cases hpass : result.isPass = true
          · obtain rfl := ConformResult.isPass_iff.mp hpass
            simp [checkEntry, hname, hfound, hread, hconform, hpass]
          · simp [checkEntry, hname, hfound, hread, hconform, hpass,
              mt ConformResult.isPass_iff.mpr hpass]
  rw [hsensor, imp_iff_right hname]

end Stages

/-! ## How the gate ends -/

section Gates

variable {tool tool' : DirTool} {libs : DirLibraries} {fs : FileSystem} {dir : Path}
  {checks : ConformChecks} {flags : DirFlags} {s s' : DirRun}
  {listed : List (Result DirEntry)}

theorem cockpitStage_records : Records (cockpitStage libs fs dir checks flags) :=
  .ite checkCockpitReport_records (.pure ())

/-- The gate behind the loop ends with the stage of the cockpit, or else prints the table, and fails
when a failure was noted. -/
theorem closeGate_eq : closeGate libs fs dir checks flags s =
    let run := s * (cockpitStage libs fs dir checks flags 1).2
    let shown := run * { stderr := resultTable run.results }
    match (cockpitStage libs fs dir checks flags 1).1 with
    | .error e => (.error e, run)
    | .ok () =>
      if run.hadFailure then
        (.error ["conform-dir: one or more sensors failed conformance checks"], shown)
      else (.ok (), shown *
        { stderr := ["", s!"conform-dir: PASS ({run.results.length} sensor(s) checked)"] }) := by
  have hstage : cockpitStage libs fs dir checks flags s = _ := cockpitStage_records s
  cases hresult : (cockpitStage libs fs dir checks flags 1).1 with
  | error e =>
    -- An error of the stage ends the gate without a table.
    rw [hresult] at hstage
    exact Effect.bind_of_error hstage
  | ok u =>
    rw [hresult] at hstage
    refine (Effect.bind_of_ok hstage).trans ?_
    -- The rest only looks at what was done so far.
    generalize s * (cockpitStage libs fs dir checks flags 1).2 = run
    obtain ⟨stderr, results, hadFailure⟩ := run
    cases hadFailure <;> rfl

theorem goesWell_cockpitStage_iff : GoesWell (cockpitStage libs fs dir checks flags) ↔
    (flags.validateCockpit = true → fs.pathExists (cockpitReportFile dir) = true →
      CockpitPasses libs fs dir checks flags) := by
  have hpure : GoesWell (pure ()) := ⟨rfl, rfl⟩
  rw [cockpitStage, goesWell_ite_iff, checkCockpitReport_goesWell_iff]
  simp [hpure]

/-- Behind the loop, the gate accepts when no failure was noted and the stage of the cockpit goes
well. -/
theorem closeGate_eq_ok_iff : (closeGate libs fs dir checks flags s).1 = .ok () ↔
    s.hadFailure = false ∧ GoesWell (cockpitStage libs fs dir checks flags) := by
  rw [closeGate_eq, GoesWell]
  cases (cockpitStage libs fs dir checks flags 1).1 with
  | error e => simp
  | ok u =>
    cases hs : s.hadFailure <;>
      cases hstage : (cockpitStage libs fs dir checks flags 1).2.hadFailure <;>
      simp [hs, hstage]

/-- How the gate ends behind the loop depends on the failures that were noted only. -/
theorem closeGate_fst_congr (h : s.hadFailure = s'.hadFailure) :
    (closeGate libs fs dir checks flags s).1 = (closeGate libs fs dir checks flags s').1 := by
  have hfailed : ∀ r, (s * r).hadFailure = (s' * r).hadFailure := fun r => by
    rw [DirRun.hadFailure_mul, DirRun.hadFailure_mul, h]
  rw [closeGate_eq, closeGate_eq]
  cases (cockpitStage libs fs dir checks flags 1).1 with
  | error e => rfl
  | ok u =>
    simp only [hfailed]
    split_ifs <;> rfl

/-- What was printed before stays printed. -/
theorem stderr_prefix_closeGate :
    s.stderr <+: (closeGate libs fs dir checks flags s).2.stderr := by
  have happend : ∀ r t : DirRun, r.stderr <+: (r * t).stderr := fun r t =>
    List.prefix_append _ _
  have hstage := happend s (cockpitStage libs fs dir checks flags 1).2
  rw [closeGate_eq]
  cases (cockpitStage libs fs dir checks flags 1).1 with
  | error e => exact hstage
  | ok u =>
    dsimp only
    split_ifs
    · exact hstage.trans (happend _ _)
    · exact (hstage.trans (happend _ _)).trans (happend _ _)

/-! ## The gate over a listing -/

/-- What the loop did, over the subdirectories of a listing. -/
def sensorsRun (tool : DirTool) (libs : DirLibraries) (fs : FileSystem) (dir : Path)
    (checks : ConformChecks) (flags : DirFlags) (listed : List (Result DirEntry)) : DirRun :=
  { stderr := [s!"conform-dir: scanning {displayPath dir}"] } *
    ((subdirectories fs listed).map (checkEntry tool libs fs checks flags)).prod

/-- **The gate over a listing** runs through the sensors and goes on behind the loop. -/
theorem dirGate_eq (hexists : fs.pathExists dir = true) (hlist : fs.readDir dir = .ok listed) :
    dirGate tool libs fs dir checks flags {} =
      closeGate libs fs dir checks flags (sensorsRun tool libs fs dir checks flags listed) := by
  unfold dirGate
  rw [hexists, hlist]
  show ((subdirectories fs listed).forM (fun entry =>
    record (checkEntry tool libs fs checks flags entry)) >>=
      fun _ => closeGate libs fs dir checks flags)
      { stderr := [s!"conform-dir: scanning {displayPath dir}"] } = _
  exact Effect.bind_of_ok (Effect.forM_record _ _ _)

/-- The loop notes no failure exactly when every sensor passes. -/
theorem sensorsRun_hadFailure_iff :
    (sensorsRun tool libs fs dir checks flags listed).hadFailure = false ↔
      ∀ entry ∈ subdirectories fs listed, entry.fileName ≠ "cockpit" →
        SensorPasses libs fs checks flags entry := by
  rw [sensorsRun, DirRun.hadFailure_mul, Bool.false_or, DirRun.hadFailure_prod, List.any_map,
    List.any_eq_false]
  simp only [Function.comp_apply, Bool.not_eq_true, checkEntry_hadFailure_iff]

/-- The loops of both tools, over the same subdirectories, note as many failures. -/
theorem sensorsRun_hadFailure_congr {listed' : List (Result DirEntry)}
    (h : ∀ entry, entry ∈ subdirectories fs listed ↔ entry ∈ subdirectories fs listed') :
    (sensorsRun tool libs fs dir checks flags listed).hadFailure =
      (sensorsRun tool' libs fs dir checks flags listed').hadFailure := by
  refine Bool.eq_iff_iff.mpr ?_
  rw [← not_iff_not, Bool.not_eq_true, Bool.not_eq_true, sensorsRun_hadFailure_iff,
    sensorsRun_hadFailure_iff]
  simp only [h]

theorem mem_subdirectories_iff {es : List DirEntry} {entry : DirEntry} :
    entry ∈ subdirectories fs (es.map .ok) ↔ entry ∈ es ∧ fs.isDir entry.path = true := by
  simp [subdirectories, Except.toOption]

/-- **The gate accepts** exactly the directories that pass. -/
theorem dirGate_eq_ok_iff {es : List DirEntry} (hexists : fs.pathExists dir = true)
    (hlist : fs.readDir dir = .ok (es.map .ok)) :
    (dirGate tool libs fs dir checks flags {}).1 = .ok () ↔
      DirPasses libs fs dir checks flags es := by
  rw [dirGate_eq hexists hlist, closeGate_eq_ok_iff, sensorsRun_hadFailure_iff,
    goesWell_cockpitStage_iff]
  simp only [mem_subdirectories_iff, and_imp]
  exact ⟨fun h => ⟨h.1, h.2⟩, fun h => ⟨h.sensors, h.cockpit⟩⟩

/-- **Both tools end alike**, over every directory. -/
theorem dirGate_fst_congr : (dirGate tool libs fs dir checks flags {}).1 =
    (dirGate tool' libs fs dir checks flags {}).1 := by
  -- The tools part only in what the loop prints.
  cases hexists : fs.pathExists dir with
  | false =>
    unfold dirGate
    rw [hexists]
    rfl
  | true =>
    cases hlist : fs.readDir dir with
    | error e =>
      unfold dirGate
      rw [hexists, hlist]
      rfl
    | ok listed =>
      rw [dirGate_eq hexists hlist, dirGate_eq hexists hlist]
      exact closeGate_fst_congr (sensorsRun_hadFailure_congr fun _ => Iff.rfl)

/-- What every pass printed stays printed. -/
theorem infix_stderr_dirGate (hexists : fs.pathExists dir = true)
    (hlist : fs.readDir dir = .ok listed) {entry : DirEntry}
    (hentry : entry ∈ subdirectories fs listed) :
    (checkEntry tool libs fs checks flags entry).stderr <:+:
      (dirGate tool libs fs dir checks flags {}).2.stderr := by
  rw [dirGate_eq hexists hlist]
  have hpass : (checkEntry tool libs fs checks flags entry).stderr <:+:
      (sensorsRun tool libs fs dir checks flags listed).stderr := by
    have hmem : checkEntry tool libs fs checks flags entry ∈
        (subdirectories fs listed).map (checkEntry tool libs fs checks flags) :=
      List.mem_map_of_mem hentry
    rw [sensorsRun, DirRun.stderr_mul, DirRun.stderr_prod]
    exact (List.infix_of_mem_flatten (List.mem_map_of_mem hmem)).trans
      (List.suffix_append _ _).isInfix
  exact hpass.trans stderr_prefix_closeGate.isInfix

/-- Entries with distinct names are visited in one order. -/
theorem subdirectories_eq_of_perm {es es' : List DirEntry} (hperm : es'.Perm es)
    (honce : (es.map DirEntry.fileName).Nodup) :
    subdirectories fs (es'.map .ok) = subdirectories fs (es.map .ok) := by
  have hentries : ∀ es : List DirEntry,
      (es.map (Except.ok : DirEntry → Result DirEntry)).filterMap Except.toOption = es := by
    intro es
    simp [Except.toOption, Function.comp_def]
  rw [subdirectories, subdirectories, hentries, hentries]
  refine KeyOrder.sortByKey_eq_of_perm (hperm.filter _) fun a ha b hb hab => ?_
  exact List.inj_on_of_nodup_map honce (List.mem_of_mem_filter ha) (List.mem_of_mem_filter hb) hab

end Gates

/-- **The gate is exact in both tools.** Over a directory that can be listed, it accepts exactly
when every sensor and the report of the cockpit pass. The order of the listing does not decide how
it ends, nor what it prints when names are distinct; whatever other sensors do, each one is checked
and what was found is printed; and both tools end alike. -/
theorem checkDir_exact {libs : DirLibraries} {fs : FileSystem} {dir : Path}
    {checks : ConformChecks} {flags : DirFlags} {es : List DirEntry}
    (hexists : fs.pathExists dir = true) (hlist : fs.readDir dir = .ok (es.map .ok)) :
    ((checkDir libs fs dir checks flags).1 = .ok () ↔ DirPasses libs fs dir checks flags es) ∧
      (∀ es' : List DirEntry, es'.Perm es →
        (checkDir libs (fs.withListing dir es') dir checks flags).1 =
          (checkDir libs fs dir checks flags).1 ∧
        ((es.map DirEntry.fileName).Nodup →
          checkDir libs (fs.withListing dir es') dir checks flags =
            checkDir libs fs dir checks flags)) ∧
      (∀ entry ∈ es, fs.isDir entry.path = true → entry.fileName ≠ "cockpit" →
        (checkEntry conformctl libs fs checks flags entry).stderr <:+:
          (checkDir libs fs dir checks flags).2 ∧
        (checkEntry xtask libs fs checks flags entry).stderr <:+:
          (conformDir libs fs dir checks flags).2) ∧
      (conformDir libs fs dir checks flags).1 = (checkDir libs fs dir checks flags).1 := by
  -- The listing is all that is changed.
  have hgate : ∀ es' : List DirEntry,
      dirGate conformctl libs (fs.withListing dir es') dir checks flags {} =
        closeGate libs fs dir checks flags
          (sensorsRun conformctl libs fs dir checks flags (es'.map .ok)) := fun es' =>
    dirGate_eq (show (fs.withListing dir es').pathExists dir = true from hexists) (if_pos rfl)
  refine ⟨dirGate_eq_ok_iff hexists hlist, fun es' hperm => ⟨?_, fun honce => ?_⟩,
    fun entry hmem hdir _ => ?_, dirGate_fst_congr⟩
  · rw [checkDir, hgate, checkDir, dirGate_eq hexists hlist]
    refine closeGate_fst_congr (sensorsRun_hadFailure_congr fun entry => ?_)
    rw [mem_subdirectories_iff, mem_subdirectories_iff, hperm.mem_iff]
  · rw [checkDir, hgate, checkDir, dirGate_eq hexists hlist, sensorsRun,
      subdirectories_eq_of_perm hperm honce, sensorsRun]
  · have hentry : entry ∈ subdirectories fs (es.map .ok) :=
      mem_subdirectories_iff.mpr ⟨hmem, hdir⟩
    exact ⟨infix_stderr_dirGate hexists hlist hentry,
      infix_stderr_dirGate hexists hlist hentry⟩

/-! ### A directory that passes -/

/-- The text of the report on one receipt. -/
def printedText : String :=
  (prettyJson? 0 (reportDocument (sampleText "" "5") (sampleDocument [] 5))).getD "" ++ "\n"

/-- The libraries of the gate over the receipt and the report on it. -/
def gateLibraries : DirLibraries where
  toConformLibraries := printingConformLibraries "5" (sampleDocument [] 5)
  reportErrorText _ := "invalid report"

/-- The entries of a directory with one sensor and the report on it. -/
def gateEntries : List DirEntry :=
  ["lint", "cockpit"].map fun name => ⟨["artifacts", name], name⟩

/-- The tree of that directory. -/
def gateTree : FileSystem :=
  { reportsTree with
    readDir := fun _ => .ok (gateEntries.map .ok)
    read := fun path =>
      if path = cockpitReportFile ["artifacts"] then .ok (asBytes printedText)
      else .ok (asBytes (sampleText "" "5")) }

theorem read_gateTree (path : Path) : gateTree.read path =
    if path = cockpitReportFile ["artifacts"] then .ok (asBytes printedText)
    else .ok (asBytes (sampleText "" "5")) := rfl

theorem document_printedText : gateLibraries.lib.document (asBytes printedText) =
    some (reportDocument (sampleText "" "5") (sampleDocument [] 5)) := by
  have hdocument : ∀ bytes : Bytes, bytes.getLast? = some 10 →
      gateLibraries.lib.document bytes =
        some (reportDocument (sampleText "" "5") (sampleDocument [] 5)) := fun _ h => if_pos h
  refine hdocument _ ?_
  rw [printedText, getLast?_asBytes_newline]

theorem validateCockpitSchema_printedText :
    validateCockpitSchema gateLibraries.toConformLibraries printedText = .ok [] := by
  rw [validateCockpitSchema, Libraries.valueFromSlice, document_printedText]
  rfl

theorem cockpitPasses_gateTree : CockpitPasses gateLibraries gateTree ["artifacts"] .all
    ⟨true, false, true⟩ := by
  refine ⟨printedText, FileSystem.readToString_of_read ((read_gateTree _).trans (if_pos rfl)),
    validateCockpitSchema_printedText, fun _ => ?_⟩
  rw [readReport, document_printedText]
  exact ⟨_, rfl, fun _ => rfl, fun _ => rfl⟩

theorem sensorPasses_gateTree : SensorPasses gateLibraries gateTree .all ⟨true, false, true⟩
    ⟨["artifacts", "lint"], "lint"⟩ :=
  .conforms (sampleText "" "5") rfl
    (FileSystem.readToString_of_read ((read_gateTree _).trans (if_neg (by decide)))) rfl

/-- A directory with one conforming receipt and a report that passes. -/
theorem checkDir_gateTree :
    (checkDir gateLibraries gateTree ["artifacts"] .all ⟨true, false, true⟩).1 = .ok () := by
  refine (@checkDir_exact gateLibraries gateTree ["artifacts"] .all ⟨true, false, true⟩ gateEntries
    rfl rfl).1.mpr ⟨fun entry hentry _ hname => ?_, fun _ _ => cockpitPasses_gateTree⟩
  rcases List.mem_pair.mp hentry with rfl | rfl
  · exact sensorPasses_gateTree
  · exact absurd rfl hname

end Cockpitctl
