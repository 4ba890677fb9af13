import Cockpitctl.Conform.BeforeRun

/-!
# The commands of the two tools

The checker and the build tool have a command that checks one receipt and a command that checks a
directory. They agree with each other, and the second command is the first one for every
subdirectory, under its name.

## Main definitions

* `checkDeterminism`, `checkReport`: the checks of one receipt
* `check`, `conform`: the command on one receipt, of both tools
* `conformctlMainEntry`, `xtaskMainEntry`: the exit status of the tools

## Main results

* `checkReport_eq_ok_iff`: which receipts the command accepts
* `mainEntry_checkDir_iff`: which directories both tools accept
-/

namespace Cockpitctl

open Effect

/-- All checks are enabled when all of them are asked for. -/
def ConformChecks.withAll (checks : ConformChecks) (all : Bool) : ConformChecks where
  pathHygiene := checks.pathHygiene || all
  ordering := checks.ordering || all
  reasonLint := checks.reasonLint || all
  survivability := checks.survivability || all
  toolErrorIdentity := checks.toolErrorIdentity || all
  sensorIdFormat := checks.sensorIdFormat || all
  artifactPointers := checks.artifactPointers || all

/-- The options of the command on one receipt. -/
structure CheckOptions where
  report : Path
  golden : Option Path := none
  sensorId : Option String := none
  checks : ConformChecks
  all : Bool := false

/-- Compare a report with the golden one. -/
def checkDeterminism (actual expected : String) : Option String :=
  if actual ≠ expected then some "report does not match golden file" else none

section Commands

variable (tool : DirTool) (libs : DirLibraries) (fs : FileSystem)

/-- A part of a command that prints lines. -/
def printed (lines : List String) : Effect (List String) Error Unit := .modify (· ++ lines)

/-- Compare the content of a report with the golden file, if there is one. -/
def checkGolden (opts : CheckOptions) (content : String) : Effect (List String) Error Unit :=
  match opts.golden with
  | none => pure ()
  | some golden => do
    let goldenContent ← .lift <|
      (fs.readToString golden).context s!"read golden {displayPath golden}"
    match checkDeterminism content goldenContent with
    | some msg =>
      printed [s!"  FAIL: {msg}", s!"    golden: {displayPath golden}",
        s!"    actual: {displayPath opts.report}"]
      .fail ["determinism check failed: report differs from golden"]
    | none => printed ["  ok: determinism check passed (matches golden)"]

/-- Check one receipt. -/
def checkReport (opts : CheckOptions) : Effect (List String) Error Unit :=
  if (opts.checks.ordering || opts.all) && opts.sensorId.isNone then
    .fail ["--ordering requires --sensor-id"]
  else do
    printed [s!"conformance check: {displayPath opts.report}"]
    let content ← .lift <|
      (fs.readToString opts.report).context s!"read {displayPath opts.report}"
    checkGolden fs opts content
    let checks := opts.checks.withAll opts.all
    let result ← .lift <|
      conformSingle libs.toConformLibraries content (opts.sensorId.getD "unknown") checks
    printed (tool.printed result checks)
    if !result.isPass then
      .fail [s!"conformance failed with {result.violations.length} violation(s)"]
    else printed ["conformance: PASS"]

/-- The command of the checker on one receipt. -/
def check (opts : CheckOptions) : Result Unit × List String :=
  checkReport conformctl libs fs opts []

/-- The command of the build tool on one receipt. -/
def conform (opts : CheckOptions) : Result Unit × List String :=
  checkReport xtask libs fs opts []

/-- A command on one receipt or on a directory. -/
inductive ConformCommand where
  | one (opts : CheckOptions)
  | directory (dir : Path) (checks : ConformChecks) (all : Bool) (flags : DirFlags)

/-- The flags of the gate, of which one is set with all checks. -/
def DirFlags.withAll (flags : DirFlags) (all : Bool) : DirFlags :=
  { flags with presenceSemantics := flags.presenceSemantics || all }

/-- Run a command of the checker. -/
def conformctlRun : ConformCommand → Result Unit × List String
  | .one opts => check libs fs opts
  | .directory dir checks all flags =>
    checkDir libs fs dir (checks.withAll all) (flags.withAll all)

/-- Run a command of the build tool. -/
def xtaskRun : ConformCommand → Result Unit × List String
  | .one opts => conform libs fs opts
  | .directory dir checks all flags =>
    conformDir libs fs dir (checks.withAll all) (flags.withAll all)

/-- The exit status of a tool, and what it prints: 1 with an error, and otherwise 0. -/
def toolMainEntry (name : String) : Result Unit × List String → ℤ × List String
  | (.error e, lines) => (1, lines ++ [s!"{name} error: {errorChain e}"])
  | (.ok (), lines) => (0, lines)

/-- The checker. -/
def conformctlMainEntry (command : ConformCommand) : ℤ × List String :=
  toolMainEntry "conformctl" (conformctlRun libs fs command)

/-- The build tool. -/
def xtaskMainEntry (command : ConformCommand) : ℤ × List String :=
  toolMainEntry "xtask" (xtaskRun libs fs command)

end Commands

section

variable {tool : DirTool} {libs : DirLibraries} {fs : FileSystem} {opts : CheckOptions}
  {content : String} {lines lines' : List String}

theorem toolMainEntry_eq_zero_iff {name : String} {run : Result Unit × List String} :
    (toolMainEntry name run).1 = 0 ↔ run.1 = .ok () := by
  rcases run with ⟨e | _, lines⟩
  · exact iff_of_false Int.one_ne_zero nofun
  · exact iff_of_true rfl rfl

theorem toolMainEntry_fst_eq {name name' : String} {run run' : Result Unit × List String}
    (h : run.1 = .ok () ↔ run'.1 = .ok ()) :
    (toolMainEntry name run).1 = (toolMainEntry name' run').1 := by
  rcases run with ⟨e | _, lines⟩ <;> rcases run' with ⟨e' | _, lines'⟩
  · rfl
  · cases h.mpr rfl
  · cases h.mp rfl
  · rfl

theorem fst_eq_ok_iff {x : Effect (List String) Error Unit} :
    (x lines).1 = .ok () ↔ ∃ lines', x lines = (.ok (), lines') := by
  constructor
  · intro h
    exact ⟨(x lines).2, Prod.ext h rfl⟩
  · rintro ⟨lines', h⟩
    rw [h]

/-- The comparison succeeds when there is no golden file, or it holds the same text. -/
theorem checkGolden_eq_ok_iff : (checkGolden fs opts content lines).1 = .ok () ↔
    ∀ golden ∈ opts.golden, fs.readToString golden = .ok content := by
  rw [fst_eq_ok_iff]
  unfold checkGolden
  cases opts.golden with
  | none => exact iff_of_true ⟨lines, rfl⟩ nofun
  | some golden =>
    constructor
    · rintro ⟨lines', h⟩ golden' hgolden
      obtain rfl := Option.mem_some_iff.mp hgolden
      obtain ⟨goldenContent, _, hlift, h⟩ := bind_eq_ok_iff.mp h
      obtain ⟨hread, rfl⟩ := lift_eq_ok_iff.mp hlift
      unfold checkDeterminism at h
      by_cases hsame : content = goldenContent
      · rw [hsame]
        exact Result.context_eq_ok.mp hread
      · rw [if_pos hsame] at h
        obtain ⟨_, _, -, hfail⟩ := bind_eq_ok_iff.mp h
        exact absurd hfail fail_ne_ok
    · intro h
      have hsame : checkDeterminism content content = none := if_neg (not_not_intro rfl)
      refine ⟨lines ++ ["  ok: determinism check passed (matches golden)"], ?_⟩
      refine (bind_of_ok (lift_eq_ok_iff.mpr
        ⟨Result.context_eq_ok.mpr (h golden rfl), rfl⟩)).trans ?_
      rw [hsame]
      rfl

/-- **A receipt is accepted** when it is read, is the same as the golden one, and has no violation
of the checks that are enabled, under an identifier that is given if one of them needs it. -/
theorem checkReport_eq_ok_iff : (checkReport tool libs fs opts lines).1 = .ok () ↔
    (opts.checks.ordering = true ∨ opts.all = true → opts.sensorId.isSome = true) ∧
      ∃ content, fs.readToString opts.report = .ok content ∧
        (∀ golden ∈ opts.golden, fs.readToString golden = .ok content) ∧
        conformSingle libs.toConformLibraries content (opts.sensorId.getD "unknown")
          (opts.checks.withAll opts.all) = .ok ⟨[]⟩ := by
  have hneeds : ((opts.checks.ordering || opts.all) && opts.sensorId.isNone) = true ↔
      ¬ (opts.checks.ordering = true ∨ opts.all = true → opts.sensorId.isSome = true) := by
    cases opts.checks.ordering <;> cases opts.all <;> cases opts.sensorId <;> simp
  unfold checkReport
  by_cases hid : ((opts.checks.ordering || opts.all) && opts.sensorId.isNone) = true
  · rw [if_pos hid]
    exact iff_of_false nofun fun h => hneeds.mp hid h.1
  rw [if_neg hid, and_iff_right (not_not.mp (hneeds.not.mp hid)), fst_eq_ok_iff]
  constructor
  · rintro ⟨lines', h⟩
    obtain ⟨_, _, -, h⟩ := bind_eq_ok_iff.mp h
    obtain ⟨content, _, hlift, h⟩ := bind_eq_ok_iff.mp h
    obtain ⟨hread, rfl⟩ := lift_eq_ok_iff.mp hlift
    obtain ⟨_, _, hgolden, h⟩ := bind_eq_ok_iff.mp h
    obtain ⟨result, _, hlift, h⟩ := bind_eq_ok_iff.mp h
    obtain ⟨hresult, rfl⟩ := lift_eq_ok_iff.mp hlift
    obtain ⟨_, _, -, h⟩ := bind_eq_ok_iff.mp h
    split_ifs at h with hpass
    · exact absurd h fail_ne_ok
    · rw [Bool.not_eq_true, Bool.not_eq_false', ConformResult.isPass_iff] at hpass
      rw [hpass] at hresult
      exact ⟨content, Result.context_eq_ok.mp hread,
        checkGolden_eq_ok_iff.mp (congrArg Prod.fst hgolden), hresult⟩
  · rintro ⟨content, hread, hgolden, hresult⟩
    obtain ⟨lines', hcompared⟩ := fst_eq_ok_iff.mp (@checkGolden_eq_ok_iff fs opts content
      (lines ++ [s!"conformance check: {displayPath opts.report}"]) |>.mpr hgolden)
    have hprinted : printed [s!"conformance check: {displayPath opts.report}"] lines =
        (.ok (), lines ++ [s!"conformance check: {displayPath opts.report}"]) := rfl
    exact ⟨_, (bind_of_ok hprinted).trans <| (bind_of_ok (lift_eq_ok_iff.mpr
      ⟨Result.context_eq_ok.mpr hread, rfl⟩)).trans <| (bind_of_ok hcompared).trans <|
      (bind_of_ok (lift_eq_ok_iff.mpr ⟨hresult, rfl⟩)).trans rfl⟩

/-- **Both tools end alike**, on receipts and on directories. -/
theorem xtaskMainEntry_fst_eq (command : ConformCommand) :
    (xtaskMainEntry libs fs command).1 = (conformctlMainEntry libs fs command).1 := by
  apply toolMainEntry_fst_eq
  cases command with
  | one opts => exact checkReport_eq_ok_iff.trans checkReport_eq_ok_iff.symm
  | directory dir checks all flags =>
    show (dirGate xtask libs fs dir _ _ {}).1 = _ ↔ (dirGate conformctl libs fs dir _ _ {}).1 = _
    rw [dirGate_fst_congr]

/-- **A directory is accepted**, by both tools, exactly when the command on one receipt accepts the
receipt of every subdirectory under its name, unless there is none and none is needed, and the
report of the cockpit passes, if it is there and asked for. -/
theorem mainEntry_checkDir_iff {dir : Path} {es : List DirEntry} {checks : ConformChecks}
    {all : Bool} {flags : DirFlags} (hexists : fs.pathExists dir = true)
    (hlist : fs.readDir dir = .ok (es.map .ok))
    (hmissing : ∀ p content, fs.readToString p = .ok content → fs.pathExists p = true) :
    (∀ command, (xtaskMainEntry libs fs command).1 = (conformctlMainEntry libs fs command).1) ∧
    ((conformctlMainEntry libs fs (.directory dir checks all flags)).1 = 0 ↔
      (∀ e ∈ fs.directoriesIn es,
        (flags.allowMissingReport = true ∧ fs.pathExists e.report = false) ∨
        (conformctlMainEntry libs fs (.one
          { report := e.report, sensorId := some e.fileName, checks, all })).1 = 0) ∧
      (flags.validateCockpit = true → fs.pathExists (cockpitReportFile dir) = true →
        CockpitPasses libs fs dir (checks.withAll all) (flags.withAll all))) := by
  refine ⟨fun command => xtaskMainEntry_fst_eq command, ?_⟩
  rw [conformctlMainEntry, toolMainEntry_eq_zero_iff]
  show (dirGate conformctl libs fs dir _ _ {}).1 = .ok () ↔ _
  rw [dirGate_eq_ok_iff hexists hlist, dirPasses_iff]
  refine and_congr (forall₂_congr fun e _ => ?_) Iff.rfl
  rw [conformctlMainEntry, toolMainEntry_eq_zero_iff]
  show _ ↔ _ ∨ (checkReport conformctl libs fs _ []).1 = .ok ()
  rw [checkReport_eq_ok_iff]
  constructor
  · rintro (⟨content, hfound, hread, hpasses⟩ | ⟨hnone, hallowed⟩)
    · exact Or.inr ⟨fun _ => rfl, content, hread, nofun, hpasses⟩
    · exact Or.inl ⟨hallowed, hnone⟩
  · rintro (⟨hallowed, hnone⟩ | ⟨-, content, hread, -, hpasses⟩)
    · exact .missing hnone hallowed
    · exact .conforms content (hmissing _ _ hread) hread hpasses

/-- What is read of a tree of given files is there. -/
theorem pathExists_of_read_fileTree {files : List (Path × Bytes)} {p : Path} {content : String}
    (h : (fileTree files).readToString p = .ok content) : (fileTree files).pathExists p = true := by
  have hread := FileSystem.read_of_readToString h
  unfold fileTree at hread
  dsimp only at hread
  cases hlookup : files.lookup p with
  | none =>
    rw [hlookup] at hread
    cases hread
  | some bytes =>
    obtain ⟨key, hmem, hkey⟩ := List.lookup_isSome_iff.mp (Option.isSome_of_eq_some hlookup)
    apply List.any_eq_true.mpr
    refine ⟨key, hmem, List.isPrefixOf_iff_prefix.mpr ?_⟩
    rw [beq_iff_eq.mp hkey]

/-- Both tools accept the directory with one conforming receipt. -/
theorem mainEntry_checkDir_receipt :
    (conformctlMainEntry receiptGateLibraries receiptTree
      (.directory ["artifacts"] ⟨false, false, false, false, false, false, false⟩ true
        ⟨false, false, false⟩)).1 = 0 ∧
    (xtaskMainEntry receiptGateLibraries receiptTree
      (.directory ["artifacts"] ⟨false, false, false, false, false, false, false⟩ true
        ⟨false, false, false⟩)).1 = 0 := by
  obtain ⟨hsame, haccepts⟩ := @mainEntry_checkDir_iff receiptGateLibraries receiptTree ["artifacts"]
    [⟨["artifacts", "lint"], "lint"⟩] ⟨false, false, false, false, false, false, false⟩ true
    ⟨false, false, false⟩ rfl rfl fun _ _ => pathExists_of_read_fileTree
  rw [hsame]
  refine and_self_iff.mpr (haccepts.mpr ⟨fun e he => Or.inr ?_, nofun⟩)
  obtain rfl := List.mem_singleton.mp (List.mem_filter.mp he).1
  rfl

end

end Cockpitctl
