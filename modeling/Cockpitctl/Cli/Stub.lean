import Cockpitctl.Cli.Ingest
import Cockpitctl.Ingest.Stub

/-!
# In-memory file trees

File trees given by their files, and libraries and processes for running the command over them.

## Main definitions

* `fileTree`: the tree of given files
* `stubVolume`: a volume on which every path leads to a file of its own
* `stubEnv`: an actuator that does nothing, and no configuration
* `planDocument`: a plan with one fix, whose reference carries no identifier
* `autoApplyOptions`: auto-apply is turned on for an actuator

## Main results

* `displayPath_eq_of_place`: on that volume, paths that lead to one file have one text
-/

namespace Cockpitctl

/-- The tree of given files. -/
def fileTree (files : List (Path × Bytes)) : FileSystem where
  pathExists path := files.any fun f => path.isPrefixOf f.1
  isDir path := files.any fun f => path.isPrefixOf f.1 && path != f.1
  canonicalize path :=
    if files.any fun f => path.isPrefixOf f.1 then .ok ("/" :: path)
    else .error ["No such file or directory"]
  readDir path :=
    let names := files.filterMap fun f =>
      if path.isPrefixOf f.1 then f.1[path.length]? else none
    .ok (names.dedup.map fun name => .ok ⟨path ++ [name], name⟩)
  metadataLen path :=
    match files.lookup path with
    | some bytes => .ok (UInt64.ofNat bytes.length)
    | none => .error ["No such file or directory"]
  read path :=
    match files.lookup path with
    | some bytes => .ok bytes
    | none => .error ["No such file or directory"]
  currentDir := .ok ["/"]

/-- A volume on which every path leads to a file of its own, and which refuses nothing. -/
def stubVolume : Volume where
  place path := (displayPath path).toList.foldl (fun n c => n * 0x110001 + c.toNat + 1) 0
  refusal _ _ := none

theorem toNat_lt_of_valid (c : Char) : c.toNat < 0x110000 := by
  have hvalid := c.valid
  simp only [UInt32.isValidChar, Nat.isValidChar] at hvalid
  show c.val.toNat < 0x110000
  omega

/-- Different texts have different numbers: the digits of a number are the characters of a text. -/
theorem foldl_chars_injective {cs cs' : List Char}
    (h : cs.foldl (fun n c => n * 0x110001 + c.toNat + 1) 0 =
      cs'.foldl (fun n c => n * 0x110001 + c.toNat + 1) 0) : cs = cs' := by
  induction cs using List.reverseRecOn generalizing cs' with
  | nil =>
    rcases List.eq_nil_or_concat cs' with rfl | ⟨cs', c', rfl⟩
    · rfl
    · rw [List.concat_eq_append, List.foldl_concat, List.foldl_nil] at h
      omega
  | append_singleton cs c ih =>
    rcases List.eq_nil_or_concat cs' with rfl | ⟨cs', c', rfl⟩
    · rw [List.foldl_concat, List.foldl_nil] at h
      omega
    · rw [List.concat_eq_append, List.foldl_concat, List.foldl_concat] at h
      -- The last characters are the last digits.
      have hc := toNat_lt_of_valid c
      have hc' := toNat_lt_of_valid c'
      have hlast : c.toNat = c'.toNat := by omega
      rw [List.concat_eq_append, Char.toNat_inj.mp hlast, @ih cs' (by omega)]

/-- On that volume, paths that lead to one file have one text. -/
theorem displayPath_eq_of_place {p q : Path} (h : stubVolume.place p = stubVolume.place q) :
    displayPath p = displayPath q :=
  String.toList_inj.mp (foldl_chars_injective h)

/-- The command with given libraries, an actuator that does nothing, and no configuration. -/
def stubEnv (lib : Libraries) : CliEnv where
  lib
  schemas := stubSchemas
  fromToml _ := .error "no configuration"
  toVec _ := .ok []
  toStringPretty _ := .ok ""
  environment _ := .error ["environment variable not found"]
  actuator _ _ _ fs := (.exited true "exit status: 0" [], fs)
  runHooks _ _ := pure []
  volume := stubVolume
  version := "0.1.0"
  gitSha := none
  now := "2026-01-01T00:00:00Z"

/-- A plan with one fix, whose reference to the sensor carries no identifier. -/
def planDocument (sensorId : String) : Json := .object
  [("schema", .string "buildfix.plan.v1"),
    ("tool", .object [("name", .string "fixer"), ("version", .string "1.0.0")]),
    ("fixes", .array [.object [("id", .string "F1"), ("safety", .string "safe"),
      ("description", .string "remove it"),
      ("finding_refs", .array [.object [("sensor_id", .string sensorId)]])]])]

/-- Auto-apply is turned on for an actuator. -/
def autoApplyOptions : IngestOptions where
  buildfixAutoApply := true
  buildfixActuator := some "fixer"

/-- The tree of a sensor with a receipt and a plan. -/
def plannedTree (receipt : String) : FileSystem :=
  fileTree [(["artifacts", "lint", "report.json"], asBytes receipt),
    (["artifacts", "lint", "plan.json"], asBytes "plan")]

/-- Libraries that read that plan and one receipt. -/
def plannedLibraries : Libraries :=
  stubLibraries [(asBytes "receipt", sampleDocument [] 1), (asBytes "plan", planDocument "lint")]

end Cockpitctl
