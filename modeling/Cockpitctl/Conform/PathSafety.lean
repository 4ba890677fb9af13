import Cockpitctl.Conform.Ordering
import Cockpitctl.Lib.Text

/-!
# Where checked paths lead

The path checks look at the text of a path: how it starts, and whether two dots stand in it. A
path that passes either check leads to a place at or below the directory that it is joined to,
and so does every prefix of its components.

## Main definitions

* `Place`, `Place.join`: places in a file system, and the place of a path joined to a directory
* `StaysBelow`: a path leads nowhere above the directory that it is joined to

## Main results

* `checkPathHygiene_eq_nil_iff`, `checkArtifactPointers_eq_nil_iff`: when the checks pass
* `paths_stayBelow`: the paths of a checked report stay below
-/

namespace Cockpitctl

/-! ## Places -/

/-- A directory or a file: its drive, if any, and the names that lead to it from the top. -/
structure Place where
  drive : Option Char
  names : List String
deriving DecidableEq

/-- The place is the directory itself, or lies below it. -/
structure Place.AtOrBelow (place root : Place) : Prop where
  drive : place.drive = root.drive
  names : root.names <+: place.names

/-- Both separators are taken for such. -/
def isSeparator (c : Char) : Bool := c == '/' || c == '\\'

/-- The components of a path, empty ones included. -/
def components (path : List Char) : List String := (Text.parts isSeparator path).map String.ofList

/-- Follow a component: empty ones and single dots are dropped, two dots lead up. -/
def follow (names : List String) (component : String) : List String :=
  if component = "" ∨ component = "." then names
  else if component = ".." then names.dropLast
  else names ++ [component]

/-- The path starts at the top. -/
def isAbsolute (path : String) : Bool :=
  match path.toList with
  | c :: _ => isSeparator c
  | [] => false

/-- The drive that the path names. -/
def driveLetter (path : String) : Option Char :=
  match path.toList with
  | c :: ':' :: _ => if c.isAlpha then some c else none
  | _ => none

/-- The place of a path that is joined to a directory. A path with a drive does not start from the
directory, nor does one that starts at the top. -/
def Place.join (root : Place) (path : String) : Place :=
  match driveLetter path with
  | some c => ⟨some c, (components (path.toList.drop 2)).foldl follow []⟩
  | none =>
    if isAbsolute path then ⟨root.drive, (components path.toList).foldl follow []⟩
    else ⟨root.drive, (components path.toList).foldl follow root.names⟩

/-- The path leads nowhere above the directory that it is joined to, whichever that is, and no
prefix of its components does. -/
structure StaysBelow (path : String) : Prop where
  relative : isAbsolute path = false
  unqualified : driveLetter path = none
  below : ∀ root : Place, (root.join path).AtOrBelow root
  prefixes : ∀ (names cs : List String), cs <+: components path.toList →
    names <+: cs.foldl follow names

example : (Place.join ⟨none, ["r"]⟩ "a/./b\\..//c") = ⟨none, ["r", "a", "c"]⟩ := by decide

/-! ## Paths without two dots -/

section Components

variable {names cs : List String} {path : String}

/-- A component other than two dots does not lead up. -/
theorem prefix_follow {component : String} (h : component ≠ "..") :
    names <+: follow names component := by
  unfold follow
  split_ifs
  · exact List.prefix_rfl
  · exact List.prefix_append names [component]

/-- **Without two dots** among its components, nothing leads up. -/
theorem prefix_foldl_follow (h : ".." ∉ cs) : names <+: cs.foldl follow names := by
  induction cs generalizing names with
  | nil => exact List.prefix_rfl
  | cons c cs ih =>
    rw [List.mem_cons, not_or] at h
    exact (prefix_follow (Ne.symm h.1)).trans (ih h.2)

/-- Two dots are a component of paths only in which they occur. -/
theorem contains_of_mem_components (h : ".." ∈ components path.toList) :
    contains path ".." = true := by
  obtain ⟨part, hpart, heq⟩ := List.mem_map.mp h
  have hdots : part = "..".toList := by rw [← heq, String.toList_ofList]
  rw [contains, hasInfix_iff, ← hdots]
  exact Text.infix_of_mem_parts hpart

/-- A letter is one byte, which is a letter. -/
theorem utf8EncodeChar_of_isAlpha {c : Char} (h : c.isAlpha = true) :
    String.utf8EncodeChar c = [c.toUInt8] ∧ isAsciiAlphabetic c.toUInt8 = true := by
  have hletter : 65 ≤ c.toNat ∧ c.toNat ≤ 90 ∨ 97 ≤ c.toNat ∧ c.toNat ≤ 122 := by
    have hranges : (decide (65 ≤ c.val ∧ c.val ≤ 90) ||
        (decide (97 ≤ c.val) && decide (c.val ≤ 122))) = true := h
    simpa [UInt32.le_iff_toNat_le] using hranges
  have hsize : c.utf8Size = 1 := by
    rw [Char.utf8Size_eq_one_iff, UInt32.le_iff_toNat_le]
    show c.toNat ≤ 127
    omega
  have hbyte : c.toUInt8.toNat = c.toNat := by
    show c.val.toUInt8.toNat = c.val.toNat
    rw [UInt32.toNat_toUInt8]
    exact Nat.mod_eq_of_lt (show c.toNat < 256 by omega)
  refine ⟨String.utf8EncodeChar_eq_singleton hsize, ?_⟩
  simpa [isAsciiAlphabetic, UInt8.le_iff_toNat_le, hbyte] using hletter

/-- A drive letter is found among the first bytes. -/
theorem startsWithDriveLetter_of_driveLetter {c : Char} (h : driveLetter path = some c) :
    startsWithDriveLetter path = true := by
  unfold driveLetter at h
  split at h
  case h_2 => cases h
  case h_1 d rest hpath =>
    split_ifs at h with halpha
    obtain ⟨hbyte, hletter⟩ := utf8EncodeChar_of_isAlpha halpha
    have hcolon : String.utf8EncodeChar ':' = [58] := by decide
    rw [startsWithDriveLetter, asBytes_eq_flatMap, hpath, List.flatMap_cons, List.flatMap_cons,
      hbyte, hcolon]
    simpa using hletter

/-- **A path stays below** when it neither starts at the top or with a drive, nor has two dots. -/
theorem staysBelow_of_checks (hstart : startsWithSeparator path = false)
    (hdrive : startsWithDriveLetter path = false) (hdots : contains path ".." = false) :
    StaysBelow path := by
  have hunqualified : driveLetter path = none := by
    rw [Option.eq_none_iff_forall_ne_some]
    intro c hc
    rw [startsWithDriveLetter_of_driveLetter hc] at hdrive
    cases hdrive
  have hnone : ".." ∉ components path.toList := fun hmem => by
    rw [contains_of_mem_components hmem] at hdots
    cases hdots
  refine ⟨hstart, hunqualified, fun root => ?_, fun names cs hcs => ?_⟩
  · unfold Place.join
    rw [hunqualified, show isAbsolute path = false from hstart]
    exact ⟨rfl, prefix_foldl_follow hnone⟩
  · exact prefix_foldl_follow fun hmem => hnone (hcs.subset hmem)

end Components

/-! ## The checks -/

/-- The hygiene check passes when the paths of the findings do. -/
theorem checkPathHygiene_eq_nil_iff {report : SensorReport} : checkPathHygiene report = [] ↔
    ∀ f ∈ report.findings, ∀ path ∈ f.location.bind Location.path,
      startsWithSeparator path = false ∧ startsWithDriveLetter path = false ∧
        contains path ".." = false ∧ contains path "\\" = false := by
  refine flatMap_zipIdx_eq_nil_iff fun f i => ?_
  dsimp only
  cases f.location.bind Location.path with
  | none => simp
  | some path =>
    cases hstart : startsWithSeparator path <;> cases hdrive : startsWithDriveLetter path <;>
      simp [hstart, hdrive]

/-- The check of artifacts passes when their identifiers, paths and types do. -/
theorem checkArtifactPointers_eq_nil_iff {report : SensorReport} :
    checkArtifactPointers report = [] ↔ ∀ a ∈ report.artifacts,
      a.id ≠ "" ∧ (a.path ≠ "" ∧ contains a.path ".." = false ∧
        startsWithSeparator a.path = false ∧ startsWithDriveLetter a.path = false) ∧
        a.mime ≠ "" := by
  refine flatMap_zipIdx_eq_nil_iff fun a i => ?_
  by_cases hid : a.id = "" <;> by_cases hpath : a.path = "" <;> by_cases hmime : a.mime = "" <;>
    simp [hid, hpath, hmime]

/-- **The paths of a checked report** lead nowhere above the directory that they are joined to. -/
theorem paths_stayBelow {report : SensorReport} (hfindings : checkPathHygiene report = [])
    (hartifacts : checkArtifactPointers report = []) :
    (∀ f ∈ report.findings, ∀ path ∈ f.location.bind Location.path, StaysBelow path) ∧
      ∀ a ∈ report.artifacts, StaysBelow a.path := by
  constructor
  · intro f hf path hpath
    obtain ⟨hstart, hdrive, hdots, -⟩ := checkPathHygiene_eq_nil_iff.mp hfindings f hf path hpath
    exact staysBelow_of_checks hstart hdrive hdots
  · intro a ha
    obtain ⟨-, ⟨-, hdots, hstart, hdrive⟩, -⟩ :=
      checkArtifactPointers_eq_nil_iff.mp hartifacts a ha
    exact staysBelow_of_checks hstart hdrive hdots

/-- A report with an artifact. -/
def artifactReport : SensorReport :=
  { sampleReport sampleFindings with
    artifacts := [{ id := "log", path := "out/./log.txt", mime := "text/plain" }] }

/-- The paths of a finding and of an artifact. -/
theorem paths_stayBelow_artifact : StaysBelow "src/a.rs" ∧ StaysBelow "out/./log.txt" := by
  obtain ⟨hfindings, hartifacts⟩ := @paths_stayBelow artifactReport (by decide) (by decide)
  exact ⟨hfindings _ List.mem_cons_self _ rfl, hartifacts _ List.mem_cons_self⟩

end Cockpitctl
