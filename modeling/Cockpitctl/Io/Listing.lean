import Mathlib.Data.Finset.Card
import Mathlib.Data.Finset.Filter
import Cockpitctl.Io.Discovery

/-!
# Discovery and the order of a listing

The file system lists the entries of the artifacts directory in any order. Discovery sorts what it
collected before it cuts it, so that the sensors it returns are the smallest identifiers that are
there.

## Main definitions

* `FileSystem.withListing`: a file tree whose directory lists the given entries
* `foundIds`: the identifiers of the sensors among some entries
* `Discovers`: what discovery returns for some entries

## Main results

* `discovers_discoveryOf`: discovery returns the smallest identifiers
* `discoveredSensors_withListing`: whatever the order of the listing
-/

namespace Cockpitctl

/-- The file tree, with a directory that lists the given entries in the given order. -/
def FileSystem.withListing (fs : FileSystem) (dir : Path) (es : List DirEntry) : FileSystem :=
  { fs with readDir := fun p => if p = dir then .ok (es.map .ok) else fs.readDir p }

/-- The identifiers of the sensors among some entries: the valid names, other than that of the
output directory, of directories with a report. -/
def foundIds (fs : FileSystem) (layout : FsLayout) (es : List DirEntry) : Finset String :=
  (sensorNames fs layout es).toFinset

/-- What discovery returns for some entries: the smallest identifiers, in ascending order, the
number of all of them, and the invalid names of directories. -/
structure Discovers (fs : FileSystem) (layout : FsLayout) (es : List DirEntry)
    (d : DiscoveredSensors) : Prop where
  ascending : d.sensors.Pairwise (· < ·)
  smallest : ∀ id, id ∈ d.sensors ↔ id ∈ foundIds fs layout es ∧
    ((foundIds fs layout es).filter (· < id)).card < layout.maxReceipts
  total : d.totalFound = (foundIds fs layout es).card
  truncated : d.truncated = true ↔ layout.maxReceipts < d.totalFound
  sorted : d.invalidSensorIds.Pairwise (· ≤ ·)
  invalid : d.invalidSensorIds.Perm
    ((es.filter fun e => fs.isDir e.path && !isValidSensorId e.fileName).map DirEntry.fileName)

section Listing

variable {fs : FileSystem} {layout : FsLayout} {es es' : List DirEntry}

/-- Entries with distinct valid names have distinct sensors. -/
theorem nodup_sensorNames (honce : ((es.map DirEntry.fileName).filter isValidSensorId).Nodup) :
    (sensorNames fs layout es).Nodup := by
  rw [List.filter_map] at honce
  refine honce.sublist (List.Sublist.map _ ?_)
  refine List.monotone_filter_right es fun e hsensor => ?_
  simp only [isSensorEntry, Bool.and_eq_true] at hsensor
  exact hsensor.1.2

/-- The name of the output directory is a valid one. -/
theorem isInvalidEntry_eq (e : DirEntry) :
    isInvalidEntry fs e = (fs.isDir e.path && !isValidSensorId e.fileName) := by
  have hcockpit : isValidSensorId "cockpit" = true := by decide
  unfold isInvalidEntry DirEntry.isVisible
  by_cases h : e.fileName = "cockpit"
  · simp [h, hcockpit]
  · simp [h]

/-- **Discovery returns the smallest identifiers.** -/
theorem discovers_discoveryOf
    (honce : ((es.map DirEntry.fileName).filter isValidSensorId).Nodup) :
    Discovers fs layout es
      (discoveryOf layout (sensorNames fs layout es) (invalidNames fs es)) := by
  have hnodup : (sensorNames fs layout es).Nodup := nodup_sensorNames honce
  have hlength : (KeyOrder.sortByKey id (sensorNames fs layout es)).length =
      (foundIds fs layout es).card :=
    (KeyOrder.sortByKey_perm id _).length_eq.trans (List.toFinset_card_of_nodup hnodup).symm
  refine ⟨?_, fun name => ?_, hlength, decide_eq_true_iff, ?_, ?_⟩
  · exact (KeyOrder.pairwise_lt_sortByKey_id hnodup).sublist (List.take_sublist _ _)
  · -- The list is cut after it was sorted.
    have hfilter : (foundIds fs layout es).filter (· < name) =
        ((sensorNames fs layout es).filter fun b => b < name).toFinset := by
      ext b
      simp [foundIds]
    have hbelow : ((foundIds fs layout es).filter (· < name)).card =
        (sensorNames fs layout es).countP fun b => b < name := by
      rw [hfilter, List.toFinset_card_of_nodup (hnodup.filter _), List.countP_eq_length_filter]
    rw [hbelow, foundIds, List.mem_toFinset]
    exact KeyOrder.mem_take_sortByKey_id_iff hnodup
  · have hsorted := KeyOrder.pairwise_sortByKey id (invalidNames fs es)
    rwa [List.map_id] at hsorted
  · refine (KeyOrder.sortByKey_perm id _).trans (List.Perm.of_eq ?_)
    rw [invalidNames, funext isInvalidEntry_eq]

/-- The listing decides neither which paths are directories nor which exist. -/
theorem fsDiscoveredSensors_withListing (hexists : fs.pathExists layout.artifactsDir = true) :
    fsDiscoveredSensors (fs.withListing layout.artifactsDir es) layout =
      .ok (discoveryOf layout (sensorNames fs layout es) (invalidNames fs es)) :=
  fsDiscoveredSensors_eq_ok_iff.mpr (.inr ⟨hexists, es, if_pos rfl, rfl⟩)

/-- **Discovery does not depend on the order of the listing**, and returns the smallest
identifiers. -/
theorem discoveredSensors_withListing (hexists : fs.pathExists layout.artifactsDir = true)
    (honce : ((es.map DirEntry.fileName).filter isValidSensorId).Nodup) :
    ∃ d, Discovers fs layout es d ∧ ∀ es' : List DirEntry, es'.Perm es →
      (FsReceiptSource (fs.withListing layout.artifactsDir es') layout).discoveredSensors =
        .ok d := by
  refine ⟨_, discovers_discoveryOf honce, fun es' hperm => ?_⟩
  show fsDiscoveredSensors _ layout = _
  rw [fsDiscoveredSensors_withListing hexists]
  congr 1
  exact discoveryOf_eq_of_perm ((hperm.filter _).map _) ((hperm.filter _).map _)

end Listing

/-- A layout that processes one receipt. -/
def oneReceiptLayout : FsLayout :=
  { FsLayout.new ["artifacts"] ["cockpit.toml"] with maxReceipts := 1 }

/-- A tree of directories with reports. -/
def reportsTree : FileSystem where
  pathExists _ := true
  isDir _ := true
  canonicalize := .ok
  readDir _ := .ok []
  metadataLen _ := .ok 0
  read _ := .ok []
  currentDir := .ok ["/"]

/-- Two sensors, the output directory and an invalid name. -/
def reportsEntries : List DirEntry :=
  ["test", "lint", "cockpit", "no.id"].map fun name => ⟨["artifacts", name], name⟩

/-- Only the smaller one is processed, in whatever order they are listed. -/
theorem discoveredSensors_reports : ∃ d, Discovers reportsTree oneReceiptLayout reportsEntries d ∧
    ∀ es' : List DirEntry, es'.Perm reportsEntries →
      (FsReceiptSource (reportsTree.withListing ["artifacts"] es')
        oneReceiptLayout).discoveredSensors = .ok d :=
  @discoveredSensors_withListing reportsTree oneReceiptLayout reportsEntries rfl (by decide)

end Cockpitctl
