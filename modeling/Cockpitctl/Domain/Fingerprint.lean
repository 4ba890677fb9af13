import Cockpitctl.Domain.Findings
import Cockpitctl.Lib.Text

/-!
# What a derived fingerprint identifies

The text that is hashed ends each identifying field of a finding with a newline, and leaves out
an absent path or line. Fields may contain newlines themselves, and nothing tells a path from a
line number, so findings that differ may have one text.

## Main definitions

* `FindingIdentity`, `identityOf`: what a fingerprint is to identify
* `FindingIdentity.lines`: the lines of the hashed text
* `DividedAlike`: the fields take as many lines

## Main results

* `deriveFingerprint_eq_iff`: fingerprints are equal exactly when the lines are
* `FindingIdentity.lines_eq_iff_of_oneLine`: what is confused when no field has a newline
* `deriveFingerprint_identifies_iff`: when the fingerprints tell two findings apart
-/

namespace Cockpitctl

/-! ## Identities -/

/-- What identifies a finding: its sensor, code and message, and its path and line if present. -/
@[ext] structure FindingIdentity where
  sensorId : String
  code : String
  message : String
  path : Option String
  line : Option UInt32
deriving DecidableEq

/-- What identifies a finding of a sensor. -/
def identityOf (sensorId : String) (finding : Finding) : FindingIdentity where
  sensorId
  code := finding.code
  message := finding.message
  path := finding.location.bind Location.path
  line := finding.location.bind Location.line

/-- The texts of the fields that are present. -/
def FindingIdentity.fields (i : FindingIdentity) : List String :=
  [i.sensorId, i.code, i.message] ++ i.path.toList ++
    (i.line.map fun line => toString line.toNat).toList

/-- The lines of the fields that are present. -/
def FindingIdentity.lines (i : FindingIdentity) : List (List Char) :=
  (i.fields.map String.toList).flatMap (List.splitOn '\n')

/-- The fields take as many lines: the texts have as many newlines, and the same optional fields
are present. -/
structure DividedAlike (i j : FindingIdentity) : Prop where
  sensorId : i.sensorId.toList.count '\n' = j.sensorId.toList.count '\n'
  code : i.code.toList.count '\n' = j.code.toList.count '\n'
  message : i.message.toList.count '\n' = j.message.toList.count '\n'
  path : i.path.isSome = j.path.isSome
  line : i.line.isSome = j.line.isSome

section Lines

variable {sensorId sensorId' : String} {finding finding' : Finding} {i j : FindingIdentity}

/-- The hashed text is that of the fields, each ended by a newline. -/
theorem fingerprintInput_eq :
    fingerprintInput sensorId finding = asBytes (String.ofList
      (Text.terminated '\n' ((identityOf sensorId finding).fields.map String.toList))) := by
  have hfields : fingerprintInput sensorId finding =
      (identityOf sensorId finding).fields.flatMap fingerprintField := by
    simp only [fingerprintInput, FindingIdentity.fields, identityOf]
    rcases finding.location with _ | ⟨_ | path, _ | line, col⟩ <;> simp
  rw [hfields, asBytes_eq_flatMap, String.toList_ofList, Text.terminated, List.flatMap_map,
    List.flatMap_assoc]
  refine List.flatMap_congr fun s _ => ?_
  rw [fingerprintField, asBytes_eq_flatMap, asBytes_eq_flatMap, List.flatMap_append]
  rfl

theorem fingerprintInput_eq_iff :
    fingerprintInput sensorId finding = fingerprintInput sensorId' finding' ↔
      (identityOf sensorId finding).lines = (identityOf sensorId' finding').lines := by
  rw [fingerprintInput_eq, fingerprintInput_eq, asBytes_injective.eq_iff, String.ofList_inj,
    Text.terminated_eq_iff]
  rfl

/-- A number is one line. -/
theorem splitOn_toString (n : ℕ) : (toString n).toList.splitOn '\n' = [(toString n).toList] := by
  refine List.splitOn_eq_singleton fun hmem => ?_
  exact absurd (Text.isDigit_of_mem_toString hmem) (by decide)

/-- The optional fields have the lines of the path and then that of the line number. -/
theorem FindingIdentity.lines_eq (i : FindingIdentity) :
    i.lines = i.sensorId.toList.splitOn '\n' ++ (i.code.toList.splitOn '\n' ++
      (i.message.toList.splitOn '\n' ++ ((i.path.toList.flatMap fun p => p.toList.splitOn '\n') ++
        i.line.toList.map fun n => (toString n.toNat).toList))) := by
  have hnumber : ((i.line.map fun n => toString n.toNat).toList.map String.toList).flatMap
      (List.splitOn '\n') = i.line.toList.map fun n => (toString n.toNat).toList := by
    cases i.line with
    | none => rfl
    | some n =>
      show [(toString n.toNat).toList].flatMap (List.splitOn '\n') = [(toString n.toNat).toList]
      rw [List.flatMap_singleton, splitOn_toString]
  rw [lines, fields, List.map_append, List.flatMap_append, hnumber]
  simp [List.flatMap_map]

/-- The lines and the number of lines of each field determine the fields. -/
theorem FindingIdentity.eq_of_lines_eq (h : i.lines = j.lines) (hdivided : DividedAlike i j) :
    i = j := by
  rw [lines_eq, lines_eq] at h
  obtain ⟨hsensor, h⟩ := Text.splitOn_append_inj h hdivided.sensorId
  obtain ⟨hcode, h⟩ := Text.splitOn_append_inj h hdivided.code
  obtain ⟨hmessage, h⟩ := Text.splitOn_append_inj h hdivided.message
  -- The line number is the last line, and the path is what comes before it.
  obtain ⟨hpath, hline⟩ := List.append_inj' h (by
    rw [List.length_map, List.length_map, Option.length_toList, Option.length_toList,
      hdivided.line])
  ext1
  · exact String.toList_inj.mp hsensor
  · exact String.toList_inj.mp hcode
  · exact String.toList_inj.mp hmessage
  · have hsome := hdivided.path
    rcases hi : i.path with _ | p <;> rcases hj : j.path with _ | q <;>
      simp only [hi, hj, Option.isSome_none, Option.isSome_some, reduceCtorEq] at hsome
    · rfl
    · simp only [hi, hj, Option.toList_some, List.flatMap_singleton] at hpath
      rw [String.toList_inj.mp (Text.splitOn_injective hpath)]
  · have hlist : i.line.toList = j.line.toList := by
      refine List.map_injective_iff.mpr (fun m n hmn => ?_) hline
      exact UInt32.toNat_inj.mp (Text.toString_nat_injective (String.toList_inj.mp hmn))
    refine Option.ext fun n => ?_
    rw [← Option.mem_toList, hlist, Option.mem_toList]

/-- No field has a newline. -/
def FindingIdentity.OneLine (i : FindingIdentity) : Prop := ∀ s ∈ i.fields, '\n' ∉ s.toList

/-- The findings differ in that one has a path, and the other has it as its line number. -/
def FindingIdentity.PathIsLineOf (i j : FindingIdentity) : Prop :=
  ∃ n : UInt32, i.path = some (toString n.toNat) ∧ i.line = none ∧
    j = { i with path := none, line := some n }

/-- Fields without newlines are the lines. -/
theorem FindingIdentity.OneLine.lines_eq (h : i.OneLine) :
    i.lines = i.fields.map String.toList := by
  rw [lines, List.flatMap_map, ← List.flatMap_singleton' (i.fields.map String.toList),
    List.flatMap_map]
  exact List.flatMap_congr fun s hs => List.splitOn_eq_singleton (h s hs)

/-- The fields are equal for a path and for a line number of one text. -/
theorem FindingIdentity.fields_eq_iff :
    i.fields = j.fields ↔ i = j ∨ i.PathIsLineOf j ∨ j.PathIsLineOf i := by
  constructor
  · intro h
    obtain ⟨sensor, code, message, path, line⟩ := i
    obtain ⟨sensor', code', message', path', line'⟩ := j
    simp only [fields, List.cons_append, List.nil_append, List.cons.injEq] at h
    obtain ⟨rfl, rfl, rfl, h⟩ := h
    rcases path with _ | p <;> rcases line with _ | n <;> rcases path' with _ | p' <;>
      rcases line' with _ | n' <;>
      simp only [Option.map_none, Option.map_some, Option.toList_none, Option.toList_some,
        List.nil_append, List.append_nil, List.cons_append, List.cons.injEq, reduceCtorEq,
        and_true, and_false] at h
    · exact Or.inl rfl
    · rw [UInt32.toNat_inj.mp (Text.toString_nat_injective h)]
      exact Or.inl rfl
    · obtain rfl := h
      exact Or.inr (Or.inr ⟨n, rfl, rfl, rfl⟩)
    · obtain rfl := h
      exact Or.inr (Or.inl ⟨n', rfl, rfl, rfl⟩)
    · obtain rfl := h
      exact Or.inl rfl
    · obtain ⟨rfl, h⟩ := h
      rw [UInt32.toNat_inj.mp (Text.toString_nat_injective h)]
      exact Or.inl rfl
  · rintro (rfl | ⟨n, hpath, hline, rfl⟩ | ⟨n, hpath, hline, rfl⟩)
    · rfl
    · simp [fields, hpath, hline]
    · simp [fields, hpath, hline]

/-- **Without newlines** a finding is only confused with one that has its path as line number. -/
theorem FindingIdentity.lines_eq_iff_of_oneLine (hi : i.OneLine) (hj : j.OneLine) :
    i.lines = j.lines ↔ i = j ∨ i.PathIsLineOf j ∨ j.PathIsLineOf i := by
  rw [hi.lines_eq, hj.lines_eq,
    (List.map_injective_iff.mpr fun _ _ => String.toList_inj.mp).eq_iff, fields_eq_iff]

end Lines

/-! ## Fingerprints -/

theorem hexDigit_inj {m n : ℕ} (hm : m < 16) (hn : n < 16) (h : hexDigit m = hexDigit n) :
    m = n := by
  have hread : ∀ k < 16, "0123456789abcdef".toList.idxOf (hexDigit k) = k := by decide
  rw [← hread m hm, h, hread n hn]

/-- Bytes are determined by their hexadecimal encoding. -/
theorem hexEncode_injective : Function.Injective hexEncode := by
  intro a b h
  rw [hexEncode, hexEncode, String.ofList_inj] at h
  induction a generalizing b with
  | nil =>
    cases b with
    | nil => rfl
    | cons y b => simp at h
  | cons x a ih =>
    cases b with
    | nil => simp at h
    | cons y b =>
      simp only [List.flatMap_cons, List.cons_append, List.nil_append, List.cons.injEq] at h
      obtain ⟨hhigh, hlow, hrest⟩ := h
      have hx := x.toNat_lt
      have hy := y.toNat_lt
      have hhigh := hexDigit_inj (by omega) (by omega) hhigh
      have hlow := hexDigit_inj (by omega) (by omega) hlow
      obtain rfl : x = y := UInt8.toNat_inj.mp (by omega)
      rw [ih hrest]

section Fingerprints

variable {sha256 : Bytes → Bytes} {sensorId sensorId' : String} {finding finding' : Finding}

/-- **Fingerprints are equal** exactly when the lines are. -/
theorem deriveFingerprint_eq_iff (hsha : Function.Injective sha256) :
    deriveFingerprint sha256 sensorId finding = deriveFingerprint sha256 sensorId' finding' ↔
      (identityOf sensorId finding).lines = (identityOf sensorId' finding').lines := by
  rw [deriveFingerprint, deriveFingerprint, hexEncode_injective.eq_iff, hsha.eq_iff,
    fingerprintInput_eq_iff]

end Fingerprints

/-- **Fingerprints tell two findings apart** exactly when the findings, if they have the same
lines, divide them alike among their fields. -/
theorem deriveFingerprint_identifies_iff {sha256 : Bytes → Bytes}
    (hsha : Function.Injective sha256) (sensorId sensorId' : String)
    (finding finding' : Finding) :
    (deriveFingerprint sha256 sensorId finding = deriveFingerprint sha256 sensorId' finding' ↔
      identityOf sensorId finding = identityOf sensorId' finding') ↔
      ((identityOf sensorId finding).lines = (identityOf sensorId' finding').lines →
        DividedAlike (identityOf sensorId finding) (identityOf sensorId' finding')) := by
  rw [deriveFingerprint_eq_iff hsha]
  constructor
  · intro h hlines
    rw [h.mp hlines]
    exact ⟨rfl, rfl, rfl, rfl, rfl⟩
  · intro h
    exact ⟨fun hlines => FindingIdentity.eq_of_lines_eq hlines (h hlines),
      congrArg FindingIdentity.lines⟩

/-- A hash function with known digests: any other text is hashed to a longer one. -/
def hashKnowing (known : List (Bytes × Bytes)) (text : Bytes) : Bytes :=
  (known.lookup text).getD (List.replicate 33 0 ++ text)

theorem mem_of_lookup_eq_some {known : List (Bytes × Bytes)} {a d : Bytes}
    (h : known.lookup a = some d) : (a, d) ∈ known := by
  obtain ⟨pre, post, rfl, -⟩ := List.lookup_eq_some_iff.mp h
  simp

theorem hashKnowing_injective {known : List (Bytes × Bytes)}
    (hlength : ∀ p ∈ known, p.2.length = 32) (hnodup : (known.map Prod.snd).Nodup) :
    Function.Injective (hashKnowing known) := by
  intro a b h
  rw [hashKnowing, hashKnowing] at h
  cases ha : known.lookup a with
  | none =>
    cases hb : known.lookup b with
    | none =>
      rw [ha, hb] at h
      exact List.append_cancel_left h
    | some d =>
      have hlen := hlength _ (mem_of_lookup_eq_some hb)
      rw [ha, hb, Option.getD_none, Option.getD_some] at h
      rw [← h, List.length_append, List.length_replicate] at hlen
      omega
  | some d =>
    have hlen := hlength _ (mem_of_lookup_eq_some ha)
    cases hb : known.lookup b with
    | none =>
      rw [ha, hb, Option.getD_none, Option.getD_some] at h
      rw [h, List.length_append, List.length_replicate] at hlen
      omega
    | some e =>
      rw [ha, hb, Option.getD_some, Option.getD_some] at h
      have hpair := List.inj_on_of_nodup_map hnodup (mem_of_lookup_eq_some ha)
        (mem_of_lookup_eq_some hb) h
      exact congrArg Prod.fst hpair

/-- A finding at a path and a line, if present. -/
def locatedFinding (path : Option String) (line : Option UInt32) : Finding where
  severity := .error
  code := "E1"
  message := "broken"
  location := some { path, line }

/-- The digests of two findings: one at path `10`, and one at line 10 of a file. -/
def knownDigests : List (Bytes × Bytes) :=
  [(fingerprintInput "lint" (locatedFinding (some "10") none),
    [140, 136, 97, 129, 85, 234, 98, 144, 196, 152, 186, 13, 245, 129, 132, 255, 39, 237, 51,
      192, 220, 29, 111, 244, 183, 214, 146, 241, 208, 151, 211, 37]),
    (fingerprintInput "lint" (locatedFinding (some "src/main.rs") (some 10)),
    [216, 82, 176, 180, 159, 80, 65, 110, 24, 8, 29, 152, 191, 183, 80, 104, 187, 55, 121, 201,
      165, 34, 127, 92, 40, 25, 82, 135, 192, 51, 175, 229])]

theorem deriveFingerprint_identifies_locatedFinding :
    (deriveFingerprint (hashKnowing knownDigests) "lint" (locatedFinding (some "10") none) =
        deriveFingerprint (hashKnowing knownDigests) "lint"
          (locatedFinding (some "src/main.rs") (some 10)) ↔
      identityOf "lint" (locatedFinding (some "10") none) =
        identityOf "lint" (locatedFinding (some "src/main.rs") (some 10))) ↔
      ((identityOf "lint" (locatedFinding (some "10") none)).lines =
          (identityOf "lint" (locatedFinding (some "src/main.rs") (some 10))).lines →
        DividedAlike (identityOf "lint" (locatedFinding (some "10") none))
          (identityOf "lint" (locatedFinding (some "src/main.rs") (some 10)))) := by
  refine deriveFingerprint_identifies_iff (hashKnowing_injective ?_ ?_) "lint" "lint"
    (locatedFinding (some "10") none) (locatedFinding (some "src/main.rs") (some 10))
  · simp only [knownDigests, List.forall_mem_cons]
    exact ⟨rfl, rfl, fun _ h => absurd h List.not_mem_nil⟩
  · show List.Nodup [_, _]
    decide

/-- A path that is a number is taken for a line number. -/
theorem not_deriveFingerprint_identifies :
    ¬ ∀ sha256 : Bytes → Bytes, Function.Injective sha256 →
      ∀ (sensorId sensorId' : String) (finding finding' : Finding),
        deriveFingerprint sha256 sensorId finding = deriveFingerprint sha256 sensorId' finding' ↔
          identityOf sensorId finding = identityOf sensorId' finding' := by
  intro hall
  have htext : fingerprintInput "lint" (locatedFinding (some "10") none) =
      fingerprintInput "lint" (locatedFinding none (some 10)) := by decide
  have hid := (hall id Function.injective_id "lint" "lint" (locatedFinding (some "10") none)
    (locatedFinding none (some 10))).mp (by rw [deriveFingerprint, htext, deriveFingerprint])
  revert hid
  decide

end Cockpitctl
