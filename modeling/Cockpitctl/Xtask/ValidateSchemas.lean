import Cockpitctl.Conform.Directory
import Cockpitctl.Lib.Pass
import Cockpitctl.Xtask.Sync

/-!
# Schemas that are formatted

A task of the build tool checks every schema below a directory, and may format those that it
accepts. Formatting a file does not change the schema in it, a file that is not accepted is left
alone, and formatting twice is formatting once.

## Main definitions

* `SchemaLibraries`: the libraries of the task
* `validateSchemaFile`, `validateSchemas`: check a file, and those below a directory
* `schemaOf`: the schema in a file, or what is wrong with it
* `formatSchema`: the tree with one schema formatted

## Main results

* `validateSchemas_run`: a run of the task, as a pass over the tree
* `validateSchemas_preserves`: the schemas of the tree are as they were, however the task ends
* `validateSchemas_again`: a second run finds the same, and changes no file
-/

namespace Cockpitctl

open Effect

/-- An entry of a directory walk. -/
structure WalkEntry where
  path : Path
  isFile : Bool

/-- The libraries of the task. -/
structure SchemaLibraries where
  fromStr : String → Except String Value
  toStringPretty : Value → Result String
  metaValidate : Value → Except String Unit
  walk : FileSystem → Path → List WalkEntry

/-- The extension of a path: what stands behind the last dot of its name, unless the name starts
with that dot. -/
def pathExtension (path : Path) : Option String :=
  match path.getLast? with
  | none => none
  | some ".." => none
  | some name =>
    match name.toList.reverse.span (· ≠ '.') with
    | (rest, '.' :: _ :: _) => some (String.ofList rest.reverse)
    | _ => none

/-- The files of a walk that have the extension of a schema. -/
def jsonFiles (entries : List WalkEntry) : List Path :=
  (entries.filter fun e => pathExtension e.path == some "json" && e.isFile).map (·.path)

/-- What a run has counted, and the errors it has collected. -/
structure SchemaTotals where
  errors : List String := []
  filesChecked : ℕ := 0
  filesFixed : ℕ := 0

section Task

variable (lib : SchemaLibraries) (vol : Volume)

/-- Read a schema, and the text that it stands in. -/
def readSchema (fs : FileSystem) (path : Path) : Except String (String × Value) :=
  match fs.readToString path with
  | .error e => .error s!"{displayPath path}: failed to read file: {errorChain e}"
  | .ok content =>
    match lib.fromStr content with
    | .error e => .error s!"{displayPath path}: invalid JSON: {e}"
    | .ok value =>
      match lib.metaValidate value with
      | .error e => .error s!"{displayPath path}: not a valid JSON Schema: {e}"
      | .ok () => .ok (content, value)

/-- Warn of a schema that does not name its meta-schema. -/
def warnMissingSchema (path : Path) (value : Value) : Command Unit :=
  if (value.get? "$schema").isNone then
    eprintln s!"  warning: {displayPath path} missing $schema field"
  else pure ()

/-- Format a schema when that is asked for, unless its text is formatted. -/
def fixSchemaFile (fix : Bool) (path : Path) (content : String) (value : Value) : Command Bool :=
  if fix then do
    let formatted ← .lift <|
      (lib.toStringPretty value).context s!"failed to format {displayPath path}"
    let formattedWithNewline := formatted ++ "\n"
    if formattedWithNewline ≠ content then
      onFiles (withContext (vol.write path (asBytes formattedWithNewline))
        s!"failed to write {displayPath path}")
      eprintln s!"  fixed: {displayPath path}"
      return true
    else return false
  else pure false

/-- Check a schema, and count it. -/
def validateSchemaFile (fix : Bool) (totals : SchemaTotals) (path : Path) :
    Command SchemaTotals := do
  let filesChecked := totals.filesChecked + 1
  eprintln s!"checking: {displayPath path}"
  let w ← .get
  match readSchema lib w.files path with
  | .error e => return { totals with filesChecked, errors := totals.errors ++ [e] }
  | .ok (content, value) =>
    warnMissingSchema path value
    let fixed ← fixSchemaFile lib vol fix path content value
    eprintln "  ok: valid JSON Schema"
    return { totals with
      filesChecked, filesFixed := totals.filesFixed + if fixed then 1 else 0 }

/-- Print what a run has counted. -/
def printSummary (fix : Bool) (totals : SchemaTotals) : Command Unit := do
  eprintln ""
  eprintln s!"checked {totals.filesChecked} file(s), {totals.errors.length} error(s)"
  if fix then eprintln s!"fixed {totals.filesFixed} file(s)" else pure ()

/-- Print the errors of a run, and fail when there are any. -/
def failOnErrors (errors : List String) : Command Unit :=
  if errors.isEmpty then pure ()
  else do
    eprintln ""
    eprintln "errors:"
    errors.forM fun e => eprintln s!"  {e}"
    .fail [s!"schema validation failed with {errors.length} error(s)"]

/-- Check the schemas below a directory. -/
def validateSchemas (dir : Path) (fix : Bool) : Command Unit := do
  let w ← .get
  if !w.files.pathExists dir then
    .fail [s!"schema directory does not exist: {displayPath dir}"]
  else
    let files := jsonFiles (lib.walk w.files dir)
    let totals ← files.foldlM (validateSchemaFile lib vol fix) {}
    printSummary fix totals
    failOnErrors totals.errors

end Task

section Spec

variable (lib : SchemaLibraries) (vol : Volume)

/-- The schema in a file, or what is wrong with it. -/
def schemaOf (fs : FileSystem) (path : Path) : Except String Value :=
  (readSchema lib fs path).map Prod.snd

/-- The error that a file gives rise to. -/
def schemaErrors (fs : FileSystem) (path : Path) : List String :=
  match schemaOf lib fs path with
  | .error e => [e]
  | .ok _ => []

/-- The tree with one schema formatted. -/
def formatSchema (path : Path) (fs : FileSystem) : FileSystem :=
  match readSchema lib fs path with
  | .error _ => fs
  | .ok (content, value) =>
    match lib.toStringPretty value with
    | .error _ => fs
    | .ok text =>
      if text ++ "\n" ≠ content then fs.put vol path (some (asBytes (text ++ "\n"))) else fs

/-- The schema in a file stands there as it is printed. -/
def IsFormatted (path : Path) (fs : FileSystem) : Prop :=
  ∀ content value text, readSchema lib fs path = .ok (content, value) →
    lib.toStringPretty value = .ok text → content = text ++ "\n"

/-- The file cannot be written, or some schema cannot be printed. -/
def CannotFormat (path : Path) : Prop :=
  vol.refusal .write path ≠ none ∨ ∃ value e, lib.toStringPretty value = .error e

/-- No two of the paths lead to one file. -/
def FilesApart (files : List Path) : Prop :=
  ∀ p ∈ files, ∀ q ∈ files, vol.place p = vol.place q → p = q

/-- What is printed of the schemas in the files is read as those schemas. -/
def PrintsBack (files : List Path) (fs : FileSystem) : Prop :=
  ∀ p ∈ files, ∀ value text, schemaOf lib fs p = .ok value → lib.toStringPretty value = .ok text →
    lib.fromStr (text ++ "\n") = .ok value

/-- A walk depends on the directories and what they list. -/
def SchemaLibraries.WalksDirectories : Prop :=
  ∀ fs fs' : FileSystem, fs'.isDir = fs.isDir → fs'.readDir = fs.readDir →
    lib.walk fs' = lib.walk fs

/-- The schemas in the files are as they were before, and so are the other files and the
directories. -/
structure SchemasKept (files : List Path) (before fs : FileSystem) : Prop where
  schemas : ∀ p ∈ files, schemaOf lib fs p = schemaOf lib before p
  elsewhere : ∀ p, (∀ q ∈ files, vol.place p ≠ vol.place q) → fs.read p = before.read p
  pathExists : ∀ p, before.pathExists p = true → fs.pathExists p = true
  isDir : fs.isDir = before.isDir
  readDir : fs.readDir = before.readDir

end Spec

section

variable {lib : SchemaLibraries} {vol : Volume} {before fs fs' : FileSystem} {dir path p : Path}
  {files rest : List Path} {content text : String} {value : Value} {w w' : World} {fix : Bool}
  {totals : SchemaTotals}

/-! ## Formatting a file -/

/-- What is read as a schema depends on the file. -/
theorem readSchema_congr (h : fs'.read path = fs.read path) :
    readSchema lib fs' path = readSchema lib fs path := by
  unfold readSchema FileSystem.readToString
  rw [h]

theorem readSchema_eq_ok_iff : readSchema lib fs path = .ok (content, value) ↔
    fs.readToString path = .ok content ∧ lib.fromStr content = .ok value ∧
      lib.metaValidate value = .ok () := by
  unfold readSchema
  cases fs.readToString path with
  | error e => exact iff_of_false nofun nofun
  | ok content' =>
    dsimp only
    cases hvalue : lib.fromStr content' with
    | error e =>
      refine iff_of_false nofun ?_
      rintro ⟨hcontent, hvalue', -⟩
      obtain rfl := Except.ok.inj hcontent
      cases hvalue.symm.trans hvalue'
    | ok value' =>
      dsimp only
      cases hmeta : lib.metaValidate value' with
      | error e =>
        refine iff_of_false nofun ?_
        rintro ⟨hcontent, hvalue', hmeta'⟩
        obtain rfl := Except.ok.inj hcontent
        obtain rfl := Except.ok.inj (hvalue.symm.trans hvalue')
        cases hmeta.symm.trans hmeta'
      | ok u =>
        constructor
        · intro h
          obtain ⟨rfl, rfl⟩ := Prod.mk.inj (Except.ok.inj h)
          exact ⟨rfl, hvalue, hmeta⟩
        · rintro ⟨hcontent, hvalue', -⟩
          obtain rfl := Except.ok.inj hcontent
          obtain rfl := Except.ok.inj (hvalue.symm.trans hvalue')
          rfl

/-- A schema that is formatted is read again. -/
theorem readSchema_put (h : readSchema lib fs path = .ok (content, value))
    (hback : lib.fromStr (text ++ "\n") = .ok value) :
    readSchema lib (fs.put vol path (some (asBytes (text ++ "\n")))) path =
      .ok (text ++ "\n", value) := by
  obtain ⟨-, -, hmeta⟩ := readSchema_eq_ok_iff.mp h
  exact readSchema_eq_ok_iff.mpr
    ⟨FileSystem.readToString_of_read (FileSystem.put_read rfl), hback, hmeta⟩

/-- Formatting does nothing to a formatted file, and else puts the printed schema there. -/
theorem formatSchema_cases (lib : SchemaLibraries) (vol : Volume) (path : Path) (fs : FileSystem) :
    (formatSchema lib vol path fs = fs ∧ IsFormatted lib path fs) ∨
      ∃ content value text, readSchema lib fs path = .ok (content, value) ∧
        lib.toStringPretty value = .ok text ∧
        formatSchema lib vol path fs = fs.put vol path (some (asBytes (text ++ "\n"))) := by
  unfold formatSchema IsFormatted
  rcases hread : readSchema lib fs path with e | ⟨content, value⟩
  · exact Or.inl ⟨rfl, nofun⟩
  · dsimp only
    cases htext : lib.toStringPretty value with
    | error e =>
      refine Or.inl ⟨rfl, fun content' value' text h htext' => ?_⟩
      obtain ⟨rfl, rfl⟩ := Prod.mk.inj (Except.ok.inj h)
      cases htext.symm.trans htext'
    | ok text =>
      dsimp only
      split_ifs with hne
      · exact Or.inr ⟨content, value, text, rfl, htext, rfl⟩
      · refine Or.inl ⟨rfl, fun content' value' text' h htext' => ?_⟩
        obtain ⟨rfl, rfl⟩ := Prod.mk.inj (Except.ok.inj h)
        obtain rfl := Except.ok.inj (htext.symm.trans htext')
        exact (not_not.mp hne).symm

theorem formatSchema_eq_self (h : IsFormatted lib path fs) :
    formatSchema lib vol path fs = fs := by
  unfold formatSchema
  rcases hread : readSchema lib fs path with e | ⟨content, value⟩
  · rfl
  · dsimp only
    cases htext : lib.toStringPretty value with
    | error e => rfl
    | ok text => exact if_neg (not_not.mpr (h content value text hread htext).symm)

/-! ## Formatting the files of a tree -/

theorem SchemasKept.refl (lib : SchemaLibraries) (vol : Volume) (files : List Path)
    (fs : FileSystem) : SchemasKept lib vol files fs fs where
  schemas _ _ := rfl
  elsewhere _ _ := rfl
  pathExists _ h := h
  isDir := rfl
  readDir := rfl

/-- What is printed of a schema is read back also when some files are formatted. -/
theorem SchemasKept.fromStr (h : SchemasKept lib vol files before fs)
    (hback : PrintsBack lib files before) (hpath : path ∈ files)
    (hread : readSchema lib fs path = .ok (content, value))
    (htext : lib.toStringPretty value = .ok text) : lib.fromStr (text ++ "\n") = .ok value := by
  refine hback path hpath value text ?_ htext
  rw [← h.schemas path hpath]
  unfold schemaOf
  rw [hread]
  rfl

/-- **Formatting a file** keeps the schemas of the tree. -/
theorem SchemasKept.formatSchema (h : SchemasKept lib vol files before fs)
    (hapart : FilesApart vol files) (hback : PrintsBack lib files before) (hpath : path ∈ files) :
    SchemasKept lib vol files before (formatSchema lib vol path fs) := by
  rcases formatSchema_cases lib vol path fs with
    ⟨heq, -⟩ | ⟨content, value, text, hread, htext, heq⟩
  · rw [heq]
    exact h
  rw [heq]
  have hvalue := h.fromStr hback hpath hread htext
  refine ⟨fun q hq => ?_, fun q hq => ?_, fun q hq => ?_, h.isDir, h.readDir⟩
  · rw [← h.schemas q hq]
    unfold schemaOf
    by_cases hplace : vol.place q = vol.place path
    · obtain rfl := hapart q hq path hpath hplace
      rw [readSchema_put hread hvalue, hread]
      rfl
    · rw [readSchema_congr (FileSystem.put_read_of_ne hplace)]
  · rw [FileSystem.put_read_of_ne (hq path hpath), h.elsewhere q hq]
  · by_cases hplace : vol.place q = vol.place path
    · exact FileSystem.put_pathExists hplace
    · rw [FileSystem.put_pathExists_of_ne hplace]
      exact h.pathExists q hq

/-- **Formatting finishes a file**, and leaves those that are formatted. -/
theorem finishes_formatSchema (hapart : FilesApart vol files)
    (hback : PrintsBack lib files before) :
    Finishes (formatSchema lib vol) (SchemasKept lib vol files before) (IsFormatted lib) files where
  inv path hpath fs h := h.formatSchema hapart hback hpath
  same path _ fs h := formatSchema_eq_self h
  done path hpath fs h := by
    rcases formatSchema_cases lib vol path fs with
      ⟨heq, hformatted⟩ | ⟨content, value, text, hread, htext, heq⟩
    · rw [heq]
      exact hformatted
    · rw [heq]
      intro content' value' text' hread' htext'
      rw [readSchema_put hread (h.fromStr hback hpath hread htext)] at hread'
      obtain ⟨rfl, rfl⟩ := Prod.mk.inj (Except.ok.inj hread')
      rw [Except.ok.inj (htext.symm.trans htext')]
  kept q hq path hpath fs h hformatted := by
    rcases formatSchema_cases lib vol path fs with
      ⟨heq, -⟩ | ⟨content, value, text, hread, htext, heq⟩
    · rw [heq]
      exact hformatted
    · by_cases hplace : vol.place q = vol.place path
      · obtain rfl := hapart q hq path hpath hplace
        rw [formatSchema_eq_self hformatted]
        exact hformatted
      · rw [heq]
        unfold IsFormatted
        rw [readSchema_congr (FileSystem.put_read_of_ne hplace)]
        exact hformatted

/-! ## Runs -/

/-- The tree after a file of the task. -/
def afterSchema (lib : SchemaLibraries) (vol : Volume) (fix : Bool) (path : Path)
    (fs : FileSystem) : FileSystem :=
  if fix then formatSchema lib vol path fs else fs

/-- **A file that is to be formatted** is, unless it cannot be. -/
theorem ensures_fixSchemaFile (fix : Bool)
    (hread : readSchema lib fs path = .ok (content, value)) :
    Ensures (fun w => World.files w = fs) (fixSchemaFile lib vol fix path content value)
      (fun _ w => w.files = afterSchema lib vol fix path fs)
      (fun w => w.files = fs ∧ CannotFormat lib vol path) := by
  unfold fixSchemaFile afterSchema
  cases fix with
  | false => exact Ensures.pure fun _ h => h
  | true =>
    refine (Ensures.lift (Q := fun formatted w => lib.toStringPretty value = .ok formatted ∧
      World.files w = fs) ?_ ?_).bind fun formatted => Ensures.of_and fun htext => ?_
    · intro formatted hformatted w hw
      exact ⟨Result.context_eq_ok.mp hformatted, hw⟩
    · intro e he w hw
      cases hpretty : lib.toStringPretty value with
      | error e' => exact ⟨hw, Or.inr ⟨value, e', hpretty⟩⟩
      | ok text =>
        rw [hpretty] at he
        cases he
    have hformat : formatSchema lib vol path fs = if formatted ++ "\n" ≠ content then
        fs.put vol path (some (asBytes (formatted ++ "\n"))) else fs := by
      unfold formatSchema
      rw [hread]
      dsimp only
      rw [htext]
    rw [if_pos rfl, hformat]
    dsimp only
    split_ifs with hne
    · have hwrite : Ensures (fun w => World.files w = fs)
          (onFiles (withContext (vol.write path (asBytes (formatted ++ "\n")))
            s!"failed to write {displayPath path}"))
          (fun _ w => w.files = fs.put vol path (some (asBytes (formatted ++ "\n"))))
          (fun w => w.files = fs ∧ CannotFormat lib vol path) := by
        refine (ensures_onFiles (P := fun fs' => fs' = fs) _ ensures_write).imp (fun _ h => h) ?_ ?_
        · rintro _ w ⟨_, rfl, hput⟩
          exact hput
        · rintro w ⟨hfiles, hrefused⟩
          exact ⟨hfiles, Or.inl hrefused⟩
      refine hwrite.bind fun _ => ?_
      exact (@ensures_eprintln (fun fs' => fs' = _) _ _).bind fun _ => Ensures.pure fun _ h => h
    · exact Ensures.pure fun _ h => h

/-- **A file of the task** is checked, and formatted when that is asked for. -/
theorem ensures_validateSchemaFile (lib : SchemaLibraries) (vol : Volume) (fs : FileSystem)
    (fix : Bool) (totals : SchemaTotals) (path : Path) :
    Ensures (fun w => World.files w = fs) (validateSchemaFile lib vol fix totals path)
      (fun totals' w => totals'.errors = totals.errors ++ schemaErrors lib fs path ∧
        w.files = afterSchema lib vol fix path fs)
      (fun w => w.files = fs ∧ CannotFormat lib vol path) := by
  unfold validateSchemaFile
  refine (@ensures_eprintln (fun fs' => fs' = fs) _ _).bind fun _ => ?_
  refine (Ensures.get (Q := fun (w w' : World) => w.files = fs ∧ w'.files = fs)
    fun w hw => ⟨hw, hw⟩).bind fun w => Ensures.of_and fun hw => ?_
  rw [hw]
  unfold schemaErrors schemaOf
  rcases hread : readSchema lib fs path with e | ⟨content, value⟩
  · refine Ensures.pure fun w' hw' => ⟨rfl, ?_⟩
    rw [hw']
    unfold afterSchema formatSchema
    rw [hread]
    exact (ite_self _).symm
  · have hwarn : Ensures (fun w => World.files w = fs) (warnMissingSchema path value)
        (fun _ w => w.files = fs) (fun w => w.files = fs ∧ CannotFormat lib vol path) := by
      unfold warnMissingSchema
      split_ifs
      · exact @ensures_eprintln (fun fs' => fs' = fs) _ _
      · exact Ensures.pure fun _ h => h
    refine hwarn.bind fun _ => (ensures_fixSchemaFile fix hread).bind fun fixed => ?_
    refine (@ensures_eprintln (fun fs' => fs' = afterSchema lib vol fix path fs) _ _).bind
      fun _ => ?_
    exact Ensures.pure fun w' hw' => ⟨(List.append_nil _).symm, hw'⟩

theorem SchemasKept.afterSchema (h : SchemasKept lib vol files before fs)
    (hapart : FilesApart vol files) (hback : PrintsBack lib files before) (fix : Bool)
    (hpath : path ∈ files) :
    SchemasKept lib vol files before (afterSchema lib vol fix path fs) := by
  cases fix with
  | false => exact h
  | true => exact h.formatSchema hapart hback hpath

/-- The tree after a run over all files. -/
theorem SchemasKept.pass (hapart : FilesApart vol files) (hback : PrintsBack lib files fs)
    (fix : Bool) :
    SchemasKept lib vol files fs (pass (Cockpitctl.afterSchema lib vol fix) files fs) :=
  pass_preserves (fun _ hpath _ h => h.afterSchema hapart hback fix hpath)
    (SchemasKept.refl lib vol files fs)

theorem SchemasKept.schemaErrors (h : SchemasKept lib vol files before fs) (hpath : path ∈ files) :
    schemaErrors lib fs path = schemaErrors lib before path := by
  unfold Cockpitctl.schemaErrors
  rw [h.schemas path hpath]

/-- **The files of the task**, one after the other. -/
theorem ensures_validateSchemaFiles (hapart : FilesApart vol files)
    (hback : PrintsBack lib files before) (hkept : SchemasKept lib vol files before fs)
    (hrest : rest ⊆ files) (fix : Bool) (totals : SchemaTotals) :
    Ensures (fun w => World.files w = fs) (rest.foldlM (validateSchemaFile lib vol fix) totals)
      (fun totals' w =>
        totals'.errors = totals.errors ++ rest.flatMap (schemaErrors lib before) ∧
          w.files = pass (afterSchema lib vol fix) rest fs)
      (fun w => SchemasKept lib vol files before w.files ∧
        ∃ path ∈ files, CannotFormat lib vol path) := by
  induction rest generalizing fs totals with
  | nil => exact Ensures.pure fun w hw => ⟨(List.append_nil _).symm, hw⟩
  | cons path rest ih =>
    obtain ⟨hpath, hrest⟩ := List.cons_subset.mp hrest
    rw [List.foldlM_cons]
    refine ((ensures_validateSchemaFile lib vol fs fix totals path).imp (fun _ h => h)
      (fun _ _ h => h) ?_).bind fun totals' => Ensures.of_and fun herrors => ?_
    · rintro w ⟨rfl, hstuck⟩
      exact ⟨hkept, path, hpath, hstuck⟩
    · refine (ih (hkept.afterSchema hapart hback fix hpath) hrest totals').imp (fun _ h => h) ?_
        fun _ h => h
      rintro totals'' w ⟨herrors', hw⟩
      refine ⟨?_, hw⟩
      rw [herrors', herrors, hkept.schemaErrors hpath, List.flatMap_cons, List.append_assoc]

/-- How the task ends when these errors are found. -/
def schemasResult (errors : List String) : Result Unit :=
  if errors.isEmpty then .ok ()
  else .error [s!"schema validation failed with {errors.length} error(s)"]

theorem printErrors_run (errors : List String) (w : World) : ∃ w' : World,
    (errors.forM fun e => eprintln s!"  {e}") w = (.ok (), w') ∧ w'.files = w.files := by
  induction errors generalizing w with
  | nil => exact ⟨w, rfl, rfl⟩
  | cons e errors ih =>
    obtain ⟨w', hrun, hfiles⟩ := ih (eprintln s!"  {e}" w).2
    exact ⟨w', hrun, hfiles⟩

/-- The report of a run ends it, and changes no file. -/
theorem report_run (fix : Bool) (totals : SchemaTotals) (w : World) :
    ((printSummary fix totals >>= fun _ => failOnErrors totals.errors) w).1 =
        schemasResult totals.errors ∧
      ((printSummary fix totals >>= fun _ => failOnErrors totals.errors) w).2.files = w.files := by
  obtain ⟨w₁, hsummary, hfiles₁⟩ : ∃ w₁ : World,
      printSummary fix totals w = (.ok (), w₁) ∧ w₁.files = w.files := by
    cases fix
    · exact ⟨_, rfl, rfl⟩
    · exact ⟨_, rfl, rfl⟩
  rw [bind_of_ok hsummary, ← hfiles₁]
  unfold failOnErrors schemasResult
  split_ifs
  · exact ⟨rfl, rfl⟩
  · obtain ⟨w₂, herrors, hfiles₂⟩ := printErrors_run totals.errors
      (eprintln "errors:" (eprintln "" w₁).2).2
    have htail : (eprintln "" >>= fun _ => eprintln "errors:" >>= fun _ =>
        (totals.errors.forM fun e => eprintln s!"  {e}") >>= fun _ => (.fail
          [s!"schema validation failed with {totals.errors.length} error(s)"] : Command Unit)) w₁ =
        (.error [s!"schema validation failed with {totals.errors.length} error(s)"], w₂) :=
      bind_of_ok herrors
    rw [htail]
    exact ⟨rfl, hfiles₂⟩

/-- **A run of the task** reports the errors of the tree that it found, and passes over its files,
unless one of them cannot be formatted. -/
theorem validateSchemas_run (hexists : w.files.pathExists dir = true)
    (hfiles : files = jsonFiles (lib.walk w.files dir)) (hapart : FilesApart vol files)
    (hback : PrintsBack lib files w.files) (fix : Bool) :
    ((validateSchemas lib vol dir fix w).1 =
        schemasResult (files.flatMap (schemaErrors lib w.files)) ∧
      (validateSchemas lib vol dir fix w).2.files =
        pass (afterSchema lib vol fix) files w.files) ∨
    SchemasKept lib vol files w.files (validateSchemas lib vol dir fix w).2.files ∧
      ∃ path ∈ files, CannotFormat lib vol path := by
  have hloop := ensures_validateSchemaFiles hapart hback (SchemasKept.refl lib vol files w.files)
    (List.Subset.refl files) fix {}
  have hrun : validateSchemas lib vol dir fix w =
      (files.foldlM (validateSchemaFile lib vol fix) {} >>= fun totals =>
        printSummary fix totals >>= fun _ => failOnErrors totals.errors) w := by
    unfold validateSchemas
    rw [bind_of_ok (show (Effect.get : Command World) w = (.ok w, w) from rfl), hexists, hfiles]
    rfl
  rw [hrun]
  rcases hloop.of_run (s := w) rfl with ⟨totals, hok, herrors, hw⟩ | ⟨⟨e, he⟩, hstuck⟩
  · have hfold : files.foldlM (validateSchemaFile lib vol fix) {} w = (.ok totals, _) :=
      Prod.ext hok rfl
    rw [bind_of_ok hfold]
    obtain ⟨hresult, hafter⟩ := report_run fix totals
      (files.foldlM (validateSchemaFile lib vol fix) {} w).2
    exact Or.inl ⟨hresult.trans (congrArg schemasResult herrors), hafter.trans hw⟩
  · have hfold : files.foldlM (validateSchemaFile lib vol fix) {} w = (.error e, _) :=
      Prod.ext he rfl
    rw [bind_of_error hfold]
    exact Or.inr hstuck

/-- Without the directory nothing is done. -/
theorem validateSchemas_missing (hexists : w.files.pathExists dir = false) (fix : Bool) :
    validateSchemas lib vol dir fix w =
      (.error [s!"schema directory does not exist: {displayPath dir}"], w) := by
  unfold validateSchemas
  rw [bind_of_ok (show (Effect.get : Command World) w = (.ok w, w) from rfl), hexists]
  rfl

/-- A run keeps the schemas of the tree, however it ends. -/
theorem schemasKept_validateSchemas (hfiles : jsonFiles (lib.walk w.files dir) = files)
    (hapart : FilesApart vol files) (hback : PrintsBack lib files w.files) (fix : Bool) :
    SchemasKept lib vol files w.files (validateSchemas lib vol dir fix w).2.files := by
  cases hexists : w.files.pathExists dir with
  | false =>
    rw [validateSchemas_missing hexists]
    exact SchemasKept.refl lib vol files w.files
  | true =>
    rcases validateSchemas_run hexists hfiles.symm hapart hback fix with ⟨-, hafter⟩ | ⟨hkept, -⟩
    · rw [hafter]
      exact SchemasKept.pass hapart hback fix
    · exact hkept

/-- **The schemas of the tree** are as they were, however the task ends: a file holds the same
schema, or is wrong in the same way, and the other files are not written. -/
theorem validateSchemas_preserves (hfiles : jsonFiles (lib.walk w.files dir) = files)
    (hapart : FilesApart vol files) (hback : PrintsBack lib files w.files) (fix : Bool) :
    (∀ path ∈ files, schemaOf lib (validateSchemas lib vol dir fix w).2.files path =
      schemaOf lib w.files path) ∧
    ∀ p, (∀ q ∈ files, vol.place p ≠ vol.place q) →
      (validateSchemas lib vol dir fix w).2.files.read p = w.files.read p := by
  have hkept := schemasKept_validateSchemas hfiles hapart hback fix
  exact ⟨hkept.schemas, hkept.elsewhere⟩

/-- A run whose files can all be formatted. -/
theorem validateSchemas_run_of_format (hexists : w.files.pathExists dir = true)
    (hfiles : files = jsonFiles (lib.walk w.files dir)) (hapart : FilesApart vol files)
    (hback : PrintsBack lib files w.files) (hformat : ∀ path ∈ files, ¬CannotFormat lib vol path)
    (fix : Bool) :
    (validateSchemas lib vol dir fix w).1 =
        schemasResult (files.flatMap (schemaErrors lib w.files)) ∧
      (validateSchemas lib vol dir fix w).2.files =
        pass (afterSchema lib vol fix) files w.files := by
  rcases validateSchemas_run hexists hfiles hapart hback fix with hrun | ⟨-, path, hpath, hstuck⟩
  · exact hrun
  · exact absurd hstuck (hformat path hpath)

/-- **A second run** behind one that formats finds what that one has found, which is what a run that
only checks finds, and changes no file. -/
theorem validateSchemas_again (hwalk : lib.WalksDirectories)
    (hfiles : jsonFiles (lib.walk w.files dir) = files) (hapart : FilesApart vol files)
    (hback : PrintsBack lib files w.files) (hformat : ∀ path ∈ files, ¬CannotFormat lib vol path)
    (again : Bool) :
    (validateSchemas lib vol dir again (validateSchemas lib vol dir true w).2).1 =
        (validateSchemas lib vol dir true w).1 ∧
      (validateSchemas lib vol dir again (validateSchemas lib vol dir true w).2).2.files =
        (validateSchemas lib vol dir true w).2.files ∧
      (validateSchemas lib vol dir false w).1 = (validateSchemas lib vol dir true w).1 := by
  cases hexists : w.files.pathExists dir with
  | false =>
    simp only [validateSchemas_missing hexists, and_self]
  | true =>
    obtain ⟨hresult, hafter⟩ :=
      validateSchemas_run_of_format hexists hfiles.symm hapart hback hformat true
    obtain ⟨hchecked, -⟩ :=
      validateSchemas_run_of_format hexists hfiles.symm hapart hback hformat false
    have hkept := schemasKept_validateSchemas hfiles hapart hback true
    generalize hw₁ : (validateSchemas lib vol dir true w).2 = w₁ at hafter hkept ⊢
    -- The second run meets the same files, and the same schemas in them.
    have hexists₁ : w₁.files.pathExists dir = true := hkept.pathExists dir hexists
    have hfiles₁ : files = jsonFiles (lib.walk w₁.files dir) := by
      rw [hwalk w.files w₁.files hkept.isDir hkept.readDir, hfiles]
    have hback₁ : PrintsBack lib files w₁.files := fun path hpath value text hvalue =>
      hback path hpath value text ((hkept.schemas path hpath).symm.trans hvalue)
    obtain ⟨hresult₁, hafter₁⟩ :=
      validateSchemas_run_of_format hexists₁ hfiles₁ hapart hback₁ hformat again
    refine ⟨?_, ?_, hchecked.trans hresult.symm⟩
    · rw [hresult₁, hresult]
      exact congrArg schemasResult (List.flatMap_congr fun path hpath => hkept.schemaErrors hpath)
    · rw [hafter₁]
      cases again with
      | false => exact pass_eq_self fun _ _ => rfl
      | true =>
        rw [hafter]
        exact (finishes_formatSchema hapart hback).pass_pass
          (SchemasKept.refl lib vol files w.files)

end

/-- Libraries that read one schema, with a blank in it or without. -/
def blankLibraries : SchemaLibraries where
  fromStr text :=
    if text = "\x7b \x7d" ∨ text = "\x7b\x7d\n" then .ok Value.emptyObject
    else .error "expected value at line 1 column 1"
  toStringPretty value := .ok ((prettyJson? 0 value.json).getD "")
  metaValidate _ := .ok ()
  walk fs dir :=
    match fs.readDir dir with
    | .ok entries => entries.filterMap fun
      | .ok e => some ⟨e.path, !fs.isDir e.path⟩
      | .error _ => none
    | .error _ => []

/-- A tree with a schema that is not formatted, and a file that is none. -/
def blankTree : FileSystem :=
  fileTree [(["schemas", "a.json"], asBytes "\x7b \x7d"), (["schemas", "b.json"], asBytes "["),
    (["schemas", "notes.md"], asBytes "[")]

theorem jsonFiles_blankTree : jsonFiles (blankLibraries.walk blankTree ["schemas"]) =
    [["schemas", "a.json"], ["schemas", "b.json"]] := by
  decide +kernel

theorem filesApart_blankTree :
    FilesApart stubVolume [["schemas", "a.json"], ["schemas", "b.json"]] := by
  intro p hp q hq hplace
  have hall : ∀ p ∈ [["schemas", "a.json"], ["schemas", "b.json"]],
      ∀ q ∈ [["schemas", "a.json"], ["schemas", "b.json"]],
      displayPath p = displayPath q → p = q := by decide +kernel
  exact hall p hp q hq (displayPath_eq_of_place hplace)

theorem printsBack_blankLibraries (files : List Path) (fs : FileSystem) :
    PrintsBack blankLibraries files fs := by
  intro p _ value text hvalue htext
  unfold schemaOf at hvalue
  rcases hread : readSchema blankLibraries fs p with e | ⟨content, value'⟩
  · rw [hread] at hvalue
    cases hvalue
  · rw [hread] at hvalue
    obtain rfl : value' = value := Except.ok.inj hvalue
    obtain ⟨-, hstr, -⟩ := readSchema_eq_ok_iff.mp hread
    -- There is one schema that these libraries read.
    have hempty : Value.emptyObject = value' := by
      unfold blankLibraries at hstr
      dsimp only at hstr
      split_ifs at hstr
      exact Except.ok.inj hstr
    subst hempty
    obtain rfl : "\x7b\x7d" = text := Except.ok.inj htext
    rfl

/-- The run that formats the schema of that tree. -/
def blankRun : Result Unit × World :=
  validateSchemas blankLibraries stubVolume ["schemas"] true { files := blankTree }

/-- There the first run formats the schema, and the second one does nothing. -/
theorem validateSchemas_again_blank :
    (blankRun.2.files.read ["schemas", "a.json"]).toOption = some (asBytes "\x7b\x7d\n") ∧
      (validateSchemas blankLibraries stubVolume ["schemas"] true blankRun.2).2.files =
        blankRun.2.files := by
  have hwalk : blankLibraries.WalksDirectories := by
    intro fs fs' hdir hlist
    funext dir
    unfold blankLibraries
    dsimp only
    rw [hdir, hlist]
  obtain ⟨-, hsame, -⟩ := @validateSchemas_again blankLibraries stubVolume ["schemas"]
    [["schemas", "a.json"], ["schemas", "b.json"]] { files := blankTree } hwalk jsonFiles_blankTree
    filesApart_blankTree (printsBack_blankLibraries _ _) (by
      rintro path - (hrefused | ⟨value, e, he⟩)
      · exact hrefused rfl
      · cases he) true
  exact ⟨by decide +kernel, hsame⟩

/-- The schemas are kept there. -/
theorem validateSchemas_preserves_blank :
    schemaOf blankLibraries blankRun.2.files ["schemas", "a.json"] =
        schemaOf blankLibraries blankTree ["schemas", "a.json"] ∧
      schemaOf blankLibraries blankRun.2.files ["schemas", "b.json"] =
        schemaOf blankLibraries blankTree ["schemas", "b.json"] := by
  obtain ⟨hkept, -⟩ := @validateSchemas_preserves blankLibraries stubVolume ["schemas"]
    [["schemas", "a.json"], ["schemas", "b.json"]] { files := blankTree } jsonFiles_blankTree
    filesApart_blankTree (printsBack_blankLibraries _ _) true
  exact ⟨hkept _ (.head _), hkept _ (.tail _ (.head _))⟩

end Cockpitctl
