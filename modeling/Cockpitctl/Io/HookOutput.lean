import Cockpitctl.Cli.Stub
import Cockpitctl.Io.Hooks
import Cockpitctl.Lib.Base64

/-!
# The output of a hook

A hook prints a document. The content of a file is encoded in base64, since a document holds texts;
a text that is not such an encoding is the content itself.

## Main definitions

* `base64Decode`, `contentBytes`: the bytes of a content
* `PostProcessOutput.decode?`: the output in a document
* `PostProcessOutput.toJson`: a document with an output
* `DecodesBase64`: what is assumed of the engine that reads encodings

## Main results

* `contentBytes_cases`: which contents are encodings
* `contentBytes_eq_asBytes_iff`: which contents are taken as they stand
* `PostProcessOutput.decode?_toJson`: every output can be printed
* `runHooks_delivers`: what hooks print arrives in the files and sections
-/

namespace Cockpitctl

open Effect

/-! ## Contents -/

/-- The byte may occur in an encoding. -/
def isBase64Byte (b : UInt8) : Bool := isAsciiAlphanumeric b || b == 43 || b == 47 || b == 61

section Contents

variable (standard : String → Option Bytes)

/-- Read an encoding, which may have whitespace around it. -/
def base64Decode (s : String) : Option Bytes :=
  let s := Text.trim s
  if s.isEmpty then some []
  else if (asBytes s).all isBase64Byte then standard s
  else none

/-- The bytes of a content: those that it encodes, or its own. -/
def contentBytes (s : String) : Bytes :=
  match base64Decode standard s with
  | some bytes => bytes
  | none => asBytes s

/-- The engine reads the canonical encodings, and nothing else. -/
def DecodesBase64 : Prop := ∀ s bs, standard s = some bs ↔ s.toList = Base64.encode bs

end Contents

/-! ## Documents -/

/-- The fields of a structure, from an object or from the sequence of its fields. -/
def fieldsOf (names : List String) : Json → Option (String → Option Json)
  | .object ms => if unrepeated names ms then some fun name => ms.lookup name else none
  | .array js => if js.length ≤ names.length then some (positional names js) else none
  | _ => none

/-- A signed integer of 32 bits. -/
def int32? : Json → Option Int32
  | .number (.integer n _) => if -2 ^ 31 ≤ n ∧ n < 2 ^ 31 then some (Int32.ofInt n) else none
  | _ => none

/-- The items of a sequence. -/
def items? {α : Type} (decode : Json → Option α) : Json → Option (List α)
  | .array js => js.mapM decode
  | _ => none

/-- The section in a document. -/
def CommentSection.decode? (j : Json) : Option CommentSection := do
  let field ← fieldsOf ["name", "content", "order"] j
  let name ← (field "name").bind Codec.string.decode
  let content ← (field "content").bind Codec.string.decode
  let order ← match field "order" with
    | none => some 0
    | some j => int32? j
  return { name, content, order }

/-- The file in a document. -/
def OutputFile.decode? (standard : String → Option Bytes) (j : Json) : Option OutputFile := do
  let field ← fieldsOf ["name", "content"] j
  let name ← (field "name").bind Codec.string.decode
  let content ← match field "content" with
    | none => some []
    | some j => (Codec.string.decode j).map (contentBytes standard)
  return { name, content }

/-- The output in a document. -/
def PostProcessOutput.decode? (standard : String → Option Bytes) (j : Json) :
    Option PostProcessOutput := do
  let field ← fieldsOf ["comment_sections", "files"] j
  let commentSections ← match field "comment_sections" with
    | none => some []
    | some j => items? CommentSection.decode? j
  let files ← match field "files" with
    | none => some []
    | some j => items? (OutputFile.decode? standard) j
  return { commentSections, files }

/-- Read the output of a hook. -/
def hookOutputFromSlice (document : Bytes → Option Json) (errorText : Bytes → String)
    (standard : String → Option Bytes) (bytes : Bytes) : Except String PostProcessOutput :=
  match (document bytes).bind (PostProcessOutput.decode? standard) with
  | some output => .ok output
  | none => .error (errorText bytes)

/-- The number of an order. -/
def orderNumber (n : Int32) : Number :=
  .integer n.toInt ⟨by have := n.le_toInt; omega, by have := n.toInt_lt; omega⟩

/-- A document with a section. -/
def CommentSection.toJson (s : CommentSection) : Json :=
  .object [("name", .string s.name), ("content", .string s.content),
    ("order", .number (orderNumber s.order))]

/-- A document with a file, the content of which is encoded. -/
def OutputFile.toJson (file : OutputFile) : Json :=
  .object [("name", .string file.name),
    ("content", .string (String.ofList (Base64.encode file.content)))]

/-- A document with an output. -/
def PostProcessOutput.toJson (output : PostProcessOutput) : Json :=
  .object [("comment_sections", .array (output.commentSections.map CommentSection.toJson)),
    ("files", .array (output.files.map OutputFile.toJson))]

section

variable {standard : String → Option Bytes} {s : String} {bs : Bytes}

/-! ## Contents that are encodings -/

theorem dropWhile_isWhitespace : ∀ {cs : List Char}, (∀ c ∈ cs, Text.isWhitespace c = false) →
    cs.dropWhile Text.isWhitespace = cs
  | [], _ => rfl
  | c :: cs, h => List.dropWhile_cons_of_neg (by rw [h c List.mem_cons_self]; decide)

/-- A text without whitespace is not trimmed. -/
theorem trim_eq_self (h : ∀ c ∈ s.toList, Text.isWhitespace c = false) : Text.trim s = s := by
  unfold Text.trim Text.trimEnd
  rw [dropWhile_isWhitespace h, String.toList_ofList,
    dropWhile_isWhitespace fun c hc => h c (List.mem_reverse.mp hc), List.reverse_reverse,
    String.ofList_toList]

/-- A trimmed text is no longer than the bytes of the text. -/
theorem length_trim_le (s : String) : (Text.trim s).toList.length ≤ (asBytes s).length := by
  have hchars : s.toList.length ≤ (asBytes s).length := by
    rw [asBytes_eq_flatMap]
    induction s.toList with
    | nil => exact le_rfl
    | cons c cs ih =>
      have hc : 1 ≤ (String.utf8EncodeChar c).length := by
        rw [String.length_utf8EncodeChar]
        exact c.utf8Size_pos
      rw [List.flatMap_cons, List.length_append, List.length_cons]
      omega
  have hstart := (List.dropWhile_sublist (l := s.toList) Text.isWhitespace).length_le
  have hend := (List.dropWhile_sublist (l := (s.toList.dropWhile Text.isWhitespace).reverse)
    Text.isWhitespace).length_le
  unfold Text.trim Text.trimEnd
  rw [List.length_reverse] at hend
  rw [String.toList_ofList, String.toList_ofList, List.length_reverse]
  omega

theorem digit_plain {n : ℕ} (h : n < 64) : Text.isWhitespace (Base64.digit n) = false ∧
    (String.utf8EncodeChar (Base64.digit n)).all isBase64Byte = true := by
  revert n
  decide +kernel

/-- The characters of an encoding are no whitespace, and pass the check of the bytes. -/
theorem plain_of_mem_encode {c : Char} (h : c ∈ Base64.encode bs) :
    Text.isWhitespace c = false ∧ (String.utf8EncodeChar c).all isBase64Byte = true := by
  rcases Base64.mem_encode h with rfl | ⟨n, hn, rfl⟩
  · exact ⟨rfl, rfl⟩
  · exact digit_plain hn

/-- The bytes of an encoding pass the check. -/
theorem all_isBase64Byte (h : s.toList = Base64.encode bs) :
    (asBytes s).all isBase64Byte = true := by
  rw [asBytes_eq_flatMap, List.all_flatMap, List.all_eq_true]
  intro c hc
  rw [h] at hc
  exact (plain_of_mem_encode hc).2

/-- **A content** is what its trimmed text encodes, or stands for itself when that encodes
nothing. -/
theorem contentBytes_cases (hstandard : DecodesBase64 standard) (s : String) :
    (∃ bs, (Text.trim s).toList = Base64.encode bs ∧ contentBytes standard s = bs) ∨
      (∀ bs, (Text.trim s).toList ≠ Base64.encode bs) ∧ contentBytes standard s = asBytes s := by
  unfold contentBytes base64Decode
  dsimp only
  split_ifs with hempty hall
  · left
    exact ⟨[], by rw [String.isEmpty_iff.mp hempty]; rfl, rfl⟩
  · cases hread : standard (Text.trim s) with
    | some bs => exact Or.inl ⟨bs, (hstandard _ bs).mp hread, rfl⟩
    | none =>
      refine Or.inr ⟨fun bs hbs => ?_, rfl⟩
      rw [(hstandard _ bs).mpr hbs] at hread
      cases hread
  · exact Or.inr ⟨fun bs hbs => hall (all_isBase64Byte hbs), rfl⟩

/-- The bytes that a trimmed text encodes are its content. -/
theorem contentBytes_of_encode (hstandard : DecodesBase64 standard) {s : String} {bs : Bytes}
    (h : (Text.trim s).toList = Base64.encode bs) : contentBytes standard s = bs := by
  rcases contentBytes_cases hstandard s with ⟨bs', hbs', hcontent⟩ | ⟨hnone, -⟩
  · rw [hcontent]
    exact Base64.encode_injective (hbs'.symm.trans h)
  · exact absurd h (hnone bs)

/-- **An encoding** is read as its bytes. -/
theorem contentBytes_encode (hstandard : DecodesBase64 standard) (bs : Bytes) :
    contentBytes standard (String.ofList (Base64.encode bs)) = bs := by
  have htrim : Text.trim (String.ofList (Base64.encode bs)) = String.ofList (Base64.encode bs) := by
    apply trim_eq_self
    intro c hc
    rw [String.toList_ofList] at hc
    exact (plain_of_mem_encode hc).1
  apply contentBytes_of_encode hstandard
  rw [htrim, String.toList_ofList]

/-- **A content is taken as it stands** exactly when it is empty, or its trimmed text encodes
nothing; the bytes that its trimmed text encodes are taken instead. -/
theorem contentBytes_eq_asBytes_iff (hstandard : DecodesBase64 standard) (s : String) :
    (contentBytes standard s = asBytes s ↔
      s = "" ∨ ∀ bs, (Text.trim s).toList ≠ Base64.encode bs) ∧
    ∀ bs, (Text.trim s).toList = Base64.encode bs → contentBytes standard s = bs := by
  refine ⟨?_, fun bs => contentBytes_of_encode hstandard⟩
  rcases contentBytes_cases hstandard s with ⟨bs, hbs, hcontent⟩ | ⟨hnone, hcontent⟩
  · rw [hcontent]
    constructor
    · rintro rfl
      left
      by_contra hne
      -- An encoding is longer than its bytes, and the text is no longer than these.
      have hbytes : asBytes s ≠ [] := fun h => hne (asBytes_injective (h.trans rfl))
      have hlt := Base64.length_lt_length_encode hbytes
      rw [← hbs] at hlt
      exact absurd (length_trim_le s) (not_le.mpr hlt)
    · rintro (rfl | hnone)
      · exact Base64.encode_injective (hbs.symm.trans rfl)
      · exact absurd hbs (hnone bs)
  · exact iff_of_true hcontent (Or.inr hnone)

/-! ## Documents of outputs -/

theorem int32?_orderNumber (n : Int32) : int32? (.number (orderNumber n)) = some n := by
  have hmin := n.le_toInt
  have hmax := n.toInt_lt
  unfold int32? orderNumber
  dsimp only
  rw [if_pos ⟨hmin, hmax⟩, Int32.ofInt_toInt]

theorem CommentSection.decode?_toJson (part : CommentSection) :
    CommentSection.decode? part.toJson = some part := by
  have hfields : fieldsOf ["name", "content", "order"] part.toJson = some fun name =>
      List.lookup name [("name", .string part.name), ("content", .string part.content),
        ("order", .number (orderNumber part.order))] := rfl
  unfold CommentSection.decode?
  rw [hfields]
  show (int32? (.number (orderNumber part.order))).bind _ = _
  rw [int32?_orderNumber]
  rfl

theorem OutputFile.decode?_toJson (hstandard : DecodesBase64 standard) (file : OutputFile) :
    OutputFile.decode? standard file.toJson = some file := by
  have hfields : fieldsOf ["name", "content"] file.toJson = some fun name =>
      List.lookup name [("name", .string file.name),
        ("content", .string (String.ofList (Base64.encode file.content)))] := rfl
  unfold OutputFile.decode?
  rw [hfields]
  show some (OutputFile.mk file.name (contentBytes standard _)) = _
  rw [contentBytes_encode hstandard]

/-- The items of a sequence are read back when each of them is. -/
theorem items?_map {α : Type} {decode : Json → Option α} {toJson : α → Json}
    (h : ∀ a, decode (toJson a) = some a) (l : List α) :
    items? decode (.array (l.map toJson)) = some l := by
  unfold items?
  dsimp only
  induction l with
  | nil => rfl
  | cons a l ih =>
    rw [List.map_cons, List.mapM_cons, h, ih]
    rfl

/-- **Every output can be printed**, whatever bytes its files hold. -/
theorem PostProcessOutput.decode?_toJson (hstandard : DecodesBase64 standard)
    (output : PostProcessOutput) :
    PostProcessOutput.decode? standard output.toJson = some output := by
  have hfields : fieldsOf ["comment_sections", "files"] output.toJson = some fun name =>
      List.lookup name [("comment_sections",
          .array (output.commentSections.map CommentSection.toJson)),
        ("files", .array (output.files.map OutputFile.toJson))] := rfl
  unfold PostProcessOutput.decode?
  rw [hfields]
  show (items? CommentSection.decode? (.array (output.commentSections.map _))).bind
    (fun commentSections => (items? (OutputFile.decode? standard)
      (.array (output.files.map _))).bind fun files =>
        some (PostProcessOutput.mk commentSections files)) = _
  rw [items?_map CommentSection.decode?_toJson, items?_map (OutputFile.decode?_toJson hstandard)]
  rfl

end

/-! ## Hooks that print outputs -/

/-- The hook changes no file and ends well, and what it prints is a document with the output. -/
def PrintsOutput (process : ChildProcess) (document : Bytes → Option Json) (reportJson : String)
    (hook : HookConfig) (output : PostProcessOutput) : Prop :=
  Text.words hook.command ≠ [] ∧ ∃ status stdout, document stdout = some output.toJson ∧
    ∀ fs, process (Text.words hook.command) (asBytes reportJson) hook.timeoutMs fs =
      (.exited true status stdout, fs)

section

variable {process : ChildProcess} {document : Bytes → Option Json} {errorText : Bytes → String}
  {standard : String → Option Bytes} {vol : Volume} {layout : FsLayout} {reportJson : String}
  {hook : HookConfig} {hooks : List HookConfig} {output : PostProcessOutput}
  {outputs : List PostProcessOutput} {fs : FileSystem}

/-- A hook that prints an output succeeds with it. -/
theorem PrintsOutput.runSingleHook (hstandard : DecodesBase64 standard)
    (h : PrintsOutput process document reportJson hook output) (fs : FileSystem) :
    runSingleHook process (hookOutputFromSlice document errorText standard) reportJson hook fs =
      (.ok output, fs) := by
  obtain ⟨hwords, status, stdout, hdocument, hprocess⟩ := h
  have hread : hookOutputFromSlice document errorText standard stdout = .ok output := by
    unfold hookOutputFromSlice
    rw [hdocument, Option.bind_some, PostProcessOutput.decode?_toJson hstandard]
  unfold Cockpitctl.runSingleHook
  dsimp only
  rw [if_neg (by simpa using hwords)]
  refine bind_eq_ok_iff.mpr ⟨.exited true status stdout, fs, ?_, ?_⟩
  · rw [hprocess]
  · dsimp only
    rw [hread]
    rfl

/-- Hooks that print outputs which can be stored. -/
theorem hooksRun_of_prints (hstandard : DecodesBase64 standard)
    (hprints : List.Forall₂ (PrintsOutput process document reportJson) hooks outputs)
    (hstorable : ∀ file ∈ filesOf outputs, file.Storable vol layout) (fs : FileSystem) :
    HooksRun process (hookOutputFromSlice document errorText standard) vol layout reportJson hooks
      fs outputs (fs.putFiles vol layout (filesOf outputs)) := by
  induction hprints generalizing fs with
  | nil => exact .nil fs
  | cons hprint _ ih =>
    unfold filesOf at hstorable ⊢
    rw [List.flatMap_cons] at hstorable ⊢
    obtain ⟨hfiles, hrest⟩ := List.forall_mem_append.mp hstorable
    rw [FileSystem.putFiles_append]
    exact .succeeded (hprint.runSingleHook hstandard fs)
      (writeHookFiles_eq_ok_iff.mpr ⟨hfiles, rfl⟩) (ih hrest _)

/-- **What hooks print arrives**: the sections are sorted by order and name, and every path of the
output directory leads to the last file that was sent there, with its very bytes. -/
theorem runHooks_delivers (hstandard : DecodesBase64 standard)
    (hprints : List.Forall₂ (PrintsOutput process document reportJson) hooks outputs)
    (hstorable : ∀ file ∈ filesOf outputs, file.Storable vol layout) (fs : FileSystem) :
    ∃ fs', runHooks process (hookOutputFromSlice document errorText standard) vol layout reportJson
        hooks fs = (.ok (KeyOrder.sortByKey CommentSection.key (sectionsOf outputs)), fs') ∧
      ∀ p, fs'.read p = (lastFileAt vol layout (filesOf outputs) p).elim (fs.read p)
        fun file => .ok file.content :=
  ⟨_, runHooks_eq_ok_iff.mpr ⟨outputs, hooksRun_of_prints hstandard hprints hstorable fs, rfl⟩,
    FileSystem.putFiles_read⟩

end

/-- An engine that reads the encodings of bytes. -/
def standardDecode (s : String) : Option Bytes := Base64.decode s.toList

theorem standardDecode_decodesBase64 : DecodesBase64 standardDecode :=
  fun _ _ => Base64.decode_eq_some_iff

/-- A text that happens to be an encoding is not taken as it stands. -/
theorem contentBytes_eq_asBytes_word : contentBytes standardDecode "test" ≠ asBytes "test" ∧
    contentBytes standardDecode "test" = [181, 235, 45] := by
  obtain ⟨hliteral, hdecoded⟩ := contentBytes_eq_asBytes_iff standardDecode_decodesBase64 "test"
  refine ⟨fun h => ?_, hdecoded [181, 235, 45] (by decide)⟩
  rcases hliteral.mp h with hempty | hnone
  · exact absurd hempty (by decide)
  · exact hnone [181, 235, 45] (by decide)

/-- A hook that sends two bytes that are no text. -/
def binaryOutput : PostProcessOutput where
  commentSections := [{ name := "Notes", content := "two bytes" }]
  files := [{ name := "notes.bin", content := [0, 255] }]

/-- A hook that sends another byte under that name, and a section that goes first. -/
def firstOutput : PostProcessOutput where
  commentSections := [{ name := "Summary", content := "one byte", order := -1 }]
  files := [{ name := "notes.bin", content := [255] }]

/-- Each hook prints the number of its document. -/
def numberedProcess : ChildProcess := fun words _ _ fs =>
  (.exited true "exit status: 0" (if words = ["first"] then [1] else [2]), fs)

def numberedDocument (stdout : Bytes) : Option Json :=
  if stdout = [1] then some firstOutput.toJson else some binaryOutput.toJson

/-- Of two hooks that send one name, the bytes of the second arrive, and its section goes first. -/
theorem runHooks_delivers_binary :
    ∃ fs', runHooks numberedProcess
      (hookOutputFromSlice numberedDocument (fun _ => "") standardDecode) stubVolume
      (.new ["artifacts"] ["cockpit.toml"]) ""
      [{ name := "notes", command := "notes" }, { name := "first", command := "first" }]
      (fileTree []) =
        (.ok (firstOutput.commentSections ++ binaryOutput.commentSections), fs') ∧
      fs'.read ["artifacts", "cockpit", "notes.bin"] = .ok [255] := by
  have hstorable : ∀ file ∈ filesOf [binaryOutput, firstOutput],
      file.Storable stubVolume (.new ["artifacts"] ["cockpit.toml"]) := by decide +kernel
  obtain ⟨fs', hrun, hread⟩ := @runHooks_delivers numberedProcess numberedDocument (fun _ => "")
    standardDecode stubVolume (.new ["artifacts"] ["cockpit.toml"]) ""
    [{ name := "notes", command := "notes" }, { name := "first", command := "first" }]
    [binaryOutput, firstOutput] standardDecode_decodesBase64
    (.cons ⟨by decide, _, [2], rfl, fun _ => rfl⟩
      (.cons ⟨by decide, _, [1], rfl, fun _ => rfl⟩ .nil)) hstorable (fileTree [])
  refine ⟨fs', hrun, ?_⟩
  rw [hread]
  rfl

end Cockpitctl
