import KvMaterialization.Python.Dict
import KvMaterialization.Python.PosixPath
import KvMaterialization.Python.Result
import Mathlib.Data.List.Sort
import Mathlib.Data.String.Basic

open python

namespace build_g0_raw_manifest

/-- A path below the root of a tree. -/
structure RelPath where
  parts : List String
  nonempty : parts ≠ []
  proper : ∀ part ∈ parts, PlainPart part ∧ part ≠ ".."
  deriving DecidableEq

namespace RelPath

/-- `path.as_posix()` -/
def as_posix (self : RelPath) : String := "/".intercalate self.parts

/-- The path below a root that a text names, if it names one. -/
def ofText (text : String) : Option RelPath :=
  let path := PurePosixPath.parse text
  if hproper : path.is_absolute = false ∧ path.tail ≠ [] ∧ ".." ∉ path.tail then
    some ⟨path.tail, hproper.2.1, fun part hpart => ⟨path.plain part hpart, fun heq => hproper.2.2 (heq ▸ hpart)⟩⟩
  else none

theorem ofText_as_posix (path : RelPath) : ofText path.as_posix = some path := by
  obtain ⟨hrelative, htail⟩ := PurePosixPath.parse_intercalate fun part hpart => (path.proper part hpart).1
  have hproper : (PurePosixPath.parse path.as_posix).is_absolute = false ∧
      (PurePosixPath.parse path.as_posix).tail ≠ [] ∧ ".." ∉ (PurePosixPath.parse path.as_posix).tail := by
    rw [as_posix, htail]
    exact ⟨hrelative, path.nonempty, fun hmem => (path.proper ".." hmem).2 rfl⟩
  unfold ofText
  dsimp only
  rw [dif_pos hproper, Option.some.injEq]
  cases path
  rw [RelPath.mk.injEq]
  exact htail

theorem as_posix_injective {path other : RelPath} (heq : path.as_posix = other.as_posix) : path = other := by
  have hparsed := ofText_as_posix path
  rw [heq, ofText_as_posix, Option.some.injEq] at hparsed
  exact hparsed.symm

end RelPath

abbrev Bytes := List UInt8

/-- The files below a directory, none of them a symlink, and the mode of each. -/
structure Tree where
  files : Dict RelPath Bytes
  mode : RelPath → ℕ

/-- A resolved path, and the directory there, if there is one. -/
structure Location where
  path : PurePosixPath
  absolute : path.is_absolute = true
  directory : Option Tree

structure Record where
  path : String
  bytes : ℕ
  mode : ℕ
  sha256 : String
  deriving DecidableEq, Repr

structure Manifest where
  schema_version : ℕ
  artifact : String
  custodian : String
  suite_root : String
  run_root : String
  rejected_root : Option String
  report_root : Option String
  suite_files : List Record
  run_files : List Record
  rejected_files : List Record
  report_files : List Record
  suite_file_count : ℕ
  run_file_count : ℕ
  rejected_file_count : ℕ
  report_file_count : ℕ
  suite_bytes : ℕ
  run_bytes : ℕ
  rejected_bytes : ℕ
  report_bytes : ℕ
  deriving DecidableEq, Repr

/-- `root / path`, as it is printed. -/
def Location.joined (self : Location) (path : String) : String :=
  (self.path.join (PurePosixPath.parse path)).toText

/-- The file at a path of a manifest, which is one below the root. -/
def Location.file (self : Location) (path : String) : Option Bytes := do
  (← self.directory).files.get? (← RelPath.ofText path)

/-- `sum(row["bytes"] for row in files)` -/
def total_bytes (files : List Record) : ℕ := (files.map Record.bytes).sum

section

variable (sha256 : Bytes → String)

def record (tree : Tree) (file : RelPath × Bytes) : Record :=
  ⟨file.1.as_posix, file.2.length, tree.mode file.1, sha256 file.2⟩

/-- The records of a tree in the order of its paths, which is that of their parts. -/
def tree (base : Location) : Except Exception (List Record) :=
  match base.directory with
  | some tree => .ok ((tree.files.entries.insertionSort fun a b => a.1.parts ≤ b.1.parts).map (record sha256 tree))
  | none => .error (.value_error ("not a directory: " ++ base.path.toText))

/-- The records of a tree that may not be asked for. -/
def optional_tree : Option Location → Except Exception (List Record)
  | some base => tree sha256 base
  | none => .ok []

def build (environ : Environment) (suite run_root : Location) (rejected_root report_root : Option Location) :
    Except Exception Manifest := do
  let suite_files ← tree sha256 suite
  let run_files ← tree sha256 run_root
  let rejected_files ← optional_tree sha256 rejected_root
  let report_files ← optional_tree sha256 report_root
  return {
    schema_version := 1
    artifact := "g0-formal-complete-raw-manifest"
    custodian := getenv environ "USER" "unknown"
    suite_root := suite.path.toText
    run_root := run_root.path.toText
    rejected_root := rejected_root.map fun root => root.path.toText
    report_root := report_root.map fun root => root.path.toText
    suite_files, run_files, rejected_files, report_files
    suite_file_count := suite_files.length
    run_file_count := run_files.length
    rejected_file_count := rejected_files.length
    report_file_count := report_files.length
    suite_bytes := total_bytes suite_files
    run_bytes := total_bytes run_files
    rejected_bytes := total_bytes rejected_files
    report_bytes := total_bytes report_files }

/-- `sorted(paths - others)` of two sets. -/
def sortedDifference (paths others : List String) : List String :=
  ((paths.filter fun path => path ∉ others).dedup).insertionSort (· ≤ ·)

/-- What a record says against the file at its path, if there is one. -/
def row_errors (root : Location) (row : Record) : List String :=
  match root.file row.path with
  | none => []
  | some content =>
    let path := root.joined row.path
    if content.length ≠ row.bytes then
      let size := content.length
      let expected := row.bytes
      [s!"size mismatch: {path}: {size} != {expected}"]
    else if sha256 content ≠ row.sha256 then
      let digest := sha256 content
      let expected := row.sha256
      [s!"sha256 mismatch: {path}: {digest} != {expected}"]
    else []

def verify_tree (root : Location) (expected : List Record) : Except Exception (List String) := do
  let current_paths := (← tree sha256 root).map Record.path
  let expected_paths := expected.map Record.path
  return (sortedDifference expected_paths current_paths).map (fun missing => "missing: " ++ root.joined missing) ++
    (sortedDifference current_paths expected_paths).map (fun extra => "unexpected: " ++ root.joined extra) ++
    expected.flatMap (row_errors sha256 root)

/-- A tree that the manifest may not have. -/
def verify_optional (host : String → Location) (recorded : Option String) (relocated : Option Location)
    (expected : List Record) : Except Exception (List String) :=
  match recorded with
  | some path => if path = "" then .ok [] else verify_tree sha256 (relocated.getD (host path)) expected
  | none => .ok []

/-- `host` is what there is at the roots that the manifest has recorded. -/
def verify_manifest (host : String → Location) (manifest : Manifest)
    (suite_root run_root rejected_root report_root : Option Location) : Except Exception (List String) := do
  let errors ← verify_tree sha256 (suite_root.getD (host manifest.suite_root)) manifest.suite_files
  let run_errors ← verify_tree sha256 (run_root.getD (host manifest.run_root)) manifest.run_files
  let rejected_errors ← verify_optional sha256 host manifest.rejected_root rejected_root manifest.rejected_files
  let report_errors ← verify_optional sha256 host manifest.report_root report_root manifest.report_files
  return errors ++ run_errors ++ rejected_errors ++ report_errors

end

/-- The same files at the same paths. -/
def Tree.SameFiles (self other : Tree) : Prop := ∀ path, self.files.get? path = other.files.get? path

/-- A tree where it stands. -/
structure Placed where
  path : PurePosixPath
  absolute : path.is_absolute = true
  tree : Tree

def Placed.location (self : Placed) : Location := ⟨self.path, self.absolute, some self.tree⟩

section

variable {sha256 : Bytes → String}

/-- The records of a tree. -/
def Tree.records (sha256 : Bytes → String) (self : Tree) : List Record :=
  (self.files.entries.insertionSort fun a b => a.1.parts ≤ b.1.parts).map (record sha256 self)

theorem mem_records_iff {tree : Tree} {row : Record} :
    row ∈ tree.records sha256 ↔ ∃ path content, tree.files.get? path = some content ∧
      row = record sha256 tree (path, content) := by
  rw [Tree.records, List.mem_map]
  constructor
  · rintro ⟨entry, hentry, rfl⟩
    rw [List.mem_insertionSort] at hentry
    exact ⟨entry.1, entry.2, tree.files.get?_of_mem hentry, rfl⟩
  · rintro ⟨path, content, hget, rfl⟩
    exact ⟨(path, content), (List.mem_insertionSort _).mpr (tree.files.mem_entries_of_get? hget), rfl⟩

/-- The paths of the records are those of the files. -/
theorem as_posix_mem_records_iff {tree : Tree} {path : RelPath} :
    path.as_posix ∈ (tree.records sha256).map Record.path ↔ ∃ content, tree.files.get? path = some content := by
  rw [List.mem_map]
  constructor
  · rintro ⟨row, hrow, hpath⟩
    obtain ⟨other, content, hget, rfl⟩ := mem_records_iff.mp hrow
    rw [← RelPath.as_posix_injective hpath]
    exact ⟨content, hget⟩
  · rintro ⟨content, hget⟩
    exact ⟨_, mem_records_iff.mpr ⟨path, content, hget, rfl⟩, rfl⟩

/-- A difference is empty where every path of the one is a path of the other. -/
theorem sortedDifference_eq_nil_iff {paths others : List String} :
    sortedDifference paths others = [] ↔ ∀ path ∈ paths, path ∈ others := by
  unfold sortedDifference
  rw [← List.length_eq_zero_iff, List.length_insertionSort, List.length_eq_zero_iff, List.dedup_eq_nil,
    List.filter_eq_nil_iff]
  simp

/-- One tree has all the paths of another. -/
theorem sortedDifference_records {tree other : Tree} :
    sortedDifference ((tree.records sha256).map Record.path) ((other.records sha256).map Record.path) = [] ↔
      ∀ path content, tree.files.get? path = some content → ∃ content', other.files.get? path = some content' := by
  rw [sortedDifference_eq_nil_iff]
  constructor
  · intro hall path content hget
    exact as_posix_mem_records_iff.mp (hall _ (as_posix_mem_records_iff.mpr ⟨content, hget⟩))
  · intro hall text htext
    obtain ⟨row, hrow, rfl⟩ := List.mem_map.mp htext
    obtain ⟨path, content, hget, rfl⟩ := mem_records_iff.mp hrow
    exact as_posix_mem_records_iff.mpr (hall path content hget)

theorem file_as_posix (placed : Placed) (path : RelPath) :
    placed.location.file path.as_posix = placed.tree.files.get? path := by
  unfold Location.file
  rw [RelPath.ofText_as_posix]
  rfl

/-- A record says nothing against a file exactly if the file has its size and its hash. -/
theorem row_errors_eq_nil_iff {root : Location} {row : Record} {content : Bytes}
    (hfile : root.file row.path = some content) :
    row_errors sha256 root row = [] ↔ content.length = row.bytes ∧ sha256 content = row.sha256 := by
  unfold row_errors
  rw [hfile]
  dsimp only
  split_ifs with hsize hdigest
  · simp [hsize]
  · simp [hdigest]
  · simp only [not_not] at hsize hdigest
    simp [hsize, hdigest]

/-- A record of one tree says nothing against another that has the same file at its path,
and with hashes that tell contents apart only then. -/
theorem row_errors_record (hinjective : Function.Injective sha256) {tree : Tree} (placed : Placed) {path : RelPath}
    {content content' : Bytes} (hget : placed.tree.files.get? path = some content') :
    row_errors sha256 placed.location (record sha256 tree (path, content)) = [] ↔ content' = content := by
  have hfile : placed.location.file (record sha256 tree (path, content)).path = some content' := by
    rw [← hget]
    exact file_as_posix placed path
  rw [row_errors_eq_nil_iff hfile]
  constructor
  · rintro ⟨_, hdigest⟩
    exact hinjective hdigest
  · rintro rfl
    exact ⟨rfl, rfl⟩

theorem verify_tree_location (placed : Placed) (expected : List Record) :
    verify_tree sha256 placed.location expected = .ok
      ((sortedDifference (expected.map Record.path) ((placed.tree.records sha256).map Record.path)).map
          (fun missing => "missing: " ++ placed.location.joined missing) ++
        (sortedDifference ((placed.tree.records sha256).map Record.path) (expected.map Record.path)).map
          (fun extra => "unexpected: " ++ placed.location.joined extra) ++
        expected.flatMap (row_errors sha256 placed.location)) := rfl

/-- A tree passes exactly if it has the files that were recorded, and no others. -/
theorem verify_tree_records (hinjective : Function.Injective sha256) (placed : Placed) (recorded : Tree) :
    ∃ errors, verify_tree sha256 placed.location (recorded.records sha256) = .ok errors ∧
      (errors = [] ↔ placed.tree.SameFiles recorded) := by
  refine ⟨_, verify_tree_location placed _, ?_⟩
  rw [List.append_eq_nil_iff, List.append_eq_nil_iff, List.map_eq_nil_iff, List.map_eq_nil_iff,
    List.flatMap_eq_nil_iff, sortedDifference_records, sortedDifference_records]
  constructor
  · rintro ⟨⟨hmissing, hextra⟩, hrows⟩ path
    cases hrecorded : recorded.files.get? path with
    | some content =>
      obtain ⟨content', hget⟩ := hmissing path content hrecorded
      have hrow := hrows _ (mem_records_iff.mpr ⟨path, content, hrecorded, rfl⟩)
      rw [row_errors_record hinjective placed hget] at hrow
      rw [hget, hrow]
    | none =>
      cases hget : placed.tree.files.get? path with
      | none => rfl
      | some content' =>
        obtain ⟨content, hcontent⟩ := hextra path content' hget
        rw [hrecorded] at hcontent
        cases hcontent
  · intro hsame
    refine ⟨⟨?_, ?_⟩, ?_⟩
    · intro path content hrecorded
      exact ⟨content, by rw [hsame path, hrecorded]⟩
    · intro path content' hget
      exact ⟨content', by rw [← hsame path, hget]⟩
    · intro row hrow
      obtain ⟨path, content, hrecorded, rfl⟩ := mem_records_iff.mp hrow
      have hget : placed.tree.files.get? path = some content := by rw [hsame path, hrecorded]
      exact (row_errors_record hinjective placed hget).mpr rfl

theorem toText_ne_empty (placed : Placed) : placed.path.toText ≠ "" := by
  have hroot : placed.path.root ≠ "" := by
    have habsolute := placed.absolute
    rwa [PurePosixPath.is_absolute, bne_iff_ne] at habsolute
  rw [PurePosixPath.toText, if_neg (fun h => hroot h.1)]
  intro hempty
  exact hroot (String.append_eq_empty_iff.mp hempty).1

theorem verify_optional_recorded (host : String → Location) (recorded placed : Placed) (expected : List Record) :
    verify_optional sha256 host (some recorded.path.toText) (some placed.location) expected =
      verify_tree sha256 placed.location expected := by
  rw [verify_optional, if_neg (toText_ne_empty recorded)]
  rfl

end

/-- What a manifest of four trees records of them. -/
theorem build_placed (sha256 : Bytes → String) (environ : Environment) (suite runs rejected reports : Placed) :
    ∃ manifest, build sha256 environ suite.location runs.location (some rejected.location) (some reports.location) =
        .ok manifest ∧
      manifest.suite_files = suite.tree.records sha256 ∧ manifest.run_files = runs.tree.records sha256 ∧
      manifest.rejected_root = some rejected.path.toText ∧ manifest.rejected_files = rejected.tree.records sha256 ∧
      manifest.report_root = some reports.path.toText ∧ manifest.report_files = reports.tree.records sha256 :=
  ⟨_, rfl, rfl, rfl, rfl, rfl, rfl, rfl⟩

/-- A manifest of four trees, verified against four trees at any roots, finds errors
exactly where the trees differ in a file. -/
theorem verify_manifest_exact (sha256 : Bytes → String) (hinjective : Function.Injective sha256)
    (environ : Environment) (host : String → Location) (suite runs rejected reports : Placed)
    (suite' runs' rejected' reports' : Placed) :
    ∃ manifest errors,
      build sha256 environ suite.location runs.location (some rejected.location) (some reports.location) =
        .ok manifest ∧
      verify_manifest sha256 host manifest (some suite'.location) (some runs'.location) (some rejected'.location)
        (some reports'.location) = .ok errors ∧
      (errors = [] ↔ suite'.tree.SameFiles suite.tree ∧ runs'.tree.SameFiles runs.tree ∧
        rejected'.tree.SameFiles rejected.tree ∧ reports'.tree.SameFiles reports.tree) := by
  obtain ⟨suite_errors, hsuite, hsuite_nil⟩ := verify_tree_records hinjective suite' suite.tree
  obtain ⟨run_errors, hruns, hruns_nil⟩ := verify_tree_records hinjective runs' runs.tree
  obtain ⟨rejected_errors, hrejected, hrejected_nil⟩ := verify_tree_records hinjective rejected' rejected.tree
  obtain ⟨report_errors, hreports, hreports_nil⟩ := verify_tree_records hinjective reports' reports.tree
  obtain ⟨manifest, hbuild, hsuite_files, hrun_files, hrejected_root, hrejected_files, hreport_root, hreport_files⟩ :=
    build_placed sha256 environ suite runs rejected reports
  refine ⟨manifest, suite_errors ++ run_errors ++ rejected_errors ++ report_errors, hbuild, ?_, ?_⟩
  · unfold verify_manifest
    rw [hsuite_files, hrun_files, hrejected_root, hrejected_files, hreport_root, hreport_files,
      verify_optional_recorded, verify_optional_recorded, hrejected, hreports]
    simp only [Option.getD_some]
    rw [hsuite, hruns]
    rfl
  · rw [List.append_eq_nil_iff, List.append_eq_nil_iff, List.append_eq_nil_iff, hsuite_nil, hruns_nil,
      hrejected_nil, hreports_nil, and_assoc, and_assoc]

section Relocated

/-- The digests of the contents of the files below. -/
def fileDigests : List (Bytes × String) := [
  ([], "e3b0c44298fc1c149afbf4c8996fb92427ae41e4649b934ca495991b7852b855"),
  ("\x7b\x7d".toUTF8.toList, "44136fa355b3678a1146ad16f7e8649e94fb4fc21fe77e8310c060f61caaff8a")]

def fileDigest : Bytes → String := tableDigest fileDigests fun content => content.map Char.ofUInt8

theorem fileDigest_injective : Function.Injective fileDigest := by
  have hchar : Function.Injective Char.ofUInt8 := by
    intro a b heq
    have hval := congrArg Char.val heq
    exact UInt8.toUInt32_inj.mp hval
  exact tableDigest_injective hchar.list_map (by decide) (by decide)

/-- A tree of files that are empty or hold an empty object, placed at a root. -/
def placed (root : String) (files : List (String × Bool)) (habsolute : (PurePosixPath.parse root).is_absolute = true) :
    Placed where
  path := .parse root
  absolute := habsolute
  tree := ⟨.ofList (files.filterMap fun (name, empty) => (RelPath.ofText name).map fun path =>
    (path, if empty then [] else "\x7b\x7d".toUTF8.toList)), fun _ => 0o644⟩

def suiteFiles : List (String × Bool) := [("suite.json", false), ("schedule.jsonl", true)]

def runFiles : List (String × Bool) := [("001/manifest.json", false), ("001/raw.jsonl", true), ("002/raw.jsonl", true)]

def rejectedFiles : List (String × Bool) := [("017/REJECTION.json", false), ("017/raw.jsonl", true)]

def reportFiles : List (String × Bool) := [("verdict.json", false), ("tables/gaps.csv", true)]

/-- Four trees that have been moved to another host. -/
theorem verify_manifest_relocated :
    ∃ manifest errors,
      build fileDigest (.ofList [("USER", "g0")]) (placed "/producer/suite" suiteFiles rfl).location
        (placed "/producer/runs" runFiles rfl).location (some (placed "/producer/rejected" rejectedFiles rfl).location)
        (some (placed "/producer/reports" reportFiles rfl).location) = .ok manifest ∧
      verify_manifest fileDigest (fun _ => (placed "/" [] rfl).location) manifest
        (some (placed "/consumer/suite" suiteFiles rfl).location) (some (placed "/consumer/runs" runFiles rfl).location)
        (some (placed "/consumer/rejected" rejectedFiles rfl).location)
        (some (placed "/consumer/reports" reportFiles rfl).location) = .ok errors ∧ errors = [] := by
  obtain ⟨manifest, errors, hbuild, hverify, hexact⟩ := verify_manifest_exact fileDigest fileDigest_injective
    (.ofList [("USER", "g0")]) (fun _ => (placed "/" [] rfl).location)
    (placed "/producer/suite" suiteFiles rfl) (placed "/producer/runs" runFiles rfl)
    (placed "/producer/rejected" rejectedFiles rfl) (placed "/producer/reports" reportFiles rfl)
    (placed "/consumer/suite" suiteFiles rfl) (placed "/consumer/runs" runFiles rfl)
    (placed "/consumer/rejected" rejectedFiles rfl) (placed "/consumer/reports" reportFiles rfl)
  refine ⟨manifest, errors, hbuild, hverify, hexact.mpr ⟨?_, ?_, ?_, ?_⟩⟩
  · exact fun _ => rfl
  · exact fun _ => rfl
  · exact fun _ => rfl
  · exact fun _ => rfl

end Relocated

end build_g0_raw_manifest
