import KvMaterialization.FileTree
import KvMaterialization.Python.Json
import KvMaterialization.Python.PosixPath

open python

namespace fetch_mod_consumer_evidence

abbrev Bytes := List UInt8

/-- A member of an archive; what is read of a file is as long as its header says. -/
structure Member where
  name : String
  isdir : Bool
  isfile : Bool
  size : ℕ
  content : Except Exception Bytes
  size_eq : ∀ bytes, content = .ok bytes → bytes.length = size

/-- The members that can be read of an archive, and why it cannot be read to its end. -/
structure Archive where
  members : List Member
  failure : Option Exception

/-- What the script takes from `hashlib`, `tarfile` and `urllib`: the hex digest, the
reading of an archive, and that of a response up to some length. -/
structure Tools where
  sha256 : Bytes → String
  tar : Bytes → Archive
  urlopen : String → ℕ → Except Exception Bytes

def startsWith (text start : String) : Bool := start.toList.isPrefixOf text.toList

def fetch (tools : Tools) (url : String) (limit : ℕ) : Except Exception Bytes := do
  let canonical := ["https://raw.githubusercontent.com/vLLM-HUST/vllm-hust-benchmark/",
    "https://github.com/vLLM-HUST/vllm-hust-benchmark/releases/download/"]
  raiseIf (!canonical.any (startsWith url)) "Only canonical benchmark URLs are allowed"
  let raw ← tools.urlopen url (limit + 1)
  raiseIf (limit < raw.length) "Download exceeds declared size"
  return raw

/-- `path.is_absolute() or ".." in path.parts or str(path) != name or str(path) == "."` -/
def irregular (name : String) : Bool :=
  let path := PurePosixPath.parse name
  path.is_absolute || path.parts.contains ".." || path.toText != name || path.toText == "."

section

variable {F : Type} [PyNumber F] (tools : Tools)

/-- `expected[row["path"]] = row` -/
def expect_row (expected : Dict String (Json F)) (row : Json F) : Except Exception (Dict String (Json F)) := do
  match ← row.item "path" with
  | .str name =>
    raiseIf (irregular name) "Unsafe member path"
    raiseIf (expected.keys.contains name) "Duplicate manifest path"
    return expected.set name row
  | _ => throw .type_error

/-- The content of an expected file, if it has the size and the hash of its row. -/
def member_content (row : Json F) (member : Member) : Except Exception Bytes := do
  raiseIf (!(Json.int member.size).eq (← row.item "bytes")) "Member size mismatch"
  let content ← member.content
  raiseIf (!(Json.str (tools.sha256 content)).eq (← row.item "sha256")) "Member checksum mismatch"
  return content

/-- `payloads[name] = content` -/
def take_member (archive : Json F) (expected : Dict String (Json F)) (payloads : Dict String Bytes)
    (member : Member) : Except Exception (Dict String Bytes) :=
  if member.isdir then .ok payloads
  else do
    match ← archive.item "member_prefix" with
    | .str member_prefix =>
      raiseIf (!member.isfile || !startsWith member.name member_prefix) "Unexpected archive member type or prefix"
      let name := String.ofList (member.name.toList.drop member_prefix.length)
      match expected.get? name with
      | some row =>
        raiseIf (payloads.keys.contains name) "Unexpected or duplicate archive member"
        return payloads.set name (← member_content tools row member)
      | none => throw (.value_error "Unexpected or duplicate archive member")
    | _ =>
      raiseIf (!member.isfile) "Unexpected archive member type or prefix"
      throw .type_error

/-- `raise` of what ended the reading of an archive, if anything did. -/
def Archive.finish (self : Archive) : Except Exception Unit :=
  match self.failure with
  | some error => .error error
  | none => .ok ()

/-- The rows of a manifest. -/
def rows (manifest : Json F) : Except Exception (List (Json F)) := do (← manifest.item "files").iterate

def verify (manifest : Json F) (raw : Bytes) : Except Exception (Dict String Bytes) := do
  let archive ← manifest.item "archive"
  raiseIf (!(Json.int raw.length).eq (← archive.item "bytes")) "Archive checksum/size mismatch"
  raiseIf (!(Json.str (tools.sha256 raw)).eq (← archive.item "sha256")) "Archive checksum/size mismatch"
  let expected ← (← rows manifest).foldlM expect_row Dict.empty
  let bundle := tools.tar raw
  let payloads ← bundle.members.foldlM (take_member tools archive expected) Dict.empty
  bundle.finish
  raiseIf (!(expected.keys.all payloads.keys.contains && payloads.keys.all expected.keys.contains))
    "Missing archive members"
  return payloads

/-- `re.fullmatch` of the pattern of a pinned manifest. -/
def pinned (manifest_url : String) : Bool :=
  let repository := "https://raw.githubusercontent.com/vLLM-HUST/vllm-hust-benchmark/".toList
  let archive := "/archive/".toList
  let file := "/manifest.json".toList
  let commit := manifest_url.toList.drop repository.length
  let name := commit.drop (40 + archive.length)
  let directory := name.take (name.length - file.length)
  repository.isPrefixOf manifest_url.toList && 40 ≤ commit.length &&
    (commit.take 40).all (fun c => c.isDigit || "abcdef".toList.contains c) &&
    archive.isPrefixOf (commit.drop 40) && file.isSuffixOf name && !directory.isEmpty &&
    directory.all fun c => c.isAlphanum || "_/-".toList.contains c

/-- `text.rsplit("/", 1)[0]` -/
def rsplit_head (text : String) : String :=
  if text.toList.contains '/' then
    String.ofList ((text.toList.reverse.dropWhile (· ≠ '/')).drop 1).reverse
  else text

/-- A row of a snapshot, with the bytes fetched so far and their number. -/
def take_row (manifest_url : String) (fetched : Dict String Bytes × ℤ) (row : Json F) :
    Except Exception (Dict String Bytes × ℤ) := do
  match ← row.item "path" with
  | .str name =>
    let path := PurePosixPath.parse name
    raiseIf (path.is_absolute || path.parts.contains ".." || path.toText != name || name == "." ||
      name.toList.contains '\\' || name.toList.any "?#%".toList.contains) "Unsafe snapshot member path"
    raiseIf (fetched.1.keys.contains name) "Duplicate or oversized snapshot member"
    match (← row.item "bytes").int? with
    | some bytes =>
      raiseIf (!(0 ≤ bytes && bytes ≤ 5000000)) "Duplicate or oversized snapshot member"
      let total := fetched.2 + bytes
      raiseIf (20000000 < total) "Snapshot exceeds total size bound"
      let content ← fetch tools (rsplit_head manifest_url ++ "/snapshot/" ++ name) bytes.toNat
      raiseIf ((content.length : ℤ) != bytes) "Snapshot member checksum/size mismatch"
      raiseIf (!(Json.str (tools.sha256 content)).eq (← row.item "sha256")) "Snapshot member checksum/size mismatch"
      return (fetched.1.set name content, total)
    | none => throw (.value_error "Duplicate or oversized snapshot member")
  | _ => throw .type_error

def fetch_snapshot (manifest manifest_url : Json F) : Except Exception (Dict String Bytes) := do
  match manifest_url with
  | .str manifest_url =>
    raiseIf (!pinned manifest_url) "Snapshot requires a pinned benchmark manifest URL"
    raiseIf (!(← manifest.get "schema").eq (.str "mod-git-custody/v1")) "Unsupported snapshot identity"
    raiseIf (!(← manifest.get "source_visibility").eq (.str "public")) "Unsupported snapshot identity"
    raiseIf (!(← manifest.item "files").truthy) "Invalid snapshot member count"
    let rows ← rows manifest
    raiseIf (1000 < rows.length) "Invalid snapshot member count"
    return (← rows.foldlM (take_row tools manifest_url) (Dict.empty, 0)).1
  | _ => throw (.value_error "Snapshot requires a pinned benchmark manifest URL")

end

/-- The parts of the path a name stands for. -/
def nameParts (name : String) : List String := (PurePosixPath.parse name).tail

/-- The longest name and the longest path, in bytes, that the host takes. -/
structure Limits where
  name_max : ℕ
  path_max : ℕ

/-- `destination / name`, as it is handed to the host. -/
def target (destination : String) (parts : List String) : String :=
  parts.foldl (fun text part => text ++ "/" ++ part) destination

/-- No call takes a path with a null byte in it or one that is too long. -/
def Limits.accepts (self : Limits) (destination : String) (parts : List String) : Bool :=
  !(target destination parts).toList.contains '\x00' && (target destination parts).utf8ByteSize < self.path_max

/-- No node has a name that is too long. -/
def Limits.allows (self : Limits) (parts : List String) : Bool :=
  match parts.getLast? with
  | some name => name.utf8ByteSize ≤ self.name_max
  | none => true

/-- The loop of `main` over the payloads. -/
def write_payloads (limits : Limits) (destination : String) (tree : filetree.Tree String Bytes) :
    List (String × Bytes) → Except Exception Unit × filetree.Tree String Bytes
  | [] => (.ok (), tree)
  | (name, content) :: rest =>
    let parts := nameParts name
    let written := filetree.write (limits.accepts destination) limits.allows tree parts content
    if written.1 then write_payloads limits destination written.2 rest
    else if (target destination parts).toList.contains '\x00' then
      (.error (.value_error "embedded null byte"), written.2)
    else (.error .os_error, written.2)

end fetch_mod_consumer_evidence
