import KvMaterialization.Python.Dict
import KvMaterialization.Python.Interpreter

open python

namespace vllm_kv_materialization.live_control

def HEADER_REQUEST_ID : String := "x-request-id"
def HEADER_PRIMARY_ANCHOR : String := "x-kv-primary-anchor-id"
def HEADER_SECONDARY_ANCHORS : String := "x-kv-secondary-anchor-ids"
def HEADER_SHARED_PREFIX_TOKENS : String := "x-kv-shared-prefix-tokens"
def HEADER_REUSE_CONFIDENCE : String := "x-kv-reuse-confidence"
def HEADER_QUEUE_PRESSURE : String := "x-kv-queue-pressure"
def HEADER_WORKLOAD_CASE : String := "x-kv-workload-case"
def HEADER_WORKLOAD_FAMILY : String := "x-kv-workload-family"
def HEADER_TURN_INDEX : String := "x-kv-turn-index"
def HEADER_HOME_RANK : String := "x-kv-home-rank"
def HEADER_CORRELATION_ID : String := "x-correlation-id"

def DEFAULT_BYTES_PER_TOKEN : ℤ := 16 * 1024
def DEFAULT_TRANSFER_BANDWIDTH_GBPS : ℚ := 25.0
def DEFAULT_PREFILL_MS_PER_1K : ℚ := 14.0
def DEFAULT_QUEUE_PRESSURE : ℚ := 0.0

/-- Headers as bound to a request: lower-case names, one value each. -/
abbrev Headers := Dict String String

/-- The headers `bind_request_headers` binds: names are lowered, and of two names
that become equal the later value stays. -/
def bind_request_headers (lower : String → String) (headers : List (String × String)) : Headers :=
  .ofList (headers.map (fun item => (lower item.1, item.2)))

/-- `headers.get(name, "")`. -/
def header (headers : Headers) (name : String) : String := (headers.get? name).getD ""

section

variable {F : Type} (py : Interpreter F)

def env_float (env : Environment) (name : String) (default : F) : F :=
  let raw := strip (getenv env name "")
  if raw = "" then default else (py.float raw).getD default

def env_int (env : Environment) (name : String) (default : ℤ) : ℤ :=
  let raw := strip (getenv env name "")
  if raw = "" then default else (py.int raw).getD default

def header_float (headers : Headers) (name : String) (default : F) : F :=
  let raw := strip (header headers name)
  if raw = "" then default else (py.float raw).getD default

def header_int (headers : Headers) (name : String) (default : ℤ) : ℤ :=
  let raw := strip (header headers name)
  if raw = "" then default else (py.int raw).getD default

end

def split_secondary_anchor_ids (raw : String) : List String :=
  if raw = "" then []
  else
    ((raw.toList.splitOn ',').map (fun part => strip (String.ofList part))).filter (· ≠ "")

/-- The anchor a request is filed under: its primary anchor, else its correlation id. -/
def primary_anchor_id (headers : Headers) : String :=
  let primary_anchor_id := strip (header headers HEADER_PRIMARY_ANCHOR)
  if primary_anchor_id = "" then strip (header headers HEADER_CORRELATION_ID)
  else primary_anchor_id

end vllm_kv_materialization.live_control
