import KvMaterialization.Python.Json
import KvMaterialization.Python.Statistics

open python

namespace rebuild_g0_formal

section Statistics

variable {F : Type} [PyNumber F]

def median (values : List F) : Except Exception F := do
  raiseIf values.isEmpty "cannot take median of empty values"
  python.median values

def percentile (values : List F) (q : Number F) : Except Exception (Option F) := do
  if values = [] then
    return none
  let ordered := sorted values
  let share : F ← (← (Number.int (ordered.length - 1)).mul q).div (.int 100)
  return some (← itemAt ordered (← ceil share))

structure Bootstrap (F : Type) where
  confidence_pct : F
  lower_pct : Option F
  upper_pct : Option F
  replicates : ℕ

/-- `product(choices, repeat=n)` -/
def product {α : Type} (choices : List α) : ℕ → List (List α)
  | 0 => [[]]
  | n + 1 => choices.flatMap fun choice => (product choices n).map fun rest => choice :: rest

def paired_lifecycle_bootstrap_median (values : List F) (confidence : F) : Except Exception (Bootstrap F) := do
  raiseIf values.isEmpty "cannot bootstrap empty lifecycle values"
  raiseIf (decide (8 < values.length)) "exact lifecycle bootstrap is limited to eight repeats"
  let alpha ← PyFloat.div (lit 100 - confidence) (lit 2)
  let samples ← (product (List.range values.length) values.length).mapM fun indices =>
    median (indices.filterMap fun index => values[index]?)
  return {
    confidence_pct := confidence
    lower_pct := ← percentile samples (.float alpha)
    upper_pct := ← percentile samples (.float (lit 100 - alpha))
    replicates := samples.length }

end Statistics

section Pressure

variable {F : Type} [PyNumber F]

/-- `entries[key] = change(entries[key])` of a dictionary with a default. -/
def changeAt {ν : Type} (entries : List (Json F × ν)) (key : Json F) (default : ν) (change : ν → ν) :
    List (Json F × ν) :=
  assignAt Json.same entries key (change ((lookup Json.same entries key).getD default))

structure Pressure (F : Type) where
  reuse : List (Json F × ℤ)
  requested : List (Json F × ℤ)
  queue_wait : List (Json F × List F)
  layer_wait : List (Json F × List F)
  inflight : List (Json F × List ℤ)

def Pressure.empty : Pressure F := ⟨[], [], [], [], []⟩

/-- A value used as a key. -/
def key (value : Json F) : Except Exception (Json F) :=
  if value.hashable then .ok value else .error .type_error

/-- `byte_map.get(rid, 0)`: the keys of a decoded object are texts. -/
def entry_at (byte_map rid : Json F) : Except Exception (Json F) :=
  match rid.str? with
  | some text => byte_map.getD text (.int 0)
  | none => byte_map.getD "" (.int 0) |>.map fun _ => .int 0

def record_decision (runtime : Runtime F) (event name request_id : Json F) (pressure : Pressure F) :
    Except Exception (Pressure F) := do
  if name.eq (.str "materialization_decision") && request_id.truthy then
    if ← Json.lt (.int 0) (← event.getD "external_hit_tokens" (.int 0)) then
      let tokens ← (← event.item "external_hit_tokens").toInt runtime.toInterpreter
      return { pressure with reuse := assignAt Json.same pressure.reuse (← key request_id) tokens }
    return pressure
  return pressure

def record_transfer (runtime : Runtime F) (event : Json F) (pressure : Pressure F) (rid : Json F) :
    Except Exception (Pressure F) := do
  let byte_map ← event.getD "request_materialization_bytes" (.dict [])
  let rid ← key rid
  let bytes ← (← entry_at byte_map rid).toInt runtime.toInterpreter
  let wait_ns ← (← event.getD "connector_queue_wait_ns" (.int 0)).toFloat runtime.toInterpreter
  let wait_ms ← PyFloat.div wait_ns (lit 1000000)
  let in_flight ← (← event.getD "bytes_in_flight" (.int 0)).toInt runtime.toInterpreter
  return { pressure with
    requested := changeAt pressure.requested rid 0 (· + bytes)
    queue_wait := changeAt pressure.queue_wait rid [] (· ++ [wait_ms])
    inflight := changeAt pressure.inflight rid [] (· ++ [in_flight]) }

def record_layer_wait (runtime : Runtime F) (event : Json F) (pressure : Pressure F) (rid : Json F) :
    Except Exception (Pressure F) := do
  let rid ← key rid
  let wait_ns ← (← event.getD "layer_ready_wait_ns" (.int 0)).toFloat runtime.toInterpreter
  let wait_ms ← PyFloat.div wait_ns (lit 1000000)
  return { pressure with layer_wait := changeAt pressure.layer_wait rid [] (· ++ [wait_ms]) }

def record_event (runtime : Runtime F) (pressure : Pressure F) (event : Json F) : Except Exception (Pressure F) := do
  let name ← event.get "event"
  let request_id ← event.get "request_id"
  let pressure ← record_decision runtime event name request_id pressure
  let request_ids ← event.getD "request_ids" (.list [])
  if name.eq (.str "transfer_started") then
    (← request_ids.iterate).foldlM (record_transfer runtime event) pressure
  else if name.eq (.str "layer_ready_wait_finished") then
    (← request_ids.iterate).foldlM (record_layer_wait runtime event) pressure
  else
    return pressure

/-- The values of the requests that reuse the same number of tokens. -/
structure Group (F : Type) where
  requested : List F
  queue : List F
  layer : List F
  inflight : List F

def Group.empty : Group F := ⟨[], [], [], []⟩

def add_request (pressure : Pressure F) (grouped : Dict ℤ (Group F)) (reused : Json F × ℤ) :
    Except Exception (Dict ℤ (Group F)) := do
  let rid := reused.1
  let group := (grouped.get? reused.2).getD Group.empty
  let requested ← ofInt ((lookup Json.same pressure.requested rid).getD 0)
  let inflight ← ((lookup Json.same pressure.inflight rid).getD []).mapM ofInt
  return grouped.set reused.2 {
    requested := group.requested ++ [requested]
    queue := group.queue ++ (lookup Json.same pressure.queue_wait rid).getD []
    layer := group.layer ++ (lookup Json.same pressure.layer_wait rid).getD []
    inflight := group.inflight ++ inflight }

structure ReuseGroup (F : Type) where
  reuse_tokens : ℤ
  requests : ℕ
  requested_bytes_mean : F
  connector_queue_wait_ms_p95 : Option F
  layer_ready_wait_ms_p95 : Option F
  bytes_in_flight_p95 : Option F

def summarize_group (pressure : Pressure F) (grouped : ℤ × Group F) : Except Exception (ReuseGroup F) := do
  return {
    reuse_tokens := grouped.1
    requests := (pressure.reuse.map Prod.snd).count grouped.1
    requested_bytes_mean := ← mean grouped.2.requested
    connector_queue_wait_ms_p95 := ← percentile grouped.2.queue (.int 95)
    layer_ready_wait_ms_p95 := ← percentile grouped.2.layer (.int 95)
    bytes_in_flight_p95 := ← percentile grouped.2.inflight (.int 95) }

def reuse_pressure_groups (runtime : Runtime F) (events : List (Json F)) : Except Exception (List (ReuseGroup F)) := do
  let pressure ← events.foldlM (record_event runtime) Pressure.empty
  let grouped ← pressure.reuse.foldlM (add_request pressure) Dict.empty
  (grouped.entries.insertionSort fun a b => a.1 ≤ b.1).mapM (summarize_group pressure)

end Pressure

end rebuild_g0_formal
