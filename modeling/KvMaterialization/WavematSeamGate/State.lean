import KvMaterialization.Python.Dict

open python

namespace vllm_kv_materialization.wavemat_seam_gate

/-- The `VIOLATION_*` constants. -/
inductive ViolationCode where
  | partial_layer_range
  | stale_generation
  | duplicate_consume
  | aba_generation_reuse
  | load_failure
  | ack_without_consume
  | reuse_before_ack
  | orphan_after_recovery
  | digest_mismatch
  deriving DecidableEq, Repr

def ViolationCode.value : ViolationCode → String
  | partial_layer_range => "partial_layer_range"
  | stale_generation => "stale_generation"
  | duplicate_consume => "duplicate_consume"
  | aba_generation_reuse => "aba_generation_reuse"
  | load_failure => "load_failure"
  | ack_without_consume => "ack_without_consume"
  | reuse_before_ack => "reuse_before_ack"
  | orphan_after_recovery => "orphan_after_recovery"
  | digest_mismatch => "digest_mismatch"

/-- `(request_id, cache_id, layer_start, layer_end)`. -/
abbrev Identity := String × String × Int × Int

structure LayerGroupRef where
  request_id : String
  cache_id : String
  layer_start : Int
  layer_end : Int
  generation : Int
  deriving DecidableEq, Repr

def LayerGroupRef.identity (self : LayerGroupRef) : Identity :=
  (self.request_id, self.cache_id, self.layer_start, self.layer_end)

/-- The messages of the gate, one constructor for each formatted string of the
source, with the values that the string interpolates. -/
inductive Message where
  | not_acked_before_reuse (key : Identity) (generation : Int)
  | cannot_reuse_identity (generation : Int) (key : Identity) (last_generation : Int)
  | cannot_fail (generation : Int) (key : Identity)
  | unknown_layer_group (key : Identity)
  | ready_generation (generation registered : Int)
  | already_load_failed (key : Identity)
  | ready_digest_mismatch (key : Identity)
  | consume_generation (generation registered : Int)
  | consume_load_failed (key : Identity)
  | consume_before_ready (key : Identity)
  | duplicate_consume (key : Identity)
  | consume_after_ack (key : Identity)
  | consume_digest_mismatch (key : Identity)
  | ack_generation (generation registered : Int)
  | ack_before_consume (key : Identity)
  | ack_digest_mismatch (key : Identity)
  | orphan_slots (count : Nat)
  deriving DecidableEq, Repr

/-- The text of a message, given how the interpreter prints a tuple key (`!r`). -/
def Message.text (repr : Identity → String) : Message → String
  | not_acked_before_reuse key generation =>
    s!"slot {repr key} generation {generation} not acked before reuse"
  | cannot_reuse_identity generation key last_generation =>
    s!"generation {generation} cannot reuse identity {repr key} after generation {last_generation}"
  | cannot_fail generation key => s!"cannot fail unknown/stale generation {generation} for {repr key}"
  | unknown_layer_group key => s!"unknown layer group {repr key}"
  | ready_generation generation registered =>
    s!"ready for generation {generation} while registered generation is {registered}"
  | already_load_failed key => s!"layer group {repr key} already marked load-failed"
  | ready_digest_mismatch key => s!"ready digest mismatch for {repr key}"
  | consume_generation generation registered =>
    s!"consume generation {generation} while registered generation is {registered}"
  | consume_load_failed key => s!"cannot consume load-failed layer group {repr key}"
  | consume_before_ready key => s!"cannot consume partial layer group {repr key} before ready"
  | duplicate_consume key => s!"duplicate consume for layer group {repr key}"
  | consume_after_ack key => s!"consume after ack for layer group {repr key}"
  | consume_digest_mismatch key => s!"consume digest mismatch for {repr key}"
  | ack_generation generation registered =>
    s!"ack generation {generation} while registered generation is {registered}"
  | ack_before_consume key => s!"ack for layer group {repr key} before consume"
  | ack_digest_mismatch key => s!"ack digest mismatch for {repr key}"
  | orphan_slots count => s!"{count} orphan slot(s) after recovery"

/-- The exception of a rejected call. An entry of the rejection log holds the
same code and message. -/
structure SeamGateViolation where
  code : ViolationCode
  message : Message
  deriving DecidableEq, Repr

def SeamGateViolation.text (self : SeamGateViolation) (repr : Identity → String) : String :=
  s!"{self.code.value}: {self.message.text repr}"

/-- The `_STATUS_*` constants. -/
inductive Status where
  | registered
  | ready
  | consumed
  | acked
  | load_failed
  deriving DecidableEq, Repr

structure Slot where
  ref : LayerGroupRef
  digest : String
  ready_event : String
  status : Status
  deriving DecidableEq, Repr

structure WavematGateState where
  slots : Dict Identity Slot
  last_generation : Dict Identity Int
  rejections : List SeamGateViolation

namespace WavematGateState

/-- `WavematGateState()`. -/
def init : WavematGateState := ⟨.empty, .empty, []⟩

/-- `raise self._violation(code, message)`: the rejection is logged, then raised. -/
def violation (self : WavematGateState) (code : ViolationCode) (message : Message) :
    Except SeamGateViolation Unit × WavematGateState :=
  (.error ⟨code, message⟩, { self with rejections := self.rejections ++ [⟨code, message⟩] })

/-- The last two statements of `register`, past both guards. -/
def install (self : WavematGateState) (ref : LayerGroupRef) (digest ready_event : String) :
    Except SeamGateViolation Unit × WavematGateState :=
  (.ok (), { self with
    slots := self.slots.set ref.identity ⟨ref, digest, ready_event, .registered⟩
    last_generation := self.last_generation.set ref.identity ref.generation })

/-- The generation guard of `register`, reached once no unacked slot is in the way. -/
def register_generation (self : WavematGateState) (ref : LayerGroupRef) (digest ready_event : String) :
    Except SeamGateViolation Unit × WavematGateState :=
  match self.last_generation.get? ref.identity with
  | some last_generation =>
    if ref.generation ≤ last_generation then
      self.violation
        (if ref.generation = last_generation then .aba_generation_reuse else .stale_generation)
        (.cannot_reuse_identity ref.generation ref.identity last_generation)
    else self.install ref digest ready_event
  | none => self.install ref digest ready_event

def register (self : WavematGateState) (ref : LayerGroupRef) (digest ready_event : String) :
    Except SeamGateViolation Unit × WavematGateState :=
  match self.slots.get? ref.identity with
  | some previous =>
    if previous.status ≠ .acked then
      self.violation .reuse_before_ack
        (.not_acked_before_reuse ref.identity previous.ref.generation)
    else self.register_generation ref digest ready_event
  | none => self.register_generation ref digest ready_event

def mark_load_failure (self : WavematGateState) (ref : LayerGroupRef) :
    Except SeamGateViolation Unit × WavematGateState :=
  let key := ref.identity
  match self.slots.get? key with
  | none => self.violation .stale_generation (.cannot_fail ref.generation key)
  | some slot =>
    if slot.ref.generation ≠ ref.generation then
      self.violation .stale_generation (.cannot_fail ref.generation key)
    else
      (.ok (), { self with slots := self.slots.set key { slot with status := .load_failed } })

def mark_ready (self : WavematGateState) (ref : LayerGroupRef) (digest ready_event : String) :
    Except SeamGateViolation Unit × WavematGateState :=
  let key := ref.identity
  match self.slots.get? key with
  | none => self.violation .stale_generation (.unknown_layer_group key)
  | some slot =>
    if slot.ref.generation ≠ ref.generation then
      self.violation .stale_generation (.ready_generation ref.generation slot.ref.generation)
    else if slot.status = .load_failed then
      self.violation .load_failure (.already_load_failed key)
    else if slot.digest ≠ digest then
      self.violation .digest_mismatch (.ready_digest_mismatch key)
    else
      (.ok (), { self with
        slots := self.slots.set key { slot with ready_event, status := .ready } })

def consume (self : WavematGateState) (ref : LayerGroupRef) (digest : String) :
    Except SeamGateViolation Unit × WavematGateState :=
  let key := ref.identity
  match self.slots.get? key with
  | none => self.violation .stale_generation (.unknown_layer_group key)
  | some slot =>
    if slot.ref.generation ≠ ref.generation then
      self.violation .stale_generation (.consume_generation ref.generation slot.ref.generation)
    else if slot.status = .load_failed then
      self.violation .load_failure (.consume_load_failed key)
    else if slot.status = .registered then
      self.violation .partial_layer_range (.consume_before_ready key)
    else if slot.status = .consumed then
      self.violation .duplicate_consume (.duplicate_consume key)
    else if slot.status = .acked then
      self.violation .aba_generation_reuse (.consume_after_ack key)
    else if slot.digest ≠ digest then
      self.violation .digest_mismatch (.consume_digest_mismatch key)
    else
      (.ok (), { self with slots := self.slots.set key { slot with status := .consumed } })

def ack (self : WavematGateState) (ref : LayerGroupRef) (digest : String) :
    Except SeamGateViolation Unit × WavematGateState :=
  let key := ref.identity
  match self.slots.get? key with
  | none => self.violation .stale_generation (.unknown_layer_group key)
  | some slot =>
    if slot.ref.generation ≠ ref.generation then
      self.violation .stale_generation (.ack_generation ref.generation slot.ref.generation)
    else if slot.status ≠ .consumed then
      self.violation .ack_without_consume (.ack_before_consume key)
    else if slot.digest ≠ digest then
      self.violation .digest_mismatch (.ack_digest_mismatch key)
    else
      (.ok (), { self with slots := self.slots.set key { slot with status := .acked } })

/-- The slots whose owner has neither acked them nor seen their load fail. -/
def orphans (self : WavematGateState) : List LayerGroupRef :=
  (self.slots.values.filter
    (fun slot => slot.status ∈ [.registered, .ready, .consumed])).map Slot.ref

def recover (self : WavematGateState) : List LayerGroupRef × WavematGateState :=
  let orphans := self.orphans
  (orphans,
    if orphans ≠ [] then
      { self with
        rejections := self.rejections ++ [⟨.orphan_after_recovery, .orphan_slots orphans.length⟩] }
    else self)

end WavematGateState

/-- A call of one of the six public operations, with its arguments. -/
inductive Call where
  | register (ref : LayerGroupRef) (digest ready_event : String)
  | mark_load_failure (ref : LayerGroupRef)
  | mark_ready (ref : LayerGroupRef) (digest ready_event : String)
  | consume (ref : LayerGroupRef) (digest : String)
  | ack (ref : LayerGroupRef) (digest : String)
  | recover
  deriving DecidableEq, Repr

/-- What a call gives back: a rejection, nothing, or the list `recover` returns. -/
inductive Reply where
  | rejected (violation : SeamGateViolation)
  | done
  | orphans (refs : List LayerGroupRef)
  deriving DecidableEq, Repr

def Reply.ofResult : Except SeamGateViolation Unit → Reply
  | .error violation => .rejected violation
  | .ok () => .done

/-- A call succeeds unless it raises. -/
def Reply.succeeded : Reply → Bool
  | .rejected _ => false
  | _ => true

/-- One call on a gate state, as the machine the runs below are runs of. -/
def step (state : WavematGateState) : Call → Reply × WavematGateState
  | .register ref digest ready_event => (state.register ref digest ready_event).map Reply.ofResult id
  | .mark_load_failure ref => (state.mark_load_failure ref).map Reply.ofResult id
  | .mark_ready ref digest ready_event => (state.mark_ready ref digest ready_event).map Reply.ofResult id
  | .consume ref digest => (state.consume ref digest).map Reply.ofResult id
  | .ack ref digest => (state.ack ref digest).map Reply.ofResult id
  | .recover => state.recover.map Reply.orphans id

end vllm_kv_materialization.wavemat_seam_gate
