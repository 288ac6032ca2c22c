import KvMaterialization.Fifo
import KvMaterialization.Python.Json
import KvMaterialization.Python.Lines
import KvMaterialization.Python.Statistics

open python
open fifo (Op)

namespace summarize_wavemat_m0_gate_trace

section

variable {F : Type} (py : Interpreter F) (word : Char → Bool)

/-- A text that is read as it stands, with the rest of the line. -/
def literal (text : String) (line : List Char) : Option (List Char) :=
  if text.toList.isPrefixOf line then some (line.drop text.length) else none

/-- The characters of a class before the first of another one, with the rest of the line. -/
def many (wanted : Char → Bool) (line : List Char) : Option (String × List Char) :=
  if line.takeWhile wanted = [] then none
  else some (String.ofList (line.takeWhile wanted), line.dropWhile wanted)

/-- `-?\d+` -/
def signed (line : List Char) : Option (String × List Char) :=
  match line with
  | '-' :: rest => (many (isNumeral py) rest).map fun found => ("-" ++ found.1, found.2)
  | _ => many (isNumeral py) line

/-- The groups of a match. -/
structure Match where
  event : String
  gate : String
  ts : String
  fields : Option String

/-- `EVENT` at a place of the line; `word` is what `\w` matches. -/
def matchAt (line : List Char) : Option Match := do
  let (event, rest) ← many word (← literal "WAVEMAT_EVENT event=" line)
  let (gate, rest) ← signed py (← literal " gate=" rest)
  let (ts, rest) ← many (isNumeral py) (← literal " ts_ns=" rest)
  match rest with
  | [] => return ⟨event, gate, ts, none⟩
  | ' ' :: fields => return ⟨event, gate, ts, some (String.ofList fields)⟩
  | _ => none

/-- `EVENT.search(line)` -/
def search : List Char → Option Match
  | [] => none
  | c :: rest => matchAt py word (c :: rest) <|> search rest

/-- `(\w+)=(-?\d+)` at a place of the fields. -/
def fieldAt (text : List Char) : Option (String × String × List Char) := do
  let (key, rest) ← many word text
  let (value, rest) ← signed py (← literal "=" rest)
  return (key, value, rest)

/-- `re.findall(r"(\w+)=(-?\d+)", text)`, which goes on behind each match. -/
def findall (matched : ℕ) : List Char → List (String × String)
  | [] => []
  | c :: rest =>
    match matched with
    | matched + 1 => findall matched rest
    | 0 =>
      match fieldAt py word (c :: rest) with
      | some (key, value, behind) => (key, value) :: findall (rest.length - behind.length) rest
      | none => findall 0 rest

/-- What a line says that the pattern is found in. -/
structure Line where
  event : String
  gate : ℤ
  ts : ℤ
  fields : Dict String ℤ

def read_line [PyNumber F] (line : String) : Except Exception (Option Line) :=
  match search py word line.toList with
  | none => .ok none
  | some found => do
    let fields ← (findall py word 0 (found.fields.getD "").toList).mapM fun field => do
      return (field.1, ← (.str field.2 : Json F).toInt py)
    let gate ← (.str found.gate : Json F).toInt py
    let ts ← (.str found.ts : Json F).toInt py
    return some ⟨found.event, gate, ts, .ofList fields⟩

end

structure Record where
  gate : ℤ
  layer : ℤ
  attention_start_ns : ℤ
  transfer_submit_ns : ℤ
  transfer_ready_ns : ℤ
  copy_duration_ns : ℤ
  deriving DecidableEq

/-- What the loop over the lines keeps. -/
structure State where
  starts : Dict ℤ ℤ
  submits : Dict (ℤ × ℤ) (List ℤ)
  records : List Record

def State.init : State := ⟨.empty, .empty, []⟩

/-- `submits[key]` of the `defaultdict`. -/
def State.waiting (self : State) (key : ℤ × ℤ) : List ℤ := (self.submits.get? key).getD []

/-- Which branch of the loop a line goes to. -/
inductive Kind where
  | attention_start
  | transfer_submit (layer : ℤ)
  | transfer_ready (layer : ℤ)
  | other
  deriving DecidableEq

def Line.kind (self : Line) : Kind :=
  if self.event = "attention_start" then .attention_start
  else
    match self.fields.get? "layer" with
    | none => .other
    | some layer =>
      if self.event = "transfer_submit" then .transfer_submit layer
      else if self.event = "transfer_ready" then .transfer_ready layer
      else .other

/-- `fields.get("copy_duration_ns", ts - submit)` -/
def Line.copy_duration_ns (self : Line) (submit : ℤ) : ℤ :=
  (self.fields.get? "copy_duration_ns").getD (self.ts - submit)

def step (state : State) (line : Line) : State :=
  match line.kind with
  | .attention_start => { state with starts := state.starts.set line.gate line.ts }
  | .transfer_submit layer =>
    let key := (line.gate, layer)
    { state with submits := state.submits.set key (state.waiting key ++ [line.ts]) }
  | .transfer_ready layer =>
    let key := (line.gate, layer)
    match state.waiting key with
    | [] => state
    | submit :: waiting =>
      let record := {
        gate := line.gate
        layer
        attention_start_ns := (state.starts.get? line.gate).getD (-1)
        transfer_submit_ns := submit
        transfer_ready_ns := line.ts
        copy_duration_ns := line.copy_duration_ns submit }
      { state with submits := state.submits.set key waiting, records := state.records ++ [record] }
  | .other => state

/-- The loop over the lines that the pattern is found in. -/
def collect (lines : List Line) : State := lines.foldl step .init

section

variable {F : Type} [PyNumber F]

/-- `values[round((len(values) - 1) * fraction)]` of the sorted values. -/
def percentile (values : List F) (fraction : ℚ) : Except Exception F := do
  if values = [] then
    return lit 0
  let ordered := sorted values
  let last : F ← ofInt (ordered.length - 1)
  let index ← PyFloat.round (last * lit fraction)
  itemAt ordered index

structure Spread (F : Type) where
  mean : Option F
  p50 : Option F
  p95 : Option F

def spread (values : List F) : Except Exception (Spread F) := do
  if values = [] then
    return ⟨none, none, none⟩
  return {
    mean := some (roundTo (← mean values) 6)
    p50 := some (roundTo (← percentile values 0.50) 6)
    p95 := some (roundTo (← percentile values 0.95) 6) }

structure Summary (F : Type) where
  metric : String
  log : String
  transfer_records : ℕ
  eligible_prefetch_records : ℕ
  records_with_attention_gate : ℕ
  correlation_ratio : F
  copy_duration_ms : Spread F
  gate_to_ready_ms : Spread F
  limitations : List String

def limitations : List String := [
  "The completion boundary is the return from synchronous aclrtMemcpyBatch, immediately before layer-ready is set.",
  "This proves gate-to-DMA-completion ordering; device trace overlap remains the separate overlap metric."]

/-- `duration / 1e6` -/
def milliseconds (duration : ℤ) : Except Exception F := do
  PyFloat.div (← ofInt duration) (lit 1000000)

def summarize (log : String) (records : List Record) : Except Exception (Summary F) := do
  let eligible := records.filter fun record => 0 ≤ record.gate
  let complete := eligible.filter fun record => 0 ≤ record.attention_start_ns
  let copy_ms ← complete.mapM fun record => milliseconds (F := F) record.copy_duration_ns
  let gate_to_ready_ms ← complete.mapM fun record =>
    milliseconds (F := F) (record.transfer_ready_ns - record.attention_start_ns)
  let ratio ← if eligible = [] then .ok (lit 0) else intDiv complete.length eligible.length
  return {
    metric := "gate_correlated_synchronous_dma_completion"
    log
    transfer_records := records.length
    eligible_prefetch_records := eligible.length
    records_with_attention_gate := complete.length
    correlation_ratio := if eligible = [] then ratio else roundTo ratio 6
    copy_duration_ms := ← spread copy_ms
    gate_to_ready_ms := ← spread gate_to_ready_ms
    limitations }

/-- The summary of the log at a path, from its text. -/
def parse (py : Interpreter F) (word : Char → Bool) (log text : String) : Except Exception (Summary F) := do
  let lines ← (splitlines text).mapM (read_line py word)
  summarize log (collect (lines.filterMap id)).records

end

/-- The attention start that the lines before leave a gate with. -/
def attention_start (earlier : List Line) (gate : ℤ) : ℤ :=
  ((earlier.filter fun line => line.kind = .attention_start ∧ line.gate = gate).getLast?.map Line.ts).getD (-1)

/-- A line that submits a transfer of a gate and a layer. -/
def Line.Submits (self : Line) (own : ℤ × ℤ) : Prop := self.kind = .transfer_submit own.2 ∧ self.gate = own.1

/-- A line that reports a transfer of a gate and a layer as ready. -/
def Line.Readies (self : Line) (own : ℤ × ℤ) : Prop := self.kind = .transfer_ready own.2 ∧ self.gate = own.1

/-- The record of a transfer between the lines that submit it and report it as ready. -/
def record (own : ℤ × ℤ) (submit ready : Line) (start : ℤ) : Record where
  gate := own.1
  layer := own.2
  attention_start_ns := start
  transfer_submit_ns := submit.ts
  transfer_ready_ns := ready.ts
  copy_duration_ns := ready.copy_duration_ns submit.ts

def Record.key (self : Record) : ℤ × ℤ := (self.gate, self.layer)

/-- The records of a gate and a layer. -/
def records_at (own : ℤ × ℤ) (records : List Record) : List Record := records.filter fun record => record.key = own

/-- What a line is to the queue of a gate and a layer, under the attention start it meets. -/
def Line.op (self : Line) (own : ℤ × ℤ) (start : ℤ) : Op Line (Line × ℤ) :=
  match self.kind with
  | .transfer_submit layer => if (self.gate, layer) = own then .push self else .other
  | .transfer_ready layer => if (self.gate, layer) = own then .pop (self, start) else .other
  | _ => .other

/-- What the lines are to the queue of a gate and a layer. -/
def ops (own : ℤ × ℤ) (lines : List Line) : List (Op Line (Line × ℤ)) :=
  lines.zipIdx.map fun item => item.1.op own (attention_start (lines.take item.2) own.1)

section

variable {own : ℤ × ℤ} {lines : List Line} {line : Line}

theorem Line.op_eq_push_iff {start : ℤ} {entry : Line} :
    line.op own start = .push entry ↔ line.Submits own ∧ entry = line := by
  unfold Line.op Line.Submits
  cases hkind : line.kind with
  | transfer_submit layer =>
    by_cases hown : (line.gate, layer) = own
    · subst hown
      simp [eq_comm]
    · have hne : ¬(layer = own.2 ∧ line.gate = own.1) := fun h => hown (Prod.ext h.2 h.1)
      simp [hown, hne]
  | transfer_ready layer =>
    by_cases hown : (line.gate, layer) = own
    · simp [hown]
    · simp [hown]
  | attention_start => simp
  | other => simp

theorem Line.op_eq_pop_iff {start : ℤ} {request : Line × ℤ} :
    line.op own start = .pop request ↔ line.Readies own ∧ request = (line, start) := by
  unfold Line.op Line.Readies
  cases hkind : line.kind with
  | transfer_ready layer =>
    by_cases hown : (line.gate, layer) = own
    · subst hown
      simp [eq_comm]
    · have hne : ¬(layer = own.2 ∧ line.gate = own.1) := fun h => hown (Prod.ext h.2 h.1)
      simp [hown, hne]
  | transfer_submit layer =>
    by_cases hown : (line.gate, layer) = own
    · simp [hown]
    · simp [hown]
  | attention_start => simp
  | other => simp

theorem getElem?_ops (own : ℤ × ℤ) (lines : List Line) (place : ℕ) :
    (ops own lines)[place]? = lines[place]?.map fun line => line.op own (attention_start (lines.take place) own.1) := by
  rw [ops, List.getElem?_map, List.getElem?_zipIdx, Option.map_map, Nat.zero_add]
  rfl

theorem ops_snoc (own : ℤ × ℤ) (lines : List Line) (line : Line) :
    ops own (lines ++ [line]) = ops own lines ++ [line.op own (attention_start lines own.1)] := by
  apply List.ext_getElem?
  intro place
  rw [getElem?_ops]
  obtain hlt | rfl | hgt := lt_trichotomy place lines.length
  · have hlength : place < (ops own lines).length := by simpa [ops] using hlt
    rw [List.getElem?_append_left hlt, List.getElem?_append_left hlength, getElem?_ops,
      List.take_append_of_le_length hlt.le]
  · have hlength : (ops own lines).length = lines.length := by simp [ops]
    rw [List.getElem?_append_right le_rfl, List.getElem?_append_right hlength.le, hlength, Nat.sub_self,
      List.take_left']
    · rfl
    · rfl
  · rw [List.getElem?_eq_none, List.getElem?_eq_none, Option.map_none]
    · rw [List.length_append, ops, List.length_map, List.length_zipIdx, List.length_singleton]
      omega
    · rw [List.length_append, List.length_singleton]
      omega

end

theorem attention_start_snoc (lines : List Line) (line : Line) (gate : ℤ) :
    attention_start (lines ++ [line]) gate =
      if line.kind = .attention_start ∧ line.gate = gate then line.ts else attention_start lines gate := by
  unfold attention_start
  rw [List.filter_append]
  split
  · rename_i hstart
    rw [List.filter_singleton, decide_eq_true hstart, cond_true, List.getLast?_append]
    rfl
  · rename_i hstart
    rw [List.filter_singleton, decide_eq_false hstart, cond_false, List.append_nil]

theorem waiting_set (state : State) (key own : ℤ × ℤ) (waiting : List ℤ) (records : List Record) :
    (⟨state.starts, state.submits.set key waiting, records⟩ : State).waiting own =
      if own = key then waiting else state.waiting own := by
  unfold State.waiting
  dsimp only
  rw [Dict.get?_set]
  split
  · rfl
  · rfl

/-- What the queue of a gate and a layer holds, and what it has recorded. -/
structure Tracks (own : ℤ × ℤ) (lines : List Line) (state : State) : Prop where
  start : (state.starts.get? own.1).getD (-1) = attention_start lines own.1
  waiting : state.waiting own = (fifo.left [] (ops own lines)).map Line.ts
  records : records_at own state.records =
    (fifo.pairs [] (ops own lines)).map fun pair => record own pair.1 pair.2.1 pair.2.2

section

variable {own : ℤ × ℤ} {lines : List Line} {state : State}

/-- A line for another queue changes nothing at this one. -/
theorem Tracks.pass (htracks : Tracks own lines state) {line : Line} {after : State}
    (hop : line.op own (attention_start lines own.1) = .other)
    (hstart : (after.starts.get? own.1).getD (-1) = attention_start (lines ++ [line]) own.1)
    (hwaiting : after.waiting own = state.waiting own)
    (hrecords : records_at own after.records = records_at own state.records) : Tracks own (lines ++ [line]) after := by
  refine ⟨hstart, ?_, ?_⟩
  · rw [hwaiting, htracks.waiting, ops_snoc, hop, fifo.left_append]
    rfl
  · rw [hrecords, htracks.records, ops_snoc, hop, fifo.pairs_append]
    exact (congrArg _ (List.append_nil _)).symm

theorem Tracks.step (htracks : Tracks own lines state) (line : Line) :
    Tracks own (lines ++ [line]) (step state line) := by
  have hstart := attention_start_snoc lines line own.1
  unfold summarize_wavemat_m0_gate_trace.step
  cases hkind : line.kind with
  | other =>
    rw [hkind, if_neg (by simp)] at hstart
    exact htracks.pass (by simp [Line.op, hkind]) (htracks.start.trans hstart.symm) rfl rfl
  | attention_start =>
    refine htracks.pass (by simp [Line.op, hkind]) ?_ rfl rfl
    rw [hstart, hkind]
    dsimp only
    rw [Dict.get?_set]
    by_cases hgate : line.gate = own.1
    · rw [if_pos hgate.symm, if_pos ⟨rfl, hgate⟩]
      rfl
    · rw [if_neg (Ne.symm hgate), if_neg fun h => hgate h.2]
      exact htracks.start
  | transfer_submit layer =>
    rw [hkind, if_neg (by simp)] at hstart
    have hstart := htracks.start.trans hstart.symm
    by_cases hown : (line.gate, layer) = own
    · have hop : line.op own (attention_start lines own.1) = .push line := by simp [Line.op, hkind, hown]
      refine ⟨hstart, ?_, ?_⟩
      · rw [waiting_set, if_pos hown.symm, hown, htracks.waiting, ops_snoc, hop, fifo.left_append]
        change _ = List.map Line.ts (fifo.left [] (ops own lines) ++ [line])
        rw [List.map_append, List.map_singleton]
      · rw [ops_snoc, hop, fifo.pairs_append]
        exact htracks.records.trans (congrArg _ (List.append_nil _)).symm
    · refine htracks.pass (by simp [Line.op, hkind, hown]) hstart ?_ rfl
      rw [waiting_set, if_neg (Ne.symm hown)]
  | transfer_ready layer =>
    rw [hkind, if_neg (by simp)] at hstart
    have hstart := htracks.start.trans hstart.symm
    dsimp only
    by_cases hown : (line.gate, layer) = own
    · have hop : line.op own (attention_start lines own.1) = .pop (line, attention_start lines own.1) := by
        simp [Line.op, hkind, hown]
      cases hleft : fifo.left [] (ops own lines) with
      | nil =>
        have hwaiting : state.waiting (line.gate, layer) = [] := by rw [hown, htracks.waiting, hleft]; rfl
        rw [hwaiting]
        refine ⟨hstart, ?_, ?_⟩
        · rw [htracks.waiting, ops_snoc, hop, fifo.left_append, hleft]
          rfl
        · rw [htracks.records, ops_snoc, hop, fifo.pairs_append, hleft]
          exact (congrArg _ (List.append_nil _)).symm
      | cons submit queue =>
        have hwaiting : state.waiting (line.gate, layer) = submit.ts :: queue.map Line.ts := by
          rw [hown, htracks.waiting, hleft]
          rfl
        rw [hwaiting]
        refine ⟨hstart, ?_, ?_⟩
        · rw [waiting_set, if_pos hown.symm, ops_snoc, hop, fifo.left_append, hleft]
          rfl
        · rw [ops_snoc, hop, fifo.pairs_append, hleft, List.map_append, ← htracks.records]
          subst hown
          rw [records_at, List.filter_append, ← htracks.start]
          simp [records_at, record, Record.key, fifo.pairs]
    · cases hwaiting : state.waiting (line.gate, layer) with
      | nil => exact htracks.pass (by simp [Line.op, hkind, hown]) hstart rfl rfl
      | cons submit queue =>
        refine htracks.pass (by simp [Line.op, hkind, hown]) hstart ?_ ?_
        · rw [waiting_set, if_neg (Ne.symm hown)]
        · simp [records_at, Record.key, hown]

theorem collect_tracks (own : ℤ × ℤ) (lines : List Line) : Tracks own lines (collect lines) := by
  induction lines using List.reverseRecOn with
  | nil => exact ⟨rfl, rfl, rfl⟩
  | append_singleton lines line ih =>
    rw [collect, List.foldl_append]
    exact ih.step line

end

/-- Lines of a log that submit transfers of a gate and a layer with later ones that report
some as ready, by their places and none of them in two pairs. -/
structure Transfers (own : ℤ × ℤ) (lines : List Line) (matched : List (ℕ × ℕ)) : Prop where
  submit : ∀ places ∈ matched, ∃ submit, lines[places.1]? = some submit ∧ submit.Submits own
  ready : ∀ places ∈ matched, ∃ ready, lines[places.2]? = some ready ∧ ready.Readies own
  earlier : ∀ places ∈ matched, places.1 < places.2
  submits_once : (matched.map Prod.fst).Nodup
  readies_once : (matched.map Prod.snd).Nodup

theorem getElem?_ops_push_iff {own : ℤ × ℤ} {lines : List Line} {place : ℕ} {entry : Line} :
    (ops own lines)[place]? = some (.push entry) ↔ lines[place]? = some entry ∧ entry.Submits own := by
  rw [getElem?_ops, Option.map_eq_some_iff]
  constructor
  · rintro ⟨line, hline, hop⟩
    obtain ⟨hsubmits, rfl⟩ := Line.op_eq_push_iff.mp hop
    exact ⟨hline, hsubmits⟩
  · rintro ⟨hline, hsubmits⟩
    exact ⟨entry, hline, Line.op_eq_push_iff.mpr ⟨hsubmits, rfl⟩⟩

theorem getElem?_ops_pop_iff {own : ℤ × ℤ} {lines : List Line} {place : ℕ} {request : Line × ℤ} :
    (ops own lines)[place]? = some (.pop request) ↔ lines[place]? = some request.1 ∧ request.1.Readies own ∧
      request.2 = attention_start (lines.take place) own.1 := by
  rw [getElem?_ops, Option.map_eq_some_iff]
  constructor
  · rintro ⟨line, hline, hop⟩
    obtain ⟨hreadies, rfl⟩ := Line.op_eq_pop_iff.mp hop
    exact ⟨hline, hreadies, rfl⟩
  · rintro ⟨hline, hreadies, hstart⟩
    exact ⟨request.1, hline, Line.op_eq_pop_iff.mpr ⟨hreadies, Prod.ext rfl hstart⟩⟩

theorem transfers_iff {own : ℤ × ℤ} {lines : List Line} {matched : List (ℕ × ℕ)} :
    Transfers own lines matched ↔ fifo.Matching (ops own lines) matched := by
  constructor
  · rintro ⟨hsubmit, hready, hearlier, honce, honce'⟩
    refine ⟨fun places hplaces => ?_, fun places hplaces => ?_, hearlier, honce, honce'⟩
    · obtain ⟨submit, hline⟩ := hsubmit places hplaces
      exact ⟨submit, getElem?_ops_push_iff.mpr hline⟩
    · obtain ⟨ready, hline, hreadies⟩ := hready places hplaces
      exact ⟨(ready, _), getElem?_ops_pop_iff.mpr ⟨hline, hreadies, rfl⟩⟩
  · rintro ⟨hentry, hrequest, hearlier, honce, honce'⟩
    refine ⟨fun places hplaces => ?_, fun places hplaces => ?_, hearlier, honce, honce'⟩
    · obtain ⟨submit, hop⟩ := hentry places hplaces
      exact ⟨submit, getElem?_ops_push_iff.mp hop⟩
    · obtain ⟨⟨ready, _⟩, hop⟩ := hrequest places hplaces
      obtain ⟨hline, hreadies, _⟩ := getElem?_ops_pop_iff.mp hop
      exact ⟨ready, hline, hreadies⟩

/-- However the lines of the gates and layers come, the records of each are transfers of its
own, in the order of their submits and of their readies, each with the attention start that
the line before left its gate with; the submits are the first ones, and there is no way to
pair more of its lines. -/
theorem records_pair_most (lines : List Line) (own : ℤ × ℤ) :
    (∃ matched, Transfers own lines matched ∧
      (matched.map Prod.fst).Pairwise (· < ·) ∧ (matched.map Prod.snd).Pairwise (· < ·) ∧
      (∀ place submit, lines[place]? = some submit → submit.Submits own → ∀ taken ∈ matched.map Prod.fst,
        place < taken → place ∈ matched.map Prod.fst) ∧
      List.Forall₂ (fun places found => ∃ submit ready, lines[places.1]? = some submit ∧
          lines[places.2]? = some ready ∧ found = record own submit ready (attention_start (lines.take places.2) own.1))
        matched (records_at own (collect lines).records)) ∧
      ∀ matched, Transfers own lines matched → matched.length ≤ (records_at own (collect lines).records).length := by
  have hrecords := (collect_tracks own lines).records
  constructor
  · obtain ⟨matched, hmatching, hsubmits, hreadies, hfirst, hpairs⟩ := fifo.exists_matching (ops own lines)
    refine ⟨matched, transfers_iff.mpr hmatching, hsubmits, hreadies, ?_, ?_⟩
    · exact fun place submit hline hsubmit => hfirst place submit (getElem?_ops_push_iff.mpr ⟨hline, hsubmit⟩)
    rw [hrecords, List.forall₂_map_right_iff]
    refine hpairs.imp fun places pair hplaces => ?_
    obtain ⟨hsubmit, hready⟩ := hplaces
    obtain ⟨hsubmit, _⟩ := getElem?_ops_push_iff.mp hsubmit
    obtain ⟨hready, _, hstart⟩ := getElem?_ops_pop_iff.mp hready
    exact ⟨pair.1, pair.2.1, hsubmit, hready, by rw [hstart]⟩
  · intro matched htransfers
    rw [hrecords, List.length_map]
    exact (transfers_iff.mp htransfers).length_le_pairs

end summarize_wavemat_m0_gate_trace
