import KvMaterialization.Scripts.OverlayArrivals

open python

namespace prepare_g0_traces

def PREFIX_TOKENS : List ℕ := [128, 256, 384]

def SUFFIX_TOKENS : ℕ := 32

def OUTPUT_TOKENS : ℤ := 8

/-- The layers of the model, with a latent and a position part each, in two bytes. -/
def BYTES_PER_REUSED_TOKEN : ℤ := 27 * (512 + 64) * 2

section

variable {F : Type} [PyNumber F]

/-- `candidate < best` of spans with the rows they start at. -/
def before (candidate best : F × ℕ) : Bool :=
  if PyNumber.eq candidate.1 best.1 then decide (candidate.2 < best.2) else lt candidate.1 best.1

def window_span (timestamps : List F) (count start : ℕ) : F :=
  timestamps.getD (start + count - 1) (lit 0) - timestamps.getD start (lit 0)

def consider (timestamps : List F) (count : ℕ) (best : Option (F × ℕ)) (start : ℕ) : Option (F × ℕ) :=
  let span := window_span timestamps count start
  if pyLe span (lit 0) then best
  else
    match best with
    | none => some (span, start)
    | some best => if before (span, start) best then some (span, start) else some best

def busiest_positive_span (timestamps : List F) (count : ℕ) : Except Exception ℕ :=
  match (List.range (timestamps.length + 1 - count)).foldl (consider timestamps count) none with
  | some best => .ok best.2
  | none => .error (.value_error "source has no positive-span request window")

structure Selection (F : Type) where
  format : String
  source_row_start : ℕ
  source_row_end_exclusive : ℕ
  source_timestamp_start : F
  source_timestamp_end : F

/-- The arrivals of a window, from its first row on. -/
def select_window (timestamps : List F) (count start : ℕ) : Except Exception (List F × Selection F) :=
  let selected := (timestamps.drop start).take count
  match selected.head?, selected.getLast? with
  | some first, some last =>
    .ok (selected.map (· - first), {
      format := "BurstGPT_1.csv"
      source_row_start := start
      source_row_end_exclusive := start + count
      source_timestamp_start := first
      source_timestamp_end := last })
  | _, _ => .error (.key_error "0")

/-- The arrivals taken from the timestamps that are read from the source. -/
def burstgpt_arrivals (timestamps : Except Exception (List F)) (count : ℕ) :
    Except Exception (List F × Selection F) := do
  let timestamps ← timestamps
  select_window timestamps count (← busiest_positive_span timestamps count)

def normalize_one_rps (arrivals : List F) : Except Exception (List F) := do
  match arrivals.head?, arrivals.getLast? with
  | some first, some last =>
    let span := last - first
    raiseIf (pyLe span (lit 0)) "arrival carrier must have positive duration"
    arrivals.mapM fun value => do
      PyFloat.div ((value - first) * (← ofInt (arrivals.length - 1))) span
  | _, _ => throw (.key_error "-1")

/-- The tokens of the pattern from an offset on, over and over. -/
def repeat_to (pattern : List ℤ) (length offset : ℕ) : Except Exception (List ℤ) :=
  (List.range length).mapM fun index =>
    match pattern[(offset + index) % pattern.length]? with
    | some token => .ok token
    | none => .error .zero_division_error

/-- `f"{index:04d}"` -/
def index_text (index : ℕ) : String :=
  let digits := toString index
  "".pushn '0' (4 - digits.length) ++ digits

/-- A row of the trace, in the order that its keys are written. -/
def trace_row (workload : String) (arrival : F) (prefix_len : ℕ) (prefix_token_ids suffix : List ℤ) (index : ℕ) :
    Json F := .dict [
  ("arrival_s", .float arrival),
  ("output_tokens", .int OUTPUT_TOKENS),
  ("prefix_token_ids", .list (prefix_token_ids.map .int)),
  ("prompt_token_ids", .list ((prefix_token_ids ++ suffix).map .int)),
  ("request_id", .str ("g0-" ++ workload ++ "-" ++ index_text index)),
  ("reuse_prefix_tokens", .int prefix_len),
  ("source_sequence_index", .int index),
  ("target_materialization_bytes", .int (prefix_len * BYTES_PER_REUSED_TOKEN))]

/-- The length of the prefix that a row reuses. -/
def prefix_length (index : ℕ) : ℕ := PREFIX_TOKENS.getD (index % PREFIX_TOKENS.length) 0

/-- The rows that are written of a workload. -/
def write_trace (workload : String) (arrivals : List F) (pattern : List ℤ) : Except Exception (List (Json F)) := do
  let prefixes ← PREFIX_TOKENS.zipIdx.mapM fun (length, group) => repeat_to pattern length (group * 3)
  let normalized ← normalize_one_rps arrivals
  normalized.zipIdx.mapM fun (arrival, index) => do
    let prefix_token_ids := prefixes.getD (index % PREFIX_TOKENS.length) []
    let suffix ← repeat_to pattern SUFFIX_TOKENS (index + 11)
    return trace_row workload arrival (prefix_length index) prefix_token_ids suffix index

end

section Windows

variable {timestamps : List ℚ} {count : ℕ}

/-- Of the windows that have been looked at, the one with the least positive span, and the
first of those. -/
inductive Chosen (timestamps : List ℚ) (count seen : ℕ) : Option (ℚ × ℕ) → Prop where
  | none (hnone : ∀ start < seen, window_span timestamps count start ≤ 0) : Chosen timestamps count seen none
  | some (start : ℕ) (hseen : start < seen) (hspan : 0 < window_span timestamps count start)
      (hleast : ∀ other < seen, 0 < window_span timestamps count other →
        window_span timestamps count start ≤ window_span timestamps count other)
      (hfirst : ∀ other < start, 0 < window_span timestamps count other →
        window_span timestamps count start < window_span timestamps count other) :
      Chosen timestamps count seen (some (window_span timestamps count start, start))

theorem before_later_iff {candidate best : ℚ × ℕ} (hlater : best.2 < candidate.2) :
    before candidate best = true ↔ candidate.1 < best.1 := by
  unfold before
  split
  · rename_i heq
    have heq : candidate.1 = best.1 := of_decide_eq_true heq
    rw [decide_eq_true_eq]
    constructor
    · intro hlt
      omega
    · intro hlt
      rw [heq] at hlt
      exact absurd hlt (lt_irrefl _)
  · rw [lt_exact, decide_eq_true_eq]

theorem pyLe_zero_iff (x : ℚ) : pyLe x (lit 0) = true ↔ x ≤ 0 := by
  rw [pyLe_exact, lit_exact, decide_eq_true_eq]

theorem Chosen.consider {seen : ℕ} {best : Option (ℚ × ℕ)} (hchosen : Chosen timestamps count seen best) :
    Chosen timestamps count (seen + 1) (consider timestamps count best seen) := by
  unfold prepare_g0_traces.consider
  dsimp only
  split
  · rename_i hflat
    rw [pyLe_zero_iff] at hflat
    cases hchosen with
    | none hnone =>
      refine .none fun start hstart => ?_
      obtain hlt | rfl := Nat.lt_succ_iff_lt_or_eq.mp hstart
      · exact hnone start hlt
      · exact hflat
    | some start hseen hspan hleast hfirst =>
      refine .some start (by omega) hspan (fun other hother hpositive => ?_) hfirst
      obtain hlt | rfl := Nat.lt_succ_iff_lt_or_eq.mp hother
      · exact hleast other hlt hpositive
      · exact absurd hpositive (not_lt.mpr hflat)
  · rename_i hpositive
    rw [pyLe_zero_iff, not_le] at hpositive
    cases hchosen with
    | none hnone =>
      refine .some seen (by omega) hpositive (fun other hother hspan => ?_) fun other hother hspan => ?_
      · obtain hlt | rfl := Nat.lt_succ_iff_lt_or_eq.mp hother
        · exact absurd hspan (not_lt.mpr (hnone other hlt))
        · exact le_rfl
      · exact absurd hspan (not_lt.mpr (hnone other hother))
    | some start hseen hspan hleast hfirst =>
      dsimp only
      split
      · rename_i hbefore
        rw [before_later_iff hseen] at hbefore
        refine .some seen (by omega) hpositive (fun other hother hspan => ?_) fun other hother hspan => ?_
        · obtain hlt | rfl := Nat.lt_succ_iff_lt_or_eq.mp hother
          · exact hbefore.le.trans (hleast other hlt hspan)
          · exact le_rfl
        · exact lt_of_lt_of_le hbefore (hleast other hother hspan)
      · rename_i hbefore
        rw [before_later_iff hseen, not_lt] at hbefore
        refine .some start (by omega) hspan (fun other hother hpositive => ?_) hfirst
        obtain hlt | rfl := Nat.lt_succ_iff_lt_or_eq.mp hother
        · exact hleast other hlt hpositive
        · exact hbefore

theorem chosen_range (timestamps : List ℚ) (count seen : ℕ) :
    Chosen timestamps count seen ((List.range seen).foldl (consider timestamps count) none) := by
  induction seen with
  | zero => exact .none fun start hstart => absurd hstart (Nat.not_lt_zero _)
  | succ seen ih =>
    rw [List.range_succ, List.foldl_append]
    exact ih.consider

/-- The window is the shortest of those that take any time, and the first of the shortest. -/
structure Busiest (timestamps : List ℚ) (count start : ℕ) : Prop where
  inside : start + count ≤ timestamps.length
  positive : 0 < window_span timestamps count start
  least : ∀ other, other + count ≤ timestamps.length → 0 < window_span timestamps count other →
    window_span timestamps count start ≤ window_span timestamps count other
  first : ∀ other < start, 0 < window_span timestamps count other →
    window_span timestamps count start < window_span timestamps count other

theorem Busiest.unique {start start' : ℕ} (hbusiest : Busiest timestamps count start)
    (hbusiest' : Busiest timestamps count start') : start = start' := by
  obtain hlt | heq | hgt := lt_trichotomy start start'
  · exact absurd (hbusiest.least start' hbusiest'.inside hbusiest'.positive)
      (not_le.mpr (hbusiest'.first start hlt hbusiest.positive))
  · exact heq
  · exact absurd (hbusiest'.least start hbusiest.inside hbusiest.positive)
      (not_le.mpr (hbusiest.first start' hgt hbusiest'.positive))

theorem busiest_positive_span_iff (timestamps : List ℚ) (count start : ℕ) :
    busiest_positive_span timestamps count = .ok start ↔ Busiest timestamps count start := by
  have hbusiest : ∀ {found}, busiest_positive_span timestamps count = .ok found → Busiest timestamps count found := by
    intro found hfound
    have hchosen := chosen_range timestamps count (timestamps.length + 1 - count)
    unfold busiest_positive_span at hfound
    generalize (List.range (timestamps.length + 1 - count)).foldl (consider timestamps count) none = best
      at hfound hchosen
    cases hchosen with
    | none => cases hfound
    | some start hseen hspan hleast hfirst =>
      obtain rfl := Except.ok.inj hfound
      exact ⟨by dsimp only; omega, hspan, fun other hother => hleast other (by omega), hfirst⟩
  refine ⟨hbusiest, fun hstart => ?_⟩
  cases hfound : busiest_positive_span timestamps count with
  | ok found => rw [(hbusiest hfound).unique hstart]
  | error error =>
    have hchosen := chosen_range timestamps count (timestamps.length + 1 - count)
    unfold busiest_positive_span at hfound
    generalize (List.range (timestamps.length + 1 - count)).foldl (consider timestamps count) none = best
      at hfound hchosen
    cases hchosen with
    | none hnone =>
      have hinside := hstart.inside
      exact absurd hstart.positive (not_lt.mpr (hnone start (by omega)))
    | some => cases hfound

end Windows

section Carriers

variable {arrivals : List ℚ} {first last : ℚ}

/-- The arrivals that are left with a mean of one a second. -/
theorem normalize_one_rps_exact (hfirst : arrivals.head? = some first) (hlast : arrivals.getLast? = some last)
    (hspan : first < last) :
    normalize_one_rps arrivals =
      .ok (arrivals.map fun value => (value - first) * ((arrivals.length : ℚ) - 1) / (last - first)) := by
  have hpositive : pyLe (last - first) (lit 0) = false := by
    rw [← Bool.not_eq_true, pyLe_zero_iff, not_le]
    linarith
  unfold normalize_one_rps
  rw [hfirst, hlast]
  dsimp only
  rw [hpositive, ← mapM_ok]
  refine mapM_congr fun value _ => ?_
  rw [ofInt_exact]
  change PyFloat.div ((value - first) * (((arrivals.length : ℤ) - 1 : ℤ) : ℚ)) (last - first) = _
  rw [div_exact _ (by linarith : last - first ≠ 0)]
  push_cast
  rfl

variable {timestamps : List ℚ} {count : ℕ}

theorem returns_busiest_positive_span_iff (timestamps : List ℚ) (count : ℕ) :
    Returns (busiest_positive_span timestamps count) ↔
      ∃ start, start + count ≤ timestamps.length ∧ 0 < window_span timestamps count start := by
  constructor
  · rintro ⟨start, hstart⟩
    rw [busiest_positive_span_iff] at hstart
    exact ⟨start, hstart.inside, hstart.positive⟩
  · rintro ⟨start, hinside, hpositive⟩
    have hchosen := chosen_range timestamps count (timestamps.length + 1 - count)
    unfold busiest_positive_span
    generalize (List.range (timestamps.length + 1 - count)).foldl (consider timestamps count) none = best at hchosen
    cases hchosen with
    | none hnone => exact absurd hpositive (not_lt.mpr (hnone start (by omega)))
    | some start => exact ⟨start, rfl⟩

/-- A window that is selected goes from its first timestamp to its last one. -/
theorem selected_ends {start : ℕ} (hcount : 0 < count) (hinside : start + count ≤ timestamps.length) :
    ((timestamps.drop start).take count).length = count ∧
      ((timestamps.drop start).take count).head? = some (timestamps.getD start (lit 0)) ∧
      ((timestamps.drop start).take count).getLast? = some (timestamps.getD (start + count - 1) (lit 0)) := by
  have hlength : ((timestamps.drop start).take count).length = count := by
    rw [List.length_take, List.length_drop]
    omega
  refine ⟨hlength, ?_, ?_⟩
  · rw [List.head?_take, if_neg (by omega), List.head?_drop, List.getD_eq_getElem?_getD,
      List.getElem?_eq_getElem (by omega)]
    rfl
  · rw [List.getLast?_eq_getElem?, hlength, List.getElem?_take_of_lt (by omega), List.getElem?_drop,
      List.getD_eq_getElem?_getD, Nat.add_sub_assoc hcount, List.getElem?_eq_getElem (by omega)]
    rfl

theorem select_window_eq {start : ℕ} (hcount : 0 < count) (hinside : start + count ≤ timestamps.length) :
    select_window timestamps count start =
      .ok (((timestamps.drop start).take count).map (· - timestamps.getD start (lit 0)), {
        format := "BurstGPT_1.csv"
        source_row_start := start
        source_row_end_exclusive := start + count
        source_timestamp_start := timestamps.getD start (lit 0)
        source_timestamp_end := timestamps.getD (start + count - 1) (lit 0) }) := by
  obtain ⟨_, hhead, hlast⟩ := selected_ends hcount hinside
  unfold select_window
  dsimp only
  rw [hhead, hlast]

/-- The window a selection names, as its arrivals are taken: every timestamp of it, in order
and from the first one on. -/
structure Taken (timestamps : List ℚ) (count : ℕ) (relative : List ℚ) (selection : Selection ℚ) : Prop where
  busiest : Busiest timestamps count selection.source_row_start
  row_end : selection.source_row_end_exclusive = selection.source_row_start + count
  timestamp_start : timestamps[selection.source_row_start]? = some selection.source_timestamp_start
  timestamp_end : timestamps[selection.source_row_start + count - 1]? = some selection.source_timestamp_end
  relative_eq : relative = ((timestamps.drop selection.source_row_start).take count).map
    (· - selection.source_timestamp_start)
  length : relative.length = count

theorem select_window_taken {start : ℕ} (hcount : 0 < count) (hbusiest : Busiest timestamps count start)
    {relative : List ℚ} {selection : Selection ℚ}
    (hselected : select_window timestamps count start = .ok (relative, selection)) :
    selection.source_row_start = start ∧ Taken timestamps count relative selection := by
  have hinside := hbusiest.inside
  rw [select_window_eq hcount hinside, Except.ok.injEq, Prod.mk.injEq] at hselected
  obtain ⟨rfl, rfl⟩ := hselected
  obtain ⟨hlength, _, _⟩ := selected_ends hcount hinside
  exact ⟨rfl, {
    busiest := hbusiest
    row_end := rfl
    timestamp_start := by
      dsimp only
      rw [List.getD_eq_getElem?_getD, List.getElem?_eq_getElem (by omega)]
      rfl
    timestamp_end := by
      dsimp only
      rw [List.getD_eq_getElem?_getD, List.getElem?_eq_getElem (by omega)]
      rfl
    relative_eq := rfl
    length := by rw [List.length_map, hlength] }⟩

/-- The window goes from zero to its span. -/
theorem Taken.ends {relative : List ℚ} {selection : Selection ℚ} (hcount : 0 < count)
    (htaken : Taken timestamps count relative selection) :
    relative.head? = some 0 ∧
      relative.getLast? = some (window_span timestamps count selection.source_row_start) := by
  have hinside := htaken.busiest.inside
  obtain ⟨_, hhead, hlast⟩ := selected_ends hcount hinside
  have hstart : timestamps.getD selection.source_row_start (lit 0) = selection.source_timestamp_start := by
    rw [List.getD_eq_getElem?_getD, htaken.timestamp_start, Option.getD_some]
  rw [htaken.relative_eq, List.head?_map, List.getLast?_map, hhead, hlast, window_span, hstart]
  exact ⟨by simp, rfl⟩

/-- The arrivals that are taken from the source are those of its busiest window, if it has one
that takes any time; brought to one a second, each is scaled by the same factor, and they run
from zero to the end of the window in as many seconds as there are requests behind the first. -/
theorem burstgpt_arrivals_busiest (timestamps : List ℚ) (count : ℕ) (hcount : 0 < count) :
    (Returns (burstgpt_arrivals (.ok timestamps) count) ↔
        ∃ start, start + count ≤ timestamps.length ∧ 0 < window_span timestamps count start) ∧
      ∀ relative selection, burstgpt_arrivals (.ok timestamps) count = .ok (relative, selection) →
        Taken timestamps count relative selection ∧
          relative.head? = some 0 ∧
          relative.getLast? = some (window_span timestamps count selection.source_row_start) ∧
          ∃ normalized, normalize_one_rps relative = .ok normalized ∧
            normalized = (relative.map fun value =>
              value * ((count : ℚ) - 1) / window_span timestamps count selection.source_row_start) ∧
            normalized.head? = some 0 ∧ normalized.getLast? = some ((count : ℚ) - 1) := by
  have hstarts : ∀ {result}, burstgpt_arrivals (.ok timestamps) count = .ok result ↔
      ∃ start, busiest_positive_span timestamps count = .ok start ∧
        select_window timestamps count start = .ok result := by
    intro result
    change (busiest_positive_span timestamps count >>= select_window timestamps count) = .ok result ↔ _
    exact bind_eq_ok_iff
  constructor
  · rw [← returns_busiest_positive_span_iff]
    constructor
    · rintro ⟨result, hresult⟩
      obtain ⟨start, hstart, _⟩ := hstarts.mp hresult
      exact ⟨start, hstart⟩
    · rintro ⟨start, hstart⟩
      exact ⟨_, hstarts.mpr ⟨start, hstart,
        select_window_eq hcount ((busiest_positive_span_iff _ _ _).mp hstart).inside⟩⟩
  · intro relative selection hresult
    obtain ⟨start, hstart, hselected⟩ := hstarts.mp hresult
    rw [busiest_positive_span_iff] at hstart
    obtain ⟨rfl, htaken⟩ := select_window_taken hcount hstart hselected
    obtain ⟨hhead, hlast⟩ := htaken.ends hcount
    have hpositive := hstart.positive
    refine ⟨htaken, hhead, hlast, _, normalize_one_rps_exact hhead hlast hpositive, ?_, ?_, ?_⟩
    · simp only [sub_zero, htaken.length]
    · rw [List.head?_map, hhead]
      simp
    · rw [List.getLast?_map, hlast, Option.map_some, htaken.length, sub_zero,
        mul_div_cancel_left₀ _ hpositive.ne']

/-- Three requests at once are no window, and of the two that take three seconds the first is
the busiest one. -/
theorem burstgpt_arrivals_busiest_three :
    ∃ relative selection, burstgpt_arrivals (.ok [(5 : ℚ), 5, 5, 6, 8, 9, 11]) 3 = .ok (relative, selection) ∧
      Taken [5, 5, 5, 6, 8, 9, 11] 3 relative selection ∧ relative = [0, 0, 1] ∧
      normalize_one_rps relative = .ok [0, 0, 2] := by
  obtain ⟨hreturns, hselected⟩ := burstgpt_arrivals_busiest [5, 5, 5, 6, 8, 9, 11] 3 (by decide)
  obtain ⟨⟨relative, selection⟩, hresult⟩ := hreturns.mpr ⟨1, by decide, by decide +kernel⟩
  obtain ⟨htaken, _, _, normalized, hnormalized, _⟩ := hselected relative selection hresult
  have hrelative : (burstgpt_arrivals (.ok [(5 : ℚ), 5, 5, 6, 8, 9, 11]) 3).map Prod.fst = .ok [0, 0, 1] := by
    decide +kernel
  rw [hresult] at hrelative
  obtain rfl := Except.ok.inj hrelative
  exact ⟨_, selection, hresult, htaken, rfl, by decide +kernel⟩

end Carriers

end prepare_g0_traces
