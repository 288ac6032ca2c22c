import KvMaterialization.Scripts.ReusePressure
import KvMaterialization.Words
import Mathlib.Data.List.GetD
import Mathlib.Data.List.MinMax
import Mathlib.Tactic.IntervalCases

open python

namespace rebuild_g0_formal

section Exact

variable {values values' : List ℚ}

theorem sorted_exact_pairwise (values : List ℚ) : (sorted values).Pairwise (· ≤ ·) :=
  sorted_pairwise id fun _ _ _ _ => rfl

theorem sorted_exact_perm (hperm : values.Perm values') : sorted values = sorted values' :=
  sorted_eq_of_perm id (fun _ _ _ _ => rfl) (fun _ _ _ _ => id) hperm

theorem sorted_length (values : List ℚ) : (sorted values).length = values.length :=
  (sorted_perm values).length_eq

theorem sorted_of_pairwise (hsorted : values.Pairwise (· ≤ ·)) : sorted values = values :=
  (sorted_perm values).eq_of_pairwise (fun _ _ _ _ => le_antisymm) (sorted_exact_pairwise values) hsorted

theorem sorted_map_add (values : List ℚ) (c : ℚ) :
    sorted (values.map (· + c)) = (sorted values).map (· + c) := by
  apply Eq.symm
  apply List.map_insertionSort
  intro x _ y _
  simp

/-- The mean of the two values in the middle, which are one in a list of odd length. -/
def middle (values : List ℚ) : ℚ :=
  ((sorted values).getD ((values.length - 1) / 2) 0 + (sorted values).getD (values.length / 2) 0) / 2

theorem getD_mem {i : ℕ} (hi : i < values.length) : values.getD i 0 ∈ values := by
  rw [List.getD_eq_getElem _ _ hi]
  exact List.getElem_mem hi

theorem median_eq_middle (hne : values ≠ []) : median values = .ok (middle values) := by
  have hlength : 0 < (sorted values).length := by
    rw [sorted_length]
    exact List.length_pos_iff.mpr hne
  have hhalf : (sorted values)[(sorted values).length / 2]? =
      some ((sorted values).getD ((sorted values).length / 2) 0) := by
    rw [List.getD_eq_getElem _ _ (by omega)]
    exact List.getElem?_eq_getElem (by omega)
  have hbefore : (sorted values)[(sorted values).length / 2 - 1]? =
      some ((sorted values).getD ((sorted values).length / 2 - 1) 0) := by
    rw [List.getD_eq_getElem _ _ (by omega)]
    exact List.getElem?_eq_getElem (by omega)
  unfold median raiseIf
  rw [List.isEmpty_eq_false_iff.mpr hne]
  change python.median values = _
  unfold python.median middle
  dsimp only
  rw [hhalf, hbefore, ← sorted_length values]
  split
  · rename_i hodd
    have hplace : ((sorted values).length - 1) / 2 = (sorted values).length / 2 := by omega
    rw [hplace, add_self_div_two]
  · rename_i heven
    have hplace : ((sorted values).length - 1) / 2 = (sorted values).length / 2 - 1 := by omega
    rw [hplace]
    exact div_exact _ (by norm_num)

/-- The middle is between any two bounds of the values. -/
theorem middle_between {low high : ℚ} (hne : values ≠ []) (hvalues : ∀ value ∈ values, low ≤ value ∧ value ≤ high) :
    low ≤ middle values ∧ middle values ≤ high := by
  have hlength : 0 < (sorted values).length := by
    rw [sorted_length]
    exact List.length_pos_iff.mpr hne
  have hplace : ∀ i < (sorted values).length, low ≤ (sorted values).getD i 0 ∧ (sorted values).getD i 0 ≤ high :=
    fun i hi => hvalues _ (mem_sorted.mp (getD_mem hi))
  rw [middle, ← sorted_length values]
  obtain ⟨hlow, hhigh⟩ := hplace (((sorted values).length - 1) / 2) (by omega)
  obtain ⟨hlow', hhigh'⟩ := hplace ((sorted values).length / 2) (by omega)
  constructor
  · linarith
  · linarith

theorem middle_perm (hperm : values.Perm values') : middle values = middle values' := by
  rw [middle, middle, sorted_exact_perm hperm, hperm.length_eq]

theorem middle_map_add (hne : values ≠ []) (c : ℚ) : middle (values.map (· + c)) = middle values + c := by
  have hlength : 0 < (sorted values).length := by
    rw [sorted_length]
    exact List.length_pos_iff.mpr hne
  have hplace : ∀ i < (sorted values).length,
      ((sorted values).map (· + c)).getD i 0 = (sorted values).getD i 0 + c := by
    intro i hi
    rw [List.getD_eq_getElem _ _ hi, List.getD_eq_getElem _ _ (by rwa [List.length_map]), List.getElem_map]
  rw [middle, middle, sorted_map_add, List.length_map, ← sorted_length values, hplace _ (by omega),
    hplace _ (by omega)]
  ring

/-- The place of a percentile among a number of values. -/
def rank (count : ℕ) (q : ℚ) : ℕ := ⌈((count : ℚ) - 1) * q / 100⌉.toNat

theorem rank_lt {count : ℕ} {q : ℚ} (hcount : 0 < count) (hq : q ≤ 100) : rank count q < count := by
  have hlast : (0 : ℚ) ≤ (count : ℚ) - 1 := by
    have hone : (1 : ℚ) ≤ count := by exact_mod_cast hcount
    linarith
  have hshare : ((count : ℚ) - 1) * q / 100 ≤ ((count - 1 : ℤ) : ℚ) := by
    push_cast
    rw [div_le_iff₀ (by norm_num)]
    exact mul_le_mul_of_nonneg_left hq hlast
  have hceil := Int.ceil_le.mpr hshare
  unfold rank
  omega

theorem percentile_exact {q : ℚ} (hne : values ≠ []) (hnonneg : 0 ≤ q) (hq : q ≤ 100) :
    percentile values (.float q) = .ok (some ((sorted values).getD (rank values.length q) 0)) := by
  have hcount : 0 < values.length := List.length_pos_iff.mpr hne
  have hrank : rank values.length q < (sorted values).length := by
    rw [sorted_length]
    exact rank_lt hcount hq
  have hplace : 0 ≤ ⌈((values.length : ℚ) - 1) * q / 100⌉ := by
    have hlast : (1 : ℚ) ≤ values.length := by exact_mod_cast hcount
    exact Int.ceil_nonneg (div_nonneg (mul_nonneg (by linarith) hnonneg) (by norm_num))
  have hitem : itemAt (sorted values) ⌈((values.length : ℚ) - 1) * q / 100⌉ =
      .ok ((sorted values).getD (rank values.length q) 0) := by
    rw [itemAt_of_lt hplace hrank, List.getD_eq_getElem _ _ hrank]
    rfl
  have hshare : ((((sorted values).length : ℤ) - 1 : ℤ) : ℚ) * q / 100 = ((values.length : ℚ) - 1) * q / 100 := by
    rw [sorted_length]
    push_cast
    ring
  unfold percentile
  rw [if_neg hne]
  change (itemAt (sorted values) ⌈((((sorted values).length : ℤ) - 1 : ℤ) : ℚ) * q / 100⌉ >>= fun item =>
    pure (some item)) = _
  rw [hshare, hitem]
  rfl

end Exact

section Bootstrap

variable {values values' : List ℚ}

theorem product_eq_words {α : Type} (choices : List α) (n : ℕ) : product choices n = words.all choices n := by
  induction n with
  | zero => rfl
  | succ n ih => rw [product, ih, words.all]

/-- The medians of all resamples. -/
def resample_medians (values : List ℚ) : List ℚ := (words.all values values.length).map middle

/-- Drawing by index is drawing the values. -/
theorem words_eq_map_indices (values : List ℚ) (n : ℕ) :
    words.all values n = (words.all (List.range values.length) n).map (List.map fun i => values.getD i 0) := by
  have hvalues : values = (List.range values.length).map fun i => values.getD i 0 := by
    apply List.ext_getElem
    · simp
    · intro i hi _
      rw [List.getElem_map, List.getElem_range, List.getD_eq_getElem _ _ hi]
  conv_lhs => rw [hvalues]
  exact words.all_map _ _ n

theorem filterMap_indices {indices : List ℕ} (hindices : ∀ i ∈ indices, i < values.length) :
    indices.filterMap (fun i => values[i]?) = indices.map fun i => values.getD i 0 := by
  induction indices with
  | nil => rfl
  | cons i rest ih =>
    rw [List.forall_mem_cons] at hindices
    obtain ⟨hi, hrest⟩ := hindices
    rw [List.filterMap_cons, List.map_cons, ih hrest, List.getElem?_eq_getElem hi,
      List.getD_eq_getElem _ _ hi]

theorem samples_exact (hne : values ≠ []) :
    ((product (List.range values.length) values.length).mapM fun indices =>
      median (indices.filterMap fun index => values[index]?)) = .ok (resample_medians values) := by
  have hitems : ∀ indices ∈ words.all (List.range values.length) values.length,
      median (indices.filterMap fun index => values[index]?) =
        .ok (middle (indices.map fun i => values.getD i 0)) := by
    intro indices hmem
    obtain ⟨hlength, hrange⟩ := words.mem_all.mp hmem
    have hindices : ∀ i ∈ indices, i < values.length := fun i hi => List.mem_range.mp (hrange i hi)
    rw [filterMap_indices hindices]
    apply median_eq_middle
    intro hnil
    rw [List.map_eq_nil_iff] at hnil
    subst hnil
    exact hne (List.length_eq_zero_iff.mp hlength.symm)
  rw [product_eq_words, mapM_congr hitems, mapM_ok, resample_medians, words_eq_map_indices, List.map_map]
  rfl

/-- The percentile the bootstrap reports. -/
def bound (values : List ℚ) (q : ℚ) : ℚ :=
  (sorted (resample_medians values)).getD (rank (values.length ^ values.length) q) 0

def bounds (values : List ℚ) : Bootstrap ℚ where
  confidence_pct := 95
  lower_pct := some (bound values (5 / 2))
  upper_pct := some (bound values (195 / 2))
  replicates := values.length ^ values.length

theorem resample_medians_length (values : List ℚ) :
    (resample_medians values).length = values.length ^ values.length := by
  rw [resample_medians, List.length_map, words.length_all]

theorem resample_medians_ne_nil (hne : values ≠ []) : resample_medians values ≠ [] := by
  rw [← List.length_pos_iff, resample_medians_length]
  exact Nat.pow_pos (List.length_pos_iff.mpr hne)

theorem bootstrap_exact (hpositive : 1 ≤ values.length) (hlength : values.length ≤ 8) :
    paired_lifecycle_bootstrap_median values 95 = .ok (bounds values) := by
  have hne : values ≠ [] := List.length_pos_iff.mp hpositive
  have halpha : PyFloat.div (lit 100 - 95 : ℚ) (lit 2) = .ok (5 / 2) := by
    rw [lit_exact, lit_exact, div_exact _ (by norm_num)]
    norm_num
  have hlower := percentile_exact (q := 5 / 2) (resample_medians_ne_nil hne) (by norm_num) (by norm_num)
  have hupper := percentile_exact (q := 195 / 2) (resample_medians_ne_nil hne) (by norm_num) (by norm_num)
  have hcomplement : (lit 100 - 5 / 2 : ℚ) = 195 / 2 := by
    rw [lit_exact]
    norm_num
  unfold paired_lifecycle_bootstrap_median raiseIf
  rw [List.isEmpty_eq_false_iff.mpr hne, decide_eq_false (not_lt.mpr hlength), halpha, samples_exact hne]
  dsimp only [bind, Except.bind, pure, Except.pure]
  rw [if_neg Bool.false_ne_true]
  dsimp only
  rw [hcomplement, hlower, hupper, resample_medians_length]
  rfl

theorem resample_medians_perm (hperm : values.Perm values') :
    (resample_medians values).Perm (resample_medians values') := by
  rw [resample_medians, resample_medians, hperm.length_eq]
  exact (words.all_perm hperm _).map middle

theorem bounds_perm (hperm : values.Perm values') : bounds values = bounds values' := by
  simp only [bounds, bound, sorted_exact_perm (resample_medians_perm hperm), hperm.length_eq]

theorem resample_medians_map_add (hne : values ≠ []) (c : ℚ) :
    resample_medians (values.map (· + c)) = (resample_medians values).map (· + c) := by
  rw [resample_medians, resample_medians, List.length_map, words.all_map, List.map_map, List.map_map]
  apply List.map_congr_left
  intro word hword
  apply middle_map_add
  rintro rfl
  exact hne (List.length_eq_zero_iff.mp (words.mem_all.mp hword).1.symm)

theorem rank_lt_resamples (hne : values ≠ []) {q : ℚ} (hq : q ≤ 100) :
    rank (values.length ^ values.length) q < (sorted (resample_medians values)).length := by
  rw [sorted_length, resample_medians_length]
  exact rank_lt (Nat.pow_pos (List.length_pos_iff.mpr hne)) hq

theorem bound_map_add (hne : values ≠ []) (c : ℚ) {q : ℚ} (hq : q ≤ 100) :
    bound (values.map (· + c)) q = bound values q + c := by
  have hrank := rank_lt_resamples hne hq
  rw [bound, bound, resample_medians_map_add hne, sorted_map_add, List.length_map,
    List.getD_eq_getElem _ _ (by rwa [List.length_map]), List.getElem_map, List.getD_eq_getElem _ _ hrank]

/-- A bound is the median of a resample, and so between the values. -/
theorem bound_between (hne : values ≠ []) {q : ℚ} (hq : q ≤ 100) :
    values.minimum ≤ bound values q ∧ bound values q ≤ values.maximum := by
  have hmem := mem_sorted.mp (getD_mem (rank_lt_resamples hne hq))
  obtain ⟨word, hword, hmiddle⟩ := List.mem_map.mp hmem
  obtain ⟨hlength, hletters⟩ := words.mem_all.mp hword
  have hword : word ≠ [] := by
    rintro rfl
    exact hne (List.length_eq_zero_iff.mp hlength.symm)
  obtain ⟨least, hleast⟩ := WithTop.ne_top_iff_exists.mp (List.minimum_ne_top_of_ne_nil hne)
  obtain ⟨greatest, hgreatest⟩ := WithBot.ne_bot_iff_exists.mp (List.maximum_ne_bot_of_ne_nil hne)
  have hletters : ∀ value ∈ word, least ≤ value ∧ value ≤ greatest := by
    intro value hvalue
    exact ⟨List.minimum_le_of_mem (hletters value hvalue) hleast.symm,
      List.le_maximum_of_mem (hletters value hvalue) hgreatest.symm⟩
  have hbetween := middle_between hword hletters
  rw [hmiddle] at hbetween
  rw [← hleast, ← hgreatest]
  exact ⟨WithTop.coe_le_coe.mpr hbetween.1, WithBot.coe_le_coe.mpr hbetween.2⟩

end Bootstrap

/-! How many resamples keep to one side of the median. Over sorted values it is enough
to count indices: a resample whose two middle places draw from the first half of the
values has its median there. -/

section Bracket

variable {values : List ℚ}

/-- The indices up to the lower of the two middle places, and up to the upper one. -/
def lower_draws (n : ℕ) : ℕ :=
  words.tally ((List.range n).countP fun i => i ≤ (n - 1) / 2)
    ((List.range n).countP fun i => !decide (i ≤ (n - 1) / 2) && decide (i ≤ n / 2))
    ((List.range n).countP fun i => !decide (i ≤ (n - 1) / 2) && !decide (i ≤ n / 2)) n
    ((n - 1) / 2 + 1) (n / 2 + 1)

def upper_draws (n : ℕ) : ℕ :=
  words.tally ((List.range n).countP fun i => n / 2 ≤ i)
    ((List.range n).countP fun i => !decide (n / 2 ≤ i) && decide ((n - 1) / 2 ≤ i))
    ((List.range n).countP fun i => !decide (n / 2 ≤ i) && !decide ((n - 1) / 2 ≤ i)) n
    ((n - 1) / 2 + 1) (n / 2 + 1)

/-- Up to eight values, both sides hold more than the share of a percentile. -/
theorem draws_enough {n : ℕ} (hpositive : 1 ≤ n) (hn : n ≤ 8) :
    rank (n ^ n) (5 / 2) < lower_draws n ∧ n ^ n ≤ rank (n ^ n) (195 / 2) + upper_draws n := by
  interval_cases n <;> decide +kernel

theorem getD_mono (hsorted : values.Pairwise (· ≤ ·)) {i j : ℕ} (hle : i ≤ j) (hj : j < values.length) :
    values.getD i 0 ≤ values.getD j 0 := by
  rw [List.getD_eq_getElem _ _ (hle.trans_lt hj), List.getD_eq_getElem _ _ hj]
  obtain hlt | heq := hle.lt_or_eq
  · exact List.pairwise_iff_getElem.mp hsorted i j _ hj hlt
  · subst heq
    exact le_rfl

/-- A place of a resample is bounded by a value that enough of its draws keep below. -/
theorem resample_place_le (hsorted : values.Pairwise (· ≤ ·)) {draws : List ℕ} {place : ℕ}
    (hplace : place < values.length) (hlength : draws.length = values.length)
    (hdraws : place + 1 ≤ draws.countP fun i => decide (i ≤ place)) :
    (sorted (draws.map fun i => values.getD i 0)).getD place 0 ≤ values.getD place 0 := by
  have hi : place < (sorted (draws.map fun i => values.getD i 0)).length := by
    rw [sorted_length, List.length_map, hlength]
    exact hplace
  rw [List.getD_eq_getElem _ _ hi]
  apply words.getElem_le_of_lt_countP (sorted_exact_pairwise _) hi
  rw [(sorted_perm _).countP_eq, List.countP_map]
  apply hdraws.trans
  apply List.countP_mono_left
  intro i _ hle
  exact decide_eq_true (getD_mono hsorted (of_decide_eq_true hle) hplace)

theorem le_resample_place (hsorted : values.Pairwise (· ≤ ·)) {draws : List ℕ} (place : ℕ)
    (hplace : place < values.length) (hlength : draws.length = values.length)
    (hrange : ∀ i ∈ draws, i < values.length)
    (hdraws : values.length ≤ place + draws.countP fun i => decide (place ≤ i)) :
    values.getD place 0 ≤ (sorted (draws.map fun i => values.getD i 0)).getD place 0 := by
  have hi : place < (sorted (draws.map fun i => values.getD i 0)).length := by
    rw [sorted_length, List.length_map, hlength]
    exact hplace
  rw [List.getD_eq_getElem _ _ hi]
  apply words.le_getElem_of_lt_countP (sorted_exact_pairwise _) hi
  rw [(sorted_perm _).countP_eq, List.countP_map, sorted_length, List.length_map, hlength]
  have hmono : (draws.countP fun i => decide (place ≤ i)) ≤ draws.countP
      ((fun value => decide (values.getD place 0 ≤ value)) ∘ fun i => values.getD i 0) := by
    apply List.countP_mono_left
    intro i hi hle
    exact decide_eq_true (getD_mono hsorted (of_decide_eq_true hle) (hrange i hi))
  omega

/-- The resamples of sorted values are the medians of the index words. -/
theorem resample_medians_countP (values : List ℚ) (p : ℚ → Bool) :
    (resample_medians values).countP p =
      (words.all (List.range values.length) values.length).countP fun draws =>
        p (middle (draws.map fun i => values.getD i 0)) := by
  rw [resample_medians, words_eq_map_indices, List.map_map, List.countP_map]
  rfl

theorem lower_draws_le (hsorted : values.Pairwise (· ≤ ·)) (hne : values ≠ []) :
    lower_draws values.length ≤
      (resample_medians values).countP fun value => decide (value ≤ middle values) := by
  have hpositive := List.length_pos_iff.mpr hne
  rw [lower_draws, ← words.countP_all (fun i => decide (i ≤ (values.length - 1) / 2))
    (fun i => decide (i ≤ values.length / 2)), resample_medians_countP]
  apply List.countP_mono_left
  intro draws hdraws hcounts
  obtain ⟨hlength, _⟩ := words.mem_all.mp hdraws
  obtain ⟨hfirst, hsecond⟩ := of_decide_eq_true hcounts
  have hupper : (fun i => decide (i ≤ (values.length - 1) / 2) || decide (i ≤ values.length / 2)) =
      fun i => decide (i ≤ values.length / 2) := by
    funext i
    rw [← Bool.decide_or, decide_eq_decide]
    omega
  rw [hupper] at hsecond
  have hlow := resample_place_le hsorted (by omega) hlength hfirst
  have hhigh := resample_place_le hsorted (by omega) hlength hsecond
  apply decide_eq_true
  rw [middle, middle, sorted_of_pairwise hsorted, List.length_map, hlength]
  linarith

theorem upper_draws_le (hsorted : values.Pairwise (· ≤ ·)) (hne : values ≠ []) :
    upper_draws values.length ≤
      (resample_medians values).countP fun value => decide (middle values ≤ value) := by
  have hpositive := List.length_pos_iff.mpr hne
  rw [upper_draws, ← words.countP_all (fun i => decide (values.length / 2 ≤ i))
    (fun i => decide ((values.length - 1) / 2 ≤ i)), resample_medians_countP]
  apply List.countP_mono_left
  intro draws hdraws hcounts
  obtain ⟨hlength, hletters⟩ := words.mem_all.mp hdraws
  have hrange : ∀ i ∈ draws, i < values.length := fun i hi => List.mem_range.mp (hletters i hi)
  obtain ⟨hfirst, hsecond⟩ := of_decide_eq_true hcounts
  have hlower : (fun i => decide (values.length / 2 ≤ i) || decide ((values.length - 1) / 2 ≤ i)) =
      fun i => decide ((values.length - 1) / 2 ≤ i) := by
    funext i
    rw [← Bool.decide_or, decide_eq_decide]
    omega
  rw [hlower] at hsecond
  have hhigh := le_resample_place hsorted (values.length / 2) (by omega) hlength hrange (by omega)
  have hlow := le_resample_place hsorted ((values.length - 1) / 2) (by omega) hlength hrange (by omega)
  apply decide_eq_true
  rw [middle, middle, sorted_of_pairwise hsorted, List.length_map, hlength]
  linarith

/-- The bounds are on either side of the median. -/
theorem bound_brackets_middle (hpositive : 1 ≤ values.length) (hlength : values.length ≤ 8) :
    bound values (5 / 2) ≤ middle values ∧ middle values ≤ bound values (195 / 2) := by
  have hne : values ≠ [] := List.length_pos_iff.mp hpositive
  have hperm := sorted_perm values
  have hlength' := hperm.length_eq
  obtain ⟨hlower, hupper⟩ := draws_enough hpositive hlength
  have hne' : sorted values ≠ [] := by
    intro hnil
    rw [hnil] at hperm
    exact hne hperm.symm.eq_nil
  have hbelow := lower_draws_le (sorted_exact_pairwise values) hne'
  have habove := upper_draws_le (sorted_exact_pairwise values) hne'
  rw [hlength', middle_perm hperm, (resample_medians_perm hperm).countP_eq] at hbelow habove
  constructor
  · have hrank := rank_lt_resamples hne (q := 5 / 2) (by norm_num)
    rw [bound, List.getD_eq_getElem _ _ hrank]
    apply words.getElem_le_of_lt_countP (sorted_exact_pairwise _) hrank
    rw [(sorted_perm _).countP_eq]
    omega
  · have hrank := rank_lt_resamples hne (q := 195 / 2) (by norm_num)
    rw [bound, List.getD_eq_getElem _ _ hrank]
    apply words.le_getElem_of_lt_countP (sorted_exact_pairwise _) hrank
    rw [(sorted_perm _).countP_eq, sorted_length, resample_medians_length]
    omega

/-- At 95 percent, one to eight values get bounds that are between the values and have
their median between them, that forget the order of the values and move with them. -/
theorem bootstrap_brackets (values : List ℚ) (hpositive : 1 ≤ values.length) (hlength : values.length ≤ 8) :
    ∃ bootstrap lower centre upper,
      paired_lifecycle_bootstrap_median values 95 = .ok bootstrap ∧
      bootstrap.lower_pct = some lower ∧ bootstrap.upper_pct = some upper ∧
      median values = .ok centre ∧
      values.minimum ≤ lower ∧ lower ≤ centre ∧ centre ≤ upper ∧ upper ≤ values.maximum ∧
      (∀ values' : List ℚ, values'.Perm values →
        paired_lifecycle_bootstrap_median values' 95 = .ok bootstrap) ∧
      ∀ c : ℚ, paired_lifecycle_bootstrap_median (values.map (· + c)) 95 =
        .ok { bootstrap with lower_pct := some (lower + c), upper_pct := some (upper + c) } := by
  have hne : values ≠ [] := List.length_pos_iff.mp hpositive
  obtain ⟨hbelow, habove⟩ := bound_brackets_middle hpositive hlength
  refine ⟨bounds values, bound values (5 / 2), middle values, bound values (195 / 2),
    bootstrap_exact hpositive hlength, rfl, rfl, median_eq_middle hne,
    (bound_between hne (by norm_num)).1, hbelow, habove, (bound_between hne (by norm_num)).2, ?_, ?_⟩
  · intro values' hperm
    rw [bootstrap_exact (by rwa [hperm.length_eq]) (by rwa [hperm.length_eq]), bounds_perm hperm]
  · intro c
    rw [bootstrap_exact (by rwa [List.length_map]) (by rwa [List.length_map]), bounds,
      bound_map_add hne c (by norm_num), bound_map_add hne c (by norm_num), List.length_map]
    rfl

/-- The three lifecycles of a cell, two of which measured the same. -/
theorem bootstrap_brackets_three_lifecycles :
    ∃ bootstrap lower centre upper,
      paired_lifecycle_bootstrap_median ([18, 2, 18] : List ℚ) 95 = .ok bootstrap ∧
      bootstrap.lower_pct = some lower ∧ bootstrap.upper_pct = some upper ∧
      median ([18, 2, 18] : List ℚ) = .ok centre ∧ lower ≤ centre ∧ centre ≤ upper := by
  obtain ⟨bootstrap, lower, centre, upper, hbootstrap, hlower, hupper, hcentre, _, hbelow, habove, _⟩ :=
    bootstrap_brackets [18, 2, 18] (by decide) (by decide)
  exact ⟨bootstrap, lower, centre, upper, hbootstrap, hlower, hupper, hcentre, hbelow, habove⟩

end Bracket

end rebuild_g0_formal
