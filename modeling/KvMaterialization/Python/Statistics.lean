import KvMaterialization.Python.Ranked
import Mathlib.Data.List.Sort

namespace python

section

variable {F : Type} [PyNumber F]

/-- `sorted(values)`: a value goes before those it is not greater than. -/
def sorted (values : List F) : List F := values.insertionSort fun x y => lt y x = false

/-- `statistics.mean(values)`: the exact sum of the fractions, rounded once. A value that
is no fraction stands alone, the finite ones being lost on it. -/
def mean (values : List F) : Except Exception F :=
  if values = [] then .error (.value_error "mean requires at least one data point")
  else
    match values.mapM PyNumber.ratio with
    | some fractions => PyNumber.ofRatio (fractions.sum / values.length)
    | none => do
      let total := (values.filter fun x => (PyNumber.ratio x).isNone).foldl (· + ·) (lit 0)
      PyFloat.div total (← ofInt values.length)

/-- `statistics.median(values)` -/
def median (values : List F) : Except Exception F :=
  let data := sorted values
  let half := data.length / 2
  if data.length % 2 = 1 then
    match data[half]? with
    | some middle => .ok middle
    | none => .error (.value_error "no median for empty data")
  else
    match data[half - 1]?, data[half]? with
    | some low, some high => PyFloat.div (low + high) (lit 2)
    | _, _ => .error (.value_error "no median for empty data")

/-- `items[index]`, which counts a negative index from the end. -/
def itemAt {α : Type} (items : List α) (index : ℤ) : Except Exception α :=
  let place := if index < 0 then index + items.length else index
  if place < 0 then .error .index_error
  else
    match items[place.toNat]? with
    | some item => .ok item
    | none => .error .index_error

theorem itemAt_of_lt {α : Type} {items : List α} {index : ℤ} (hnonneg : 0 ≤ index)
    (hlt : index.toNat < items.length) : itemAt items index = .ok items[index.toNat] := by
  unfold itemAt
  dsimp only
  rw [if_neg (by omega), if_neg (by omega), List.getElem?_eq_getElem hlt]

theorem sorted_perm (values : List F) : (sorted values).Perm values := List.perm_insertionSort _ values

theorem mem_sorted {values : List F} {x : F} : x ∈ sorted values ↔ x ∈ values :=
  (sorted_perm values).mem_iff

/-- Values that are compared as their keys in a linear order are sorted by them. -/
theorem sorted_pairwise {K : Type} [LinearOrder K] (key : F → K) {values : List F}
    (hlt : ∀ x ∈ values, ∀ y ∈ values, lt x y = decide (key x < key y)) :
    (sorted values).Pairwise fun x y => key x ≤ key y := by
  have hkeys : (sorted values).map key = (values.map key).insertionSort (· ≤ ·) := by
    apply List.map_insertionSort
    intro x hx y hy
    rw [hlt y hy x hx, decide_eq_false_iff_not, not_lt]
  have hsorted := List.pairwise_insertionSort (· ≤ ·) (values.map key)
  rw [← hkeys, List.pairwise_map] at hsorted
  exact hsorted

/-- Sorting forgets the order values come in, if their keys tell them apart. -/
theorem sorted_eq_of_perm {K : Type} [LinearOrder K] (key : F → K) {values values' : List F}
    (hlt : ∀ x ∈ values, ∀ y ∈ values, lt x y = decide (key x < key y))
    (hkey : ∀ x ∈ values, ∀ y ∈ values, key x = key y → x = y) (hperm : values.Perm values') :
    sorted values = sorted values' := by
  have hlt' : ∀ x ∈ values', ∀ y ∈ values', lt x y = decide (key x < key y) := by
    intro x hx y hy
    exact hlt x (hperm.mem_iff.mpr hx) y (hperm.mem_iff.mpr hy)
  have hsorted : (sorted values).Perm (sorted values') :=
    (sorted_perm values).trans (hperm.trans (sorted_perm values').symm)
  refine hsorted.eq_of_pairwise ?_ (sorted_pairwise key hlt) (sorted_pairwise key hlt')
  intro x y hx hy hxy hyx
  exact hkey x (mem_sorted.mp hx) y (hperm.mem_iff.mpr (mem_sorted.mp hy)) (le_antisymm hxy hyx)

/-- Items that are sorted by keys that tell them apart come in the order of their keys. -/
theorem insertionSort_eq_map {α K : Type} [LinearOrder K] {key : α → K} {items : List α} (item : K → α)
    (hitem : ∀ a ∈ items, item (key a) = a) :
    (items.insertionSort fun a b => key a ≤ key b) = ((items.map key).insertionSort (· ≤ ·)).map item := by
  have hkeys : (items.insertionSort fun a b => key a ≤ key b).map key = (items.map key).insertionSort (· ≤ ·) :=
    List.map_insertionSort _ _ _ _ fun _ _ _ _ => Iff.rfl
  rw [← hkeys, List.map_map]
  refine (List.map_id _).symm.trans (List.map_congr_left ?_)
  intro a ha
  exact (hitem a ((List.mem_insertionSort _).mp ha)).symm

/-- Sorting by an order forgets the order elements come in. -/
theorem insertionSort_eq_of_perm {K : Type} [LinearOrder K] {keys keys' : List K} (hperm : keys.Perm keys') :
    keys.insertionSort (· ≤ ·) = keys'.insertionSort (· ≤ ·) := by
  have hsorted : (keys.insertionSort (· ≤ ·)).Perm (keys'.insertionSort (· ≤ ·)) :=
    (List.perm_insertionSort _ _).trans (hperm.trans (List.perm_insertionSort _ _).symm)
  exact hsorted.eq_of_pairwise (fun _ _ _ _ => le_antisymm) (List.pairwise_insertionSort _ _)
    (List.pairwise_insertionSort _ _)

theorem mapM_ratio_eq_some {values : List F} {fractions : List ℚ}
    (hfractions : values.mapM PyNumber.ratio = some fractions) :
    values.filterMap PyNumber.ratio = fractions ∧ ∀ x ∈ values, (PyNumber.ratio x).isSome := by
  induction values generalizing fractions with
  | nil =>
    cases hfractions
    exact ⟨rfl, by simp⟩
  | cons x rest ih =>
    rw [List.mapM_cons] at hfractions
    cases hx : PyNumber.ratio x with
    | none =>
      rw [hx] at hfractions
      cases hfractions
    | some fraction =>
      cases hrest : rest.mapM PyNumber.ratio with
      | none =>
        rw [hx, hrest] at hfractions
        cases hfractions
      | some others =>
        rw [hx, hrest] at hfractions
        cases hfractions
        obtain ⟨hothers, hall⟩ := ih hrest
        refine ⟨by rw [List.filterMap_cons_some hx, hothers], ?_⟩
        rw [List.forall_mem_cons]
        exact ⟨by rw [hx]; rfl, hall⟩

theorem mapM_ratio_eq_none {values : List F} (hnone : values.mapM PyNumber.ratio = none) :
    ∃ x ∈ values, PyNumber.ratio x = none := by
  induction values with
  | nil => cases hnone
  | cons x rest ih =>
    cases hx : PyNumber.ratio x with
    | none => exact ⟨x, List.mem_cons_self, hx⟩
    | some fraction =>
      cases hrest : rest.mapM PyNumber.ratio with
      | none =>
        obtain ⟨y, hy, hratio⟩ := ih hrest
        exact ⟨y, List.mem_cons_of_mem _ hy, hratio⟩
      | some others =>
        rw [List.mapM_cons, hx, hrest] at hnone
        cases hnone

/-- The mean forgets the order values come in, if all that are no fraction are one value. -/
theorem mean_eq_of_perm {values values' : List F} (special : F)
    (hspecial : ∀ x ∈ values, PyNumber.ratio x = none → x = special) (hperm : values.Perm values') :
    mean values = mean values' := by
  have hempty : values = [] ↔ values' = [] := by
    rw [← List.length_eq_zero_iff, ← List.length_eq_zero_iff, hperm.length_eq]
  unfold mean
  by_cases hnil : values = []
  · rw [if_pos hnil, if_pos (hempty.mp hnil)]
  rw [if_neg hnil, if_neg (mt hempty.mpr hnil), hperm.length_eq]
  cases hfractions : values.mapM PyNumber.ratio with
  | some fractions =>
    obtain ⟨hvalues, hall⟩ := mapM_ratio_eq_some hfractions
    cases hfractions' : values'.mapM PyNumber.ratio with
    | some fractions' =>
      obtain ⟨hvalues', _⟩ := mapM_ratio_eq_some hfractions'
      have hsum : fractions.sum = fractions'.sum := by
        rw [← hvalues, ← hvalues']
        exact (hperm.filterMap _).sum_eq
      dsimp only
      rw [hsum]
    | none =>
      obtain ⟨x, hx, hratio⟩ := mapM_ratio_eq_none hfractions'
      have hsome := hall x (hperm.mem_iff.mpr hx)
      rw [hratio] at hsome
      cases hsome
  | none =>
    obtain ⟨x, hx, hratio⟩ := mapM_ratio_eq_none hfractions
    cases hfractions' : values'.mapM PyNumber.ratio with
    | some fractions' =>
      have hsome := (mapM_ratio_eq_some hfractions').2 x (hperm.mem_iff.mp hx)
      rw [hratio] at hsome
      cases hsome
    | none =>
      -- What is left of either order are as many copies of the one special value.
      have hreplicate : ∀ list : List F, (∀ y ∈ list, y ∈ values) →
          list.filter (fun y => (PyNumber.ratio y).isNone) =
            List.replicate (list.countP fun y => (PyNumber.ratio y).isNone) special := by
        intro list hlist
        rw [List.eq_replicate_iff, ← List.countP_eq_length_filter]
        refine ⟨rfl, ?_⟩
        intro y hy
        obtain ⟨hmem, hnone⟩ := List.mem_filter.mp hy
        exact hspecial y (hlist y hmem) (Option.isNone_iff_eq_none.mp hnone)
      dsimp only
      rw [hreplicate values (fun _ => id), hreplicate values' (fun y => hperm.mem_iff.mpr),
        hperm.countP_eq]

end

namespace Binary64

theorem NonNegative.eq_of_rank {x y : Binary64} (hx : NonNegative x) (hy : NonNegative y)
    (heq : rank x = rank y) : x = y := by
  obtain ⟨q, hq, rfl, _⟩ | rfl := hx
  · obtain ⟨r, hr, rfl, _⟩ | rfl := hy
    · have hvalue : q = r := WithTop.coe_injective (WithBot.coe_injective heq)
      subst hvalue
      rfl
    · exact absurd heq (rank_finite_lt_top q hq).ne
  · obtain ⟨r, hr, rfl, _⟩ | rfl := hy
    · exact absurd heq.symm (rank_finite_lt_top r hr).ne
    · rfl

theorem NonNegative.special {x : Binary64} (hx : NonNegative x) (hnone : PyNumber.ratio x = none) :
    x = infinity false := by
  obtain ⟨q, hq, rfl, _⟩ | rfl := hx
  · cases hnone
  · rfl

theorem ofRat_ne_nan (x : ℚ) : ofRat x ≠ nan := by
  unfold ofRat
  split
  · exact Binary64.noConfusion
  · exact Binary64.noConfusion

theorem roundTo_ne_nan {x : Binary64} (hx : x ≠ nan) (digits : ℕ) : PyFloat.roundTo x digits ≠ nan := by
  cases x with
  | finite q hq => exact ofRat_ne_nan _
  | infinity negative => exact Binary64.noConfusion
  | nan => exact absurd rfl hx

theorem eq_self {x : Binary64} (hx : x ≠ nan) : PyNumber.eq x x = true := by
  cases x with
  | finite q hq => exact decide_eq_true rfl
  | infinity negative => exact beq_self_eq_true negative
  | nan => exact absurd rfl hx

theorem add_infinities (count : ℕ) :
    (List.replicate count (infinity false)).foldl (· + ·) (infinity false) = infinity false := by
  induction count with
  | zero => rfl
  | succ count ih =>
    rw [List.replicate_succ, List.foldl_cons]
    exact ih

theorem infinity_div_ne_nan {y z : Binary64} {n : ℤ} (hy : ofInt n = .ok y)
    (hz : PyFloat.div (infinity false) y = .ok z) : z ≠ nan := by
  obtain ⟨hlt, rfl⟩ := ofReal_eq_ok_iff.mp hy
  rw [ofRat_of_lt hlt] at hz
  change Binary64.div (infinity false) (finite _ _) = _ at hz
  rw [Binary64.div] at hz
  split at hz
  · cases hz
  · cases hz
    exact Binary64.noConfusion

/-- Numbers from zero up have a mean that is a number. -/
theorem mean_ne_nan {values : List Binary64} (hvalues : ∀ x ∈ values, NonNegative x) {x : Binary64}
    (hmean : mean values = .ok x) : x ≠ nan := by
  unfold mean at hmean
  split at hmean
  · cases hmean
  split at hmean
  · obtain ⟨_, rfl⟩ := ofReal_eq_ok_iff.mp hmean
    exact ofRat_ne_nan _
  · rename_i hnone
    obtain ⟨special, hspecial, hratio⟩ := mapM_ratio_eq_none hnone
    rw [bind_eq_ok_iff] at hmean
    obtain ⟨count, hcount, hmean⟩ := hmean
    have hfiltered : values.filter (fun x => (PyNumber.ratio x).isNone) =
        List.replicate (values.countP fun x => (PyNumber.ratio x).isNone) (infinity false) := by
      rw [List.eq_replicate_iff, ← List.countP_eq_length_filter]
      refine ⟨rfl, ?_⟩
      intro y hy
      obtain ⟨hmem, hnone⟩ := List.mem_filter.mp hy
      exact (hvalues y hmem).special (Option.isNone_iff_eq_none.mp hnone)
    have hpos : 0 < values.countP fun x => (PyNumber.ratio x).isNone :=
      List.countP_pos_iff.mpr ⟨special, hspecial, by rw [hratio]; rfl⟩
    obtain ⟨rest, hrest⟩ := Nat.exists_eq_succ_of_ne_zero hpos.ne'
    rw [hfiltered, hrest, List.replicate_succ, List.foldl_cons] at hmean
    have hfirst : (lit 0 + infinity false : Binary64) = infinity false := by
      have hzero : |(0 : ℚ)| < overflow := by
        rw [abs_zero]
        exact lt_overflow (by norm_num)
      rw [lit_eq, ofRat_of_lt hzero]
      rfl
    rw [hfirst, add_infinities] at hmean
    exact infinity_div_ne_nan hcount hmean

end Binary64

end python
