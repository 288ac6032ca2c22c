import KvMaterialization.Python.Capped
import KvMaterialization.Python.Number
import Mathlib.Data.Rat.Defs
import Mathlib.Order.WithBot

namespace python

section Foremost

variable {α κ : Type} [DecidableEq α] [LinearOrder κ] {key : α → κ}

/-- `a` is taken before `b`: its key is less, or the same and it stands first. -/
def Ahead (key : α → κ) (items : List α) (a b : α) : Prop :=
  key a < key b ∨ key a = key b ∧ items.idxOf a < items.idxOf b

instance (items : List α) (a b : α) : Decidable (Ahead key items a b) :=
  inferInstanceAs (Decidable (_ ∨ _))

/-- `a` is the first of the items whose keys are least. -/
def Foremost (key : α → κ) (items : List α) (a : α) : Prop :=
  a ∈ items ∧ ∀ b ∈ items, b ≠ a → Ahead key items a b

theorem Ahead.asymm {items : List α} {a b : α} (hahead : Ahead key items a b) : ¬ Ahead key items b a := by
  rintro (hless | ⟨heq, hfirst⟩)
  · obtain hless' | ⟨heq, _⟩ := hahead
    · exact lt_asymm hless hless'
    · exact hless.ne' heq
  · obtain hless | ⟨_, hfirst'⟩ := hahead
    · exact hless.ne' heq
    · exact lt_asymm hfirst hfirst'

theorem Foremost.unique {items : List α} {a b : α} (ha : Foremost key items a) (hb : Foremost key items b) :
    a = b := by
  by_contra hne
  exact (ha.2 b hb.1 (Ne.symm hne)).asymm (hb.2 a ha.1 hne)

theorem Foremost.key_le {items : List α} {a b : α} (ha : Foremost key items a) (hmem : b ∈ items) :
    key a ≤ key b := by
  obtain rfl | hne := eq_or_ne b a
  · exact le_rfl
  · obtain hless | ⟨heq, _⟩ := ha.2 b hmem hne
    · exact hless.le
    · exact heq.le

/-- What stands before the foremost has a greater key, and what stands behind it none less. -/
theorem foremost_of_split {before after : List α} {a : α} (hnodup : (before ++ a :: after).Nodup)
    (hbefore : ∀ b ∈ before, key a < key b) (hafter : ∀ b ∈ after, key a ≤ key b) :
    Foremost key (before ++ a :: after) a := by
  refine ⟨List.mem_append_right before List.mem_cons_self, ?_⟩
  intro b hmem hne
  rw [List.mem_append, List.mem_cons] at hmem
  obtain hmem | rfl | hmem := hmem
  · exact .inl (hbefore b hmem)
  · exact absurd rfl hne
  · obtain hless | heq := (hafter b hmem).lt_or_eq
    · exact .inl hless
    · have hdisjoint := List.disjoint_of_nodup_append hnodup
      have hnotA : a ∉ before := fun hin => hdisjoint hin List.mem_cons_self
      have hnotB : b ∉ before := fun hin => hdisjoint hin (List.mem_cons_of_mem _ hmem)
      refine .inr ⟨heq, ?_⟩
      rw [List.idxOf_append_of_notMem hnotA, List.idxOf_append_of_notMem hnotB, List.idxOf_cons_self,
        List.idxOf_cons_ne _ (Ne.symm hne)]
      omega

end Foremost

namespace Binary64

/-- Where a number stands among the others. NaN, which no comparison holds of, stands highest. -/
def rank : Binary64 → WithBot (WithTop ℚ)
  | finite x _ => ((x : WithTop ℚ) : WithBot (WithTop ℚ))
  | infinity negative => if negative then ⊥ else ⊤
  | nan => ⊤

theorem rank_finite_lt_top (x : ℚ) (hx : Representable x) : rank (finite x hx) < ⊤ :=
  WithBot.coe_lt_coe.mpr (WithTop.coe_lt_top x)

theorem lt_eq_rank (x : Binary64) {y : Binary64} (hy : y ≠ nan) : lt x y = decide (rank x < rank y) := by
  cases x with
  | nan =>
    change false = _
    simp [rank]
  | finite x hx =>
    cases y with
    | nan => exact absurd rfl hy
    | finite y _ => simp [lt_finite, rank]
    | infinity negative =>
      change (!negative) = _
      have htop := rank_finite_lt_top x hx
      cases negative with
      | true => simp [rank]
      | false => exact (decide_eq_true htop).symm
  | infinity negative =>
    cases y with
    | nan => exact absurd rfl hy
    | finite y _ =>
      change negative = _
      cases negative <;> simp [rank]
    | infinity negative' =>
      change (negative && !negative') = _
      cases negative <;> cases negative' <;> simp [rank]

theorem eq_iff_rank {x y : Binary64} (hx : x ≠ nan) (hy : y ≠ nan) :
    PyNumber.eq x y = true ↔ rank x = rank y := by
  cases x with
  | nan => exact absurd rfl hx
  | finite x _ =>
    cases y with
    | nan => exact absurd rfl hy
    | finite y _ => simp [PyNumber.eq, Binary64.eq, rank]
    | infinity negative => cases negative <;> simp [PyNumber.eq, Binary64.eq, rank]
  | infinity negative =>
    cases y with
    | nan => exact absurd rfl hy
    | finite y _ => cases negative <;> simp [PyNumber.eq, Binary64.eq, rank]
    | infinity negative' => cases negative <;> cases negative' <;> simp [PyNumber.eq, Binary64.eq, rank]

/-- No comparison holds of NaN. -/
theorem pyLe_iff_rank {x : Binary64} (hx : x ≠ nan) (y : Binary64) :
    pyLe x y = true ↔ y ≠ nan ∧ rank x ≤ rank y := by
  cases y with
  | nan =>
    have hfalse : pyLe x nan = false := by cases x <;> rfl
    rw [hfalse]
    exact iff_of_false Bool.false_ne_true (fun h => h.1 rfl)
  | finite y hy =>
    have hne : finite y hy ≠ nan := by simp
    rw [pyLe, Bool.or_eq_true, lt_eq_rank x hne, decide_eq_true_eq, eq_iff_rank hx hne, and_iff_right hne,
      le_iff_lt_or_eq]
  | infinity negative =>
    have hne : infinity negative ≠ nan := by simp
    rw [pyLe, Bool.or_eq_true, lt_eq_rank x hne, decide_eq_true_eq, eq_iff_rank hx hne, and_iff_right hne,
      le_iff_lt_or_eq]

section Selection

variable {α : Type}

/-- From a first key that is a number, `min` takes the first of the least: what
stands before it is ranked above it, and what stands behind it not below. -/
theorem minItem_first (first : Binary64 × α) (rest : List (Binary64 × α)) (hfirst : first.1 ≠ nan) :
    (minItem first rest).1 ≠ nan ∧ ∃ before after, first :: rest = before ++ minItem first rest :: after ∧
      (∀ item ∈ before, rank (minItem first rest).1 < rank item.1) ∧
      ∀ item ∈ after, rank (minItem first rest).1 ≤ rank item.1 := by
  induction rest using List.reverseRecOn with
  | nil => exact ⟨hfirst, [], [], rfl, by simp, by simp⟩
  | append_singleton rest next ih =>
    obtain ⟨hbest, before, after, hsplit, hbefore, hafter⟩ := ih
    have hstep : minItem first (rest ++ [next]) =
        if rank next.1 < rank (minItem first rest).1 then next else minItem first rest := by
      unfold minItem at hbest ⊢
      rw [List.foldl_append, List.foldl_cons, List.foldl_nil, lt_eq_rank next.1 hbest]
      simp only [decide_eq_true_eq]
    rw [hstep]
    split
    · rename_i hless
      refine ⟨?_, first :: rest, [], rfl, ?_, by simp⟩
      · intro hnan
        rw [hnan] at hless
        exact not_top_lt hless
      · intro item hitem
        rw [hsplit, List.mem_append, List.mem_cons] at hitem
        obtain hitem | rfl | hitem := hitem
        · exact hless.trans (hbefore item hitem)
        · exact hless
        · exact hless.trans_le (hafter item hitem)
    · rename_i hnot
      refine ⟨hbest, before, after ++ [next], ?_, hbefore, ?_⟩
      · rw [← List.cons_append, hsplit, List.append_assoc, List.cons_append]
      · rw [List.forall_mem_append]
        exact ⟨hafter, by simpa using hnot⟩

theorem minItem_rank_le (first : Binary64 × α) (rest : List (Binary64 × α)) (hfirst : first.1 ≠ nan) :
    ∀ item ∈ first :: rest, rank (minItem first rest).1 ≤ rank item.1 := by
  obtain ⟨_, before, after, hsplit, hbefore, hafter⟩ := minItem_first first rest hfirst
  intro item hitem
  rw [hsplit, List.mem_append, List.mem_cons] at hitem
  obtain hitem | rfl | hitem := hitem
  · exact (hbefore item hitem).le
  · exact le_rfl
  · exact hafter item hitem

/-- A first key that is NaN is never replaced. -/
theorem minItem_nan (first : Binary64 × α) (rest : List (Binary64 × α)) (hfirst : first.1 = nan) :
    minItem first rest = first := by
  induction rest with
  | nil => rfl
  | cons next rest ih =>
    have hnot : lt next.1 first.1 = false := by
      rw [hfirst]
      cases next.1 <;> rfl
    rw [minItem_cons, hnot]
    exact ih

/-- `min` returns the foremost of distinct items by a key that ranks them, where only items
that are all ranked last may start with NaN. -/
theorem minItem_foremost [DecidableEq α] {key : α → WithBot (WithTop ℚ)} {first : Binary64 × α}
    {rest : List (Binary64 × α)} (hnodup : ((first :: rest).map Prod.snd).Nodup)
    (hkey : ∀ item ∈ first :: rest, key item.2 = rank item.1)
    (hnan : first.1 = nan → ∀ item ∈ first :: rest, key item.2 = ⊤) :
    Foremost key ((first :: rest).map Prod.snd) (minItem first rest).2 := by
  by_cases hfirst : first.1 = nan
  · rw [minItem_nan first rest hfirst, List.map_cons]
    refine @foremost_of_split _ _ _ _ _ [] _ _ hnodup (by simp) ?_
    intro other hother
    obtain ⟨item, hitem, rfl⟩ := List.mem_map.mp hother
    rw [hnan hfirst first List.mem_cons_self, hnan hfirst item (List.mem_cons_of_mem _ hitem)]
  · obtain ⟨_, before, after, hsplit, hbefore, hafter⟩ := minItem_first first rest hfirst
    have hmap : (first :: rest).map Prod.snd =
        before.map Prod.snd ++ (minItem first rest).2 :: after.map Prod.snd := by
      rw [hsplit, List.map_append, List.map_cons]
    have hbest := hkey _ (minItem_mem first rest)
    rw [hmap] at hnodup ⊢
    refine foremost_of_split hnodup ?_ ?_
    · intro other hother
      obtain ⟨item, hitem, rfl⟩ := List.mem_map.mp hother
      rw [hbest, hkey item (by rw [hsplit]; exact List.mem_append_left _ hitem)]
      exact hbefore item hitem
    · intro other hother
      obtain ⟨item, hitem, rfl⟩ := List.mem_map.mp hother
      rw [hbest, hkey item (by
        rw [hsplit]
        exact List.mem_append_right _ (List.mem_cons_of_mem _ hitem))]
      exact hafter item hitem

/-- Of three, the last is taken only where it is ranked below the other two. -/
theorem minItem_three {a b c : Binary64 × α} (ha : a.1 ≠ nan) :
    minItem a [b, c] = if rank c.1 < rank a.1 ∧ rank c.1 < rank b.1 then c
      else if rank b.1 < rank a.1 then b else a := by
  rw [minItem_cons, lt_eq_rank b.1 ha]
  simp only [decide_eq_true_eq]
  by_cases hb : rank b.1 < rank a.1
  · have hbnum : b.1 ≠ nan := by
      intro hnan
      rw [hnan] at hb
      exact not_top_lt hb
    rw [if_pos hb, minItem_cons, lt_eq_rank c.1 hbnum]
    simp only [decide_eq_true_eq]
    by_cases hc : rank c.1 < rank b.1
    · rw [if_pos hc, if_pos ⟨hc.trans hb, hc⟩]
      rfl
    · rw [if_neg hc, if_neg (fun h => hc h.2)]
      rfl
  · rw [if_neg hb, minItem_cons, lt_eq_rank c.1 ha]
    simp only [decide_eq_true_eq]
    by_cases hc : rank c.1 < rank a.1
    · rw [if_pos hc, if_pos ⟨hc, hc.trans_le (not_lt.mp hb)⟩]
      rfl
    · rw [if_neg hc, if_neg (fun h => hc h.1)]
      rfl

end Selection

/-- A number from zero up, or infinity. -/
def NonNegative (value : Binary64) : Prop := Clean value ∨ value = infinity false

theorem nonNegative_iff (value : Binary64) : pyLe (lit 0) value = true ↔ NonNegative value := by
  obtain ⟨hrepresentable, hzero⟩ := lit_zero
  rw [hzero, pyLe_iff_rank (by simp)]
  unfold NonNegative Clean
  cases value with
  | finite x hx => simp [rank, hx]
  | infinity negative => cases negative <;> simp [rank]
  | nan => simp

theorem NonNegative.ne_nan {value : Binary64} (hnonneg : NonNegative value) : value ≠ nan := by
  rintro rfl
  obtain ⟨x, hx, heq, _⟩ | heq := hnonneg <;> cases heq

/-- A number from zero up, or the NaN that an infinite one leaves. -/
def Unsigned (value : Binary64) : Prop := NonNegative value ∨ value = nan

/-- What an infinite number leaves in sums and shares. -/
def Unbounded (value : Binary64) : Prop := value = infinity false ∨ value = nan

theorem Unbounded.rank_eq {value : Binary64} (hunbounded : Unbounded value) : rank value = ⊤ := by
  obtain rfl | rfl := hunbounded <;> rfl

theorem Unbounded.unsigned {value : Binary64} (hunbounded : Unbounded value) : Unsigned value := by
  obtain rfl | rfl := hunbounded
  · exact .inl (.inr rfl)
  · exact .inr rfl

theorem Unbounded.add {x y : Binary64} (hx : Unbounded x) (hy : Unsigned y) : Unbounded (x + y) := by
  change Unbounded (Binary64.add x y)
  obtain rfl | rfl := hx
  · obtain (⟨b, hb, rfl, _⟩ | rfl) | rfl := hy
    · exact .inl rfl
    · exact .inl rfl
    · exact .inr rfl
  · exact .inr (by cases y <;> rfl)

theorem Unsigned.add_unbounded {x y : Binary64} (hx : Unsigned x) (hy : Unbounded y) : Unbounded (x + y) := by
  change Unbounded (Binary64.add x y)
  obtain (⟨a, ha, rfl, _⟩ | rfl) | rfl := hx
  · obtain rfl | rfl := hy
    · exact .inl rfl
    · exact .inr rfl
  · obtain rfl | rfl := hy
    · exact .inl rfl
    · exact .inr rfl
  · exact .inr (by cases y <;> rfl)

theorem Unbounded.share {x share : Binary64} (hx : Unbounded x) (hshare : InUnit share) : Unbounded (x * share) := by
  obtain ⟨b, hb, rfl, hb0, _⟩ := hshare
  change Unbounded (Binary64.mul x (finite b hb))
  obtain rfl | rfl := hx
  · unfold Binary64.mul
    dsimp only
    split
    · exact .inr rfl
    · rw [decide_eq_false (not_lt.mpr hb0)]
      exact .inl rfl
  · exact .inr rfl

theorem Unbounded.roundTo {x : Binary64} (hx : Unbounded x) (digits : ℕ) :
    Unbounded (PyFloat.roundTo x digits) := by
  obtain rfl | rfl := hx
  · exact .inl rfl
  · exact .inr rfl

/-- A maximum that has zero for its first argument is no NaN. -/
theorem nonNegative_pyMax_zero (value : Binary64) : NonNegative (pyMax (lit 0) value) := by
  obtain ⟨hrepresentable, hzero⟩ := lit_zero
  rw [hzero]
  unfold pyMax
  split
  · rename_i hless
    cases value with
    | finite x hx =>
      rw [lt_finite, decide_eq_true_eq] at hless
      exact .inl ⟨x, hx, rfl, hless.le⟩
    | infinity negative =>
      cases negative with
      | true => exact absurd hless Bool.false_ne_true
      | false => exact .inr rfl
    | nan => exact absurd hless Bool.false_ne_true
  · exact .inl ⟨0, hrepresentable, rfl, le_rfl⟩

theorem nonNegative_ofRat {x : ℚ} (hx : 0 ≤ x) : NonNegative (ofRat x) := by
  by_cases hlt : |x| < overflow
  · exact .inl ⟨nearest x, _, ofRat_of_lt hlt, nearest_nonneg hx⟩
  · right
    rw [ofRat, dif_neg hlt, decide_eq_false (not_lt.mpr hx)]

theorem clean_lit {c : ℚ} (hc : 0 ≤ c) (hle : c ≤ 2 ^ 53) : Clean (lit c) := by
  have hlt : |c| < overflow := by
    rw [abs_of_nonneg hc]
    exact lt_overflow hle
  exact ⟨nearest c, _, ofRat_of_lt hlt, nearest_nonneg hc⟩

theorem NonNegative.add {x y : Binary64} (hx : NonNegative x) (hy : NonNegative y) : NonNegative (x + y) := by
  change NonNegative (Binary64.add x y)
  obtain ⟨a, ha, rfl, hnonneg⟩ | rfl := hx
  · obtain ⟨b, hb, rfl, hnonneg'⟩ | rfl := hy
    · exact nonNegative_ofRat (add_nonneg hnonneg hnonneg')
    · exact .inr rfl
  · obtain ⟨b, hb, rfl, hnonneg'⟩ | rfl := hy
    · exact .inr rfl
    · exact .inr rfl

theorem Unsigned.add {x y : Binary64} (hx : Unsigned x) (hy : Unsigned y) : Unsigned (x + y) := by
  obtain hx | rfl := hx
  · obtain hy | rfl := hy
    · exact .inl (hx.add hy)
    · exact (Unsigned.add_unbounded (.inl hx) (.inr rfl)).unsigned
  · exact (Unbounded.add (.inr rfl) hy).unsigned

theorem Clean.mul {x y : Binary64} (hx : Clean x) (hy : Clean y) : NonNegative (x * y) := by
  obtain ⟨a, ha, rfl, hnonneg⟩ := hx
  obtain ⟨b, hb, rfl, hnonneg'⟩ := hy
  exact nonNegative_ofRat (mul_nonneg hnonneg hnonneg')

/-- A share of a finite number is finite. -/
theorem Clean.share {x share : Binary64} (hx : Clean x) (hshare : InUnit share) : Clean (x * share) := by
  obtain ⟨a, ha, rfl, hnonneg⟩ := hx
  obtain ⟨b, hb, rfl, hb0, hb1⟩ := hshare
  have hproduct : |a * b| < overflow := by
    have hlt := ha.2
    rw [abs_of_nonneg hnonneg] at hlt
    rw [abs_of_nonneg (mul_nonneg hnonneg hb0)]
    exact (mul_le_of_le_one_right hnonneg hb1).trans_lt hlt
  exact ⟨_, _, ofRat_of_lt hproduct, nearest_nonneg (mul_nonneg hnonneg hb0)⟩

theorem Unsigned.share {x share : Binary64} (hx : Unsigned x) (hshare : InUnit share) : Unsigned (x * share) := by
  obtain (hclean | rfl) | rfl := hx
  · exact .inl (.inl (hclean.share hshare))
  · exact (Unbounded.share (.inl rfl) hshare).unsigned
  · exact (Unbounded.share (.inr rfl) hshare).unsigned

/-- A positive literal scales infinity as well. -/
theorem NonNegative.lit_mul {x : Binary64} (hx : NonNegative x) {c : ℚ} (hc : 2 ^ (-1074 : ℤ) ≤ c) (hle : c ≤ 2 ^ 53) :
    NonNegative (lit c * x) := by
  have hc0 : (0 : ℚ) ≤ c := le_trans (by positivity) hc
  have hpos := nearest_pos hc
  have hlt : |c| < overflow := by
    rw [abs_of_nonneg hc0]
    exact lt_overflow hle
  obtain hclean | rfl := hx
  · exact (clean_lit hc0 hle).mul hclean
  · right
    rw [lit_eq, ofRat_of_lt hlt]
    change Binary64.mul _ _ = _
    unfold Binary64.mul
    dsimp only
    rw [if_neg hpos.ne', decide_eq_false (not_lt.mpr hpos.le)]
    rfl

protected theorem mul_comm (x y : Binary64) : x * y = y * x := by
  change Binary64.mul x y = Binary64.mul y x
  cases x with
  | finite x hx =>
    cases y with
    | finite y hy => exact congrArg ofRat (Rat.mul_comm x y)
    | infinity negative =>
      change (if x = 0 then nan else infinity (decide (x < 0) != negative)) =
        if x = 0 then nan else infinity (negative != decide (x < 0))
      rw [bne_comm]
    | nan => rfl
  | infinity negative =>
    cases y with
    | finite y hy =>
      change (if y = 0 then nan else infinity (negative != decide (y < 0))) =
        if y = 0 then nan else infinity (decide (y < 0) != negative)
      rw [bne_comm]
    | infinity negative' => exact congrArg infinity bne_comm
    | nan => rfl
  | nan => cases y <;> rfl

theorem NonNegative.mul_lit {x : Binary64} (hx : NonNegative x) {c : ℚ} (hc : 2 ^ (-1074 : ℤ) ≤ c)
    (hle : c ≤ 2 ^ 53) : NonNegative (x * lit c) := by
  rw [Binary64.mul_comm]
  exact hx.lit_mul hc hle

theorem NonNegative.roundTo {x : Binary64} (hx : NonNegative x) (digits : ℕ) :
    NonNegative (PyFloat.roundTo x digits) := by
  obtain ⟨a, ha, rfl, hnonneg⟩ | rfl := hx
  · refine nonNegative_ofRat ?_
    unfold roundDecimals
    have hscaled : 0 ≤ roundHalfEven (a * 10 ^ digits) := roundHalfEven_nonneg (by positivity)
    have hcast : (0 : ℚ) ≤ roundHalfEven (a * 10 ^ digits) := by exact_mod_cast hscaled
    positivity
  · exact .inr rfl

theorem NonNegative.div {x z : Binary64} (hx : NonNegative x) {y : ℚ} {hy : Representable y} (hpos : 0 < y)
    (hdiv : PyFloat.div x (finite y hy) = .ok z) : NonNegative z := by
  obtain ⟨a, ha, rfl, hnonneg⟩ | rfl := hx
  · have hquotient : PyFloat.div (finite a ha) (finite y hy) = .ok (ofRat (a / y)) := if_neg hpos.ne'
    rw [hquotient, Except.ok.injEq] at hdiv
    rw [← hdiv]
    exact nonNegative_ofRat (div_nonneg hnonneg hpos.le)
  · have hquotient : PyFloat.div (infinity false) (finite y hy) =
        .ok (infinity (false != decide (y < 0))) := if_neg hpos.ne'
    rw [hquotient, Except.ok.injEq, decide_eq_false (not_lt.mpr hpos.le)] at hdiv
    exact .inr hdiv.symm

end Binary64

end python
