import KvMaterialization.Python.Json

namespace python

/-- A reading under which being the same number is an equivalence, so that sets and
dictionaries of numbers are what they seem. -/
class LawfulNumber (F : Type) [PyNumber F] : Prop where
  same_equivalence : Equivalence fun x y : Number F => Json.sameNumber x y = true

/-- Numbers that are the same where they have the same value, in any sense of value. -/
theorem Json.sameNumber_equivalence_of {F κ : Type} [PyNumber F] {value : Number F → κ}
    (hvalue : ∀ x y, Json.sameNumber x y = true ↔ value x = value y) :
    Equivalence fun x y : Number F => Json.sameNumber x y = true where
  refl x := (hvalue x x).mpr rfl
  symm h := (hvalue _ _).mpr ((hvalue _ _).mp h).symm
  trans h h' := (hvalue _ _).mpr (((hvalue _ _).mp h).trans ((hvalue _ _).mp h'))

namespace Number

def exact : Number ℚ → ℚ
  | .int n => n
  | .float x => x

theorem same_exact_iff (x y : Number ℚ) : Json.sameNumber x y = true ↔ x.exact = y.exact := by
  cases x with
  | int m =>
    cases y with
    | int n => simp [Json.sameNumber, Number.eq, exact]
    | float y => simp [Json.sameNumber, Number.eq, exact, PyNumber.ratio, PyNumber.eq, eq_comm]
  | float x =>
    cases y with
    | int n => simp [Json.sameNumber, Number.eq, exact, PyNumber.ratio, PyNumber.eq]
    | float y => simp [Json.sameNumber, Number.eq, exact, PyNumber.eq]

/-- What a number is as an element: a fraction, an infinity of either sign, or no number. -/
def double : Number Binary64 → Option (ℚ ⊕ Bool)
  | .int n => some (.inl n)
  | .float (.finite x _) => some (.inl x)
  | .float (.infinity negative) => some (.inr negative)
  | .float .nan => none

theorem same_double_iff (x y : Number Binary64) : Json.sameNumber x y = true ↔ x.double = y.double := by
  cases x with
  | int m =>
    cases y with
    | int n => simp [Json.sameNumber, Number.eq, double]
    | float y => cases y <;>
        simp [Json.sameNumber, Number.eq, double, PyNumber.ratio, PyNumber.eq, Binary64.ratio, eq_comm]
  | float x =>
    cases y with
    | int n => cases x <;> simp [Json.sameNumber, Number.eq, double, PyNumber.ratio, PyNumber.eq, Binary64.ratio]
    | float y => cases x <;> cases y <;>
        simp [Json.sameNumber, Number.eq, double, PyNumber.eq, Binary64.eq]

end Number

instance : LawfulNumber ℚ := ⟨Json.sameNumber_equivalence_of Number.same_exact_iff⟩

instance : LawfulNumber Binary64 := ⟨Json.sameNumber_equivalence_of Number.same_double_iff⟩

namespace Json

section

variable {F : Type} {a b c : Json F}

/-- What a set takes is nothing, a text or a number. -/
theorem hashable_cases (ha : a.hashable = true) :
    a = null ∨ (∃ text, a = str text) ∨ ∃ x, a.number? = some x := by
  cases a with
  | null => exact .inl rfl
  | str text => exact .inr (.inl ⟨text, rfl⟩)
  | bool value => exact .inr (.inr ⟨_, rfl⟩)
  | int value => exact .inr (.inr ⟨_, rfl⟩)
  | float value => exact .inr (.inr ⟨_, rfl⟩)
  | list items => cases ha
  | dict entries => cases ha

variable [PyNumber F]

/-- Only a number is the same as a number. -/
theorem number_of_same {x : Number F} (ha : a.number? = some x) (hsame : a.same b = true) :
    ∃ y, b.number? = some y ∧ sameNumber x y = true := by
  cases hb : b.number? with
  | some y => exact ⟨y, rfl, by rwa [← same_of_number ha hb]⟩
  | none =>
    cases a <;> cases ha <;> cases b <;> cases hb <;> simp [same, number?] at hsame

variable [LawfulNumber F]

theorem same_refl (ha : a.hashable = true) : a.same a = true := by
  obtain rfl | ⟨text, rfl⟩ | ⟨x, hx⟩ := hashable_cases ha
  · exact same_null_iff.mpr rfl
  · exact same_str.mpr rfl
  · rw [same_of_number hx hx]
    exact LawfulNumber.same_equivalence.refl x

theorem same_symm (ha : a.hashable = true) (hsame : a.same b = true) : b.same a = true := by
  obtain rfl | ⟨text, rfl⟩ | ⟨x, hx⟩ := hashable_cases ha
  · rw [null_same_iff.mp hsame]
    exact same_null_iff.mpr rfl
  · rw [str_same_iff.mp hsame]
    exact same_str.mpr rfl
  · obtain ⟨y, hy, hxy⟩ := number_of_same hx hsame
    rw [same_of_number hy hx]
    exact LawfulNumber.same_equivalence.symm hxy

theorem same_trans (ha : a.hashable = true) (hab : a.same b = true) (hbc : b.same c = true) :
    a.same c = true := by
  obtain rfl | ⟨text, rfl⟩ | ⟨x, hx⟩ := hashable_cases ha
  · rwa [null_same_iff.mp hab] at hbc
  · rwa [str_same_iff.mp hab] at hbc
  · obtain ⟨y, hy, hxy⟩ := number_of_same hx hab
    obtain ⟨z, hz, hyz⟩ := number_of_same hy hbc
    rw [same_of_number hx hz]
    exact LawfulNumber.same_equivalence.trans hxy hyz

end

section

variable {F : Type} [PyNumber F]

/-- A set made of distinct values is the list of them. -/
theorem foldl_insertInto_of_distinct {values : List (Json F)} (hdistinct : Distinct values) :
    values.foldl insertInto [] = values := by
  induction values using List.reverseRecOn with
  | nil => rfl
  | append_singleton values value ih =>
    obtain ⟨hvalues, _, hfresh⟩ := List.pairwise_append.mp hdistinct
    have hnew : ¬ value.memberOf values = true := by
      rw [memberOf, Bool.not_eq_true, List.any_eq_false]
      intro earlier hearlier
      exact Bool.eq_false_iff.mp (hfresh earlier hearlier value (List.mem_singleton.mpr rfl))
    rw [List.foldl_append, ih hvalues, List.foldl_cons, List.foldl_nil, insertInto, if_neg hnew]

/-- Values that are told apart are told apart in any order. -/
theorem Distinct.perm [LawfulNumber F] {values values' : List (Json F)}
    (hhashable : ∀ value ∈ values, value.hashable = true) (hdistinct : Distinct values)
    (hperm : values.Perm values') : Distinct values' := by
  have hsymm : Std.Symm fun a b : Json F => a.hashable = true → b.hashable = true → b.same a = false := by
    refine ⟨fun a b hapart hb ha => Bool.eq_false_iff.mpr fun hsame => ?_⟩
    rw [same_symm ha hsame] at hapart
    cases hapart ha hb
  have hpairwise : values.Pairwise fun a b => a.hashable = true → b.hashable = true → b.same a = false :=
    hdistinct.imp fun h _ _ => h
  have hpairwise' := (hperm.pairwise_iff (hsymm.symm _ _)).mp hpairwise
  have hhashable' : ∀ value ∈ values', value.hashable = true := fun value hvalue =>
    hhashable value (hperm.mem_iff.mpr hvalue)
  exact hpairwise'.imp_of_mem fun ha hb h => h (hhashable' _ ha) (hhashable' _ hb)

end

end Json

/-! Dictionaries whose keys are told apart by a test of sameness. -/

section Table

variable {κ ν α : Type}

/-- A test that is an equivalence on what can be a key. -/
structure KeyTest (same : κ → κ → Bool) (valid : κ → Prop) : Prop where
  refl : ∀ {a}, valid a → same a a = true
  symm : ∀ {a b}, valid a → same a b = true → same b a = true
  trans : ∀ {a b c}, valid a → same a b = true → same b c = true → same a c = true

theorem Json.keyTest {F : Type} [PyNumber F] [LawfulNumber F] :
    KeyTest (Json.same : Json F → Json F → Bool) fun key => key.hashable = true :=
  ⟨Json.same_refl, Json.same_symm, Json.same_trans⟩

variable {same : κ → κ → Bool} {valid : κ → Prop}

theorem valid_assignAt {entries : List (κ × ν)} {key : κ} {value : ν} (hentries : ∀ entry ∈ entries, valid entry.1)
    (hkey : valid key) : ∀ entry ∈ assignAt same entries key value, valid entry.1 := by
  induction entries with
  | nil =>
    intro entry hentry
    rw [List.mem_singleton.mp hentry]
    exact hkey
  | cons first rest ih =>
    rw [List.forall_mem_cons] at hentries
    unfold assignAt
    split
    · exact List.forall_mem_cons.mpr hentries
    · exact List.forall_mem_cons.mpr ⟨hentries.1, ih hentries.2⟩

/-- A value that is assigned is found under whatever is the same as its key. -/
theorem KeyTest.lookup_assignAt (htest : KeyTest same valid) {entries : List (κ × ν)} {key other : κ} (value : ν)
    (hentries : ∀ entry ∈ entries, valid entry.1) (hkey : valid key) (hother : valid other) :
    lookup same (assignAt same entries key value) other =
      if same other key = true then some value else lookup same entries other := by
  induction entries with
  | nil =>
    unfold lookup assignAt
    rw [List.find?_singleton]
    split
    · rfl
    · rfl
  | cons first rest ih =>
    rw [List.forall_mem_cons] at hentries
    unfold assignAt
    by_cases hfirst : same key first.1 = true
    · have hiff : same other first.1 = true ↔ same other key = true :=
        ⟨fun h => htest.trans hother h (htest.symm hkey hfirst), fun h => htest.trans hother h hfirst⟩
      rw [if_pos hfirst]
      unfold lookup
      rw [List.find?_cons, List.find?_cons]
      by_cases hsame : same other key = true
      · rw [if_pos hsame, hiff.mpr hsame]
        rfl
      · rw [if_neg hsame, Bool.eq_false_iff.mpr (mt hiff.mp hsame)]
    · rw [if_neg hfirst]
      unfold lookup at ih ⊢
      rw [List.find?_cons, List.find?_cons]
      by_cases hsame : same other first.1 = true
      · have hne : ¬ same other key = true := fun h => hfirst (htest.trans hkey (htest.symm hother h) hsame)
        rw [hsame, if_neg hne]
      · rw [Bool.eq_false_iff.mpr hsame]
        exact ih hentries.2

/-- A loop that changes the entry at a key of each item has changed an entry by the items
whose key is the same as its own. -/
theorem KeyTest.lookup_foldl (htest : KeyTest same valid) (keyOf : α → κ) (default : ν) (change : ν → α → ν)
    {items : List α} (entries : List (κ × ν)) {key : κ} (hitems : ∀ item ∈ items, valid (keyOf item))
    (hentries : ∀ entry ∈ entries, valid entry.1) (hkey : valid key) :
    (lookup same (items.foldl (fun entries item =>
        assignAt same entries (keyOf item) (change ((lookup same entries (keyOf item)).getD default) item))
        entries) key).getD default =
      (items.filter fun item => same key (keyOf item)).foldl change ((lookup same entries key).getD default) := by
  induction items generalizing entries with
  | nil => rfl
  | cons item rest ih =>
    rw [List.forall_mem_cons] at hitems
    rw [List.foldl_cons, ih _ hitems.2 (valid_assignAt hentries hitems.1),
      htest.lookup_assignAt _ hentries hitems.1 hkey, List.filter_cons]
    split
    · rename_i hsame
      have hentry : lookup same entries (keyOf item) = lookup same entries key := by
        unfold lookup
        congr 2
        funext entry
        rw [Bool.eq_iff_iff]
        exact ⟨fun h => htest.trans hkey hsame h,
          fun h => htest.trans hitems.1 (htest.symm hkey hsame) h⟩
      rw [List.foldl_cons, Option.getD_some, hentry]
    · rfl

/-- Assignments at new keys are entered in their order. -/
theorem foldl_assignAt_of_distinct {items : List (κ × ν)}
    (hdistinct : items.Pairwise fun earlier later => same later.1 earlier.1 = false) :
    items.foldl (fun entries item => assignAt same entries item.1 item.2) [] = items := by
  have hnew : ∀ (entries : List (κ × ν)) (item : κ × ν), (∀ entry ∈ entries, same item.1 entry.1 = false) →
      assignAt same entries item.1 item.2 = entries ++ [item] := by
    intro entries item hfresh
    induction entries with
    | nil => rfl
    | cons first rest ih =>
      rw [List.forall_mem_cons] at hfresh
      unfold assignAt
      rw [if_neg (by rw [hfresh.1]; exact Bool.false_ne_true), ih hfresh.2]
      rfl
  induction items using List.reverseRecOn with
  | nil => rfl
  | append_singleton items item ih =>
    obtain ⟨hitems, _, hlast⟩ := List.pairwise_append.mp hdistinct
    rw [List.foldl_append, ih hitems]
    exact hnew items item fun entry hentry => hlast entry hentry item (List.mem_singleton.mpr rfl)

end Table

/-- Items that each have a partner, no two of them the same one, are matched with as many
partners one to one. -/
theorem exists_matching {α β : Type} {R : α → β → Prop} {xs : List α} {ys : List β}
    (hpartner : ∀ x ∈ xs, ∃ y ∈ ys, R x y)
    (happart : xs.Pairwise fun earlier later => ∀ y ∈ ys, R earlier y → ¬ R later y)
    (hlength : xs.length = ys.length) : ∃ zs, zs.Perm ys ∧ List.Forall₂ R xs zs := by
  induction xs generalizing ys with
  | nil => exact ⟨[], by rw [List.length_eq_zero_iff.mp hlength.symm], .nil⟩
  | cons x xs ih =>
    obtain ⟨y, hy, hxy⟩ := hpartner x List.mem_cons_self
    obtain ⟨happartx, happart⟩ := List.pairwise_cons.mp happart
    obtain ⟨before, after, rfl⟩ := List.append_of_mem hy
    have hsublist : before ++ after ⊆ before ++ y :: after := by
      intro other hother
      simp only [List.mem_append, List.mem_cons] at hother ⊢
      tauto
    have hrest : ∀ x' ∈ xs, ∃ y' ∈ before ++ after, R x' y' := by
      intro x' hx'
      obtain ⟨y', hy', hx'y'⟩ := hpartner x' (List.mem_cons_of_mem _ hx')
      simp only [List.mem_append, List.mem_cons] at hy' ⊢
      obtain hbefore | rfl | hafter := hy'
      · exact ⟨y', .inl hbefore, hx'y'⟩
      · exact absurd hx'y' (happartx x' hx' y' hy hxy)
      · exact ⟨y', .inr hafter, hx'y'⟩
    have hlength' : xs.length = (before ++ after).length := by
      simp only [List.length_cons, List.length_append] at hlength ⊢
      omega
    obtain ⟨zs, hzs, hmatched⟩ := ih hrest
      (happart.imp fun h y' hy' => h y' (hsublist hy')) hlength'
    exact ⟨y :: zs, (hzs.cons y).trans List.perm_middle.symm, .cons hxy hmatched⟩

end python
