import Mathlib.Data.List.Basic
import Mathlib.Data.List.Forall2

namespace python

/-- The exceptions the modelled expressions raise. -/
inductive Exception where
  | overflow_error
  | zero_division_error
  | value_error (message : String)
  | key_error (key : String)
  | index_error
  | type_error
  | attribute_error
  | os_error
  deriving DecidableEq, Repr

section

variable {ε α β : Type}

/-- A sequence of two computations returns exactly if both of them do. -/
theorem bind_eq_ok_iff {x : Except ε α} {f : α → Except ε β} {b : β} :
    x >>= f = .ok b ↔ ∃ a, x = .ok a ∧ f a = .ok b := by
  cases x with
  | error error => simp [bind, Except.bind]
  | ok a => simp [bind, Except.bind]

@[simp] theorem pure_eq_ok_iff {a b : α} : (pure a : Except ε α) = .ok b ↔ a = b := by
  simp [pure, Except.pure]

theorem map_eq_ok_iff {x : Except ε α} {f : α → β} {b : β} : x.map f = .ok b ↔ ∃ a, x = .ok a ∧ f a = b := by
  cases x with
  | error error => simp [Except.map]
  | ok a => simp [Except.map]

/-- The computation returns. -/
def Returns (x : Except ε α) : Prop := ∃ a, x = .ok a

instance (x : Except ε α) : Decidable (Returns x) :=
  match x with
  | .ok a => .isTrue ⟨a, rfl⟩
  | .error _ => .isFalse fun h => nomatch h.choose_spec

theorem returns_ok (a : α) : Returns (.ok a : Except ε α) := ⟨a, rfl⟩

theorem returns_pure (a : α) : Returns (pure a : Except ε α) := ⟨a, rfl⟩

theorem not_returns_iff {x : Except ε α} : ¬ Returns x ↔ ∃ error, x = .error error := by
  unfold Returns
  cases x with
  | error error => simp
  | ok a => simp

theorem returns_bind_iff {x : Except ε α} {f : α → Except ε β} :
    Returns (x >>= f) ↔ ∃ a, x = .ok a ∧ Returns (f a) := by
  constructor
  · rintro ⟨b, hb⟩
    obtain ⟨a, hx, hf⟩ := bind_eq_ok_iff.mp hb
    exact ⟨a, hx, b, hf⟩
  · rintro ⟨a, hx, b, hf⟩
    exact ⟨b, bind_eq_ok_iff.mpr ⟨a, hx, hf⟩⟩

theorem Returns.bind {x : Except ε α} {f : α → Except ε β} (hx : Returns x)
    (hf : ∀ a, x = .ok a → Returns (f a)) : Returns (x >>= f) := by
  obtain ⟨a, ha⟩ := hx
  exact returns_bind_iff.mpr ⟨a, ha, hf a ha⟩

theorem Returns.mapM {f : α → Except ε β} {items : List α}
    (hf : ∀ item ∈ items, Returns (f item)) : Returns (items.mapM f) := by
  induction items with
  | nil => exact returns_pure []
  | cons item rest ih =>
    rw [List.mapM_cons]
    refine (hf item List.mem_cons_self).bind (fun first _ => ?_)
    refine (ih (fun other hother => hf other (List.mem_cons_of_mem _ hother))).bind (fun others _ => ?_)
    exact returns_pure _

theorem mapM_ok (f : α → β) (items : List α) :
    items.mapM (fun item => (Except.ok (f item) : Except ε β)) = .ok (items.map f) := by
  induction items with
  | nil => rfl
  | cons item rest ih =>
    rw [List.mapM_cons, ih]
    rfl

theorem mapM_congr {f g : α → Except ε β} {items : List α} (hitems : ∀ item ∈ items, f item = g item) :
    items.mapM f = items.mapM g := by
  induction items with
  | nil => rfl
  | cons item rest ih =>
    rw [List.forall_mem_cons] at hitems
    rw [List.mapM_cons, List.mapM_cons, hitems.1, ih hitems.2]

/-- A mapped computation that returns has returned at each of its items, in order. -/
theorem forall₂_of_mapM_ok {f : α → Except ε β} {items : List α} {results : List β}
    (hresults : items.mapM f = .ok results) :
    List.Forall₂ (fun item result => f item = .ok result) items results := by
  induction items generalizing results with
  | nil =>
    rw [List.mapM_nil, pure_eq_ok_iff] at hresults
    subst hresults
    exact .nil
  | cons item rest ih =>
    rw [List.mapM_cons, bind_eq_ok_iff] at hresults
    obtain ⟨first, hfirst, hresults⟩ := hresults
    rw [bind_eq_ok_iff] at hresults
    obtain ⟨others, hothers, hresults⟩ := hresults
    rw [pure_eq_ok_iff] at hresults
    subst hresults
    exact .cons hfirst (ih hothers)

theorem exists_left_of_mem {related : α → β → Prop} {as : List α} {bs : List β}
    (hrelated : List.Forall₂ related as bs) {b : β} (hb : b ∈ bs) : ∃ a ∈ as, related a b := by
  induction hrelated with
  | nil => cases hb
  | @cons first second as bs hfirst _ ih =>
    obtain rfl | hrest := List.mem_cons.mp hb
    · exact ⟨first, List.mem_cons_self, hfirst⟩
    · obtain ⟨a, ha, hab⟩ := ih hrest
      exact ⟨a, List.mem_cons_of_mem _ ha, hab⟩

theorem exists_right_of_mem {related : α → β → Prop} {as : List α} {bs : List β}
    (hrelated : List.Forall₂ related as bs) {a : α} (ha : a ∈ as) : ∃ b ∈ bs, related a b :=
  exists_left_of_mem hrelated.flip ha

/-- What holds between the items of a list holds between what they are related to. -/
theorem pairwise_of_forall₂ {related : α → β → Prop} {before : α → α → Prop} {after : β → β → Prop}
    (hafter : ∀ a a' b b', before a a' → related a b → related a' b' → after b b') {as : List α} {bs : List β}
    (hrelated : List.Forall₂ related as bs) (hpairwise : as.Pairwise before) : bs.Pairwise after := by
  induction hrelated with
  | nil => exact .nil
  | @cons a b as bs hfirst hrest ih =>
    rw [List.pairwise_cons] at hpairwise ⊢
    refine ⟨fun b' hb' => ?_, ih hpairwise.2⟩
    obtain ⟨a', ha', hab⟩ := exists_left_of_mem hrest hb'
    exact hafter a a' b b' (hpairwise.1 a' ha') hfirst hab

/-- Every result of a mapped computation is the result at one of its items. -/
theorem mem_of_mapM_ok {f : α → Except ε β} {items : List α} {results : List β}
    (hresults : items.mapM f = .ok results) {result : β} (hmem : result ∈ results) :
    ∃ item ∈ items, f item = .ok result := exists_left_of_mem (forall₂_of_mapM_ok hresults) hmem

/-- What a test of a list that may raise has found. -/
theorem anyM_eq_ok_iff {test : α → Except ε Bool} {items : List α} :
    (items.anyM test = .ok false ↔ ∀ item ∈ items, test item = .ok false) ∧
      (items.anyM test = .ok true → ∃ item ∈ items, test item = .ok true) := by
  induction items with
  | nil => simp [List.anyM]
  | cons item rest ih =>
    rw [List.anyM]
    cases htest : test item with
    | error error => simp [bind, Except.bind, htest]
    | ok found =>
      cases found with
      | true => simp [bind, Except.bind, pure, Except.pure, htest]
      | false =>
        refine ⟨?_, fun hrest => ?_⟩
        · simpa [bind, Except.bind, htest] using ih.1
        · obtain ⟨other, hother, hfound⟩ := ih.2 hrest
          exact ⟨other, List.mem_cons_of_mem item hother, hfound⟩

/-- What the results of a mapped computation have in common with their items. -/
theorem map_eq_of_mapM_ok {γ : Type} {f : α → Except ε β} {g : β → γ} {h : α → γ} {items : List α}
    {results : List β} (hresults : items.mapM f = .ok results)
    (hfield : ∀ item result, f item = .ok result → g result = h item) : results.map g = items.map h := by
  have hrelated := forall₂_of_mapM_ok hresults
  clear hresults
  induction hrelated with
  | nil => rfl
  | cons hfirst _ ih => rw [List.map_cons, List.map_cons, hfield _ _ hfirst, ih]

/-- A loop that works something out at each item, by itself, and takes it in works all of
them out and takes them in one after the other. -/
theorem foldlM_eq_mapM {σ : Type} {step : σ → α → Except ε σ} {work : α → Except ε β} {take : σ → β → σ}
    (hstep : ∀ state item, step state item = (do return take state (← work item))) (state : σ) (items : List α) :
    items.foldlM step state = (do return (← items.mapM work).foldl take state) := by
  induction items generalizing state with
  | nil => rfl
  | cons item rest ih =>
    rw [List.foldlM_cons, List.mapM_cons, hstep]
    cases work item with
    | error error => rfl
    | ok result =>
      change rest.foldlM step (take state result) = _
      rw [ih]
      cases rest.mapM work with
      | error error => rfl
      | ok results => rfl

/-- What is worked out at the items of a list is worked out in any other order. -/
theorem mapM_perm {f : α → Except ε β} {items items' : List α} (hperm : items.Perm items') {results : List β}
    (hresults : items.mapM f = .ok results) : ∃ results', items'.mapM f = .ok results' ∧ results.Perm results' := by
  induction hperm generalizing results with
  | nil => exact ⟨results, hresults, .refl _⟩
  | cons item hperm ih =>
    rw [List.mapM_cons, bind_eq_ok_iff] at hresults
    obtain ⟨first, hfirst, hresults⟩ := hresults
    rw [bind_eq_ok_iff] at hresults
    obtain ⟨rest, hrest, hresults⟩ := hresults
    rw [pure_eq_ok_iff] at hresults
    subst hresults
    obtain ⟨rest', hrest', hperm'⟩ := ih hrest
    refine ⟨first :: rest', ?_, hperm'.cons first⟩
    rw [List.mapM_cons, hfirst, hrest']
    rfl
  | swap item other rest =>
    rw [List.mapM_cons, List.mapM_cons] at hresults ⊢
    simp only [bind_eq_ok_iff, pure_eq_ok_iff] at hresults
    obtain ⟨second, hsecond, _, ⟨first, hfirst, others, hothers, rfl⟩, rfl⟩ := hresults
    refine ⟨first :: second :: others, ?_, .swap _ _ _⟩
    rw [hfirst, hsecond, hothers]
    rfl
  | trans _ _ ih ih' =>
    obtain ⟨between, hbetween, hperm⟩ := ih hresults
    obtain ⟨results', hresults', hperm'⟩ := ih' hbetween
    exact ⟨results', hresults', hperm.trans hperm'⟩

/-- A loop whose step returns at an item from every state or from none returns exactly if
it does so at each of its items. -/
theorem returns_foldlM_iff {f : β → α → Except ε β} {accepted : α → Prop}
    (hf : ∀ state item, Returns (f state item) ↔ accepted item) (state : β) (items : List α) :
    Returns (items.foldlM f state) ↔ ∀ item ∈ items, accepted item := by
  induction items generalizing state with
  | nil =>
    rw [List.foldlM_nil]
    exact iff_of_true (returns_pure state) (fun item hitem => absurd hitem List.not_mem_nil)
  | cons item rest ih =>
    rw [List.foldlM_cons, returns_bind_iff, List.forall_mem_cons, ← hf state item]
    constructor
    · rintro ⟨next, hnext, hrest⟩
      exact ⟨⟨next, hnext⟩, (ih next).mp hrest⟩
    · rintro ⟨⟨next, hnext⟩, hrest⟩
      exact ⟨next, hnext, (ih next).mpr hrest⟩

/-- A `try` block: what its handler catches is a value, anything else propagates. -/
def attempt (catches : Exception → Bool) : Except Exception α → Except Exception (Exception ⊕ α)
  | .ok a => .ok (.inr a)
  | .error error => if catches error then .ok (.inl error) else .error error

/-- `if failed: raise ValueError(message)` -/
def raiseIf (failed : Bool) (message : String) : Except Exception Unit :=
  if failed then .error (.value_error message) else .ok ()

/-- A check that passes has not failed. -/
theorem raiseIf_eq_ok_iff {failed : Bool} {message : String} {done : Unit} :
    raiseIf failed message = .ok done ↔ failed = false := by
  cases failed with
  | false => simp [raiseIf]
  | true => simp [raiseIf]

end

end python
