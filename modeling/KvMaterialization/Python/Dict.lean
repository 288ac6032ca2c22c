import Mathlib.Data.List.Induction
import Mathlib.Data.List.Nodup

namespace python

/-- An insertion-ordered dictionary. Distinctness of the keys is carried by the
value itself, so that no lookup below has to say which of two entries it means. -/
structure Dict (κ ν : Type) where
  entries : List (κ × ν)
  nodup : (entries.map Prod.fst).Nodup

namespace Dict

variable {κ ν : Type}

def keys (self : Dict κ ν) : List κ := self.entries.map Prod.fst

def values (self : Dict κ ν) : List ν := self.entries.map Prod.snd

def empty : Dict κ ν := ⟨[], List.nodup_nil⟩

theorem nodup_append_key {entries : List (κ × ν)} (hnodup : (entries.map Prod.fst).Nodup)
    {key : κ} (hfresh : key ∉ entries.map Prod.fst) (value : ν) :
    ((entries ++ [(key, value)]).map Prod.fst).Nodup := by
  rw [List.map_append, List.nodup_append]
  refine ⟨hnodup, by simp, ?_⟩
  intro present hpresent added hadded heq
  simp only [List.map_cons, List.map_nil, List.mem_singleton] at hadded
  subst added
  subst present
  exact hfresh hpresent

variable [DecidableEq κ]

/-- The value at a key, as `dict.get` returns it without a default. -/
def get? (self : Dict κ ν) (key : κ) : Option ν :=
  (self.entries.find? (fun entry => entry.1 = key)).map Prod.snd

/-- Replace the value at a key, which keeps the key's position. -/
def replaceAt (entries : List (κ × ν)) (key : κ) (value : ν) : List (κ × ν) :=
  entries.map (fun entry => if entry.1 = key then (key, value) else entry)

theorem replaceAt_keys (entries : List (κ × ν)) (key : κ) (value : ν) :
    (replaceAt entries key value).map Prod.fst = entries.map Prod.fst := by
  induction entries with
  | nil => rfl
  | cons entry rest ih =>
    simp only [replaceAt, List.map_cons, List.cons.injEq] at ih ⊢
    refine ⟨?_, ih⟩
    split
    · rename_i hkey
      exact hkey.symm
    · rfl

/-- `self[key] = value`: an existing key keeps its place, a new one goes last. -/
def set (self : Dict κ ν) (key : κ) (value : ν) : Dict κ ν :=
  if hkey : key ∈ self.entries.map Prod.fst then
    ⟨replaceAt self.entries key value, by rw [replaceAt_keys]; exact self.nodup⟩
  else
    ⟨self.entries ++ [(key, value)], nodup_append_key self.nodup hkey value⟩

/-- The dictionary a comprehension builds from its items in order. -/
def ofList (items : List (κ × ν)) : Dict κ ν :=
  items.foldl (fun built item => built.set item.1 item.2) empty

@[simp] theorem get?_empty (key : κ) : (empty : Dict κ ν).get? key = none := rfl

theorem find?_replaceAt_self {entries : List (κ × ν)} {key : κ} (value : ν)
    (hkey : key ∈ entries.map Prod.fst) :
    (replaceAt entries key value).find? (fun entry => entry.1 = key) = some (key, value) := by
  induction entries with
  | nil => simp at hkey
  | cons entry rest ih =>
    by_cases heq : entry.1 = key
    · simp [replaceAt, heq]
    · have hrest : key ∈ rest.map Prod.fst := by
        simp only [List.map_cons, List.mem_cons] at hkey
        exact hkey.resolve_left (fun h => heq h.symm)
      have hfound := ih hrest
      simp only [replaceAt] at hfound
      simp [replaceAt, heq, hfound]

theorem find?_replaceAt_of_ne {entries : List (κ × ν)} {key other : κ} (value : ν)
    (hne : other ≠ key) :
    (replaceAt entries key value).find? (fun entry => entry.1 = other) =
      entries.find? (fun entry => entry.1 = other) := by
  induction entries with
  | nil => rfl
  | cons entry rest ih =>
    simp only [replaceAt] at ih
    by_cases heq : entry.1 = key
    · have hkey : ¬ key = other := fun h => hne h.symm
      simp [replaceAt, heq, hkey, ih]
    · simp [replaceAt, heq, List.find?_cons, ih]

@[simp] theorem get?_set_self (self : Dict κ ν) (key : κ) (value : ν) :
    (self.set key value).get? key = some value := by
  unfold set get?
  split
  · rename_i hkey
    simp [find?_replaceAt_self value hkey]
  · rename_i hkey
    have hnone : self.entries.find? (fun entry => entry.1 = key) = none := by
      rw [List.find?_eq_none]
      intro entry hentry heq
      exact hkey (List.mem_map.mpr ⟨entry, hentry, by simpa using heq⟩)
    simp [List.find?_append, hnone]

theorem get?_set_of_ne (self : Dict κ ν) {key other : κ} (value : ν) (hne : other ≠ key) :
    (self.set key value).get? other = self.get? other := by
  unfold set get?
  split
  · rw [find?_replaceAt_of_ne value hne]
  · have hkey : ¬ key = other := fun h => hne h.symm
    simp [List.find?_append, hkey]

theorem get?_set (self : Dict κ ν) (key other : κ) (value : ν) :
    (self.set key value).get? other = if other = key then some value else self.get? other := by
  split
  · rename_i heq
    rw [heq, get?_set_self]
  · rename_i hne
    exact self.get?_set_of_ne value hne

/-- How an assignment changes the keys depends on the keys alone, so two
dictionaries assigned at the same keys keep the same key list. -/
theorem keys_set (self : Dict κ ν) (key : κ) (value : ν) :
    (self.set key value).keys = if key ∈ self.keys then self.keys else self.keys ++ [key] := by
  unfold set keys
  split
  · exact replaceAt_keys self.entries key value
  · simp

theorem mem_keys_iff (self : Dict κ ν) (key : κ) : key ∈ self.keys ↔ ∃ value, self.get? key = some value := by
  constructor
  · intro hkey
    cases hfind : self.entries.find? (fun entry => entry.1 = key) with
    | none =>
      obtain ⟨entry, hentry, heq⟩ := List.mem_map.mp hkey
      have hnot := List.find?_eq_none.mp hfind entry hentry
      simp [heq] at hnot
    | some entry => exact ⟨entry.2, by simp [get?, hfind]⟩
  · rintro ⟨value, hget⟩
    obtain ⟨entry, hfind, _⟩ := Option.map_eq_some_iff.mp hget
    have heq : entry.1 = key := by simpa using List.find?_some hfind
    exact List.mem_map.mpr ⟨entry, List.mem_of_find?_eq_some hfind, heq⟩

/-- An entry is what the dictionary gives at its key. -/
theorem get?_of_mem (self : Dict κ ν) {entry : κ × ν} (hentry : entry ∈ self.entries) :
    self.get? entry.1 = some entry.2 := by
  obtain ⟨entries, hnodup⟩ := self
  unfold get?
  dsimp only at hentry ⊢
  induction entries with
  | nil => cases hentry
  | cons first rest ih =>
    rw [List.map_cons, List.nodup_cons] at hnodup
    obtain ⟨hfresh, hrest⟩ := hnodup
    obtain rfl | hlater := List.mem_cons.mp hentry
    · simp
    · have hne : first.1 ≠ entry.1 := by
        intro heq
        apply hfresh
        rw [heq]
        exact List.mem_map.mpr ⟨entry, hlater, rfl⟩
      rw [List.find?_cons_of_neg (by simpa using hne)]
      exact ih hrest hlater

/-- Where values carry the key they are filed under, the values that carry a key
are the one filed there. -/
theorem values_filter_name (self : Dict κ ν) (name : ν → κ)
    (hname : ∀ key value, self.get? key = some value → name value = key) (key : κ) :
    self.values.filter (fun value => name value = key) = (self.get? key).toList := by
  obtain ⟨entries, hnodup⟩ := self
  have hentries : ∀ entry ∈ entries, name entry.2 = entry.1 := by
    intro entry hentry
    apply hname
    exact get?_of_mem ⟨entries, hnodup⟩ hentry
  unfold values get?
  dsimp only
  clear hname
  induction entries with
  | nil => rfl
  | cons entry rest ih =>
    rw [List.map_cons, List.nodup_cons] at hnodup
    obtain ⟨hfresh, hrest⟩ := hnodup
    rw [List.forall_mem_cons] at hentries
    obtain ⟨hentry, hothers⟩ := hentries
    have ih := ih hrest hothers
    by_cases heq : entry.1 = key
    · have hnone : rest.find? (fun entry => entry.1 = key) = none := by
        rw [List.find?_eq_none]
        intro other hother hkey
        apply hfresh
        rw [heq]
        exact List.mem_map.mpr ⟨other, hother, by simpa using hkey⟩
      rw [hnone] at ih
      simp only [List.map_cons, List.find?_cons]
      rw [List.filter_cons_of_pos (by simp [hentry, heq]), ih]
      simp [heq]
    · simp only [List.map_cons, List.find?_cons]
      rw [List.filter_cons_of_neg (by simp [hentry, heq]), ih]
      simp [heq]

theorem ofList_append (items : List (κ × ν)) (item : κ × ν) :
    ofList (items ++ [item]) = (ofList items).set item.1 item.2 := by
  simp [ofList, List.foldl_append]

/-- `self.update(items)` -/
def update (self : Dict κ ν) (items : List (κ × ν)) : Dict κ ν :=
  items.foldl (fun updated item => updated.set item.1 item.2) self

/-- After an update by the entries of a dictionary those entries stand, and elsewhere
what stood before. -/
theorem get?_update (self : Dict κ ν) {μ : Type} (f : μ → ν) (other : Dict κ μ) (key : κ) :
    (self.update (other.entries.map fun entry => (entry.1, f entry.2))).get? key =
      ((other.get? key).map f).or (self.get? key) := by
  obtain ⟨entries, hnodup⟩ := other
  unfold update
  induction entries generalizing self with
  | nil => rfl
  | cons entry rest ih =>
    rw [List.map_cons, List.nodup_cons] at hnodup
    obtain ⟨hfresh, hrest⟩ := hnodup
    rw [List.map_cons, List.foldl_cons, ih _ hrest]
    unfold get?
    by_cases heq : entry.1 = key
    · have hnone : rest.find? (fun entry => entry.1 = key) = none := by
        rw [List.find?_eq_none]
        intro other hother hkey
        rw [← heq, decide_eq_true_eq] at hkey
        exact hfresh (List.mem_map.mpr ⟨other, hother, hkey⟩)
      rw [List.find?_cons_of_pos (by simpa using heq), hnone]
      have hself := self.get?_set_self entry.1 (f entry.2)
      unfold get? at hself
      rw [← heq, hself]
      rfl
    · rw [List.find?_cons_of_neg (by simpa using heq)]
      have hself := self.get?_set_of_ne (f entry.2) (Ne.symm heq)
      unfold get? at hself
      rw [hself]

/-- A loop that changes the value at a key of each item has changed a value by the items
that have its key. -/
theorem getD_foldl_set {α : Type} (keyOf : α → κ) (default : ν) (change : ν → α → ν) (items : List α)
    (self : Dict κ ν) (key : κ) :
    ((items.foldl (fun entries item =>
        entries.set (keyOf item)
          (change ((entries.get? (keyOf item)).getD default) item)) self).get? key).getD default =
      (items.filter fun item => keyOf item = key).foldl change ((self.get? key).getD default) := by
  induction items generalizing self with
  | nil => rfl
  | cons item rest ih =>
    rw [List.foldl_cons, ih, get?_set, List.filter_cons]
    by_cases hkey : keyOf item = key
    · rw [if_pos hkey.symm, if_pos (decide_eq_true hkey), List.foldl_cons, hkey, Option.getD_some]
    · rw [if_neg (Ne.symm hkey), if_neg (by simpa using hkey)]

/-- The keys of such a loop are those it started with and those of the items. -/
theorem mem_keys_foldl_set {α : Type} (keyOf : α → κ) (value : Dict κ ν → α → ν) (items : List α)
    (self : Dict κ ν) (key : κ) :
    key ∈ (items.foldl (fun entries item => entries.set (keyOf item) (value entries item)) self).keys ↔
      key ∈ self.keys ∨ key ∈ items.map keyOf := by
  induction items generalizing self with
  | nil => simp
  | cons item rest ih =>
    have hset : key ∈ (self.set (keyOf item) (value self item)).keys ↔ key ∈ self.keys ∨ key = keyOf item := by
      rw [keys_set]
      split
      · rename_i hmem
        constructor
        · exact .inl
        · rintro (hkey | rfl)
          · exact hkey
          · exact hmem
      · rw [List.mem_append, List.mem_singleton]
    rw [List.foldl_cons, ih, hset, List.map_cons, List.mem_cons, or_assoc]

theorem mem_entries_of_get? (self : Dict κ ν) {key : κ} {value : ν} (hget : self.get? key = some value) :
    (key, value) ∈ self.entries := by
  obtain ⟨entry, hfind, rfl⟩ := Option.map_eq_some_iff.mp hget
  have heq : entry.1 = key := by simpa using List.find?_some hfind
  subst heq
  exact List.mem_of_find?_eq_some hfind

theorem mem_of_get?_ofList {items : List (κ × ν)} {key : κ} {value : ν}
    (hget : (ofList items).get? key = some value) : (key, value) ∈ items := by
  induction items using List.reverseRecOn with
  | nil => cases hget
  | append_singleton items item ih =>
    rw [ofList_append, get?_set] at hget
    split at hget
    · rename_i heq
      cases hget
      subst heq
      exact List.mem_append_right _ (List.mem_singleton.mpr rfl)
    · exact List.mem_append_left _ (ih hget)

theorem exists_get?_ofList {items : List (κ × ν)} {item : κ × ν} (hitem : item ∈ items) :
    ∃ value, (ofList items).get? item.1 = some value := by
  induction items using List.reverseRecOn with
  | nil => cases hitem
  | append_singleton items last ih =>
    rw [ofList_append, get?_set]
    split
    · exact ⟨last.2, rfl⟩
    · rename_i hne
      obtain hearlier | hlast := List.mem_append.mp hitem
      · exact ih hearlier
      · exact absurd (congrArg Prod.fst (List.mem_singleton.mp hlast)) hne

/-- Where no key comes twice, every item is found under its key. -/
theorem get?_ofList_of_mem {items : List (κ × ν)} (hnodup : (items.map Prod.fst).Nodup) {key : κ} {value : ν}
    (hitem : (key, value) ∈ items) : (ofList items).get? key = some value := by
  obtain ⟨value', hget⟩ := exists_get?_ofList hitem
  have heq := List.inj_on_of_nodup_map hnodup (mem_of_get?_ofList hget) hitem rfl
  rw [hget, (Prod.mk.inj heq).2]

/-- Dropping the items whose key fails a test drops exactly those keys from the
dictionary built, and changes the value at no other key. -/
theorem get?_ofList_filter (keep : κ → Bool) (items : List (κ × ν)) (key : κ) :
    (ofList (items.filter (fun item => keep item.1))).get? key =
      if keep key then (ofList items).get? key else none := by
  induction items using List.reverseRecOn with
  | nil => simp [ofList]
  | append_singleton items item ih =>
    rw [List.filter_append, ofList_append, get?_set]
    by_cases hitem : keep item.1 = true
    · simp only [List.filter_cons, hitem, if_true, List.filter_nil]
      rw [ofList_append, get?_set, ih]
      by_cases heq : key = item.1
      · simp [heq, hitem]
      · simp [heq]
    · have hdrop : [item].filter (fun item => keep item.1) = [] := by simp [hitem]
      rw [hdrop, List.append_nil, ih]
      by_cases heq : key = item.1
      · simp [heq, hitem]
      · simp [heq]

omit [DecidableEq κ] in
theorem eq_of_entries {self other : Dict κ ν} (hentries : self.entries = other.entries) : self = other := by
  cases self
  cases other
  cases hentries
  rfl

theorem set_entries_of_not_mem {self : Dict κ ν} {key : κ} (hfresh : key ∉ self.keys) (value : ν) :
    (self.set key value).entries = self.entries ++ [(key, value)] := by
  unfold keys at hfresh
  unfold set
  rw [dif_neg hfresh]

/-- Dictionaries of the same entries have the same values, whatever order they are in. -/
theorem get?_eq_of_perm {self other : Dict κ ν} (hperm : self.entries.Perm other.entries) (key : κ) :
    self.get? key = other.get? key := by
  refine Option.ext fun value => ?_
  constructor
  · intro hget
    exact other.get?_of_mem (hperm.mem_iff.mp (self.mem_entries_of_get? hget))
  · intro hget
    exact self.get?_of_mem (hperm.mem_iff.mpr (other.mem_entries_of_get? hget))

end Dict

end python
