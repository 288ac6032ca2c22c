import Mathlib.Data.List.Nodup
import Mathlib.Data.List.Perm.Subperm
import Mathlib.Order.Nat

namespace fifo

/-- What a queue is given: an entry to keep, a request for the one it has kept longest, or
something that is for another. -/
inductive Op (α β : Type) where
  | push (entry : α)
  | pop (request : β)
  | other

section

variable {α β : Type}

def Op.entry? : Op α β → Option α
  | .push entry => some entry
  | _ => none

def Op.request? : Op α β → Option β
  | .pop request => some request
  | _ => none

def Op.map {γ δ : Type} (f : α → γ) (g : β → δ) : Op α β → Op γ δ
  | .push entry => .push (f entry)
  | .pop request => .pop (g request)
  | .other => .other

/-- The entries that are pushed, in their order. -/
def entries (ops : List (Op α β)) : List α := ops.filterMap Op.entry?

/-- The requests that are made, in their order. -/
def requests (ops : List (Op α β)) : List β := ops.filterMap Op.request?

/-- The requests that find the queue with an entry, each with the one it gets. -/
def pairs : List α → List (Op α β) → List (α × β)
  | _, [] => []
  | queue, .push entry :: rest => pairs (queue ++ [entry]) rest
  | [], .pop _ :: rest => pairs [] rest
  | entry :: queue, .pop request :: rest => (entry, request) :: pairs queue rest
  | queue, .other :: rest => pairs queue rest

/-- The entries that are still in the queue at the end. -/
def left : List α → List (Op α β) → List α
  | queue, [] => queue
  | queue, .push entry :: rest => left (queue ++ [entry]) rest
  | [], .pop _ :: rest => left [] rest
  | _ :: queue, .pop _ :: rest => left queue rest
  | queue, .other :: rest => left queue rest

theorem pairs_append (queue : List α) (first second : List (Op α β)) :
    pairs queue (first ++ second) = pairs queue first ++ pairs (left queue first) second := by
  induction queue, first using pairs.induct with
  | case1 queue => rfl
  | case2 queue entry rest ih => exact ih
  | case3 request rest ih => exact ih
  | case4 entry queue request rest ih => exact congrArg ((entry, request) :: ·) ih
  | case5 queue rest ih => exact ih

theorem left_append (queue : List α) (first second : List (Op α β)) :
    left queue (first ++ second) = left (left queue first) second := by
  induction queue, first using pairs.induct with
  | case1 queue => rfl
  | case2 queue entry rest ih => exact ih
  | case3 request rest ih => exact ih
  | case4 entry queue request rest ih => exact ih
  | case5 queue rest ih => exact ih

/-- Entries leave in the order they came, and none is lost or given twice. -/
theorem pairs_entries (queue : List α) (ops : List (Op α β)) :
    (pairs queue ops).map Prod.fst ++ left queue ops = queue ++ entries ops := by
  induction queue, ops using pairs.induct with
  | case1 queue => simp [pairs, left, entries]
  | case2 queue entry rest ih =>
    rw [pairs, left, ih]
    simp [entries, Op.entry?]
  | case3 request rest ih => exact ih
  | case4 entry queue request rest ih => exact congrArg (entry :: ·) ih
  | case5 queue rest ih => exact ih

/-- Requests are answered in their order, each at most once. -/
theorem pairs_requests (queue : List α) (ops : List (Op α β)) :
    ((pairs queue ops).map Prod.snd).Sublist (requests ops) := by
  induction queue, ops using pairs.induct with
  | case1 queue => exact .slnil
  | case2 queue entry rest ih => exact ih
  | case3 request rest ih => exact ih.cons request
  | case4 entry queue request rest ih => exact ih.cons_cons request
  | case5 queue rest ih => exact ih

theorem pairs_map {γ δ : Type} (f : α → γ) (g : β → δ) (queue : List α) (ops : List (Op α β)) :
    pairs (queue.map f) (ops.map (Op.map f g)) = (pairs queue ops).map (Prod.map f g) := by
  induction queue, ops using pairs.induct with
  | case1 queue => rfl
  | case2 queue entry rest ih =>
    rw [List.map_append] at ih
    exact ih
  | case3 request rest ih => exact ih
  | case4 entry queue request rest ih => exact congrArg ((f entry, g request) :: ·) ih
  | case5 queue rest ih => exact ih

/-- An entry that a request gets is there before it. -/
theorem pairs_earlier {queue : List α} {ops : List (Op α β)} {pair : α × β} (hpair : pair ∈ pairs queue ops) :
    ∃ earlier later, ops = earlier ++ .pop pair.2 :: later ∧ pair.1 ∈ queue ++ entries earlier := by
  induction queue, ops using pairs.induct with
  | case1 queue => cases hpair
  | case2 queue entry rest ih =>
    obtain ⟨earlier, later, rfl, hentry⟩ := ih hpair
    refine ⟨.push entry :: earlier, later, rfl, ?_⟩
    rwa [List.append_assoc] at hentry
  | case3 request rest ih =>
    obtain ⟨earlier, later, rfl, hentry⟩ := ih hpair
    exact ⟨.pop request :: earlier, later, rfl, hentry⟩
  | case4 entry queue request rest ih =>
    obtain rfl | hrest := List.mem_cons.mp hpair
    · exact ⟨[], rest, rfl, List.mem_cons_self⟩
    · obtain ⟨earlier, later, rfl, hentry⟩ := ih hrest
      exact ⟨.pop request :: earlier, later, rfl, List.mem_cons_of_mem _ hentry⟩
  | case5 queue rest ih =>
    obtain ⟨earlier, later, rfl, hentry⟩ := ih hpair
    exact ⟨.other :: earlier, later, rfl, hentry⟩

/-- Some of the entries that are pushed and some of the requests, by their places, paired
so that every entry comes before its request and none is in two pairs. -/
structure Matching (ops : List (Op α β)) (matched : List (ℕ × ℕ)) : Prop where
  entry : ∀ pair ∈ matched, ∃ entry, ops[pair.1]? = some (.push entry)
  request : ∀ pair ∈ matched, ∃ request, ops[pair.2]? = some (.pop request)
  earlier : ∀ pair ∈ matched, pair.1 < pair.2
  entries_once : (matched.map Prod.fst).Nodup
  requests_once : (matched.map Prod.snd).Nodup

/-- Different places that each show something are no more than the items that do. -/
theorem length_le_of_places {γ δ : Type} {items : List γ} (show? : γ → Option δ) {places : List ℕ}
    (hnodup : places.Nodup)
    (hplaces : ∀ place ∈ places, ∃ item, items[place]? = some item ∧ (show? item).isSome = true) :
    places.length ≤ (items.filterMap show?).length := by
  let shows (item : γ) : Bool := (show? item).isSome
  have hsubset : places ⊆ (items.zipIdx.filter (shows ∘ Prod.fst)).map Prod.snd := by
    intro place hplace
    obtain ⟨item, hitem, hshows⟩ := hplaces place hplace
    refine List.mem_map.mpr ⟨(item, place), List.mem_filter.mpr ⟨?_, hshows⟩, rfl⟩
    rwa [List.mem_zipIdx_iff_getElem?]
  calc places.length
      ≤ ((items.zipIdx.filter (shows ∘ Prod.fst)).map Prod.snd).length :=
        (List.subperm_of_subset hnodup hsubset).length_le
    _ = items.zipIdx.countP (shows ∘ Prod.fst) := by rw [List.length_map, List.countP_eq_length_filter]
    _ = items.countP shows := by rw [← List.countP_map, List.zipIdx_map_fst]
    _ = (items.filterMap show?).length := List.length_filterMap_eq_countP.symm

/-- Wherever the operations are cut, a pair has its entry before the cut or its request
behind it. -/
theorem Matching.length_le {ops : List (Op α β)} {matched : List (ℕ × ℕ)} (hmatching : Matching ops matched) (cut : ℕ) :
    matched.length ≤ (entries (ops.take cut)).length + (requests (ops.drop cut)).length := by
  let before (pair : ℕ × ℕ) : Bool := decide (pair.1 < cut)
  have hentries : (matched.filter before).length ≤ (entries (ops.take cut)).length := by
    have hnodup : ((matched.filter before).map Prod.fst).Nodup :=
      (List.filter_sublist.map Prod.fst).nodup hmatching.entries_once
    rw [← List.length_map Prod.fst]
    refine length_le_of_places Op.entry? hnodup ?_
    intro place hplace
    obtain ⟨pair, hpair, rfl⟩ := List.mem_map.mp hplace
    obtain ⟨hpair, hbefore⟩ := List.mem_filter.mp hpair
    obtain ⟨entry, hentry⟩ := hmatching.entry pair hpair
    refine ⟨.push entry, ?_, rfl⟩
    rw [List.getElem?_take_of_lt (of_decide_eq_true hbefore), hentry]
  have hrequests : (matched.filter fun pair => !before pair).length ≤ (requests (ops.drop cut)).length := by
    have hbehind : ∀ pair ∈ matched.filter fun pair => !before pair, cut < pair.2 := by
      intro pair hpair
      obtain ⟨hpair, hbefore⟩ := List.mem_filter.mp hpair
      have hearlier := hmatching.earlier pair hpair
      have hcut : ¬ pair.1 < cut := by simpa [before] using hbefore
      omega
    have hlast : ((matched.filter fun pair => !before pair).map Prod.snd).Nodup :=
      (List.filter_sublist.map Prod.snd).nodup hmatching.requests_once
    have hnodup : (((matched.filter fun pair => !before pair).map Prod.snd).map (· - cut)).Nodup := by
      refine hlast.map_on fun place hplace place' hplace' heq => ?_
      obtain ⟨pair, hpair, rfl⟩ := List.mem_map.mp hplace
      obtain ⟨pair', hpair', rfl⟩ := List.mem_map.mp hplace'
      have hcut := hbehind pair hpair
      have hcut' := hbehind pair' hpair'
      omega
    rw [← List.length_map Prod.snd, ← List.length_map (· - cut)]
    refine length_le_of_places Op.request? hnodup ?_
    intro place hplace
    rw [List.map_map] at hplace
    obtain ⟨pair, hpair, rfl⟩ := List.mem_map.mp hplace
    obtain ⟨request, hrequest⟩ := hmatching.request pair (List.mem_of_mem_filter hpair)
    refine ⟨.pop request, ?_, rfl⟩
    rw [List.getElem?_drop, Function.comp_apply, Nat.add_sub_cancel' (hbehind pair hpair).le, hrequest]
  have hsplit := List.length_eq_length_filter_add (l := matched) before
  omega

/-- Either every request is answered, or some cut has no entry left before it and no
request unanswered behind it. -/
theorem length_pairs (queue : List α) (ops : List (Op α β)) :
    (pairs queue ops).length = (requests ops).length ∨
      ∃ cut, (pairs queue ops).length =
        queue.length + (entries (ops.take cut)).length + (requests (ops.drop cut)).length := by
  induction queue, ops using pairs.induct with
  | case1 queue => exact .inl rfl
  | case2 queue entry rest ih =>
    obtain hall | ⟨cut, hcut⟩ := ih
    · exact .inl hall
    · refine .inr ⟨cut + 1, ?_⟩
      rw [pairs, hcut, List.length_append, List.length_singleton]
      change _ = queue.length + ((entries (rest.take cut)).length + 1) + (requests (rest.drop cut)).length
      omega
  | case3 request rest ih =>
    obtain hall | ⟨cut, hcut⟩ := ih
    · refine .inr ⟨1, ?_⟩
      rw [pairs, hall]
      change _ = 0 + 0 + (requests rest).length
      omega
    · exact .inr ⟨cut + 1, hcut⟩
  | case4 entry queue request rest ih =>
    obtain hall | ⟨cut, hcut⟩ := ih
    · exact .inl (congrArg (· + 1) hall)
    · refine .inr ⟨cut + 1, ?_⟩
      rw [pairs, List.length_cons, hcut, List.length_cons]
      change _ = queue.length + 1 + (entries (rest.take cut)).length + (requests (rest.drop cut)).length
      omega
  | case5 queue rest ih =>
    obtain hall | ⟨cut, hcut⟩ := ih
    · exact .inl hall
    · exact .inr ⟨cut + 1, hcut⟩

/-- A queue that is empty at first answers as many requests as can be paired at all. -/
theorem Matching.length_le_pairs {ops : List (Op α β)} {matched : List (ℕ × ℕ)} (hmatching : Matching ops matched) :
    matched.length ≤ (pairs [] ops).length := by
  obtain hall | ⟨cut, hcut⟩ := length_pairs [] ops
  · have hle := hmatching.length_le 0
    rw [hall]
    simpa [entries] using hle
  · have hle := hmatching.length_le cut
    rw [List.length_nil] at hcut
    omega

/-- The operations with their places. -/
def placed (ops : List (Op α β)) : List (Op (α × ℕ) (β × ℕ)) :=
  ops.zipIdx.map fun item => item.1.map (·, item.2) (·, item.2)

theorem getElem?_of_push {ops : List (Op α β)} {place : ℕ} {entry : α × ℕ}
    (hentry : (placed ops)[place]? = some (.push entry)) :
    entry.2 = place ∧ ops[place]? = some (.push entry.1) := by
  rw [placed, List.getElem?_map, List.getElem?_zipIdx] at hentry
  cases hop : ops[place]? with
  | none => simp [hop] at hentry
  | some op =>
    cases op with
    | push given =>
      rw [hop] at hentry
      simp only [Option.map_some, Op.map, Option.some.injEq, Op.push.injEq] at hentry
      subst hentry
      exact ⟨Nat.zero_add place, rfl⟩
    | pop request => simp [hop, Op.map] at hentry
    | other => simp [hop, Op.map] at hentry

theorem getElem?_of_pop {ops : List (Op α β)} {place : ℕ} {request : β × ℕ}
    (hrequest : (placed ops)[place]? = some (.pop request)) :
    request.2 = place ∧ ops[place]? = some (.pop request.1) := by
  rw [placed, List.getElem?_map, List.getElem?_zipIdx] at hrequest
  cases hop : ops[place]? with
  | none => simp [hop] at hrequest
  | some op =>
    cases op with
    | push entry => simp [hop, Op.map] at hrequest
    | other => simp [hop, Op.map] at hrequest
    | pop given =>
      rw [hop] at hrequest
      simp only [Option.map_some, Op.map, Option.some.injEq, Op.pop.injEq] at hrequest
      subst hrequest
      exact ⟨Nat.zero_add place, rfl⟩

theorem placed_map (ops : List (Op α β)) : (placed ops).map (Op.map Prod.fst Prod.fst) = ops := by
  have hop : ∀ item ∈ ops.zipIdx, (Op.map Prod.fst Prod.fst ∘ fun item : Op α β × ℕ =>
      item.1.map (fun entry => (entry, item.2)) fun request => (request, item.2)) item = item.1 := by
    rintro ⟨op, place⟩ _
    cases op with
    | push entry => rfl
    | pop request => rfl
    | other => rfl
  rw [placed, List.map_map, List.map_congr_left hop, List.zipIdx_map_fst]

/-- What is kept of operations with their places comes with increasing places. -/
theorem placed_increasing {γ : Type} (ops : List (Op α β)) {keep : Op (α × ℕ) (β × ℕ) → Option (γ × ℕ)}
    (hkeep : ∀ (op : Op α β) place kept, keep (op.map (·, place) (·, place)) = some kept → kept.2 = place) :
    ((placed ops).filterMap keep).Pairwise fun earlier later => earlier.2 < later.2 := by
  have hplaces : (ops.zipIdx).Pairwise fun earlier later => earlier.2 < later.2 := by
    rw [← List.pairwise_map (f := Prod.snd) (R := (· < ·)), List.zipIdx_map_snd]
    exact List.pairwise_lt_range'
  rw [placed, List.filterMap_map]
  refine hplaces.filterMap _ fun item item' hlt kept hitem kept' hitem' => ?_
  rw [hkeep item.1 item.2 kept hitem, hkeep item'.1 item'.2 kept' hitem']
  exact hlt

theorem entries_placed_increasing (ops : List (Op α β)) :
    (entries (placed ops)).Pairwise fun earlier later => earlier.2 < later.2 := by
  apply placed_increasing
  intro op place kept hkept
  cases op with
  | push entry =>
    obtain rfl := Option.some.inj hkept
    rfl
  | pop request => cases hkept
  | other => cases hkept

theorem requests_placed_increasing (ops : List (Op α β)) :
    (requests (placed ops)).Pairwise fun earlier later => earlier.2 < later.2 := by
  apply placed_increasing
  intro op place kept hkept
  cases op with
  | push entry => cases hkept
  | other => cases hkept
  | pop request =>
    obtain rfl := Option.some.inj hkept
    rfl

/-- A pair of placed operations is one of an operation with a later one. -/
theorem getElem?_of_pair {ops : List (Op α β)} {pair : (α × ℕ) × β × ℕ} (hpair : pair ∈ pairs [] (placed ops)) :
    ops[pair.1.2]? = some (.push pair.1.1) ∧ ops[pair.2.2]? = some (.pop pair.2.1) ∧ pair.1.2 < pair.2.2 := by
  obtain ⟨earlier, later, hplaced, hentry⟩ := pairs_earlier hpair
  obtain ⟨op, hop, hpush⟩ := List.mem_filterMap.mp hentry
  cases op with
  | pop request => cases hpush
  | other => cases hpush
  | push entry =>
    obtain rfl := Option.some.inj hpush
    obtain ⟨place, hlt, hplace⟩ := List.mem_iff_getElem.mp hop
    have hentry : (placed ops)[place]? = some (.push pair.1) := by
      rw [hplaced, List.getElem?_append_left hlt, List.getElem?_eq_getElem hlt, hplace]
    have hrequest : (placed ops)[earlier.length]? = some (.pop pair.2) := by
      rw [hplaced, List.getElem?_append_right le_rfl, Nat.sub_self]
      rfl
    obtain ⟨hplace, hentry⟩ := getElem?_of_push hentry
    obtain ⟨hlength, hrequest⟩ := getElem?_of_pop hrequest
    rw [hplace, hlength]
    exact ⟨hentry, hrequest, hlt⟩

theorem mem_entries_placed {ops : List (Op α β)} {place : ℕ} {entry : α} (hop : ops[place]? = some (.push entry)) :
    (entry, place) ∈ entries (placed ops) := by
  refine List.mem_filterMap.mpr ⟨.push (entry, place), List.mem_map.mpr ⟨(.push entry, place), ?_, rfl⟩, rfl⟩
  rwa [List.mem_zipIdx_iff_getElem?]

/-- An entry that comes before one that is taken is taken too. -/
theorem taken_first {ops : List (Op α β)} {place : ℕ} {entry : α} (hop : ops[place]? = some (.push entry))
    {taken : α × ℕ} (htaken : taken ∈ (pairs [] (placed ops)).map Prod.fst) (hlt : place < taken.2) :
    (entry, place) ∈ (pairs [] (placed ops)).map Prod.fst := by
  have hentries := pairs_entries [] (placed ops)
  have hincreasing := entries_placed_increasing ops
  have hmem := mem_entries_placed hop
  rw [List.nil_append] at hentries
  rw [← hentries, List.pairwise_append] at hincreasing
  rw [← hentries, List.mem_append] at hmem
  obtain hmem | hleft := hmem
  · exact hmem
  · have hlater := hincreasing.2.2 taken htaken (entry, place) hleft
    exact absurd hlater hlt.not_gt

/-- The pairs of a queue that is empty at first, by the places of their operations: they
follow each other in the entries and in the requests, and their entries are the first ones. -/
theorem exists_matching (ops : List (Op α β)) :
    ∃ matched, Matching ops matched ∧
      (matched.map Prod.fst).Pairwise (· < ·) ∧ (matched.map Prod.snd).Pairwise (· < ·) ∧
      (∀ place entry, ops[place]? = some (.push entry) → ∀ taken ∈ matched.map Prod.fst, place < taken →
        place ∈ matched.map Prod.fst) ∧
      List.Forall₂ (fun places pair => ops[places.1]? = some (.push pair.1) ∧ ops[places.2]? = some (.pop pair.2))
        matched (pairs [] ops) := by
  let places (pair : (α × ℕ) × β × ℕ) : ℕ × ℕ := (pair.1.2, pair.2.2)
  have hentries : (((pairs [] (placed ops)).map places).map Prod.fst).Pairwise (· < ·) := by
    have hprefix : ((pairs [] (placed ops)).map Prod.fst).Pairwise fun earlier later => earlier.2 < later.2 :=
      (entries_placed_increasing ops).sublist (List.IsPrefix.sublist ⟨_, pairs_entries [] (placed ops)⟩)
    rw [List.pairwise_map] at hprefix
    rwa [List.map_map, List.pairwise_map]
  have hrequests : (((pairs [] (placed ops)).map places).map Prod.snd).Pairwise (· < ·) := by
    have hsublist := (requests_placed_increasing ops).sublist (pairs_requests [] (placed ops))
    rw [List.pairwise_map] at hsublist
    rwa [List.map_map, List.pairwise_map]
  have hpairs : pairs [] ops = (pairs [] (placed ops)).map (Prod.map Prod.fst Prod.fst) := by
    rw [← pairs_map, placed_map]
    rfl
  have hplaces : ((pairs [] (placed ops)).map places).map Prod.fst =
      ((pairs [] (placed ops)).map Prod.fst).map Prod.snd := by
    rw [List.map_map, List.map_map]
    rfl
  refine ⟨(pairs [] (placed ops)).map places, ?_, hentries, hrequests, ?_, ?_⟩
  · constructor
    · rw [List.forall_mem_map]
      exact fun pair hpair => ⟨_, (getElem?_of_pair hpair).1⟩
    · rw [List.forall_mem_map]
      exact fun pair hpair => ⟨_, (getElem?_of_pair hpair).2.1⟩
    · rw [List.forall_mem_map]
      exact fun pair hpair => (getElem?_of_pair hpair).2.2
    · exact hentries.imp fun hlt => hlt.ne
    · exact hrequests.imp fun hlt => hlt.ne
  · rw [hplaces]
    intro place entry hop taken_place htaken_place hlt
    obtain ⟨taken, htaken, rfl⟩ := List.mem_map.mp htaken_place
    exact List.mem_map_of_mem (taken_first hop htaken hlt)
  · rw [hpairs, List.forall₂_map_left_iff, List.forall₂_map_right_iff, List.forall₂_same]
    intro pair hpair
    obtain ⟨hentry, hrequest, _⟩ := getElem?_of_pair hpair
    exact ⟨hentry, hrequest⟩

end

end fifo
