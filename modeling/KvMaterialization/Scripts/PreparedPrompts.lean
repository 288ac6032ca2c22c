import KvMaterialization.Scripts.PreparedOverlay
import Mathlib.Data.Int.ModEq

open python

namespace prepare_g0_traces

section

variable {pattern : List ℤ}

theorem length_repeated (pattern : List ℤ) (length offset : ℕ) : (repeated pattern length offset).length = length := by
  rw [repeated, List.length_map, List.length_range]

theorem repeated_succ (pattern : List ℤ) (length offset : ℕ) :
    repeated pattern (length + 1) offset =
      pattern.getD (offset % pattern.length) 0 :: repeated pattern length (offset + 1) := by
  rw [repeated, List.range_succ_eq_map, List.map_cons, List.map_map, Nat.add_zero]
  refine congrArg _ (List.map_congr_left fun index _ => ?_)
  rw [Function.comp_apply, Nat.succ_eq_add_one, Nat.add_assoc, Nat.add_comm 1]

theorem repeated_congr {offset offset' : ℕ} (hoffset : offset % pattern.length = offset' % pattern.length)
    (length : ℕ) :
    repeated pattern length offset = repeated pattern length offset' := by
  refine List.map_congr_left fun index _ => ?_
  rw [Nat.add_mod, hoffset, ← Nat.add_mod]

/-- Different places of a pattern that repeats no token have different tokens. -/
theorem getD_mod_inj (hnodup : pattern.Nodup) (hne : pattern ≠ []) {place place' : ℕ}
    (heq : pattern.getD (place % pattern.length) 0 = pattern.getD (place' % pattern.length) 0) :
    place % pattern.length = place' % pattern.length := by
  have hpositive := List.length_pos_iff.mpr hne
  have hplace := Nat.mod_lt place hpositive
  have hplace' := Nat.mod_lt place' hpositive
  rw [List.getD_eq_getElem?_getD, List.getD_eq_getElem?_getD, List.getElem?_eq_getElem hplace,
    List.getElem?_eq_getElem hplace'] at heq
  exact hnodup.getElem_inj_iff.mp heq

/-- Of two rows of one group, more than the prefix is shared only if their suffixes start at
the same token, and then it is all. -/
theorem take_prompt_eq_iff (hnodup : pattern.Nodup) (hne : pattern ≠ []) {i j : ℕ} (hgroup : i % 3 = j % 3) (n : ℕ) :
    (prompt pattern i).take n = (prompt pattern j).take n ↔
      n ≤ prefix_length i ∨ i % pattern.length = j % pattern.length := by
  have hlength : prefix_length i = prefix_length j := congrArg (PREFIX_TOKENS.getD · 0) hgroup
  have hshared : prefix_token_ids pattern i = prefix_token_ids pattern j := by
    unfold prefix_token_ids
    rw [hlength, hgroup]
  have hprefix : (prefix_token_ids pattern j).length = prefix_length j := length_repeated _ _ _
  have hshift : (i + 11) % pattern.length = (j + 11) % pattern.length ↔ i % pattern.length = j % pattern.length :=
    ⟨fun heq => Nat.ModEq.add_right_cancel' 11 heq, fun heq => Nat.ModEq.add_right 11 heq⟩
  unfold prompt
  rw [hshared, List.take_append, List.take_append, List.append_right_inj, hprefix, hlength]
  constructor
  · intro heq
    by_contra hnot
    rw [not_or, not_le] at hnot
    obtain ⟨k, hk⟩ := Nat.exists_eq_add_of_lt hnot.1
    have htake : n - prefix_length j = k + 1 := by omega
    rw [htake, suffix, suffix, SUFFIX_TOKENS, repeated_succ _ 31 (i + 11), repeated_succ _ 31 (j + 11),
      List.take_succ_cons, List.take_succ_cons, List.cons.injEq] at heq
    exact hnot.2 (hshift.mp (getD_mod_inj hnodup hne heq.1))
  · rintro (hle | heq)
    · rw [Nat.sub_eq_zero_of_le hle, List.take_zero, List.take_zero]
    · rw [suffix, suffix, repeated_congr (hshift.mpr heq)]

theorem head_prefix_token_ids (pattern : List ℤ) (index : ℕ) :
    ∃ more, prompt pattern index = pattern.getD (index % 3 * 3 % pattern.length) 0 :: more := by
  have hpositive : ∃ k, prefix_length index = k + 1 := by
    have hlt : index % 3 < 3 := Nat.mod_lt _ (by omega)
    have hall : ∀ group < 3, ∃ k, PREFIX_TOKENS.getD group 0 = k + 1 := by
      intro group hgroup
      obtain rfl | rfl | rfl : group = 0 ∨ group = 1 ∨ group = 2 := by omega
      · exact ⟨127, rfl⟩
      · exact ⟨255, rfl⟩
      · exact ⟨383, rfl⟩
    exact hall _ hlt
  obtain ⟨k, hk⟩ := hpositive
  rw [prompt, prefix_token_ids, hk, repeated_succ]
  exact ⟨_, rfl⟩

/-- The prefixes of two groups start at different tokens, unless the third one starts where
the pattern of six tokens comes round to the first. -/
theorem prefix_starts_ne {m group group' : ℕ} (hlength : 4 ≤ m) (hsix : m = 6 → group = 1 ∨ group' = 1)
    (hgroup : group < 3) (hgroup' : group' < 3) (hne : group ≠ group') : group * 3 % m ≠ group' * 3 % m := by
  obtain rfl | rfl | rfl | hlarge : m = 4 ∨ m = 5 ∨ m = 6 ∨ 7 ≤ m := by omega
  · omega
  · omega
  · have hmiddle := hsix rfl
    omega
  · rw [Nat.mod_eq_of_lt (by omega), Nat.mod_eq_of_lt (by omega)]
    omega

theorem take_prompt_eq_iff_of_ne (hnodup : pattern.Nodup) (hlength : 4 ≤ pattern.length) {i j : ℕ}
    (hsix : pattern.length = 6 → i % 3 = 1 ∨ j % 3 = 1) (hgroup : i % 3 ≠ j % 3) (n : ℕ) :
    (prompt pattern i).take n = (prompt pattern j).take n ↔ n = 0 := by
  have hne : pattern ≠ [] := by
    rw [← List.length_pos_iff]
    omega
  obtain ⟨more, hprompt⟩ := head_prefix_token_ids pattern i
  obtain ⟨more', hprompt'⟩ := head_prefix_token_ids pattern j
  cases n with
  | zero => simp
  | succ n =>
    rw [hprompt, hprompt', List.take_succ_cons, List.take_succ_cons, List.cons.injEq]
    refine iff_of_false (fun h => ?_) (Nat.succ_ne_zero n)
    exact prefix_starts_ne hlength hsix (Nat.mod_lt _ (by omega)) (Nat.mod_lt _ (by omega)) hgroup
      (getD_mod_inj hnodup hne h.1)

end

theorem getElem?_written {F : Type} [PyNumber F] {workload : String} {arrivals : List F} {pattern : List ℤ}
    {rows : List (Json F)} (hwritten : write_trace workload arrivals pattern = .ok rows) (hpattern : pattern ≠ [])
    {place : ℕ} {row : Json F} (hrow : rows[place]? = some row) :
    row.item "prompt_token_ids" = .ok (.list ((prompt pattern place).map .int)) ∧
      row.item "reuse_prefix_tokens" = .ok (.int (prefix_length place)) := by
  obtain ⟨normalized, hnormalized⟩ : ∃ normalized, normalize_one_rps arrivals = .ok normalized := by
    unfold write_trace at hwritten
    simp only [bind_eq_ok_iff] at hwritten
    obtain ⟨_, _, normalized, hnormalized, _⟩ := hwritten
    exact ⟨normalized, hnormalized⟩
  rw [write_trace_eq workload hpattern hnormalized, Except.ok.injEq] at hwritten
  rw [← hwritten, List.getElem?_map, List.getElem?_zipIdx, Nat.zero_add, Option.map_map, Option.map_eq_some_iff] at hrow
  obtain ⟨arrival, _, rfl⟩ := hrow
  exact ⟨rfl, rfl⟩

theorem repeated_add (pattern : List ℤ) (length length' offset : ℕ) :
    repeated pattern (length + length') offset =
      repeated pattern length offset ++ repeated pattern length' (offset + length) := by
  unfold repeated
  rw [List.range_add, List.map_append, List.map_map]
  refine congrArg _ (List.map_congr_left fun index _ => ?_)
  rw [Function.comp_apply, Nat.add_assoc]

/-- With six tokens, the third prefix starts with the first one. -/
theorem six_tokens_share {pattern : List ℤ} (hsix : pattern.length = 6) (i j : ℕ) (hi : i % 3 = 0) (hj : j % 3 = 2) :
    (prompt pattern i).take 128 = (prompt pattern j).take 128 := by
  have hlength : prefix_length i = 128 := by
    change PREFIX_TOKENS.getD (i % 3) 0 = 128
    rw [hi]
    rfl
  have hlength' : prefix_length j = 128 + 256 := by
    change PREFIX_TOKENS.getD (j % 3) 0 = 128 + 256
    rw [hj]
    rfl
  have hround : 2 * 3 % pattern.length = 0 % pattern.length := by rw [hsix]
  rw [prompt, prompt, prefix_token_ids, prefix_token_ids, hlength, hlength', hi, hj, repeated_congr hround,
    repeated_add, List.append_assoc, List.take_left' (length_repeated _ _ _), List.take_left' (length_repeated _ _ _)]

/-- The prompts of a prepared trace share what its rows say they do, for a pattern that
repeats no token: rows with the same prefix share it and nothing more, unless they are a
multiple of the pattern apart and have the same prompt; rows with different prefixes share
not even a token, unless the pattern has six: then a row of the first prefix and one of the
third share the whole first prefix. -/
theorem prepared_prompts_share {F : Type} [PyNumber F] (workload : String) (arrivals : List F) (pattern : List ℤ)
    (rows : List (Json F)) (hwritten : write_trace workload arrivals pattern = .ok rows) (hnodup : pattern.Nodup)
    (hlength : 4 ≤ pattern.length) (i j : ℕ) (first second : Json F) (hfirst : rows[i]? = some first)
    (hsecond : rows[j]? = some second) :
    ∃ tokens tokens' : List ℤ, first.item "prompt_token_ids" = .ok (.list (tokens.map .int)) ∧
      second.item "prompt_token_ids" = .ok (.list (tokens'.map .int)) ∧
      first.item "reuse_prefix_tokens" = .ok (.int (prefix_length i)) ∧
      (i % 3 = j % 3 → ∀ n, tokens.take n = tokens'.take n ↔
        n ≤ prefix_length i ∨ i % pattern.length = j % pattern.length) ∧
      (i % 3 ≠ j % 3 → (pattern.length = 6 → i % 3 = 1 ∨ j % 3 = 1) →
        ∀ n, tokens.take n = tokens'.take n ↔ n = 0) ∧
      (i % 3 = 0 → j % 3 = 2 → pattern.length = 6 → tokens.take 128 = tokens'.take 128) := by
  have hne : pattern ≠ [] := by
    rw [← List.length_pos_iff]
    omega
  obtain ⟨htokens, hprefix⟩ := getElem?_written hwritten hne hfirst
  obtain ⟨htokens', _⟩ := getElem?_written hwritten hne hsecond
  exact ⟨_, _, htokens, htokens', hprefix, fun hgroup => take_prompt_eq_iff hnodup hne hgroup,
    fun hgroup hsix => take_prompt_eq_iff_of_ne hnodup hlength hsix hgroup,
    fun hi hj hsix => six_tokens_share hsix i j hi hj⟩

/-- Four requests over a pattern of six tokens: the first shares its prefix with the fourth,
and with the third, but no token with the second. -/
theorem prepared_prompts_share_six :
    ∃ rows first second third fourth,
      write_trace "burstgpt" [(0 : ℚ), 1, 5, 10] [7, 8, 9, 10, 11, 12] = .ok rows ∧
      rows[0]? = some first ∧ rows[1]? = some second ∧ rows[2]? = some third ∧ rows[3]? = some fourth ∧
      (∃ tokens tokens' : List ℤ, first.item "prompt_token_ids" = .ok (.list (tokens.map .int)) ∧
        fourth.item "prompt_token_ids" = .ok (.list (tokens'.map .int)) ∧
        tokens.take 128 = tokens'.take 128 ∧ tokens.take 129 ≠ tokens'.take 129) ∧
      (∃ tokens tokens' : List ℤ, first.item "prompt_token_ids" = .ok (.list (tokens.map .int)) ∧
        second.item "prompt_token_ids" = .ok (.list (tokens'.map .int)) ∧ tokens.take 1 ≠ tokens'.take 1) ∧
      ∃ tokens tokens' : List ℤ, first.item "prompt_token_ids" = .ok (.list (tokens.map .int)) ∧
        third.item "prompt_token_ids" = .ok (.list (tokens'.map .int)) ∧ tokens.take 128 = tokens'.take 128 := by
  have hnormalized : normalize_one_rps [(0 : ℚ), 1, 5, 10] = .ok _ := normalize_one_rps_exact rfl rfl (by norm_num)
  have hpattern : [7, 8, 9, 10, 11, 12] ≠ ([] : List ℤ) := by decide
  have hwritten := write_trace_eq "burstgpt" hpattern hnormalized
  refine ⟨_, _, _, _, _, hwritten, rfl, rfl, rfl, rfl, ?_, ?_, ?_⟩
  · obtain ⟨tokens, tokens', htokens, htokens', _, hgroup, _⟩ := prepared_prompts_share "burstgpt" _
      [7, 8, 9, 10, 11, 12] _ hwritten (by decide) (by decide) 0 3 _ _ rfl rfl
    refine ⟨tokens, tokens', htokens, htokens', (hgroup rfl 128).mpr (.inl (by decide)), fun heq => ?_⟩
    obtain hle | hround := (hgroup rfl 129).mp heq
    · exact absurd hle (by decide)
    · exact absurd hround (by decide)
  · obtain ⟨tokens, tokens', htokens, htokens', _, _, hother, _⟩ := prepared_prompts_share "burstgpt" _
      [7, 8, 9, 10, 11, 12] _ hwritten (by decide) (by decide) 0 1 _ _ rfl rfl
    refine ⟨tokens, tokens', htokens, htokens', fun heq => ?_⟩
    exact absurd ((hother (by decide) (by decide) 1).mp heq) (by decide)
  · obtain ⟨tokens, tokens', htokens, htokens', _, _, _, hround⟩ := prepared_prompts_share "burstgpt" _
      [7, 8, 9, 10, 11, 12] _ hwritten (by decide) (by decide) 0 2 _ _ rfl rfl
    exact ⟨tokens, tokens', htokens, htokens', hround rfl rfl rfl⟩

end prepare_g0_traces
