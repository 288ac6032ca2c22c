import KvMaterialization.Legacy.Batches
import KvMaterialization.Python.Numerals
import KvMaterialization.Python.Split
import Mathlib.Tactic.Positivity

open python

namespace shared_workloads

/-- `random.Random(seed)`: what each of its draws would be between given bounds. -/
structure Random where
  randint : ℕ → ℤ → ℤ → ℤ
  bounds : ∀ draw low high, low ≤ high → low ≤ randint draw low high ∧ randint draw low high ≤ high

/-- The specification of a case of a public dataset, as far as its generator reads it. -/
structure PublicCase where
  label : Option String
  dataset_name : String
  num_prompts : Option ℤ
  num_groups : Option ℤ
  prompts_per_group : Option ℤ
  system_prompt_len : Option ℤ
  question_len : Option ℤ
  output_len : Option ℤ
  dp_size : Option ℤ

/-- The metadata of a generated row. -/
structure PublicMetadata where
  workload_family : String
  family_label : String
  deployment_story : String
  anchor_strategy : String
  locality_activation_rationale : String
  primary_anchor_id : String
  secondary_anchor_ids : List String
  primary_anchor_kind : String
  secondary_anchor_kind : String
  home_rank : ℤ
  anchor_index : ℤ
  turn_index : ℤ
  shared_prefix_tokens : ℤ
  deriving DecidableEq

structure PublicRow where
  prompt : String
  prompt_len : ℕ
  output_len : ℤ
  metadata : PublicMetadata
  deriving DecidableEq

def make_prompt (shared_prefix_tokens unique_tokens : ℤ) (shared_token unique_token : String) : String :=
  " ".intercalate (List.replicate (max shared_prefix_tokens 1).toNat shared_token ++
    List.replicate (max unique_tokens 1).toNat unique_token)

/-- `name.replace("-", "_")` -/
def underscored (name : String) : String := String.ofList (name.toList.map fun c => if c = '-' then '_' else c)

/-- What the generator names after the dataset. -/
structure PublicDataset where
  family_label : String
  workload_family : String
  anchor_strategy : String

def public_dataset (dataset_name : String) : Except Exception PublicDataset :=
  if dataset_name = "generated-shared-prefix" then
    .ok {
      family_label := "Synthetic shared-prefix micro-benchmark"
      workload_family := "synthetic-shared-prefix"
      anchor_strategy := "synthetic-prefix-hash" }
  else if dataset_name = "sharegpt" then
    .ok {
      family_label := "ShareGPT public boundary"
      workload_family := "sharegpt-public-boundary"
      anchor_strategy := "conversation-prefix-hash" }
  else .error (.value_error ("unsupported public workload dataset: " ++ dataset_name))

section

variable (rng : Random) (case_id : String) (case_ : PublicCase)

/-- The group of a row, and its turn in the group. -/
def group_index (index : ℕ) : ℤ :=
  min (index / max 1 (case_.prompts_per_group.getD 1)) (max 1 (case_.num_groups.getD 1) - 1)

def turn_index (index : ℕ) : ℤ := index % max 1 (case_.prompts_per_group.getD 1)

/-- The tokens of the shared prefix of a row, and those of its own, of which two draws
are made. -/
def shared_tokens (index : ℕ) : ℤ :=
  case_.system_prompt_len.getD 256 + rng.randint (2 * index) 0 (max (case_.question_len.getD 64 / 3) 1)

def unique_tokens (index : ℕ) : ℤ :=
  max (case_.question_len.getD 64 + rng.randint (2 * index + 1) (-8) 8) 8

def shared_token (group_index : ℤ) : String := s!"{underscored case_.dataset_name}_g{group_index}_shared"

def unique_token (index : ℕ) (turn_index : ℤ) : String := s!"req{index}_turn{turn_index}"

def public_row (dataset : PublicDataset) (index : ℕ) : PublicRow :=
  let group_index := group_index case_ index
  let turn_index := turn_index case_ index
  let shared_prefix_tokens := shared_tokens rng case_ index
  let prompt := make_prompt shared_prefix_tokens (unique_tokens rng case_ index) (shared_token case_ group_index)
    (unique_token index turn_index)
  { prompt
    prompt_len := (split prompt).length
    output_len := case_.output_len.getD 64
    metadata := {
      workload_family := dataset.workload_family
      family_label := dataset.family_label
      deployment_story := case_.label.getD case_id
      anchor_strategy := dataset.anchor_strategy
      locality_activation_rationale := "public workload boundary carried through shared benchmark case catalog"
      primary_anchor_id := s!"{case_id}:group:{group_index}"
      secondary_anchor_ids := [s!"{case_id}:turn:{turn_index}", s!"{case_id}:band:{group_index % 2}"]
      primary_anchor_kind :=
        if case_.dataset_name = "generated-shared-prefix" then "shared_prefix" else "conversation_cluster"
      secondary_anchor_kind := "request_turn"
      home_rank := group_index % max 1 (case_.dp_size.getD 8)
      anchor_index := group_index
      turn_index
      shared_prefix_tokens } }

/-- The groups and the prompts of each are asked for even where the number of prompts is
given. -/
def generate_public_case_requests : Except Exception (List PublicRow) := do
  let num_groups ← case_.num_groups.elim (.error (.key_error "num_groups")) .ok
  let prompts_per_group ← case_.prompts_per_group.elim (.error (.key_error "prompts_per_group")) .ok
  let num_prompts := case_.num_prompts.getD (num_groups * prompts_per_group)
  let dataset ← public_dataset case_.dataset_name
  return (List.range num_prompts.toNat).map (public_row rng case_id case_ dataset)

end

section Tokens

theorem isWord_of_digits {number : ℤ} (hnumber : 0 ≤ number) : IsWord (toString number) := by
  obtain ⟨n, rfl⟩ := Int.eq_ofNat_of_zero_le hnumber
  refine ⟨fun hnil => toString_ne_empty n (String.toList_inj.mp hnil), ?_⟩
  exact fun c hc => digits_toString n c hc

theorem no_space_of_all {text : String} (hall : text.toList.all (fun c => !isSpace c) = true) :
    ∀ c ∈ text.toList, isSpace c = false := by
  intro c hc
  have hspace := List.all_eq_true.mp hall c hc
  rwa [Bool.not_eq_true_eq_eq_false] at hspace

theorem isWord_append {text more : String} (htext : IsWord text) (hmore : ∀ c ∈ more.toList, isSpace c = false) :
    IsWord (text ++ more) := by
  constructor
  · rw [String.toList_append]
    exact List.append_ne_nil_of_left_ne_nil htext.nonempty _
  · rw [String.toList_append, List.forall_mem_append]
    exact ⟨htext.no_space, hmore⟩

theorem underscored_isWord {dataset_name : String} {dataset : PublicDataset}
    (hdataset : public_dataset dataset_name = .ok dataset) :
    IsWord (underscored dataset_name) ∧ (underscored dataset_name).toList.head? ≠ some 'r' := by
  unfold public_dataset at hdataset
  split at hdataset
  · rename_i hname
    subst hname
    exact ⟨⟨by decide, no_space_of_all (by decide)⟩, by decide⟩
  · split at hdataset
    · rename_i hname
      subst hname
      exact ⟨⟨by decide, no_space_of_all (by decide)⟩, by decide⟩
    · cases hdataset

variable {case_ : PublicCase} {dataset : PublicDataset}

theorem group_index_nonneg (case_ : PublicCase) (index : ℕ) : 0 ≤ group_index case_ index := by
  have hturns : (0 : ℤ) ≤ index / max 1 (case_.prompts_per_group.getD 1) := by positivity
  unfold group_index
  omega

theorem turn_index_nonneg (case_ : PublicCase) (index : ℕ) : 0 ≤ turn_index case_ index :=
  Int.emod_nonneg _ (by omega)

theorem shared_token_isWord (hdataset : public_dataset case_.dataset_name = .ok dataset) {group : ℤ}
    (hgroup : 0 ≤ group) :
    IsWord (shared_token case_ group) := by
  have hname := (underscored_isWord hdataset).1
  exact isWord_append (isWord_append (isWord_append hname (no_space_of_all (by decide)))
    (isWord_of_digits hgroup).no_space) (no_space_of_all (by decide))

theorem unique_token_isWord (index : ℕ) {turn : ℤ} (hturn : 0 ≤ turn) : IsWord (unique_token index turn) := by
  have hword : IsWord "req" := ⟨by decide, no_space_of_all (by decide)⟩
  exact isWord_append (isWord_append (isWord_append hword (isWord_of_digits (Int.natCast_nonneg index)).no_space)
    (no_space_of_all (by decide))) (isWord_of_digits hturn).no_space

theorem shared_token_injective {group group' : ℤ} (hgroup : 0 ≤ group) (hgroup' : 0 ≤ group')
    (heq : shared_token case_ group = shared_token case_ group') : group = group' := by
  obtain ⟨n, rfl⟩ := Int.eq_ofNat_of_zero_le hgroup
  obtain ⟨m, rfl⟩ := Int.eq_ofNat_of_zero_le hgroup'
  have hdigits : toString n = toString m := by
    change underscored case_.dataset_name ++ "_g" ++ toString n ++ "_shared" =
      underscored case_.dataset_name ++ "_g" ++ toString m ++ "_shared" at heq
    rwa [String.append_left_inj, String.append_right_inj] at heq
  rw [vllm_kv_materialization.legacy_vllm_023.toString_injective hdigits]

theorem unique_token_injective {index index' : ℕ} {turn turn' : ℤ}
    (heq : unique_token index turn = unique_token index' turn') : index = index' := by
  have hsplit : ∀ (index : ℕ) (turn : ℤ), (unique_token index turn).toList.drop 3 =
      (toString index).toList ++ '_' :: ("turn".toList ++ (toString turn).toList) := by
    intro index turn
    change ("req" ++ toString index ++ "_turn" ++ toString turn).toList.drop 3 = _
    simp [String.toList_append]
  have hdigits : ∀ (index : ℕ) (turn : ℤ),
      ((unique_token index turn).toList.drop 3).span Char.isDigit =
        ((toString index).toList, '_' :: ("turn".toList ++ (toString turn).toList)) := by
    intro index turn
    rw [hsplit]
    have hunderscore : '_'.isDigit = false := by decide
    exact span_append (fun _ => isDigit_of_mem_toString) hunderscore _
  have hspan := hdigits index turn
  rw [heq, hdigits, Prod.mk.injEq] at hspan
  exact (vllm_kv_materialization.legacy_vllm_023.toString_injective (String.toList_inj.mp hspan.1)).symm

theorem unique_token_ne_shared_token (hdataset : public_dataset case_.dataset_name = .ok dataset) (index : ℕ)
    (turn group : ℤ) : unique_token index turn ≠ shared_token case_ group := by
  intro heq
  obtain ⟨hword, hhead⟩ := underscored_isWord hdataset
  have hfirst : (unique_token index turn).toList.head? = some 'r' := by
    change ("req" ++ toString index ++ "_turn" ++ toString turn).toList.head? = _
    simp [String.toList_append]
  rw [heq] at hfirst
  apply hhead
  change ((((underscored case_.dataset_name ++ "_g") ++ toString group) ++ "_shared")).toList.head? = some 'r' at hfirst
  rw [String.append_assoc, String.append_assoc, String.toList_append,
    List.head?_append_of_ne_nil _ hword.nonempty] at hfirst
  exact hfirst

end Tokens

/-- Lists that begin with the same element and go on with different others agree up to the
end of the shorter beginning. -/
theorem take_replicate_eq_iff {α : Type} {shared x y : α} (hx : x ≠ shared) (hy : y ≠ shared) (hxy : x ≠ y)
    (xs ys : List α) (s t n : ℕ) :
    (List.replicate s shared ++ x :: xs).take n = (List.replicate t shared ++ y :: ys).take n ↔ n ≤ min s t := by
  induction s generalizing t n with
  | zero =>
    cases n with
    | zero => simp
    | succ n =>
      cases t with
      | zero => simp [hxy]
      | succ t => simp [List.replicate_succ, hx]
  | succ s ih =>
    cases n with
    | zero => simp
    | succ n =>
      cases t with
      | zero => simp [List.replicate_succ, Ne.symm hy]
      | succ t =>
        rw [List.replicate_succ, List.replicate_succ, List.cons_append, List.cons_append, List.take_succ_cons,
          List.take_succ_cons, List.cons_inj_right, ih]
        omega

section Rows

variable {rng : Random} {case_id : String} {case_ : PublicCase} {dataset : PublicDataset}

/-- The prompt of a row is its shared token and then its own one, at least eight times. -/
theorem split_public_row (hdataset : public_dataset case_.dataset_name = .ok dataset) (index : ℕ) :
    split (public_row rng case_id case_ dataset index).prompt =
      List.replicate (max (shared_tokens rng case_ index) 1).toNat (shared_token case_ (group_index case_ index)) ++
        List.replicate (unique_tokens rng case_ index).toNat (unique_token index (turn_index case_ index)) := by
  have hleast : max (unique_tokens rng case_ index) 1 = unique_tokens rng case_ index := by
    unfold unique_tokens
    omega
  change split (make_prompt _ _ _ _) = _
  unfold make_prompt
  rw [hleast]
  apply split_intercalate
  rw [List.forall_mem_append]
  constructor
  · intro word hword
    rw [(List.mem_replicate.mp hword).2]
    exact shared_token_isWord hdataset (group_index_nonneg case_ index)
  · intro word hword
    rw [(List.mem_replicate.mp hword).2]
    exact unique_token_isWord index (turn_index_nonneg case_ index)

theorem primary_anchor_id_eq_iff (index index' : ℕ) :
    (public_row rng case_id case_ dataset index).metadata.primary_anchor_id =
        (public_row rng case_id case_ dataset index').metadata.primary_anchor_id ↔
      group_index case_ index = group_index case_ index' := by
  constructor
  · intro heq
    change case_id ++ ":group:" ++ toString (group_index case_ index) =
      case_id ++ ":group:" ++ toString (group_index case_ index') at heq
    rw [String.append_right_inj] at heq
    have hgroup := group_index_nonneg case_ index
    have hgroup' := group_index_nonneg case_ index'
    generalize group_index case_ index = group at heq hgroup
    generalize group_index case_ index' = group' at heq hgroup'
    obtain ⟨n, rfl⟩ := Int.eq_ofNat_of_zero_le hgroup
    obtain ⟨m, rfl⟩ := Int.eq_ofNat_of_zero_le hgroup'
    rw [vllm_kv_materialization.legacy_vllm_023.toString_injective heq]
  · intro heq
    change case_id ++ ":group:" ++ toString (group_index case_ index) = _
    rw [heq]
    rfl

/-- How far the prompts of two rows agree. -/
theorem take_split_public_row_iff (hdataset : public_dataset case_.dataset_name = .ok dataset) {index index' : ℕ}
    (hne : index ≠ index') (n : ℕ) :
    (split (public_row rng case_id case_ dataset index).prompt).take n =
        (split (public_row rng case_id case_ dataset index').prompt).take n ↔
      n ≤ if group_index case_ index = group_index case_ index' then
        min (max (shared_tokens rng case_ index) 1).toNat (max (shared_tokens rng case_ index') 1).toNat else 0 := by
  have howns : ∀ index, ∃ more, List.replicate (unique_tokens rng case_ index).toNat
      (unique_token index (turn_index case_ index)) = unique_token index (turn_index case_ index) :: more := by
    intro index
    have hleast : 8 ≤ unique_tokens rng case_ index := le_max_right _ _
    obtain ⟨k, hk⟩ : ∃ k, (unique_tokens rng case_ index).toNat = k + 1 :=
      ⟨(unique_tokens rng case_ index).toNat - 1, by omega⟩
    rw [hk, List.replicate_succ]
    exact ⟨_, rfl⟩
  obtain ⟨own, hown⟩ := howns index
  obtain ⟨own', hown'⟩ := howns index'
  rw [split_public_row hdataset, split_public_row hdataset, hown, hown']
  split
  · rename_i hgroup
    rw [← hgroup]
    exact take_replicate_eq_iff (unique_token_ne_shared_token hdataset _ _ _)
      (unique_token_ne_shared_token hdataset _ _ _) (fun heq => hne (unique_token_injective heq)) _ _ _ _ _
  · rename_i hgroup
    have htoken : shared_token case_ (group_index case_ index) ≠ shared_token case_ (group_index case_ index') :=
      fun heq => hgroup (shared_token_injective (group_index_nonneg case_ index) (group_index_nonneg case_ index') heq)
    obtain ⟨k, hk⟩ : ∃ k, (max (shared_tokens rng case_ index) 1).toNat = k + 1 :=
      ⟨(max (shared_tokens rng case_ index) 1).toNat - 1, by omega⟩
    obtain ⟨k', hk'⟩ : ∃ k, (max (shared_tokens rng case_ index') 1).toNat = k + 1 :=
      ⟨(max (shared_tokens rng case_ index') 1).toNat - 1, by omega⟩
    rw [hk, hk', List.replicate_succ, List.replicate_succ, List.cons_append, List.cons_append]
    cases n with
    | zero => simp
    | succ n => simp [htoken]

/-- What the metadata of the generated rows says of their prompts is so: the prompts of two
rows with the same primary anchor agree up to the end of the shorter of the prefixes that
they state, and those of two rows with different ones do not agree at all. -/
theorem public_rows_share_prefix (rng : Random) (case_id : String) (case_ : PublicCase) (rows : List PublicRow)
    (hrows : generate_public_case_requests rng case_id case_ = .ok rows) :
    (∀ row ∈ rows, max row.metadata.shared_prefix_tokens 1 + 8 ≤ row.prompt_len) ∧
      ∀ (i j : ℕ) first second, i ≠ j → rows[i]? = some first → rows[j]? = some second → ∀ n : ℕ,
        (split first.prompt).take n = (split second.prompt).take n ↔
          (n : ℤ) ≤ if first.metadata.primary_anchor_id = second.metadata.primary_anchor_id then
            min (max first.metadata.shared_prefix_tokens 1) (max second.metadata.shared_prefix_tokens 1) else 0 := by
  unfold generate_public_case_requests at hrows
  simp only [bind_eq_ok_iff, pure_eq_ok_iff] at hrows
  obtain ⟨num_groups, _, prompts_per_group, _, dataset, hdataset, rfl⟩ := hrows
  constructor
  · rw [List.forall_mem_map]
    intro index _
    have hlength : (public_row rng case_id case_ dataset index).prompt_len =
        (split (public_row rng case_id case_ dataset index).prompt).length := rfl
    have hleast : 8 ≤ unique_tokens rng case_ index := le_max_right _ _
    have hshared : (public_row rng case_id case_ dataset index).metadata.shared_prefix_tokens =
        shared_tokens rng case_ index := rfl
    rw [hlength, hshared, split_public_row hdataset, List.length_append, List.length_replicate, List.length_replicate]
    omega
  · intro i j first second hne hfirst hsecond n
    rw [List.getElem?_map, Option.map_eq_some_iff] at hfirst hsecond
    obtain ⟨index, hindex, rfl⟩ := hfirst
    obtain ⟨index', hindex', rfl⟩ := hsecond
    obtain ⟨_, rfl⟩ := List.getElem?_eq_some_iff.mp hindex
    obtain ⟨_, rfl⟩ := List.getElem?_eq_some_iff.mp hindex'
    rw [List.getElem_range, List.getElem_range, take_split_public_row_iff hdataset hne]
    simp only [primary_anchor_id_eq_iff]
    change _ ↔ (n : ℤ) ≤ if group_index case_ i = group_index case_ j then
      min (max (shared_tokens rng case_ i) 1) (max (shared_tokens rng case_ j) 1) else 0
    split
    · omega
    · omega

end Rows

/-- Draws that are as low as they can be. -/
def lowest : Random := ⟨fun _ low _ => low, fun _ _ _ hle => ⟨le_rfl, hle⟩⟩

/-- Two conversations of two turns. -/
def two_conversations : PublicCase where
  label := none
  dataset_name := "sharegpt"
  num_prompts := none
  num_groups := some 2
  prompts_per_group := some 2
  system_prompt_len := some 3
  question_len := some 9
  output_len := none
  dp_size := none

theorem public_rows_share_prefix_conversations :
    ∃ rows, generate_public_case_requests lowest "boundary" two_conversations = .ok rows ∧ rows.length = 4 ∧
      ∀ row ∈ rows, max row.metadata.shared_prefix_tokens 1 + 8 ≤ row.prompt_len := by
  have hshared := public_rows_share_prefix lowest "boundary" two_conversations _ rfl
  exact ⟨_, rfl, rfl, hshared.1⟩

end shared_workloads
