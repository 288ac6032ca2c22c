import KvMaterialization.LiveControl.Control

open python

namespace vllm_kv_materialization.live_control

/-- An engine prompt or a part of one. The keys of a dictionary are distinct. -/
inductive PromptValue (O : Type) where
  | text (value : String)
  | dict (entries : List (String × PromptValue O))
  | other (value : O)

namespace PromptValue

variable {O : Type}

/-- `entries.get(key)` -/
def get? (entries : List (String × PromptValue O)) (key : String) : Option (PromptValue O) :=
  (entries.find? (fun entry => entry.1 = key)).map Prod.snd

/-- `entries[key] = value` -/
def assign (entries : List (String × PromptValue O)) (key : String) (value : PromptValue O) :
    List (String × PromptValue O) :=
  if key ∈ entries.map Prod.fst then Dict.replaceAt entries key value else entries ++ [(key, value)]

theorem get?_assign_self (entries : List (String × PromptValue O)) (key : String) (value : PromptValue O) :
    get? (assign entries key value) key = some value := by
  unfold assign get?
  split
  · rename_i hkey
    rw [Dict.find?_replaceAt_self value hkey]
    rfl
  · rename_i hkey
    have hnone : entries.find? (fun entry => entry.1 = key) = none := by
      rw [List.find?_eq_none]
      intro entry hentry heq
      exact hkey (List.mem_map.mpr ⟨entry, hentry, of_decide_eq_true heq⟩)
    simp [List.find?_append, hnone]

theorem get?_assign_of_ne (entries : List (String × PromptValue O)) {key other : String} (value : PromptValue O)
    (hne : other ≠ key) : get? (assign entries key value) other = get? entries other := by
  unfold assign get?
  split
  · rw [Dict.find?_replaceAt_of_ne value hne]
  · simp [List.find?_append, Ne.symm hne]

/-- The decoder prompt of an encoder-decoder prompt, where that is a dictionary. -/
def decoder? (entries : List (String × PromptValue O)) : Option (List (String × PromptValue O)) :=
  match get? entries "type", get? entries "decoder_prompt" with
  | some (.text kind), some (.dict decoder_prompt) => if kind = "enc_dec" then some decoder_prompt else none
  | _, _ => none

/-- Where a prompt carries its salt. -/
def salt? : PromptValue O → Option (PromptValue O)
  | .dict entries => get? ((decoder? entries).getD entries) "cache_salt"
  | _ => none

end PromptValue

open PromptValue

variable {O : Type}

def apply_runtime_control (prompt : PromptValue O) (plan : RuntimeControlPlan) : PromptValue O :=
  match plan.cache_salt, prompt with
  | some cache_salt, .dict entries =>
    match decoder? entries with
    | some decoder_prompt =>
      .dict (assign entries "decoder_prompt" (.dict (assign decoder_prompt "cache_salt" (.text cache_salt))))
    | none => .dict (assign entries "cache_salt" (.text cache_salt))
  | _, prompt => prompt

/-- A plan without a salt leaves the prompt as it is. -/
theorem apply_runtime_control_of_none {plan : RuntimeControlPlan} (hsalt : plan.cache_salt = none)
    (prompt : PromptValue O) : apply_runtime_control prompt plan = prompt := by
  unfold apply_runtime_control
  rw [hsalt]

theorem decoder?_assign_salt (entries : List (String × PromptValue O)) (value : PromptValue O) :
    decoder? (assign entries "cache_salt" value) = decoder? entries := by
  unfold decoder?
  rw [get?_assign_of_ne entries value (by decide), get?_assign_of_ne entries value (by decide)]

theorem decoder?_assign_decoder {entries decoder_prompt : List (String × PromptValue O)}
    (hdecoder : decoder? entries = some decoder_prompt) (decoder_prompt' : List (String × PromptValue O)) :
    decoder? (assign entries "decoder_prompt" (.dict decoder_prompt')) = some decoder_prompt' := by
  unfold decoder? at hdecoder ⊢
  rw [get?_assign_of_ne entries _ (by decide), get?_assign_self]
  split at hdecoder
  · rename_i kind _ hkind _
    rw [hkind]
    dsimp only
    split at hdecoder
    · rename_i hencoder
      rw [if_pos hencoder]
    · cases hdecoder
  · cases hdecoder

/-- A dictionary prompt carries the salt of its plan afterwards. -/
theorem salt?_apply_runtime_control {plan : RuntimeControlPlan} {cache_salt : String}
    (hsalt : plan.cache_salt = some cache_salt) (entries : List (String × PromptValue O)) :
    (apply_runtime_control (.dict entries) plan).salt? = some (.text cache_salt) := by
  unfold apply_runtime_control
  rw [hsalt]
  dsimp only
  cases hdecoder : decoder? entries with
  | some decoder_prompt =>
    dsimp only [salt?]
    rw [decoder?_assign_decoder hdecoder, Option.getD_some, get?_assign_self]
  | none =>
    dsimp only [salt?]
    rw [decoder?_assign_salt, hdecoder, Option.getD_none, get?_assign_self]

end vllm_kv_materialization.live_control
