import KvMaterialization.Scripts.Overlay
import KvMaterialization.Python.Text

open python

namespace g0_pathology

/-- The value of a row under a key, if the key is there. -/
def field {F : Type} (row : Json F) (key : String) : Option (Json F) :=
  match row with
  | .dict entries => Json.find entries key
  | _ => none

/-- What a row asks for, as the loader reads it: the text under the first of the three
keys that is there, or else the token ids. -/
def requestContent {F : Type} (row : Json F) : Except Exception (Json F) := do
  let content ← getFirst row .null ["content", "prompt", "text"]
  match content.str? with
  | some _ => return content
  | none => row.get "prompt_token_ids"

/-- What the overlay takes for the content of a row. -/
def identified {F : Type} (row : Json F) : Json F :=
  (field row "prompt_token_ids").getD ((field row "content").getD .null)

/-- Two rows of different content are told apart by the keys they give it under. -/
def ToldApart {F : Type} (row row' : Json F) : Prop :=
  match field row "prompt_token_ids", field row' "prompt_token_ids" with
  | some tokens, some tokens' => tokens ≠ tokens'
  | some tokens, none => tokens ≠ (field row' "content").getD .null
  | none, some tokens' => (field row "content").getD .null ≠ tokens'
  | none, none => (field row "content").isSome = true ∨ (field row' "content").isSome = true

section

variable {F : Type}

theorem getD_eq_field {row found : Json F} {key : String} {default : Json F}
    (hfound : row.getD key default = .ok found) : found = (field row key).getD default := by
  cases row with
  | dict entries => exact (Except.ok.inj hfound).symm
  | null => cases hfound
  | bool b => cases hfound
  | int n => cases hfound
  | float x => cases hfound
  | str s => cases hfound
  | list items => cases hfound

theorem toJson_getD (row : TraceRow F) {key : String} (default : Json F) (hid : key ≠ "request_id")
    (harrival : key ≠ "arrival_s") : row.toJson.getD key default = row.row.getD key default := by
  rw [TraceRow.toJson, Json.getD_assign_of_ne _ _ _ harrival, Json.getD_assign_of_ne _ _ _ hid]

theorem identity_eq {row : TraceRow F} {content : Json F} (hidentity : identity row = .ok content) :
    content = identified row.row := by
  unfold identity at hidentity
  rw [bind_eq_ok_iff] at hidentity
  obtain ⟨fallback, hfallback, hidentity⟩ := hidentity
  rw [Json.get, toJson_getD row _ (by decide) (by decide)] at hfallback
  rw [toJson_getD row _ (by decide) (by decide)] at hidentity
  rw [getD_eq_field hidentity, getD_eq_field hfallback]
  rfl

end

section

variable {F : Type} [PyNumber F] {runtime : Runtime F} {codec : Codec F} {trace : Trace F}

/-- Without token ids, what an accepted row gives under `content` is the text it asks for. -/
theorem requestContent_of_content {item : Json F × ℕ} {row : TraceRow F} {content : Json F}
    (hrow : canonical_row runtime item = .ok row) (htokens : field item.1 "prompt_token_ids" = none)
    (hcontent : field item.1 "content" = some content) :
    requestContent item.1 = .ok content ∧ content ≠ .null := by
  obtain ⟨_, _, found, prompt_token_ids, hfound, hids, haccepted⟩ := canonical_row_spec hrow
  have hfirst : found = content := by
    rw [getFirst, bind_eq_ok_iff] at hfound
    obtain ⟨_, _, hfound⟩ := hfound
    rw [getD_eq_field hfound, hcontent]
    rfl
  have hnull : prompt_token_ids = .null := by
    rw [getD_eq_field hids, htokens]
    rfl
  subst hfirst hnull
  obtain htext | hlist := haccepted
  · obtain ⟨text, hstr⟩ := Option.isSome_iff_exists.mp htext
    constructor
    · unfold requestContent
      rw [hfound]
      change (match found.str? with
        | some _ => pure found
        | none => item.1.get "prompt_token_ids") = _
      rw [hstr]
      rfl
    · rintro rfl
      cases hstr
  · cases hlist

/-- Accepted rows of different content are identified by different values exactly if
their keys tell them apart. -/
theorem identified_ne_iff {item item' : Json F × ℕ} {row row' : TraceRow F}
    (hrow : canonical_row runtime item = .ok row) (hrow' : canonical_row runtime item' = .ok row')
    (hdiffer : requestContent item.1 ≠ requestContent item'.1) :
    identified item.1 ≠ identified item'.1 ↔ ToldApart item.1 item'.1 := by
  unfold identified ToldApart
  cases htokens : field item.1 "prompt_token_ids" with
  | some tokens =>
    cases htokens' : field item'.1 "prompt_token_ids" with
    | some tokens' => exact Iff.rfl
    | none => exact Iff.rfl
  | none =>
    cases htokens' : field item'.1 "prompt_token_ids" with
    | some tokens' => exact Iff.rfl
    | none =>
      -- Neither has token ids: under `content` are the texts, under the other keys nothing is read.
      cases hcontent : field item.1 "content" with
      | none =>
        cases hcontent' : field item'.1 "content" with
        | none => simp
        | some content' =>
          obtain ⟨_, hnull⟩ := requestContent_of_content hrow' htokens' hcontent'
          simpa using Ne.symm hnull
      | some content =>
        obtain ⟨hasked, hnull⟩ := requestContent_of_content hrow htokens hcontent
        cases hcontent' : field item'.1 "content" with
        | none => simpa using hnull
        | some content' =>
          obtain ⟨hasked', _⟩ := requestContent_of_content hrow' htokens' hcontent'
          rw [hasked, hasked'] at hdiffer
          simpa using fun heq : content = content' => hdiffer (by rw [heq])

theorem getElem?_of_forall₂ {α β : Type} {related : α → β → Prop} {as : List α} {bs : List β}
    (hrelated : List.Forall₂ related as bs) {i : ℕ} {b : β} (hb : bs[i]? = some b) :
    ∃ a, as[i]? = some a ∧ related a b := by
  obtain ⟨hi, rfl⟩ := List.getElem?_eq_some_iff.mp hb
  have hi' : i < as.length := by rwa [hrelated.length_eq]
  exact ⟨as[i], List.getElem?_eq_getElem hi', List.forall₂_iff_get.mp hrelated |>.2 i hi' hi⟩

/-- The digest of a row is that of the value it is identified by. -/
theorem overlay_digest {output workload burst_intensity : String} {source : List (Json F)}
    {overlay : List (OverlayRow F)} {custody : Custody} (hsource : trace.rows = .ok source)
    (hwritten : write_overlay runtime codec trace output workload burst_intensity = .ok (overlay, custody))
    {i : ℕ} {row : Json F} {out : OverlayRow F} (hrow : source[i]? = some row) (hout : overlay[i]? = some out) :
    (∃ normalized, canonical_row runtime (row, i) = .ok normalized) ∧
      out.content_sha256 = codec.sha256 (codec.compact (identified row)) := by
  obtain ⟨rows, first, last, scale, hrows, _, _, _, hoverlay⟩ := write_overlay_spec hwritten
  obtain ⟨source', hsource', hcanonical⟩ := canonical_trace_rows_spec hrows
  rw [hsource, Except.ok.injEq] at hsource'
  subst hsource'
  obtain ⟨item, hitem, hwrittenRow⟩ := getElem?_of_forall₂ hoverlay hout
  obtain ⟨_, _, content, hidentity, hdigest⟩ := overlay_row_spec hwrittenRow
  rw [List.getElem?_zipIdx, Option.map_eq_some_iff] at hitem
  obtain ⟨normalized, hnormalized, rfl⟩ := hitem
  obtain ⟨sourceItem, hsourceItem, hcanonicalRow⟩ := getElem?_of_forall₂ hcanonical hnormalized
  rw [List.getElem?_zipIdx, hrow, Option.map_some, Option.some.injEq, Nat.zero_add] at hsourceItem
  subst hsourceItem
  refine ⟨⟨normalized, hcanonicalRow⟩, ?_⟩
  rw [hdigest, identity_eq hidentity, (canonical_row_spec hcanonicalRow).1]

/-- Two rows of a trace that ask for different content get different digests exactly if
their keys tell them apart: a content given as `prompt` or `text` is not looked at, and
one given beside token ids is not either. -/
theorem content_digests_differ_iff {output workload burst_intensity : String} {source : List (Json F)}
    {overlay : List (OverlayRow F)} {custody : Custody} (hsource : trace.rows = .ok source)
    (hwritten : write_overlay runtime codec trace output workload burst_intensity = .ok (overlay, custody))
    (hsha : Function.Injective codec.sha256)
    (hcompact : ∀ row ∈ source, ∀ row' ∈ source,
      codec.compact (identified row) = codec.compact (identified row') → identified row = identified row')
    {i j : ℕ} {row row' : Json F} {out out' : OverlayRow F} (hrow : source[i]? = some row)
    (hrow' : source[j]? = some row') (hout : overlay[i]? = some out) (hout' : overlay[j]? = some out')
    (hdiffer : requestContent row ≠ requestContent row') :
    out.content_sha256 ≠ out'.content_sha256 ↔ ToldApart row row' := by
  obtain ⟨⟨normalized, hcanonical⟩, hdigest⟩ := overlay_digest hsource hwritten hrow hout
  obtain ⟨⟨normalized', hcanonical'⟩, hdigest'⟩ := overlay_digest hsource hwritten hrow' hout'
  rw [← identified_ne_iff hcanonical hcanonical' hdiffer, hdigest, hdigest', not_iff_not]
  constructor
  · intro heq
    exact hcompact row (List.mem_of_getElem? hrow) row' (List.mem_of_getElem? hrow') (hsha heq)
  · intro heq
    rw [heq]

end

/-- A row that has the given further keys. -/
def keyed_row (id : String) (timestamp : ℤ) (further : List (String × Json ℚ)) : Json ℚ :=
  .dict ([("id", .str id), ("timestamp", .int timestamp)] ++ further)

def two_row_trace (first second : List (String × Json ℚ)) : Trace ℚ where
  path := "trace.jsonl"
  text := ""
  rows := .ok [keyed_row "a" 3 first, keyed_row "b" 4 second]

/-- The digests of the contents of two rows, and of an empty file. -/
def rowDigests : List (String × String) := [
  ("[1,2]", "49a64717d5d4cb19952e6eac2946415cf6879adacf9908e7d872332d32c6e684"),
  ("\"world\"", "09bf524dc6f5272161e2c2fc597da23610dbd1af8411226b5f5dae77658237cc"),
  ("", "e3b0c44298fc1c149afbf4c8996fb92427ae41e4649b934ca495991b7852b855")]

def Codec.digested : Codec ℚ := { Codec.plain with sha256 := tableDigest rowDigests String.toList }

/-- One row of token ids and one of text. -/
theorem content_digests_differ_mixed :
    ∃ overlay custody out out',
      write_overlay Runtime.ascii Codec.digested (two_row_trace [("prompt_token_ids", .list [.int 1, .int 2])]
        [("content", .str "world")]) "overlay.jsonl" "burstgpt" "high" = .ok (overlay, custody) ∧
      overlay = [out, out'] ∧ out.content_sha256 ≠ out'.content_sha256 := by
  have hreturns : ((write_overlay Runtime.ascii Codec.digested (two_row_trace
      [("prompt_token_ids", .list [.int 1, .int 2])] [("content", .str "world")]) "overlay.jsonl" "burstgpt"
      "high").map fun written => written.1.length) = .ok 2 := by decide +kernel
  obtain ⟨⟨overlay, custody⟩, hwritten, hlength⟩ := map_eq_ok_iff.mp hreturns
  obtain ⟨out, out', rfl⟩ := List.length_eq_two.mp hlength
  have hcompact : compactJson decimal (.list [.int 1, .int 2]) ≠ compactJson decimal (.str "world") := by
    decide +kernel
  have happart : ToldApart (keyed_row "a" 3 [("prompt_token_ids", .list [.int 1, .int 2])])
      (keyed_row "b" 4 [("content", .str "world")]) := by
    intro heq
    cases heq
  refine ⟨_, custody, out, out', hwritten, rfl, ?_⟩
  have hinjective : Function.Injective Codec.digested.sha256 :=
    tableDigest_injective (fun _ _ heq => String.toList_injective heq) (by decide) (by decide)
  refine (content_digests_differ_iff rfl hwritten hinjective ?_ (i := 0) (j := 1) rfl rfl rfl rfl ?_).mpr happart
  · intro row hrow row' hrow' heq
    rw [List.mem_pair] at hrow hrow'
    obtain rfl | rfl := hrow
    · obtain rfl | rfl := hrow'
      · rfl
      · exact absurd heq hcompact
    · obtain rfl | rfl := hrow'
      · exact absurd heq.symm hcompact
      · rfl
  · intro heq
    cases heq

/-- Two different prompts are both identified by `null`, whatever the digest. -/
theorem prompts_share_digest :
    ((write_overlay Runtime.ascii Codec.plain (two_row_trace [("prompt", .str "hello")] [("prompt", .str "world")])
      "overlay.jsonl" "burstgpt" "high").map fun written => written.1.map OverlayRow.content_sha256) =
        .ok ["null", "null"] ∧
    identified (keyed_row "a" 3 [("prompt", .str "hello")]) = .null ∧
    identified (keyed_row "b" 4 [("prompt", .str "world")]) = .null ∧
    requestContent (keyed_row "a" 3 [("prompt", .str "hello")]) ≠
      requestContent (keyed_row "b" 4 [("prompt", .str "world")]) := by
  refine ⟨by decide +kernel, rfl, rfl, ?_⟩
  have hfirst : requestContent (keyed_row "a" 3 [("prompt", .str "hello")]) = .ok (.str "hello") := rfl
  have hsecond : requestContent (keyed_row "b" 4 [("prompt", .str "world")]) = .ok (.str "world") := rfl
  rw [hfirst, hsecond]
  intro heq
  exact absurd (Json.str.inj (Except.ok.inj heq)) (by decide)

end g0_pathology
