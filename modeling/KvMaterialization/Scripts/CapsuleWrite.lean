import KvMaterialization.Scripts.Capsule

open python

namespace fetch_mod_consumer_evidence

/-- A relative path that is written as it is printed and stays below where it starts. -/
structure Below (name : String) : Prop where
  relative : (PurePosixPath.parse name).is_absolute = false
  nonempty : nameParts name ≠ []
  no_parent : ".." ∉ nameParts name
  canonical : "/".intercalate (nameParts name) = name

/-- Joined to a directory such a name leads to a place in it. -/
theorem Below.joined {name : String} (hbelow : Below name) (destination : PurePosixPath) :
    (destination.join (.parse name)).root = destination.root ∧
      (destination.join (.parse name)).tail = destination.tail ++ nameParts name :=
  destination.join_relative hbelow.relative

theorem Below.injective {name other : String} (hbelow : Below name) (hbelow' : Below other)
    (hparts : nameParts name = nameParts other) : name = other := by
  rw [← hbelow.canonical, hparts, hbelow'.canonical]

/-- What the tests of a name come to. -/
theorem below_of_checks {name : String} (habsolute : (PurePosixPath.parse name).is_absolute = false)
    (hparent : (PurePosixPath.parse name).parts.contains ".." = false)
    (hprinted : (PurePosixPath.parse name).toText = name) (hdot : name ≠ ".") : Below name := by
  have hroot : (PurePosixPath.parse name).root = "" := by
    rwa [PurePosixPath.is_absolute, bne_eq_false_iff_eq] at habsolute
  have hnonempty : nameParts name ≠ [] := by
    intro hnil
    rw [PurePosixPath.toText, if_pos ⟨hroot, hnil⟩] at hprinted
    exact hdot hprinted.symm
  refine ⟨habsolute, hnonempty, ?_, ?_⟩
  · rw [PurePosixPath.parts, if_pos hroot, List.contains_eq_mem, decide_eq_false_iff_not] at hparent
    exact hparent
  · exact (PurePosixPath.toText_of_relative habsolute hnonempty).symm.trans hprinted

theorem below_of_irregular_eq_false {name : String} (hregular : irregular name = false) : Below name := by
  unfold irregular at hregular
  simp only [Bool.or_eq_false_iff, bne_eq_false_iff_eq, beq_eq_false_iff_ne] at hregular
  obtain ⟨⟨⟨habsolute, hparent⟩, hprinted⟩, hdot⟩ := hregular
  rw [hprinted] at hdot
  exact below_of_checks habsolute hparent hprinted hdot

section Verified

variable {F : Type} [PyNumber F] {tools : Tools}

/-- The bytes are those that a row of the manifest asks for. -/
structure Matches (tools : Tools) (row : Json F) (content : Bytes) : Prop where
  bytes : ∃ value, row.item "bytes" = .ok value ∧ (Json.int content.length).eq value = true
  sha256 : ∃ value, row.item "sha256" = .ok value ∧ (Json.str (tools.sha256 content)).eq value = true

/-- The payloads are those of the rows, under names that stay below the destination. -/
structure Verified (tools : Tools) (rows : List (Json F)) (payloads : Dict String Bytes) : Prop where
  below : ∀ name ∈ payloads.keys, Below name
  named : ∀ name ∈ payloads.keys, ∃ row ∈ rows, row.item "path" = .ok (.str name)
  complete : ∀ row ∈ rows, ∃ name content, row.item "path" = .ok (.str name) ∧
    payloads.get? name = some content ∧ Matches tools row content

omit [PyNumber F] in
/-- A loop that enters something for every row, each under a new name, has entered it for
all of them and nothing else. -/
theorem foldlM_entered {σ ν : Type} (step : σ → Json F → Except Exception σ) (table : σ → Dict String ν)
    {entered : Json F → String → ν → Prop}
    (hstep : ∀ state row state', step state row = .ok state' → ∃ name value, entered row name value ∧
      name ∉ (table state).keys ∧ table state' = (table state).set name value)
    {rows : List (Json F)} {state state' : σ} (hrows : rows.foldlM step state = .ok state') :
    (∀ name value, (table state).get? name = some value → (table state').get? name = some value) ∧
      (∀ row ∈ rows, ∃ name value, entered row name value ∧ (table state').get? name = some value) ∧
      ∀ name value, (table state').get? name = some value →
        (table state).get? name = some value ∨ ∃ row ∈ rows, entered row name value := by
  induction rows generalizing state with
  | nil =>
    rw [List.foldlM_nil, pure_eq_ok_iff] at hrows
    subst hrows
    exact ⟨fun _ _ => id, by simp, fun _ _ => .inl⟩
  | cons first rest ih =>
    rw [List.foldlM_cons, bind_eq_ok_iff] at hrows
    obtain ⟨next, hfirst, hrest⟩ := hrows
    obtain ⟨name, value, hentered, hfresh, hnext⟩ := hstep _ _ _ hfirst
    obtain ⟨hkept, hall, honly⟩ := ih hrest
    rw [hnext] at hkept honly
    refine ⟨?_, ?_, ?_⟩
    · intro other earlier hget
      apply hkept
      rw [Dict.get?_set_of_ne _ _ ?_]
      · exact hget
      · rintro rfl
        exact hfresh ((Dict.mem_keys_iff _ _).mpr ⟨earlier, hget⟩)
    · rw [List.forall_mem_cons]
      exact ⟨⟨name, value, hentered, hkept name value (Dict.get?_set_self _ _ _)⟩, hall⟩
    · intro other found hget
      obtain hset | ⟨row, hmem, hrow⟩ := honly other found hget
      · rw [Dict.get?_set] at hset
        split at hset
        · rename_i heq
          cases hset
          rw [heq]
          exact .inr ⟨first, List.mem_cons_self, hentered⟩
        · exact .inl hset
      · exact .inr ⟨row, List.mem_cons_of_mem _ hmem, hrow⟩

/-- A row is expected under its name, which stays below the destination. -/
def ExpectedAs (row : Json F) (name : String) (value : Json F) : Prop :=
  row.item "path" = .ok (.str name) ∧ Below name ∧ value = row

omit [PyNumber F] in
theorem expect_row_eq_ok {expected : Dict String (Json F)} {row : Json F} {expected' : Dict String (Json F)}
    (hrow : expect_row expected row = .ok expected') :
    ∃ name value, ExpectedAs row name value ∧ name ∉ expected.keys ∧
      expected' = expected.set name value := by
  unfold expect_row at hrow
  rw [bind_eq_ok_iff] at hrow
  obtain ⟨path, hpath, hrow⟩ := hrow
  split at hrow
  · rename_i name
    rw [bind_eq_ok_iff] at hrow
    obtain ⟨_, hregular, hrow⟩ := hrow
    rw [bind_eq_ok_iff] at hrow
    obtain ⟨_, hfresh, hrow⟩ := hrow
    rw [pure_eq_ok_iff] at hrow
    rw [raiseIf_eq_ok_iff] at hregular hfresh
    refine ⟨name, row, ⟨hpath, below_of_irregular_eq_false hregular, rfl⟩, ?_, hrow.symm⟩
    intro hmem
    rw [List.contains_iff_mem.mpr hmem] at hfresh
    cases hfresh
  · cases hrow

theorem member_content_eq_ok {row : Json F} {member : Member} {content : Bytes}
    (hcontent : member_content tools row member = .ok content) : Matches tools row content := by
  unfold member_content at hcontent
  simp only [bind_eq_ok_iff, pure_eq_ok_iff, raiseIf_eq_ok_iff, Bool.not_eq_false'] at hcontent
  obtain ⟨bytes, hbytes, _, hsize, content, hread, sha256, hsha256, _, hdigest, rfl⟩ := hcontent
  refine ⟨⟨bytes, hbytes, ?_⟩, ⟨sha256, hsha256, hdigest⟩⟩
  rwa [member.size_eq _ hread]

/-- A member leaves the payloads alone or adds the content of a row that is expected. -/
theorem take_member_eq_ok {archive : Json F} {expected : Dict String (Json F)} {payloads payloads' : Dict String Bytes}
    {member : Member} (hmember : take_member tools archive expected payloads member = .ok payloads') :
    payloads' = payloads ∨ ∃ name row content, expected.get? name = some row ∧ Matches tools row content ∧
      payloads' = payloads.set name content := by
  unfold take_member at hmember
  split at hmember
  · cases hmember
    exact .inl rfl
  · rw [bind_eq_ok_iff] at hmember
    obtain ⟨value, _, hmember⟩ := hmember
    split at hmember
    · rename_i member_prefix
      rw [bind_eq_ok_iff] at hmember
      obtain ⟨_, _, hmember⟩ := hmember
      dsimp only at hmember
      split at hmember
      · rename_i row hrow
        rw [bind_eq_ok_iff] at hmember
        obtain ⟨_, _, hmember⟩ := hmember
        rw [bind_eq_ok_iff] at hmember
        obtain ⟨content, hcontent, hmember⟩ := hmember
        rw [pure_eq_ok_iff] at hmember
        exact .inr ⟨_, row, content, hrow, member_content_eq_ok hcontent, hmember.symm⟩
      · cases hmember
    · rw [bind_eq_ok_iff] at hmember
      obtain ⟨_, _, hmember⟩ := hmember
      cases hmember

theorem take_members {archive : Json F} {expected : Dict String (Json F)} {members : List Member}
    {payloads payloads' : Dict String Bytes}
    (hmembers : members.foldlM (take_member tools archive expected) payloads = .ok payloads')
    (hpayloads : ∀ name content, payloads.get? name = some content →
      ∃ row, expected.get? name = some row ∧ Matches tools row content) :
    ∀ name content, payloads'.get? name = some content →
      ∃ row, expected.get? name = some row ∧ Matches tools row content := by
  induction members generalizing payloads with
  | nil =>
    rw [List.foldlM_nil, pure_eq_ok_iff] at hmembers
    subst hmembers
    exact hpayloads
  | cons member rest ih =>
    rw [List.foldlM_cons, bind_eq_ok_iff] at hmembers
    obtain ⟨next, hmember, hrest⟩ := hmembers
    apply ih hrest
    obtain rfl | ⟨name, row, content, hrow, hmatches, rfl⟩ := take_member_eq_ok hmember
    · exact hpayloads
    · intro other content' hget
      rw [Dict.get?_set] at hget
      split at hget
      · rename_i heq
        cases hget
        rw [heq]
        exact ⟨row, hrow, hmatches⟩
      · exact hpayloads other content' hget

/-- What `verify` returns are the files of the manifest. -/
theorem verified_of_verify {manifest : Json F} {raw : Bytes} {payloads : Dict String Bytes}
    (hverify : verify tools manifest raw = .ok payloads) :
    ∃ rows, fetch_mod_consumer_evidence.rows manifest = .ok rows ∧ Verified tools rows payloads := by
  simp only [verify, bind_eq_ok_iff, pure_eq_ok_iff, raiseIf_eq_ok_iff, Bool.not_eq_false', Bool.and_eq_true,
    List.all_eq_true, List.contains_iff_mem] at hverify
  obtain ⟨archive, _, _, _, _, _, _, _, _, _, rows, hrows, expected, hexpected, payloads', hpayloads, _, _, _,
    ⟨hmissing, hextra⟩, rfl⟩ := hverify
  obtain ⟨_, hall, honly⟩ := foldlM_entered expect_row id (fun _ _ _ => expect_row_eq_ok) hexpected
  dsimp only [id] at hall honly
  have hcontents := take_members hpayloads (by intro name content hget; cases hget)
  have hrow : ∀ name row, expected.get? name = some row →
      row ∈ rows ∧ row.item "path" = .ok (.str name) ∧ Below name := by
    intro name row hget
    obtain hnone | ⟨row', hmem, hpath, hbelow, rfl⟩ := honly name row hget
    · cases hnone
    · exact ⟨hmem, hpath, hbelow⟩
  have hnamed : ∀ name ∈ payloads'.keys, ∃ row ∈ rows, row.item "path" = .ok (.str name) ∧ Below name := by
    intro name hname
    obtain ⟨row, hget⟩ := (Dict.mem_keys_iff _ _).mp (hextra name hname)
    obtain ⟨hmem, hpath, hbelow⟩ := hrow name row hget
    exact ⟨row, hmem, hpath, hbelow⟩
  refine ⟨rows, hrows, ?_, ?_, ?_⟩
  · intro name hname
    obtain ⟨_, _, _, hbelow⟩ := hnamed name hname
    exact hbelow
  · intro name hname
    obtain ⟨row, hmem, hpath, _⟩ := hnamed name hname
    exact ⟨row, hmem, hpath⟩
  · intro row hmem
    obtain ⟨name, value, ⟨hpath, _, heq⟩, hget⟩ := hall row hmem
    rw [heq] at hget
    obtain ⟨content, hcontent⟩ := (Dict.mem_keys_iff _ _).mp (hmissing name ((Dict.mem_keys_iff _ _).mpr ⟨row, hget⟩))
    obtain ⟨row', hget', hmatches⟩ := hcontents name content hcontent
    rw [hget, Option.some.injEq] at hget'
    rw [← hget'] at hmatches
    exact ⟨name, content, hpath, hcontent, hmatches⟩

/-- Of a row its bytes are taken, under its name. -/
def TakenAs (tools : Tools) (row : Json F) (name : String) (content : Bytes) : Prop :=
  row.item "path" = .ok (.str name) ∧ Below name ∧ Matches tools row content

theorem take_row_eq_ok {manifest_url : String} {fetched : Dict String Bytes × ℤ} {row : Json F}
    {fetched' : Dict String Bytes × ℤ} (hrow : take_row tools manifest_url fetched row = .ok fetched') :
    ∃ name content, TakenAs tools row name content ∧ name ∉ fetched.1.keys ∧
      fetched'.1 = fetched.1.set name content := by
  unfold take_row at hrow
  rw [bind_eq_ok_iff] at hrow
  obtain ⟨path, hpath, hrow⟩ := hrow
  split at hrow
  · rename_i name
    rw [bind_eq_ok_iff] at hrow
    obtain ⟨_, hregular, hrow⟩ := hrow
    rw [bind_eq_ok_iff] at hrow
    obtain ⟨_, hfresh, hrow⟩ := hrow
    rw [bind_eq_ok_iff] at hrow
    obtain ⟨bytes, hbytes, hrow⟩ := hrow
    split at hrow
    · rename_i count hcount
      simp only [bind_eq_ok_iff, pure_eq_ok_iff, raiseIf_eq_ok_iff, Bool.not_eq_false', bne_eq_false_iff_eq] at hrow
      obtain ⟨_, _, _, _, content, _, _, hlength, sha256, hsha256, _, hdigest, rfl⟩ := hrow
      rw [raiseIf_eq_ok_iff] at hregular hfresh
      simp only [Bool.or_eq_false_iff, bne_eq_false_iff_eq, beq_eq_false_iff_ne] at hregular
      obtain ⟨⟨⟨⟨⟨habsolute, hparent⟩, hprinted⟩, hdot⟩, _⟩, _⟩ := hregular
      rw [List.contains_eq_mem, decide_eq_false_iff_not] at hfresh
      refine ⟨name, content, ⟨hpath, below_of_checks habsolute hparent hprinted hdot, ⟨?_, ?_⟩⟩, hfresh, rfl⟩
      · refine ⟨bytes, hbytes, ?_⟩
        rw [hlength]
        exact Json.int_eq_of_int? hcount
      · exact ⟨sha256, hsha256, hdigest⟩
    · cases hrow
  · cases hrow

theorem verified_of_fetch_snapshot {manifest manifest_url : Json F} {payloads : Dict String Bytes}
    (hfetch : fetch_snapshot tools manifest manifest_url = .ok payloads) :
    ∃ rows, fetch_mod_consumer_evidence.rows manifest = .ok rows ∧ Verified tools rows payloads := by
  unfold fetch_snapshot at hfetch
  split at hfetch
  · simp only [bind_eq_ok_iff, pure_eq_ok_iff] at hfetch
    obtain ⟨_, _, _, _, _, _, _, _, _, _, _, _, _, _, rows, hrows, _, _, fetched, hfetched, rfl⟩ := hfetch
    obtain ⟨_, hall, honly⟩ := foldlM_entered (take_row tools _) Prod.fst (fun _ _ _ => take_row_eq_ok) hfetched
    have htaken : ∀ name ∈ fetched.1.keys, ∃ row ∈ rows, row.item "path" = .ok (.str name) ∧ Below name := by
      intro name hname
      obtain ⟨content, hget⟩ := (Dict.mem_keys_iff _ _).mp hname
      obtain hnone | ⟨row, hmem, hpath, hbelow, _⟩ := honly name content hget
      · cases hnone
      · exact ⟨row, hmem, hpath, hbelow⟩
    refine ⟨rows, hrows, ?_, ?_, ?_⟩
    · intro name hname
      obtain ⟨_, _, _, hbelow⟩ := htaken name hname
      exact hbelow
    · intro name hname
      obtain ⟨row, hmem, hpath, _⟩ := htaken name hname
      exact ⟨row, hmem, hpath⟩
    · intro row hmem
      obtain ⟨name, content, ⟨hpath, _, hmatches⟩, hget⟩ := hall row hmem
      exact ⟨name, content, hpath, hget, hmatches⟩
  · cases hfetch

end Verified

section Written

variable {limits : Limits} {destination : String}

/-- The host takes a name below the destination. -/
structure Nameable (limits : Limits) (destination name : String) : Prop where
  no_null : '\x00' ∉ (target destination (nameParts name)).toList
  path_short : (target destination (nameParts name)).utf8ByteSize < limits.path_max
  names_short : ∀ part ∈ nameParts name, part.utf8ByteSize ≤ limits.name_max

theorem target_concat (destination : String) (parts : List String) (part : String) :
    target destination (parts ++ [part]) = target destination parts ++ "/" ++ part := by
  rw [target, List.foldl_append]
  rfl

theorem accepts_iff {parts : List String} : limits.accepts destination parts = true ↔
    '\x00' ∉ (target destination parts).toList ∧ (target destination parts).utf8ByteSize < limits.path_max := by
  simp [Limits.accepts]

/-- The path of a directory is accepted where that of something in it is. -/
theorem accepts_of_concat {parts : List String} {part : String}
    (haccepts : limits.accepts destination (parts ++ [part]) = true) : limits.accepts destination parts = true := by
  rw [accepts_iff, target_concat] at haccepts
  rw [accepts_iff]
  obtain ⟨hnull, hshort⟩ := haccepts
  rw [String.toList_append, String.toList_append, List.append_assoc, List.mem_append, not_or] at hnull
  rw [String.utf8ByteSize_append, String.utf8ByteSize_append] at hshort
  exact ⟨hnull.1, by omega⟩

theorem creatable_iff {name : String} (hnonempty : nameParts name ≠ []) :
    filetree.Creatable (limits.accepts destination) limits.allows (nameParts name) ↔
      Nameable limits destination name := by
  constructor
  · rintro ⟨_, hself, hnames⟩
    obtain ⟨hnull, hshort⟩ := accepts_iff.mp hself
    refine ⟨hnull, hshort, ?_⟩
    intro part hpart
    obtain ⟨before, after, hparts⟩ := List.append_of_mem hpart
    have hallowed := hnames (before ++ [part]) (by simp) ⟨after, by rw [hparts, List.append_assoc]; rfl⟩
    unfold Limits.allows at hallowed
    rw [List.getLast?_concat] at hallowed
    simpa using hallowed
  · rintro ⟨hnull, hshort, hnames⟩
    have hself : limits.accepts destination (nameParts name) = true := accepts_iff.mpr ⟨hnull, hshort⟩
    refine ⟨?_, hself, ?_⟩
    · rw [← List.dropLast_append_getLast hnonempty] at hself
      exact accepts_of_concat hself
    · intro above habove hprefixed
      unfold Limits.allows
      rw [List.getLast?_eq_some_getLast habove]
      exact decide_eq_true (hnames _ (hprefixed.subset (List.getLast_mem habove)))

/-- The loop is the writing of the files at the parts of their names. -/
theorem write_payloads_eq (tree : filetree.Tree String Bytes) (payloads : List (String × Bytes)) :
    ((write_payloads limits destination tree payloads).1 = .ok () ↔
      (filetree.writeAll (limits.accepts destination) limits.allows tree
        (payloads.map fun payload => (nameParts payload.1, payload.2))).1 = true) ∧
    (write_payloads limits destination tree payloads).2 =
      (filetree.writeAll (limits.accepts destination) limits.allows tree
        (payloads.map fun payload => (nameParts payload.1, payload.2))).2 := by
  induction payloads generalizing tree with
  | nil => simp [write_payloads, filetree.writeAll]
  | cons payload rest ih =>
    rw [List.map_cons]
    unfold write_payloads filetree.writeAll
    dsimp only
    split
    · exact ih _
    · rename_i hfailed
      split
      · simp [hfailed]
      · simp [hfailed]

/-- The names can be made, and none of them is a directory on the way to another. -/
structure Writable (limits : Limits) (destination : String) (names : List String) : Prop where
  nameable : ∀ name ∈ names, Nameable limits destination name
  apart : ∀ name ∈ names, ∀ other ∈ names, name ≠ other → ¬ nameParts name <+: nameParts other

/-- The payloads by the parts of their names. -/
def placed (payloads : Dict String Bytes) : List (List String × Bytes) :=
  payloads.entries.map fun payload => (nameParts payload.1, payload.2)

theorem placed_paths (payloads : Dict String Bytes) : (placed payloads).map Prod.fst = payloads.keys.map nameParts := by
  rw [placed, Dict.keys, List.map_map, List.map_map]
  rfl

/-- Names that stay below the destination are told apart by their parts. -/
theorem placed_nodup {payloads : Dict String Bytes} (hbelow : ∀ name ∈ payloads.keys, Below name) :
    ((placed payloads).map Prod.fst).Nodup := by
  rw [placed_paths]
  refine List.Nodup.map_on ?_ payloads.nodup
  intro name hname other hother hparts
  exact (hbelow name hname).injective (hbelow other hother) hparts

/-- The files of the payloads can be made and are apart exactly if this is so of their names. -/
theorem placed_iff {payloads : Dict String Bytes} (hbelow : ∀ name ∈ payloads.keys, Below name) :
    ((∀ entry ∈ placed payloads, filetree.Creatable (limits.accepts destination) limits.allows entry.1) ∧
      (placed payloads).Pairwise fun entry entry' => filetree.Apart entry.1 entry'.1) ↔
      Writable limits destination payloads.keys := by
  have hcreatable : (∀ entry ∈ placed payloads,
      filetree.Creatable (limits.accepts destination) limits.allows entry.1) ↔
      ∀ name ∈ payloads.keys, Nameable limits destination name := by
    rw [placed, Dict.keys, List.forall_mem_map, List.forall_mem_map]
    refine forall₂_congr fun payload hpayload => ?_
    exact creatable_iff (hbelow payload.1 (List.mem_map_of_mem hpayload)).nonempty
  have hapart : ((placed payloads).Pairwise fun entry entry' => filetree.Apart entry.1 entry'.1) ↔
      payloads.keys.Pairwise fun name other => filetree.Apart (nameParts name) (nameParts other) := by
    rw [placed, Dict.keys, List.pairwise_map, List.pairwise_map]
  rw [hcreatable, hapart]
  constructor
  · rintro ⟨hnameable, hpairwise⟩
    refine ⟨hnameable, ?_⟩
    intro name hname other hother hne
    have hsymm : Std.Symm fun name other => filetree.Apart (nameParts name) (nameParts other) :=
      ⟨fun _ _ h => ⟨h.2, h.1⟩⟩
    exact (hpairwise.forall hname hother hne).1
  · rintro ⟨hnameable, hapart⟩
    refine ⟨hnameable, payloads.nodup.pairwise_of_forall_ne ?_⟩
    intro name hname other hother hne
    exact ⟨hapart name hname other hother hne, hapart other hother name hname (Ne.symm hne)⟩

/-- The loop goes through all the payloads exactly if their names can be made and do not
get in each other's way; the destination then has these files and no others. -/
theorem write_payloads_iff {payloads : Dict String Bytes} (hbelow : ∀ name ∈ payloads.keys, Below name) :
    ((write_payloads limits destination filetree.fresh payloads.entries).1 = .ok () ↔
      Writable limits destination payloads.keys) ∧
    ((write_payloads limits destination filetree.fresh payloads.entries).1 = .ok () →
      ∀ parts content, (write_payloads limits destination filetree.fresh payloads.entries).2 parts =
        some (.file content) ↔ ∃ name, payloads.get? name = some content ∧ nameParts name = parts) := by
  have hpaths : ∀ entry ∈ placed payloads, entry.1 ≠ [] := by
    intro entry hentry
    obtain ⟨payload, hpayload, rfl⟩ := List.mem_map.mp hentry
    exact (hbelow payload.1 (List.mem_map_of_mem hpayload)).nonempty
  have hfresh : filetree.Holds (limits.accepts destination) limits.allows
      (filetree.fresh : filetree.Tree String Bytes) [] := filetree.holds_fresh
  obtain ⟨hiff, hholds⟩ := hfresh.writeAll hpaths (by rw [List.nil_append]; exact placed_nodup hbelow)
  obtain ⟨hreturns, htree⟩ := @write_payloads_eq limits destination filetree.fresh payloads.entries
  constructor
  · rw [hreturns]
    change (filetree.writeAll _ _ _ (placed payloads)).1 = true ↔ _
    rw [hiff, ← placed_iff hbelow]
    simp
  · intro hwritten parts content
    rw [hreturns] at hwritten
    rw [htree]
    change (filetree.writeAll _ _ _ (placed payloads)).2 parts = _ ↔ _
    rw [(hholds hwritten).file, List.nil_append, placed, List.mem_map]
    constructor
    · rintro ⟨payload, hpayload, heq⟩
      obtain ⟨rfl, rfl⟩ := Prod.mk.inj heq
      exact ⟨payload.1, payloads.get?_of_mem hpayload, rfl⟩
    · rintro ⟨name, hget, rfl⟩
      exact ⟨(name, content), payloads.mem_entries_of_get? hget, rfl⟩

theorem Writable.congr {names names' : List String} (hnames : ∀ name, name ∈ names ↔ name ∈ names') :
    Writable limits destination names ↔ Writable limits destination names' := by
  constructor
  · rintro ⟨hnameable, hapart⟩
    simp only [hnames] at hnameable hapart
    exact ⟨hnameable, hapart⟩
  · rintro ⟨hnameable, hapart⟩
    simp only [← hnames] at hnameable hapart
    exact ⟨hnameable, hapart⟩

end Written

section Whole

variable {F : Type} [PyNumber F]

/-- The paths of some rows. -/
def row_paths (rows : List (Json F)) : List String :=
  rows.filterMap fun row =>
    match row.item "path" with
    | .ok (.str name) => some name
    | _ => none

/-- The paths that a manifest has its files under. -/
def manifest_paths (manifest : Json F) : List String :=
  match rows manifest with
  | .ok rows => row_paths rows
  | .error _ => []

omit [PyNumber F] in
theorem mem_row_paths_iff {rows : List (Json F)} {name : String} :
    name ∈ row_paths rows ↔ ∃ row ∈ rows, row.item "path" = .ok (.str name) := by
  unfold row_paths
  rw [List.mem_filterMap]
  refine exists_congr fun row => and_congr_right fun _ => ?_
  split
  · rename_i path hpath
    simp [hpath]
  · rename_i hpath
    simp only [reduceCtorEq, false_iff]
    exact hpath name

/-- The tree has the files of the manifest, with its bytes, and no others. -/
structure Whole (tools : Tools) (manifest : Json F) (tree : filetree.Tree String Bytes) : Prop where
  rows : ∃ rows, fetch_mod_consumer_evidence.rows manifest = .ok rows ∧
    (∀ row ∈ rows, ∃ name content, row.item "path" = .ok (.str name) ∧
      tree (nameParts name) = some (.file content) ∧ Matches tools row content) ∧
    ∀ parts content, tree parts = some (.file content) →
      ∃ row ∈ rows, ∃ name, row.item "path" = .ok (.str name) ∧ nameParts name = parts

/-- The loop returns, and the directory that it started with has become the manifest's. -/
def WrittenWhole (tools : Tools) (limits : Limits) (destination : String) (manifest : Json F)
    (payloads : Dict String Bytes) : Prop :=
  ∃ tree, write_payloads limits destination filetree.fresh payloads.entries = (.ok (), tree) ∧
    Whole tools manifest tree

/-- Payloads that are accepted have names below the destination, and they are written whole
exactly if no path of the manifest leads through another and the host takes each of them. -/
theorem written_whole_iff (tools : Tools) (limits : Limits) (destination : String)
    (manifest manifest_url : Json F) (raw : Bytes) (payloads : Dict String Bytes)
    (haccepted : verify tools manifest raw = .ok payloads ∨
      fetch_snapshot tools manifest manifest_url = .ok payloads) :
    (∀ name ∈ payloads.keys, Below name ∧ ∀ directory : PurePosixPath,
        (directory.join (.parse name)).root = directory.root ∧
          (directory.join (.parse name)).tail = directory.tail ++ nameParts name) ∧
      (WrittenWhole tools limits destination manifest payloads ↔
        Writable limits destination (manifest_paths manifest)) := by
  obtain ⟨rows, hrows, hverified⟩ := haccepted.elim verified_of_verify verified_of_fetch_snapshot
  have hpaths : ∀ name, name ∈ payloads.keys ↔ name ∈ manifest_paths manifest := by
    intro name
    unfold manifest_paths
    rw [hrows]
    dsimp only
    rw [mem_row_paths_iff]
    constructor
    · exact hverified.named name
    · rintro ⟨row, hrow, hpath⟩
      obtain ⟨name', content, hpath', hget, _⟩ := hverified.complete row hrow
      rw [hpath] at hpath'
      cases hpath'
      exact (Dict.mem_keys_iff _ _).mpr ⟨content, hget⟩
  obtain ⟨hreturns, htree⟩ := @write_payloads_iff limits destination payloads hverified.below
  refine ⟨fun name hname => ⟨hverified.below name hname, (hverified.below name hname).joined⟩, ?_⟩
  rw [← Writable.congr hpaths, ← hreturns]
  constructor
  · rintro ⟨tree, hwritten, _⟩
    rw [hwritten]
  · intro hwritten
    have hfiles := htree hwritten
    refine ⟨_, Prod.ext hwritten rfl, rows, hrows, ?_, ?_⟩
    · intro row hrow
      obtain ⟨name, content, hpath, hget, hmatches⟩ := hverified.complete row hrow
      exact ⟨name, content, hpath, (hfiles _ _).mpr ⟨name, hget, rfl⟩, hmatches⟩
    · intro parts content hfile
      obtain ⟨name, hget, hparts⟩ := (hfiles parts content).mp hfile
      obtain ⟨row, hrow, hpath⟩ := hverified.named name ((Dict.mem_keys_iff _ _).mpr ⟨content, hget⟩)
      exact ⟨row, hrow, name, hpath, hparts⟩

end Whole

section Documents

/-- The digest of no bytes. -/
def emptySha256 : String := "e3b0c44298fc1c149afbf4c8996fb92427ae41e4649b934ca495991b7852b855"

/-- Every response is empty. -/
def emptyTools : Tools where
  sha256 _ := emptySha256
  tar _ := ⟨[], some (.os_error)⟩
  urlopen _ _ := .ok []

/-- A snapshot of empty files. -/
def emptySnapshot (names : List String) : Json ℚ :=
  .dict [("schema", .str "mod-git-custody/v1"), ("source_visibility", .str "public"),
    ("files", .list (names.map fun name =>
      .dict [("path", .str name), ("bytes", .int 0), ("sha256", .str emptySha256)]))]

def snapshotUrl : Json ℚ :=
  .str ("https://raw.githubusercontent.com/vLLM-HUST/vllm-hust-benchmark/" ++
    "aaaaaaaaaaaaaaaaaaaaaaaaaaaaaaaaaaaaaaaa/archive/test/manifest.json")

/-- A gzipped archive of a directory, an empty text and an empty object. -/
def archiveBytes : Bytes := [
  31, 139, 8, 0, 0, 0, 0, 0, 2, 3, 203, 205, 79, 209, 45, 51, 212, 79, 201, 79, 46, 214, 103, 160, 17, 48, 0, 2,
  115, 83, 83, 48, 13, 4, 232, 52, 38, 219, 16, 76, 41, 152, 50, 208, 1, 148, 22, 151, 36, 22, 1, 173, 103, 24,
  153, 32, 23, 41, 254, 243, 139, 50, 211, 51, 243, 18, 115, 244, 114, 83, 168, 30, 255, 102, 38, 38, 36, 196, 191,
  145, 161, 161, 9, 131, 130, 193, 104, 252, 211, 45, 254, 19, 75, 18, 245, 178, 138, 243, 243, 104, 149, 255, 241,
  199, 191, 17, 122, 254, 7, 41, 31, 141, 127, 58, 128, 234, 90, 134, 81, 48, 10, 70, 193, 40, 24, 5, 35, 16, 0, 0,
  251, 174, 135, 50, 0, 12, 0, 0]

def archiveSha256 : String := "f9e1f40eebae29f02ffdcaba9c5ad7a356d39302bef8752ca4c6512141b15718"

def objectBytes : Bytes := [123, 125]

def objectSha256 : String := "44136fa355b3678a1146ad16f7e8649e94fb4fc21fe77e8310c060f61caaff8a"

def archiveMember (name : String) (isdir : Bool) (content : Bytes) : Member where
  name
  isdir
  isfile := !isdir
  size := content.length
  content := .ok content
  size_eq _ hcontent := congrArg List.length (Except.ok.inj hcontent).symm

/-- What the library makes of the archive and of its members. -/
def archiveTools : Tools where
  sha256 := tableDigest [(archiveBytes, archiveSha256), (objectBytes, objectSha256), ([], emptySha256)]
    fun content => content.map Char.ofUInt8
  tar raw :=
    if raw = archiveBytes then
      ⟨[archiveMember "mod-v1/docs" true [], archiveMember "mod-v1/docs/original.md" false [],
        archiveMember "mod-v1/data.json" false objectBytes], none⟩
    else ⟨[], some .os_error⟩
  urlopen _ _ := .ok []

def archiveManifest : Json ℚ := .dict [
  ("archive", .dict [("bytes", .int 138), ("sha256", .str archiveSha256), ("member_prefix", .str "mod-v1/")]),
  ("files", .list [
    .dict [("path", .str "docs/original.md"), ("bytes", .int 0), ("sha256", .str emptySha256)],
    .dict [("path", .str "data.json"), ("bytes", .int 2), ("sha256", .str objectSha256)]])]

theorem accepted_of_entries {accepted : Except Exception (Dict String Bytes)} (entries : List (String × Bytes))
    (hentries : accepted.toOption.map Dict.entries = some entries) :
    ∃ payloads, accepted = .ok payloads ∧ payloads.entries = entries := by
  cases accepted with
  | error error => cases hentries
  | ok payloads => exact ⟨payloads, rfl, Option.some.inj hentries⟩

theorem documents_writable : Writable ⟨255, 4096⟩ "/evidence" ["docs/original.md", "data.json"] := by
  constructor
  · rw [List.forall_mem_cons, List.forall_mem_singleton]
    exact ⟨⟨by decide +kernel, by decide +kernel, by decide +kernel⟩,
      ⟨by decide +kernel, by decide +kernel, by decide +kernel⟩⟩
  · decide +kernel

/-- The same documents, out of a snapshot and out of an archive. -/
theorem written_whole_iff_documents :
    (∃ payloads, fetch_snapshot emptyTools (emptySnapshot ["docs/original.md", "data.json"]) snapshotUrl =
        .ok payloads ∧ payloads.keys = ["docs/original.md", "data.json"] ∧
      WrittenWhole emptyTools ⟨255, 4096⟩ "/evidence" (emptySnapshot ["docs/original.md", "data.json"]) payloads) ∧
    ∃ payloads, verify archiveTools archiveManifest archiveBytes = .ok payloads ∧
      payloads.keys = ["docs/original.md", "data.json"] ∧
      WrittenWhole archiveTools ⟨255, 4096⟩ "/evidence" archiveManifest payloads := by
  constructor
  · obtain ⟨payloads, hfetch, hentries⟩ := @accepted_of_entries
      (fetch_snapshot emptyTools (emptySnapshot ["docs/original.md", "data.json"]) snapshotUrl)
      [("docs/original.md", []), ("data.json", [])] (by decide +kernel)
    obtain ⟨_, hwhole⟩ := written_whole_iff emptyTools ⟨255, 4096⟩ "/evidence" _ snapshotUrl [] payloads (.inr hfetch)
    exact ⟨payloads, hfetch, by rw [Dict.keys, hentries]; rfl, hwhole.mpr documents_writable⟩
  · obtain ⟨payloads, hverify, hentries⟩ := @accepted_of_entries (verify archiveTools archiveManifest archiveBytes)
      [("docs/original.md", []), ("data.json", objectBytes)] (by decide +kernel)
    obtain ⟨_, hwhole⟩ := written_whole_iff archiveTools ⟨255, 4096⟩ "/evidence" archiveManifest .null archiveBytes
      payloads (.inl hverify)
    exact ⟨payloads, hverify, by rw [Dict.keys, hentries]; rfl, hwhole.mpr documents_writable⟩

/-- A file in the place of the directory of another: both are fetched, and one of them cannot be written. -/
theorem file_in_directory_not_written :
    ∃ payloads, fetch_snapshot emptyTools (emptySnapshot ["a", "a/b"]) snapshotUrl = .ok payloads ∧
      ¬ WrittenWhole emptyTools ⟨255, 4096⟩ "/evidence" (emptySnapshot ["a", "a/b"]) payloads := by
  obtain ⟨payloads, hfetch, hentries⟩ := @accepted_of_entries
    (fetch_snapshot emptyTools (emptySnapshot ["a", "a/b"]) snapshotUrl) [("a", []), ("a/b", [])] (by decide +kernel)
  refine ⟨payloads, hfetch, ?_⟩
  rintro ⟨tree, hwritten, _⟩
  have hfailed : (write_payloads ⟨255, 4096⟩ "/evidence" filetree.fresh [("a", []), ("a/b", [])]).1.isOk = false := by
    decide +kernel
  rw [hentries] at hwritten
  rw [hwritten] at hfailed
  cases hfailed

end Documents

end fetch_mod_consumer_evidence
