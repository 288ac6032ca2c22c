import Mathlib.Data.List.Basic
import Mathlib.Data.List.Infix

namespace filetree

/-- What there is at a path. -/
inductive Node (β : Type) where
  | directory
  | file (content : β)

/-- The nodes under a directory, by the names on the way to them. -/
abbrev Tree (ν β : Type) := List ν → Option (Node β)

variable {ν β : Type}

/-- A directory that has just been made. -/
def fresh : Tree ν β
  | [] => some .directory
  | _ :: _ => none

/-- Of two paths neither leads through the other. -/
def Apart (path other : List ν) : Prop := ¬ path <+: other ∧ ¬ other <+: path

/-- A call refuses a path it does not accept before it looks at the tree, and makes no
node whose path is not allowed. -/
structure Creatable (accepts allowed : List ν → Bool) (path : List ν) : Prop where
  parent : accepts path.dropLast = true
  self : accepts path = true
  names : ∀ above, above ≠ [] → above <+: path → allowed above = true

variable [DecidableEq ν]

def Tree.set (tree : Tree ν β) (path : List ν) (node : Node β) : Tree ν β :=
  fun other => if other = path then some node else tree other

/-- Make the directories that are missing among these, one after the other; where that
fails, those before it stay. -/
def mkdirs (allowed : List ν → Bool) (tree : Tree ν β) : List (List ν) → Bool × Tree ν β
  | [] => (true, tree)
  | path :: rest =>
    match tree path with
    | some .directory => mkdirs allowed tree rest
    | some (.file _) => (false, tree)
    | none => if allowed path then mkdirs allowed (tree.set path .directory) rest else (false, tree)

/-- Write a file, with the directories above it. -/
def write (accepts allowed : List ν → Bool) (tree : Tree ν β) (path : List ν) (content : β) : Bool × Tree ν β :=
  if accepts path.dropLast then
    let made := mkdirs allowed tree path.dropLast.inits
    if made.1 && accepts path && allowed path then
      match made.2 path with
      | some .directory => (false, made.2)
      | _ => (true, made.2.set path (.file content))
    else (false, made.2)
  else (false, tree)

def writeAll (accepts allowed : List ν → Bool) (tree : Tree ν β) : List (List ν × β) → Bool × Tree ν β
  | [] => (true, tree)
  | entry :: rest =>
    let written := write accepts allowed tree entry.1 entry.2
    if written.1 then writeAll accepts allowed written.2 rest else written

section Mkdirs

variable {allowed : List ν → Bool}

/-- The directories are made where no file is in the way and every new one is allowed. -/
theorem mkdirs_iff (tree : Tree ν β) (paths : List (List ν)) :
    (mkdirs allowed tree paths).1 = true ↔
      ∀ path ∈ paths, (∀ content, tree path ≠ some (.file content)) ∧ (tree path = none → allowed path = true) := by
  induction paths generalizing tree with
  | nil => simp [mkdirs]
  | cons path rest ih =>
    rw [List.forall_mem_cons]
    unfold mkdirs
    split
    · rename_i hdirectory
      rw [ih]
      simp [hdirectory]
    · rename_i content hfile
      simp [hfile]
    · rename_i hnone
      split
      · rename_i hallowed
        rw [ih]
        have hrest : ∀ other, ((∀ content, tree.set path .directory other ≠ some (.file content)) ∧
              (tree.set path .directory other = none → allowed other = true)) ↔
            (∀ content, tree other ≠ some (.file content)) ∧ (tree other = none → allowed other = true) := by
          intro other
          unfold Tree.set
          split
          · rename_i heq
            subst heq
            simp [hnone, hallowed]
          · exact Iff.rfl
        simp only [hrest, hnone, hallowed, reduceCtorEq, ne_eq, not_false_eq_true, implies_true, and_self, true_and]
      · rename_i hallowed
        simp [hnone, hallowed]

/-- They are added to the tree, and nothing else changes. -/
theorem mkdirs_tree {tree : Tree ν β} {paths : List (List ν)} (hmade : (mkdirs allowed tree paths).1 = true)
    (path : List ν) :
    (mkdirs allowed tree paths).2 path = (tree path).or (if path ∈ paths then some .directory else none) := by
  induction paths generalizing tree with
  | nil => simp [mkdirs]
  | cons first rest ih =>
    unfold mkdirs at hmade ⊢
    split at hmade
    · rename_i hdirectory
      rw [ih hmade]
      by_cases heq : path = first
      · rw [heq, hdirectory]
        rfl
      · simp [heq]
    · cases hmade
    · rename_i hnone
      split at hmade
      · rename_i hallowed
        rw [if_pos hallowed, ih hmade]
        unfold Tree.set
        by_cases heq : path = first
        · rw [if_pos heq, heq, hnone]
          simp
        · simp [heq]
      · cases hmade

end Mkdirs

section Write

variable {accepts allowed : List ν → Bool}

/-- A tree of these files, each of which could be made, and of the directories above them. -/
structure Holds (accepts allowed : List ν → Bool) (tree : Tree ν β) (entries : List (List ν × β)) : Prop where
  file : ∀ path content, tree path = some (.file content) ↔ (path, content) ∈ entries
  directory : ∀ path, tree path = some .directory ↔ path = [] ∨ ∃ entry ∈ entries, path <+: entry.1 ∧ path ≠ entry.1
  creatable : ∀ entry ∈ entries, Creatable accepts allowed entry.1

omit [DecidableEq ν] in
theorem holds_fresh : Holds accepts allowed (fresh : Tree ν β) [] := by
  refine ⟨?_, ?_, ?_⟩
  · intro path content
    cases path <;> simp [fresh]
  · intro path
    cases path <;> simp [fresh]
  · simp

omit [DecidableEq ν] in
theorem prefix_dropLast_iff {path other : List ν} (hpath : path ≠ []) :
    other <+: path.dropLast ↔ other <+: path ∧ other ≠ path := by
  rw [← List.dropLast_append_getLast hpath, List.dropLast_concat, List.prefix_concat_iff]
  constructor
  · intro hother
    refine ⟨.inr hother, ?_⟩
    rintro rfl
    have hlength := hother.length_le
    rw [List.length_append, List.length_singleton] at hlength
    omega
  · rintro ⟨heq | hother, hne⟩
    · exact absurd heq hne
    · exact hother

variable {tree : Tree ν β} {entries : List (List ν × β)}

/-- No new directory has to be made in the place of a file exactly if none of the files is
above the path. -/
theorem Holds.mkdirs_iff (hholds : Holds accepts allowed tree entries) {path : List ν} (hpath : path ≠ []) :
    (mkdirs allowed tree path.dropLast.inits).1 = true ↔
      (∀ entry ∈ entries, ¬ (entry.1 <+: path ∧ entry.1 ≠ path)) ∧
        ∀ above, above ≠ [] → above <+: path → above ≠ path → allowed above = true := by
  rw [filetree.mkdirs_iff]
  simp only [List.mem_inits, prefix_dropLast_iff hpath]
  constructor
  · intro hmade
    constructor
    · intro entry hentry habove
      exact (hmade entry.1 habove).1 entry.2 ((hholds.file _ _).mpr hentry)
    · intro above hnonempty habove hne
      cases hnode : tree above with
      | none => exact (hmade above ⟨habove, hne⟩).2 hnode
      | some node =>
        cases node with
        | file content => exact absurd hnode ((hmade above ⟨habove, hne⟩).1 content)
        | directory =>
          obtain hroot | ⟨entry, hentry, hbelow, _⟩ := (hholds.directory above).mp hnode
          · exact absurd hroot hnonempty
          · exact (hholds.creatable entry hentry).names above hnonempty hbelow
  · rintro ⟨hfree, hnames⟩ above ⟨habove, hne⟩
    constructor
    · intro content hfile
      exact hfree _ ((hholds.file above content).mp hfile) ⟨habove, hne⟩
    · intro hnone
      apply hnames above ?_ habove hne
      rintro rfl
      rw [(hholds.directory []).mpr (.inl rfl)] at hnone
      cases hnone

/-- Making the directories above a path does not touch what is there. -/
theorem mkdirs_above {path : List ν} (hpath : path ≠ [])
    (hmade : (mkdirs allowed tree path.dropLast.inits).1 = true) :
    (mkdirs allowed tree path.dropLast.inits).2 path = tree path := by
  have hself : path ∉ path.dropLast.inits := by
    rw [List.mem_inits, prefix_dropLast_iff hpath]
    exact fun h => h.2 rfl
  rw [mkdirs_tree hmade, if_neg hself, Option.or_none]

omit [DecidableEq ν] in
/-- What is at a path that no file has: a directory only where it leads to a file. -/
theorem Holds.directory_iff (hholds : Holds accepts allowed tree entries) {path : List ν} (hpath : path ≠ [])
    (hnew : path ∉ entries.map Prod.fst) :
    tree path = some .directory ↔ ∃ entry ∈ entries, path <+: entry.1 := by
  rw [hholds.directory]
  constructor
  · rintro (hroot | ⟨entry, hentry, hbelow, _⟩)
    · exact absurd hroot hpath
    · exact ⟨entry, hentry, hbelow⟩
  · rintro ⟨entry, hentry, hbelow⟩
    refine .inr ⟨entry, hentry, hbelow, ?_⟩
    rintro rfl
    exact hnew (List.mem_map_of_mem hentry)

/-- A file whose path can be made and is apart from those of the others is written. -/
theorem Holds.write_eq (hholds : Holds accepts allowed tree entries) {path : List ν} (content : β)
    (hpath : path ≠ []) (hnew : path ∉ entries.map Prod.fst) (hcreatable : Creatable accepts allowed path)
    (hapart : ∀ entry ∈ entries, Apart entry.1 path) :
    (mkdirs allowed tree path.dropLast.inits).1 = true ∧
      filetree.write accepts allowed tree path content =
        (true, (mkdirs allowed tree path.dropLast.inits).2.set path (.file content)) := by
  have hmade : (mkdirs allowed tree path.dropLast.inits).1 = true :=
    (hholds.mkdirs_iff hpath).mpr ⟨fun entry hentry habove => (hapart entry hentry).1 habove.1,
      fun above hnonempty habove _ => hcreatable.names above hnonempty habove⟩
  have hdirectory : tree path ≠ some .directory := by
    rw [ne_eq, hholds.directory_iff hpath hnew]
    rintro ⟨entry, hentry, hbelow⟩
    exact (hapart entry hentry).2 hbelow
  refine ⟨hmade, ?_⟩
  unfold filetree.write
  rw [if_pos hcreatable.parent]
  dsimp only
  rw [if_pos (by simp [hmade, hcreatable.self, hcreatable.names path hpath List.prefix_rfl]),
    mkdirs_above hpath hmade]
  split
  · rename_i hnode
    exact absurd hnode hdirectory
  · rfl

/-- A new file is written exactly if its path can be made and no other file's path leads
through it or is led through by it. -/
theorem Holds.write_iff (hholds : Holds accepts allowed tree entries) {path : List ν} (content : β)
    (hpath : path ≠ []) (hnew : path ∉ entries.map Prod.fst) :
    (filetree.write accepts allowed tree path content).1 = true ↔
      Creatable accepts allowed path ∧ ∀ entry ∈ entries, Apart entry.1 path := by
  have hne : ∀ entry ∈ entries, entry.1 ≠ path := by
    rintro entry hentry rfl
    exact hnew (List.mem_map_of_mem hentry)
  constructor
  · intro hwritten
    unfold filetree.write at hwritten
    split at hwritten
    · rename_i hparent
      dsimp only at hwritten
      split at hwritten
      · rename_i hready
        rw [Bool.and_eq_true, Bool.and_eq_true] at hready
        obtain ⟨⟨hmade, hself⟩, hallowed⟩ := hready
        obtain ⟨hfree, hnames⟩ := (hholds.mkdirs_iff hpath).mp hmade
        rw [mkdirs_above hpath hmade] at hwritten
        split at hwritten
        · cases hwritten
        · rename_i hdirectory
          rw [hholds.directory_iff hpath hnew] at hdirectory
          refine ⟨⟨hparent, hself, ?_⟩, ?_⟩
          · intro above hnonempty habove
            by_cases heq : above = path
            · rw [heq]
              exact hallowed
            · exact hnames above hnonempty habove heq
          · intro entry hentry
            exact ⟨fun habove => hfree entry hentry ⟨habove, hne entry hentry⟩,
              fun hbelow => hdirectory ⟨entry, hentry, hbelow⟩⟩
      · cases hwritten
    · cases hwritten
  · rintro ⟨hcreatable, hapart⟩
    rw [(hholds.write_eq content hpath hnew hcreatable hapart).2]

/-- What a write that succeeds leaves at each path: the file at its own, and a directory
wherever there was nothing above it. -/
theorem Holds.write_apply (hholds : Holds accepts allowed tree entries) {path : List ν} (content : β)
    (hpath : path ≠ []) (hnew : path ∉ entries.map Prod.fst)
    (hwritten : (filetree.write accepts allowed tree path content).1 = true) (other : List ν) :
    (filetree.write accepts allowed tree path content).2 other =
      if other = path then some (.file content)
      else (tree other).or (if other <+: path then some .directory else none) := by
  obtain ⟨hcreatable, hapart⟩ := (hholds.write_iff content hpath hnew).mp hwritten
  obtain ⟨hmade, heq⟩ := hholds.write_eq content hpath hnew hcreatable hapart
  rw [heq]
  dsimp only [Tree.set]
  split
  · rfl
  · rename_i hne
    rw [mkdirs_tree hmade]
    simp only [List.mem_inits, prefix_dropLast_iff hpath, hne, ne_eq, not_false_eq_true, and_true]

/-- The files are then those that were there and the one that was written. -/
theorem Holds.write_file (hholds : Holds accepts allowed tree entries) {path : List ν} (content : β)
    (hpath : path ≠ []) (hnew : path ∉ entries.map Prod.fst)
    (hwritten : (filetree.write accepts allowed tree path content).1 = true) (other : List ν) (content' : β) :
    (filetree.write accepts allowed tree path content).2 other = some (.file content') ↔
      (other, content') ∈ entries ++ [(path, content)] := by
  rw [hholds.write_apply content hpath hnew hwritten, List.mem_append, List.mem_singleton, Prod.mk.injEq]
  split
  · rename_i heq
    subst heq
    have hnone : (other, content') ∉ entries := fun hmem => hnew (List.mem_map.mpr ⟨_, hmem, rfl⟩)
    simp [hnone, eq_comm]
  · rename_i hne
    rw [← hholds.file]
    cases hnode : tree other with
    | none => split <;> simp [hne]
    | some node => simp [hne]

/-- The directories are then those above any of these files. -/
theorem Holds.write_directory (hholds : Holds accepts allowed tree entries) {path : List ν} (content : β)
    (hpath : path ≠ []) (hnew : path ∉ entries.map Prod.fst)
    (hwritten : (filetree.write accepts allowed tree path content).1 = true) (other : List ν) :
    (filetree.write accepts allowed tree path content).2 other = some .directory ↔
      other = [] ∨ ∃ entry ∈ entries ++ [(path, content)], other <+: entry.1 ∧ other ≠ entry.1 := by
  obtain ⟨_, hapart⟩ := (hholds.write_iff content hpath hnew).mp hwritten
  have hexists : (∃ entry ∈ entries ++ [(path, content)], other <+: entry.1 ∧ other ≠ entry.1) ↔
      (∃ entry ∈ entries, other <+: entry.1 ∧ other ≠ entry.1) ∨ (other <+: path ∧ other ≠ path) := by
    simp only [List.mem_append, List.mem_singleton, or_and_right, exists_or, exists_eq_left]
  rw [hholds.write_apply content hpath hnew hwritten, hexists, ← or_assoc, ← hholds.directory]
  split
  · rename_i heq
    subst heq
    refine iff_of_false (by simp) ?_
    rintro (hdirectory | ⟨_, hne⟩)
    · obtain hroot | ⟨entry, hentry, hbelow, _⟩ := (hholds.directory other).mp hdirectory
      · exact hpath hroot
      · exact (hapart entry hentry).2 hbelow
    · exact hne rfl
  · rename_i hne
    cases hnode : tree other with
    | none => simp [hne]
    | some node =>
      cases node with
      | directory => simp
      | file content' =>
        -- A file that is there is not above the new one.
        have hfile := (hholds.file other content').mp hnode
        refine iff_of_false (by simp) ?_
        rintro (hdirectory | ⟨hbelow, _⟩)
        · cases hdirectory
        · exact (hapart _ hfile).1 hbelow

/-- The file is then there as well, and nothing else but the directories above it. -/
theorem Holds.write (hholds : Holds accepts allowed tree entries) {path : List ν} (content : β)
    (hpath : path ≠ []) (hnew : path ∉ entries.map Prod.fst)
    (hwritten : (filetree.write accepts allowed tree path content).1 = true) :
    Holds accepts allowed (filetree.write accepts allowed tree path content).2 (entries ++ [(path, content)]) := by
  refine ⟨hholds.write_file content hpath hnew hwritten, hholds.write_directory content hpath hnew hwritten, ?_⟩
  intro entry hentry
  obtain hentry | hlast := List.mem_append.mp hentry
  · exact hholds.creatable entry hentry
  · rw [List.mem_singleton.mp hlast]
    exact ((hholds.write_iff content hpath hnew).mp hwritten).1

/-- Files are written one after the other exactly if each can be made and they are apart
from each other and from those that are there. -/
theorem Holds.writeAll (hholds : Holds accepts allowed tree entries) {more : List (List ν × β)}
    (hpaths : ∀ entry ∈ more, entry.1 ≠ []) (hnodup : ((entries ++ more).map Prod.fst).Nodup) :
    ((filetree.writeAll accepts allowed tree more).1 = true ↔
      (∀ entry ∈ more, Creatable accepts allowed entry.1) ∧
      (∀ entry ∈ entries, ∀ entry' ∈ more, Apart entry.1 entry'.1) ∧
        more.Pairwise fun entry entry' => Apart entry.1 entry'.1) ∧
    ((filetree.writeAll accepts allowed tree more).1 = true →
      Holds accepts allowed (filetree.writeAll accepts allowed tree more).2 (entries ++ more)) := by
  induction more generalizing tree entries with
  | nil => simp [filetree.writeAll, hholds]
  | cons entry rest ih =>
    obtain ⟨hpath, hpaths⟩ := List.forall_mem_cons.mp hpaths
    have hnew : entry.1 ∉ entries.map Prod.fst := by
      rw [List.map_append, List.map_cons] at hnodup
      intro hmem
      exact (List.nodup_append.mp hnodup).2.2 _ hmem _ List.mem_cons_self rfl
    rw [List.append_cons] at hnodup ⊢
    have hwrite := hholds.write_iff entry.2 hpath hnew
    unfold filetree.writeAll
    dsimp only
    split
    · rename_i hwritten
      obtain ⟨hiff, hkept⟩ := ih (hholds.write entry.2 hpath hnew hwritten) hpaths hnodup
      refine ⟨?_, hkept⟩
      obtain ⟨hcreatable, hapart⟩ := hwrite.mp hwritten
      rw [hiff]
      simp only [List.forall_mem_cons, List.forall_mem_append, List.pairwise_cons, List.not_mem_nil, false_imp_iff,
        implies_true, and_true]
      constructor
      · rintro ⟨hrest, ⟨hearlier, hlater⟩, hpairwise⟩
        exact ⟨⟨hcreatable, hrest⟩, fun earlier hmem => ⟨hapart earlier hmem, hearlier earlier hmem⟩, hlater, hpairwise⟩
      · rintro ⟨⟨_, hrest⟩, hearlier, hlater, hpairwise⟩
        exact ⟨hrest, ⟨fun earlier hmem => (hearlier earlier hmem).2, hlater⟩, hpairwise⟩
    · rename_i hfailed
      refine ⟨⟨fun hwritten => absurd hwritten hfailed, ?_⟩, fun hwritten => absurd hwritten hfailed⟩
      rintro ⟨hcreatable, hapart, _⟩
      exact absurd (hwrite.mpr ⟨hcreatable entry List.mem_cons_self,
        fun earlier hmem => hapart earlier hmem entry List.mem_cons_self⟩) hfailed

end Write

end filetree
