import Mathlib.Data.List.Basic
import Mathlib.Data.List.Infix

namespace linkedtree

/-- A part of a path: a name, the directory itself, or the one above it. -/
inductive Step (ν : Type) where
  | name (name : ν)
  | here
  | up
  deriving DecidableEq

/-- What there is at a location. A link leads on from the root, or from the directory it is in. -/
inductive Node (ν β : Type) where
  | directory
  | file (content : β)
  | link (absolute : Bool) (target : List (Step ν))

def Node.isDirectory {ν β : Type} : Node ν β → Bool
  | .directory => true
  | _ => false

def Node.isFile {ν β : Type} : Node ν β → Bool
  | .file _ => true
  | _ => false

/-- The nodes by their locations, the names on the way from the root. Whatever there is
stands in a directory. A file has one location: there are no second hard links. -/
structure Tree (ν β : Type) where
  node : List ν → Option (Node ν β)
  root : node [] = some .directory
  parent : ∀ location name, (node (location ++ [name])).isSome → node location = some .directory

variable {ν β : Type}

/-- The tree of some directories, among them all those that they are in. -/
def Tree.directories [DecidableEq ν] (locations : List (List ν)) (hroot : [] ∈ locations)
    (habove : ∀ location ∈ locations, location.dropLast ∈ locations) : Tree ν β where
  node location := if location ∈ locations then some .directory else none
  root := if_pos hroot
  parent location name hsome := by
    have hmem : location ++ [name] ∈ locations := by
      by_contra hnot
      rw [if_neg hnot] at hsome
      cases hsome
    have hparent := habove _ hmem
    rw [List.dropLast_concat] at hparent
    exact if_pos hparent

def Tree.isDirectory (tree : Tree ν β) (location : List ν) : Bool := (tree.node location).any Node.isDirectory

theorem Tree.isDirectory_iff {tree : Tree ν β} {location : List ν} :
    tree.isDirectory location = true ↔ tree.node location = some .directory := by
  unfold isDirectory
  cases tree.node location with
  | none => simp
  | some node => cases node <;> simp [Node.isDirectory]

/-- Walk on to the end of the steps, or to the first link, with what is left from there. A
strict walk is that of the system, which steps out of directories only. -/
def advance (tree : Tree ν β) (strict : Bool) :
    List ν → List (Step ν) → Option (List ν ⊕ List ν × List (Step ν))
  | current, [] => some (.inl current)
  | current, step :: rest =>
    if strict && !tree.isDirectory current then none
    else
      match step with
      | .here => advance tree strict current rest
      | .up => advance tree strict current.dropLast rest
      | .name name =>
        match tree.node (current ++ [name]) with
        | some (.link absolute target) => some (.inr (if absolute then [] else current, target ++ rest))
        | _ => advance tree strict (current ++ [name]) rest

/-- The location that steps lead to, through no more than so many links: where links do not
loop, a bound on how many there are is enough for every walk. -/
def follow (tree : Tree ν β) (strict : Bool) : ℕ → List ν → List (Step ν) → Option (List ν)
  | links, current, steps =>
    match advance tree strict current steps with
    | none => none
    | some (.inl location) => some location
    | some (.inr (next, rest)) =>
      match links with
      | 0 => none
      | links + 1 => follow tree strict links next rest

section Walks

variable {tree tree' : Tree ν β} {strict : Bool}

theorem follow_of_end {current location : List ν} {steps : List (Step ν)}
    (hadvance : advance tree strict current steps = some (.inl location)) (links : ℕ) :
    follow tree strict links current steps = some location := by
  unfold follow
  rw [hadvance]

theorem follow_of_link {current next : List ν} {steps rest : List (Step ν)}
    (hadvance : advance tree strict current steps = some (.inr (next, rest))) (links : ℕ) :
    follow tree strict (links + 1) current steps = follow tree strict links next rest := by
  rw [follow, hadvance]

/-- A walk that arrives ends, or goes on from a link with one link less. -/
theorem follow_cases {links : ℕ} {current location : List ν} {steps : List (Step ν)}
    (hfollow : follow tree strict links current steps = some location) :
    advance tree strict current steps = some (.inl location) ∨
      ∃ next rest fewer, advance tree strict current steps = some (.inr (next, rest)) ∧ links = fewer + 1 ∧
        follow tree strict fewer next rest = some location := by
  unfold follow at hfollow
  split at hfollow
  · cases hfollow
  · rename_i hadvance
    rw [Option.some.injEq] at hfollow
    exact .inl (by rw [hadvance, hfollow])
  · rename_i next rest hadvance
    split at hfollow
    · cases hfollow
    · rename_i fewer
      exact .inr ⟨next, rest, fewer, hadvance, rfl, hfollow⟩

/-- With more links allowed a walk arrives where it did. -/
theorem follow_mono {links : ℕ} {current location : List ν} {steps : List (Step ν)}
    (hfollow : follow tree strict links current steps = some location) (more : ℕ) :
    follow tree strict (links + more) current steps = some location := by
  induction links generalizing current steps with
  | zero =>
    obtain hend | ⟨_, _, _, _, hzero, _⟩ := follow_cases hfollow
    · exact follow_of_end hend _
    · omega
  | succ links ih =>
    obtain hend | ⟨next, rest, fewer, hlink, hlinks, hrest⟩ := follow_cases hfollow
    · exact follow_of_end hend _
    · have hfewer : fewer = links := by omega
      subst hfewer
      rw [Nat.add_right_comm, follow_of_link hlink]
      exact ih hrest

/-- Where the system gets to, a walk that is not strict gets to. -/
theorem advance_of_strict {current : List ν} {steps : List (Step ν)} {found : List ν ⊕ List ν × List (Step ν)}
    (hadvance : advance tree true current steps = some found) : advance tree false current steps = some found := by
  induction steps generalizing current with
  | nil => exact hadvance
  | cons step rest ih =>
    unfold advance at hadvance ⊢
    split at hadvance
    · cases hadvance
    · rw [if_neg (by simp)]
      cases step with
      | here => exact ih hadvance
      | up => exact ih hadvance
      | name name =>
        dsimp only at hadvance ⊢
        split at hadvance
        · exact hadvance
        · exact ih hadvance

theorem follow_of_strict {links : ℕ} {current location : List ν} {steps : List (Step ν)}
    (hfollow : follow tree true links current steps = some location) :
    follow tree false links current steps = some location := by
  induction links generalizing current steps with
  | zero =>
    obtain hend | ⟨_, _, _, _, hzero, _⟩ := follow_cases hfollow
    · exact follow_of_end (advance_of_strict hend) _
    · omega
  | succ links ih =>
    obtain hend | ⟨next, rest, fewer, hlink, hlinks, hrest⟩ := follow_cases hfollow
    · exact follow_of_end (advance_of_strict hend) _
    · have hfewer : fewer = links := by omega
      subst hfewer
      rw [follow_of_link (advance_of_strict hlink)]
      exact ih hrest

/-- Two trees have the same links. -/
def SameLinks (tree tree' : Tree ν β) : Prop :=
  ∀ location absolute target, tree.node location = some (.link absolute target) ↔
    tree'.node location = some (.link absolute target)

theorem SameLinks.refl (tree : Tree ν β) : SameLinks tree tree := fun _ _ _ => Iff.rfl

theorem SameLinks.trans {tree'' : Tree ν β} (hfirst : SameLinks tree tree') (hsecond : SameLinks tree' tree'') :
    SameLinks tree tree'' := fun location absolute target =>
  (hfirst location absolute target).trans (hsecond location absolute target)

/-- A walk that is not strict depends on the links only. -/
theorem advance_congr (hlinks : SameLinks tree tree') (current : List ν) (steps : List (Step ν)) :
    advance tree false current steps = advance tree' false current steps := by
  induction steps generalizing current with
  | nil => rfl
  | cons step rest ih =>
    unfold advance
    rw [if_neg (by simp), if_neg (by simp)]
    cases step with
    | here => exact ih current
    | up => exact ih current.dropLast
    | name name =>
      dsimp only
      split
      · rename_i absolute target hlink
        rw [(hlinks _ _ _).mp hlink]
      · rename_i hother
        split
        · rename_i absolute target hlink
          exact absurd ((hlinks _ _ _).mpr hlink) (hother absolute target)
        · exact ih (current ++ [name])

theorem follow_congr (hlinks : SameLinks tree tree') (links : ℕ) (current : List ν) (steps : List (Step ν)) :
    follow tree false links current steps = follow tree' false links current steps := by
  induction links generalizing current steps with
  | zero => rw [follow, follow, advance_congr hlinks]
  | succ links ih =>
    rw [follow, follow, advance_congr hlinks]
    split
    · rfl
    · rfl
    · exact ih _ _

/-- Whoever arrives, within whatever bounds, arrives at one place. -/
theorem follow_unique {links links' : ℕ} {steps : List (Step ν)} {current location location' : List ν}
    (hfirst : follow tree strict links current steps = some location)
    (hsecond : follow tree strict links' current steps = some location') : location = location' := by
  have hfirst := follow_mono hfirst links'
  have hsecond := follow_mono hsecond links
  rw [Nat.add_comm, hfirst, Option.some.injEq] at hsecond
  exact hsecond

theorem advance_append (current : List ν) (steps rest : List (Step ν)) :
    advance tree strict current (steps ++ rest) =
      match advance tree strict current steps with
      | none => none
      | some (.inl location) => advance tree strict location rest
      | some (.inr (next, others)) => some (.inr (next, others ++ rest)) := by
  induction steps generalizing current with
  | nil => rfl
  | cons step steps ih =>
    simp only [List.cons_append, advance]
    split
    · rfl
    · cases step with
      | here => exact ih current
      | up => exact ih current.dropLast
      | name name =>
        dsimp only
        split
        · rw [← List.append_assoc]
        · exact ih (current ++ [name])

/-- A walk goes on from where its first part arrives. -/
theorem follow_append {links : ℕ} {current location : List ν} {steps : List (Step ν)}
    (hfollow : follow tree strict links current steps = some location) (rest : List (Step ν)) :
    ∃ fewer, follow tree strict links current (steps ++ rest) = follow tree strict fewer location rest := by
  induction links generalizing current steps with
  | zero =>
    obtain hend | ⟨_, _, _, _, hzero, _⟩ := follow_cases hfollow
    · refine ⟨0, ?_⟩
      rw [follow, follow, advance_append, hend]
    · omega
  | succ links ih =>
    obtain hend | ⟨next, others, fewer, hlink, hlinks, hothers⟩ := follow_cases hfollow
    · refine ⟨links + 1, ?_⟩
      rw [follow, follow, advance_append, hend]
    · have hfewer : fewer = links := by omega
      subst hfewer
      obtain ⟨last, hlast⟩ := ih hothers
      refine ⟨last, ?_⟩
      rw [← hlast]
      apply follow_of_link
      rw [advance_append, hlink]

/-- Nothing stands below what is missing. -/
theorem node_below {location : List ν} (hnone : tree.node location = none) (name : ν) :
    tree.node (location ++ [name]) = none := by
  by_contra hsome
  have hparent := tree.parent location name (Option.isSome_iff_ne_none.mpr hsome)
  rw [hnone] at hparent
  cases hparent

/-- From what is missing, steps that do not lead up lead further down. -/
theorem advance_below {location : List ν} (hnone : tree.node location = none) {steps : List (Step ν)}
    (hdown : .up ∉ steps) : ∃ more, advance tree false location steps = some (.inl (location ++ more)) := by
  induction steps generalizing location with
  | nil => exact ⟨[], by rw [advance, List.append_nil]⟩
  | cons step rest ih =>
    rw [List.mem_cons, not_or] at hdown
    obtain ⟨hstep, hrest⟩ := hdown
    simp only [advance, Bool.false_and, Bool.false_eq_true, if_false]
    cases step with
    | here => exact ih hnone hrest
    | up => exact absurd rfl hstep
    | name name =>
      have hbelow := node_below hnone name
      obtain ⟨more, hmore⟩ := ih hbelow hrest
      refine ⟨name :: more, ?_⟩
      dsimp only
      rw [hbelow]
      dsimp only
      rw [hmore, List.append_assoc, List.singleton_append]

/-- What stands has something above it all the way. -/
theorem node_above {above : List ν} {more : List ν} (hsome : (tree.node (above ++ more)).isSome) :
    (tree.node above).isSome := by
  induction more using List.reverseRecOn with
  | nil => rwa [List.append_nil] at hsome
  | append_singleton more name ih =>
    rw [← List.append_assoc] at hsome
    apply ih
    rw [tree.parent _ _ hsome]
    rfl

end Walks

section Changes

variable (tree : Tree ν β)

/-- Something that is no link and has nothing below it can be put at a location. -/
def Tree.placeable (location : List ν) : Bool :=
  location ≠ [] && tree.isDirectory location.dropLast && (tree.node location).all Node.isFile

theorem Tree.placeable_iff {location : List ν} : tree.placeable location = true ↔
    location ≠ [] ∧ tree.node location.dropLast = some .directory ∧
      ∀ node, tree.node location = some node → node.isFile = true := by
  unfold placeable
  rw [Bool.and_eq_true, Bool.and_eq_true, decide_eq_true_eq, isDirectory_iff, Option.all_eq_true, and_assoc]

variable {tree' : Tree ν β}

/-- Links are neither made nor lost, directories stay, and where it is not inside nothing
changes, but for new directories if these may stray. -/
structure Confined (stray : Prop) (inside : List ν → Prop) (tree tree' : Tree ν β) : Prop where
  links : SameLinks tree tree'
  directories : ∀ location, tree.node location = some .directory → tree'.node location = some .directory
  outside : ∀ location, ¬ inside location → tree'.node location = tree.node location ∨
    stray ∧ tree.node location = none ∧ tree'.node location = some .directory

variable {stray : Prop} {inside : List ν → Prop}

theorem Confined.refl : Confined stray inside tree tree := ⟨.refl tree, fun _ => id, fun _ _ => .inl rfl⟩

variable {tree} in
theorem Confined.trans {tree'' : Tree ν β} (hfirst : Confined stray inside tree tree')
    (hsecond : Confined stray inside tree' tree'') : Confined stray inside tree tree'' := by
  refine ⟨hfirst.links.trans hsecond.links, fun location hdirectory => ?_, fun location houtside => ?_⟩
  · exact hsecond.directories location (hfirst.directories location hdirectory)
  · obtain hsame | ⟨hstray, hnone, hdirectory⟩ := hfirst.outside location houtside
    · rw [← hsame]
      exact hsecond.outside location houtside
    · exact .inr ⟨hstray, hnone, hsecond.directories location hdirectory⟩

variable [DecidableEq ν]

theorem parent_place {location : List ν} (hplace : tree.placeable location = true) (node : Node ν β)
    (above : List ν) (name : ν)
    (hsome : (if above ++ [name] = location then some node else tree.node (above ++ [name])).isSome) :
    (if above = location then some node else tree.node above) = some .directory := by
  obtain ⟨hne, hparent, hfile⟩ := tree.placeable_iff.mp hplace
  split at hsome
  · rename_i heq
    subst heq
    rw [List.dropLast_concat] at hparent
    rw [if_neg (by simp), hparent]
  · have habove := tree.parent above name hsome
    rw [if_neg, habove]
    rintro rfl
    exact absurd (hfile _ habove) (by simp [Node.isFile])

/-- Put a node where it can be put. -/
def Tree.place (location : List ν) (node : Node ν β) : Option (Tree ν β) :=
  if hplace : tree.placeable location = true then
    some {
      node := fun other => if other = location then some node else tree.node other
      root := by rw [if_neg (Ne.symm (tree.placeable_iff.mp hplace).1), tree.root]
      parent := parent_place tree hplace node }
  else none

variable {tree}

theorem place_eq_some {location : List ν} {node : Node ν β} (hplace : tree.place location node = some tree') :
    tree.placeable location = true ∧
      ∀ other, tree'.node other = if other = location then some node else tree.node other := by
  unfold Tree.place at hplace
  split at hplace
  · rename_i hplaceable
    rw [Option.some.injEq] at hplace
    subst hplace
    exact ⟨hplaceable, fun _ => rfl⟩
  · cases hplace

/-- What is put inside, and is no link, is confined. So is a new directory that may stray. -/
theorem confined_place {location : List ν} {node : Node ν β} (hnode : ∀ absolute target, node ≠ .link absolute target)
    (hplace : tree.place location node = some tree')
    (hinside : inside location ∨ stray ∧ tree.node location = none ∧ node = .directory) :
    Confined stray inside tree tree' := by
  obtain ⟨hplaceable, hafter⟩ := place_eq_some hplace
  obtain ⟨_, _, hfile⟩ := tree.placeable_iff.mp hplaceable
  refine ⟨fun other absolute target => ?_, fun other hdirectory => ?_, fun other houtside => ?_⟩
  · rw [hafter]
    split
    · rename_i heq
      subst heq
      constructor
      · intro hlink
        exact absurd (hfile _ hlink) (by simp [Node.isFile])
      · intro hlink
        exact absurd (Option.some.inj hlink) (hnode absolute target)
    · exact Iff.rfl
  · rw [hafter, if_neg]
    · exact hdirectory
    · rintro rfl
      exact absurd (hfile _ hdirectory) (by simp [Node.isFile])
  · rw [hafter]
    split
    · rename_i heq
      subst heq
      obtain hinside | ⟨hstray, hnone, rfl⟩ := hinside
      · exact absurd hinside houtside
      · exact .inr ⟨hstray, hnone, rfl⟩
    · exact .inl rfl

end Changes

/-! The calls of the system. -/

inductive Errno where
  | file_exists
  | os_error
  deriving DecidableEq, Repr

section Calls

variable [DecidableEq ν] (links : ℕ) (tree : Tree ν β)

/-- Whether there is anything where the steps lead. -/
def path_exists (steps : List (Step ν)) : Bool :=
  match follow tree true links [] steps with
  | some location => (tree.node location).isSome
  | none => false

def is_dir (steps : List (Step ν)) : Bool := (follow tree true links [] steps).any tree.isDirectory

/-- A directory is made under its last name, which is not followed. -/
def mkdir (steps : List (Step ν)) : Except Errno (Tree ν β) :=
  match follow tree true links [] steps.dropLast with
  | none => .error .os_error
  | some above =>
    if !tree.isDirectory above then .error .os_error
    else
      match steps.getLast? with
      | some (.name name) =>
        if (tree.node (above ++ [name])).isSome then .error .file_exists
        else
          match tree.place (above ++ [name]) .directory with
          | some after => .ok after
          | none => .error .os_error
      | _ => .error .file_exists

/-- A file is opened to be written and is given its content. -/
def write_file (steps : List (Step ν)) (content : β) : Except Errno (Tree ν β) :=
  match follow tree true links [] steps with
  | none => .error .os_error
  | some location =>
    match tree.place location (.file content) with
    | some after => .ok after
    | none => .error .os_error

variable {links tree} {tree' : Tree ν β} {stray : Prop}

/-- A directory that is made was missing, under the last of the steps. -/
theorem mkdir_eq_ok {steps : List (Step ν)} (hmkdir : mkdir links tree steps = .ok tree') :
    ∃ above name, follow tree true links [] steps.dropLast = some above ∧ steps.getLast? = some (.name name) ∧
      tree.node (above ++ [name]) = none ∧ tree.place (above ++ [name]) .directory = some tree' := by
  unfold mkdir at hmkdir
  split at hmkdir
  · cases hmkdir
  · rename_i above habove
    split at hmkdir
    · cases hmkdir
    · split at hmkdir
      · rename_i name hlast
        split at hmkdir
        · cases hmkdir
        · rename_i hnew
          split at hmkdir
          · rename_i after hplace
            rw [Except.ok.injEq] at hmkdir
            subst hmkdir
            exact ⟨above, name, habove, hlast, Option.not_isSome_iff_eq_none.mp hnew, hplace⟩
          · cases hmkdir
      · cases hmkdir

theorem write_file_eq_ok {steps : List (Step ν)} {content : β}
    (hwrite : write_file links tree steps content = .ok tree') :
    ∃ location, follow tree true links [] steps = some location ∧ tree.place location (.file content) = some tree' := by
  unfold write_file at hwrite
  split at hwrite
  · cases hwrite
  · rename_i location hlocation
    split at hwrite
    · rename_i after hplace
      rw [Except.ok.injEq] at hwrite
      subst hwrite
      exact ⟨location, hlocation, hplace⟩
    · cases hwrite

omit [DecidableEq ν] in
/-- What a file at a location holds. -/
def Tree.file (tree : Tree ν β) (location : List ν) : Option β :=
  match tree.node location with
  | some (.file content) => some content
  | _ => none

theorem mkdir_file {steps : List (Step ν)} (hmkdir : mkdir links tree steps = .ok tree') (location : List ν) :
    tree'.file location = tree.file location := by
  obtain ⟨above, name, _, _, hnone, hplace⟩ := mkdir_eq_ok hmkdir
  unfold Tree.file
  rw [(place_eq_some hplace).2]
  by_cases heq : location = above ++ [name]
  · rw [if_pos heq, heq, hnone]
  · rw [if_neg heq]

theorem write_file_file {limit : ℕ} {steps : List (Step ν)} {content : β} {target : List ν}
    (hwrite : write_file links tree steps content = .ok tree')
    (htarget : follow tree false limit [] steps = some target)
    (location : List ν) : tree'.file location = if location = target then some content else tree.file location := by
  obtain ⟨written, hwritten, hplace⟩ := write_file_eq_ok hwrite
  have heq := follow_unique (follow_of_strict hwritten) htarget
  subst heq
  unfold Tree.file
  rw [(place_eq_some hplace).2]
  by_cases heq : location = written
  · rw [if_pos heq, if_pos heq]
  · rw [if_neg heq, if_neg heq]

/-- Steps lead below a directory, by whoever follows them. -/
def Leads (tree : Tree ν β) (limit : ℕ) (destination : List ν) (steps : List (Step ν)) : Prop :=
  ∃ target, follow tree false limit [] steps = some target ∧ destination <+: target

omit [DecidableEq ν] in
theorem Leads.congr {limit : ℕ} {destination : List ν} {steps : List (Step ν)}
    (hleads : Leads tree limit destination steps) (hlinks : SameLinks tree tree') :
    Leads tree' limit destination steps := by
  obtain ⟨target, htarget, hbelow⟩ := hleads
  exact ⟨target, (follow_congr hlinks limit [] steps).symm.trans htarget, hbelow⟩

/-- A file whose steps lead below a directory is written there. -/
theorem write_file_confined {limit : ℕ} {destination : List ν} {steps : List (Step ν)} {content : β}
    (hleads : Leads tree limit destination steps) (hwrite : write_file links tree steps content = .ok tree') :
    Confined stray (destination <+: ·) tree tree' := by
  obtain ⟨location, hlocation, hplace⟩ := write_file_eq_ok hwrite
  obtain ⟨target, htarget, hbelow⟩ := hleads
  have heq := follow_unique (follow_of_strict hlocation) htarget
  subst heq
  exact confined_place (by simp) hplace (.inl hbelow)

/-- On the way to below a directory that stands no other directory is missing, unless the
way leads up again. -/
theorem mkdir_confined {limit : ℕ} {destination : List ν} {steps rest : List (Step ν)}
    (hmkdir : mkdir links tree steps = .ok tree')
    (hsafe : stray ∨ .up ∉ rest ∧ tree.node destination = some .directory ∧
      Leads tree limit destination (steps ++ rest)) :
    Confined stray (destination <+: ·) tree tree' := by
  obtain ⟨above, name, habove, hlast, hnone, hplace⟩ := mkdir_eq_ok hmkdir
  refine confined_place (by simp) hplace ?_
  obtain hstray | ⟨hdown, hdirectory, target, htarget, hbelow⟩ := hsafe
  · exact .inr ⟨hstray, hnone, rfl⟩
  · left
    have hsteps : steps ++ rest = steps.dropLast ++ (.name name :: rest) := by
      obtain ⟨others, rfl⟩ := List.getLast?_eq_some_iff.mp hlast
      simp
    obtain ⟨fewer, hfewer⟩ := follow_append (follow_of_strict habove) (.name name :: rest)
    obtain ⟨more, hmore⟩ := advance_below hnone hdown
    have hadvance : advance tree false above (.name name :: rest) = some (.inl (above ++ [name] ++ more)) := by
      rw [advance, if_neg (by simp), hnone]
      exact hmore
    have hfound : follow tree false links [] (steps ++ rest) = some (above ++ [name] ++ more) := by
      rw [hsteps, hfewer, follow_of_end hadvance]
    have heq := follow_unique hfound htarget
    subst heq
    obtain hbelow | habove := List.prefix_or_prefix_of_prefix hbelow (List.prefix_append (above ++ [name]) more)
    · exact hbelow
    · obtain ⟨others, hothers⟩ := habove
      have hstands : (tree.node (above ++ [name] ++ others)).isSome := by
        rw [hothers, hdirectory]
        rfl
      have hsome := node_above hstands
      rw [hnone] at hsome
      cases hsome

end Calls

end linkedtree
