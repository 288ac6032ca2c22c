import KvMaterialization.LinkedTree
import KvMaterialization.Python.Result

open linkedtree

namespace rebuild_g0_release

variable {β : Type}

/-- The steps of a path, which are divided by slashes. -/
def steps (text : String) : List (Step String) :=
  (((text.toList.splitOn '/').map String.ofList).filter (· ≠ "")).map fun part =>
    if part = "." then .here else if part = ".." then .up else .name part

/-- `os.path.join(destination, name)`: an absolute name takes the place of the destination. -/
def joined (destination : List String) (name : String) : List (Step String) :=
  if name.toList.head? = some '/' then steps name else destination.map .name ++ steps name

inductive Kind where
  | regular
  | directory
  | symbolic_link
  | hard_link
  | device
  deriving DecidableEq, Repr

/-- `member.issym() or member.islnk() or member.isdev()` -/
def Kind.refused : Kind → Bool
  | .regular | .directory => false
  | .symbolic_link | .hard_link | .device => true

theorem Kind.refused_eq_false {kind : Kind} : kind.refused = false ↔ kind = .regular ∨ kind = .directory := by
  cases kind <;> simp [refused]

/-- `tarfile.TarInfo`, with what can be read of it. -/
structure Member (β : Type) where
  name : String
  kind : Kind
  content : β

inductive Failure where
  | value_error (message : String)
  | runtime_error
  | os_error (errno : Errno)
  deriving DecidableEq, Repr

section Extraction

-- What the system follows before it gives up, and what `tarfile` does with members of
-- the kinds that are refused before anything is extracted.
variable (links : ℕ) (exist_ok : Bool)
  (makeother : Member β → List (Step String) → Tree String β → Option Errno × Tree String β)

/-- The last step of `os.makedirs`. -/
def made (path : List (Step String)) (tree : Tree String β) : Option Errno × Tree String β :=
  match mkdir links tree path with
  | .ok after => (none, after)
  | .error error => if exist_ok && is_dir links tree path then (none, tree) else (some error, tree)

/-- `os.makedirs(path, exist_ok=exist_ok)`, of the steps of the path from the last to the first. -/
def makedirs : List (Step String) → Tree String β → Option Errno × Tree String β
  | [], tree => made links exist_ok [] tree
  | tail :: head, tree =>
    if path_exists links tree head.reverse then made links exist_ok (tail :: head).reverse tree
    else
      match makedirs head tree with
      | (some .os_error, tree) => (some .os_error, tree)
      | (_, tree) => if tail = .here then (none, tree) else made links exist_ok (tail :: head).reverse tree

def make_upperdirs (upperdirs : List (Step String)) (tree : Tree String β) : Option Errno × Tree String β :=
  if path_exists links tree upperdirs then (none, tree) else makedirs links exist_ok upperdirs.reverse tree

/-- `makefile`, `makedir` and the others of `tarfile.TarFile` -/
def make_member (member : Member β) (targetpath : List (Step String)) (tree : Tree String β) :
    Option Errno × Tree String β :=
  match member.kind with
  | .regular =>
    match write_file links tree targetpath member.content with
    | .ok after => (none, after)
    | .error error => (some error, tree)
  | .directory =>
    match mkdir links tree targetpath with
    | .ok after => (none, after)
    | .error .file_exists => if is_dir links tree targetpath then (none, tree) else (some .file_exists, tree)
    | .error .os_error => (some .os_error, tree)
  | _ => makeother member targetpath tree

/-- `bundle._extract_member(member, targetpath)`. The text of a path without steps is empty. -/
def extract_member (member : Member β) (targetpath : List (Step String)) (tree : Tree String β) :
    Option Errno × Tree String β :=
  if targetpath = [] then (some .os_error, tree)
  else
    match make_upperdirs links exist_ok targetpath.dropLast tree with
    | (some error, tree) => (some error, tree)
    | (none, tree) => make_member links makeother member targetpath tree

/-- `bundle.extractall(destination)`, which the first error ends. -/
def extractall (destination : List String) : List (Member β) → Tree String β → Option Errno × Tree String β
  | [], tree => (none, tree)
  | member :: members, tree =>
    match extract_member links exist_ok makeother member (joined destination member.name) tree with
    | (some error, tree) => (some error, tree)
    | (none, tree) => extractall destination members tree

/-- The checks of a member. A path that leads through more links than the limit is a loop, and
an error; the source resolves one that goes on with `..` by its text, so the trees that are
meant have no loops of links. -/
def check_member (limit : ℕ) (tree : Tree String β) (destination : List String) (member : Member β) :
    Except Failure Unit :=
  if member.kind.refused then .error (.value_error ("unsafe archive member type: " ++ member.name))
  else
    match follow tree false limit [] (joined destination member.name) with
    | none => .error .runtime_error
    | some target =>
      if destination <+: target then .ok ()
      else .error (.value_error ("archive path escapes destination: " ++ member.name))

def safe_extract (limit : ℕ) (members : List (Member β)) (path : List (Step String)) (tree : Tree String β) :
    Except Failure Unit × Tree String β :=
  match follow tree false limit [] path with
  | none => (.error .runtime_error, tree)
  | some destination =>
    match members.forM (check_member limit tree destination) with
    | .error error => (.error error, tree)
    | .ok () =>
      match extractall links exist_ok makeother destination members tree with
      | (some error, tree) => (.error (.os_error error), tree)
      | (none, tree) => (.ok (), tree)

end Extraction

section Confinement

variable (links : ℕ) (exist_ok : Bool)
  (makeother : Member β → List (Step String) → Tree String β → Option Errno × Tree String β)
  {limit : ℕ} {stray : Prop} {tree tree' : Tree String β} {destination : List String}

/-- Directories on a path are made below the destination, or may be made anywhere. -/
def Safe (stray : Prop) (limit : ℕ) (destination : List String) (tree : Tree String β) (path : List (Step String)) :
    Prop :=
  stray ∨ .up ∉ path ∧ tree.node destination = some .directory ∧ Leads tree limit destination path

theorem Safe.congr {path : List (Step String)} (hsafe : Safe stray limit destination tree path)
    (hconfined : Confined stray (destination <+: ·) tree tree') : Safe stray limit destination tree' path := by
  obtain hstray | ⟨hdown, hdirectory, hleads⟩ := hsafe
  · exact .inl hstray
  · exact .inr ⟨hdown, hconfined.directories _ hdirectory, hleads.congr hconfined.links⟩

theorem made_confined {path rest : List (Step String)} (hsafe : Safe stray limit destination tree (path ++ rest)) :
    Confined stray (destination <+: ·) tree (made links exist_ok path tree).2 := by
  unfold made
  split
  · rename_i after hmkdir
    have hrest : stray ∨ .up ∉ rest ∧ tree.node destination = some .directory ∧
        Leads tree limit destination (path ++ rest) := by
      obtain hstray | ⟨hdown, hdirectory, hleads⟩ := hsafe
      · exact .inl hstray
      · exact .inr ⟨fun hup => hdown (List.mem_append_right _ hup), hdirectory, hleads⟩
    exact mkdir_confined hmkdir hrest
  · split
    · exact .refl tree
    · exact .refl tree

theorem makedirs_confined {path rest : List (Step String)}
    (hsafe : Safe stray limit destination tree (path.reverse ++ rest)) :
    Confined stray (destination <+: ·) tree (makedirs links exist_ok path tree).2 := by
  induction path generalizing rest with
  | nil => exact made_confined links exist_ok hsafe
  | cons tail head ih =>
    have hinner : Safe stray limit destination tree (head.reverse ++ (tail :: rest)) := by
      rwa [List.reverse_cons, List.append_assoc] at hsafe
    have hhead := ih hinner
    rw [makedirs]
    split
    · exact made_confined links exist_ok hsafe
    · split
      · rename_i after hmade
        rw [hmade] at hhead
        exact hhead
      · rename_i error after hmade
        rw [hmade] at hhead
        split
        · exact hhead
        · exact hhead.trans (made_confined links exist_ok (hsafe.congr hhead))

theorem make_upperdirs_confined {targetpath : List (Step String)} (hne : targetpath ≠ [])
    (hsafe : Safe stray limit destination tree targetpath) :
    Confined stray (destination <+: ·) tree (make_upperdirs links exist_ok targetpath.dropLast tree).2 := by
  unfold make_upperdirs
  split
  · exact .refl tree
  · have hpath : Safe stray limit destination tree
        (targetpath.dropLast.reverse.reverse ++ [targetpath.getLast hne]) := by
      rwa [List.reverse_reverse, List.dropLast_append_getLast hne]
    exact makedirs_confined links exist_ok hpath

theorem make_member_confined {member : Member β} {targetpath : List (Step String)}
    (hkind : member.kind.refused = false) (hsafe : Safe stray limit destination tree targetpath)
    (hleads : Leads tree limit destination targetpath) :
    Confined stray (destination <+: ·) tree (make_member links makeother member targetpath tree).2 := by
  unfold make_member
  obtain hmember | hmember := Kind.refused_eq_false.mp hkind
  · rw [hmember]
    dsimp only
    split
    · rename_i after hwrite
      exact write_file_confined hleads hwrite
    · exact .refl tree
  · rw [hmember]
    dsimp only
    split
    · rename_i after hmkdir
      have hrest : stray ∨ .up ∉ ([] : List (Step String)) ∧ tree.node destination = some .directory ∧
          Leads tree limit destination (targetpath ++ []) := by
        rw [List.append_nil]
        obtain hstray | ⟨_, hbelow⟩ := hsafe
        · exact .inl hstray
        · exact .inr ⟨List.not_mem_nil, hbelow⟩
      exact mkdir_confined hmkdir hrest
    · split
      · exact .refl tree
      · exact .refl tree
    · exact .refl tree

theorem extract_member_confined {member : Member β} {targetpath : List (Step String)}
    (hkind : member.kind.refused = false) (hsafe : Safe stray limit destination tree targetpath)
    (hleads : Leads tree limit destination targetpath) :
    Confined stray (destination <+: ·) tree (extract_member links exist_ok makeother member targetpath tree).2 := by
  unfold extract_member
  split
  · exact .refl tree
  · rename_i hne
    have hupper := make_upperdirs_confined links exist_ok hne hsafe
    split
    · rename_i error after hmade
      rwa [hmade] at hupper
    · rename_i after hmade
      rw [hmade] at hupper
      exact hupper.trans (make_member_confined links makeother hkind (hsafe.congr hupper) (hleads.congr hupper.links))

/-- What the checks of a member have found. -/
structure Checked (limit : ℕ) (tree : Tree String β) (destination : List String) (member : Member β) : Prop where
  kind : member.kind.refused = false
  leads : Leads tree limit destination (joined destination member.name)

theorem check_member_eq_ok {member : Member β} :
    check_member limit tree destination member = .ok () ↔ Checked limit tree destination member := by
  unfold check_member
  constructor
  · intro hcheck
    split at hcheck
    · cases hcheck
    · rename_i hkind
      split at hcheck
      · cases hcheck
      · rename_i target htarget
        split at hcheck
        · rename_i hbelow
          exact ⟨eq_false_of_ne_true hkind, target, htarget, hbelow⟩
        · cases hcheck
  · rintro ⟨hkind, target, htarget, hbelow⟩
    rw [hkind, if_neg Bool.false_ne_true, htarget]
    exact if_pos hbelow

theorem forM_check_eq_ok {members : List (Member β)} :
    members.forM (check_member limit tree destination) = .ok () ↔
      ∀ member ∈ members, Checked limit tree destination member := by
  induction members with
  | nil => simp [pure, Except.pure]
  | cons member members ih =>
    rw [List.forM, List.forall_mem_cons, ← ih, ← check_member_eq_ok, python.bind_eq_ok_iff]
    constructor
    · rintro ⟨_, hmember, hmembers⟩
      exact ⟨hmember, hmembers⟩
    · rintro ⟨hmember, hmembers⟩
      exact ⟨(), hmember, hmembers⟩

theorem extractall_confined {members : List (Member β)}
    (hchecked : ∀ member ∈ members, Checked limit tree destination member)
    (hsafe : ∀ member ∈ members, Safe stray limit destination tree (joined destination member.name)) :
    Confined stray (destination <+: ·) tree (extractall links exist_ok makeother destination members tree).2 := by
  induction members generalizing tree with
  | nil => exact .refl tree
  | cons member members ih =>
    rw [List.forall_mem_cons] at hchecked hsafe
    have hmember := extract_member_confined links exist_ok makeother hchecked.1.kind hsafe.1 hchecked.1.leads
    rw [extractall]
    split
    · rename_i error after hextract
      rwa [hextract] at hmember
    · rename_i after hextract
      rw [hextract] at hmember
      refine hmember.trans (ih (fun other hother => ?_) fun other hother => ?_)
      · have hother := hchecked.2 other hother
        exact ⟨hother.kind, hother.leads.congr hmember.links⟩
      · exact (hsafe.2 other hother).congr hmember

theorem up_mem_joined {name : String} (hup : .up ∈ joined destination name) : .up ∈ steps name := by
  unfold joined at hup
  split at hup
  · exact hup
  · obtain hdestination | hname := List.mem_append.mp hup
    · obtain ⟨_, _, heq⟩ := List.mem_map.mp hdestination
      cases heq
    · exact hname

end Confinement

section Files

variable (links : ℕ) (exist_ok : Bool)
  (makeother : Member β → List (Step String) → Tree String β → Option Errno × Tree String β)
  {limit : ℕ} {tree tree' : Tree String β} {destination : List String}

theorem made_file (path : List (Step String)) (location : List String) :
    (made links exist_ok path tree).2.file location = tree.file location := by
  unfold made
  split
  · rename_i after hmkdir
    exact mkdir_file hmkdir location
  · split
    · rfl
    · rfl

theorem makedirs_file (path : List (Step String)) (location : List String) :
    (makedirs links exist_ok path tree).2.file location = tree.file location := by
  induction path with
  | nil => exact made_file links exist_ok [] location
  | cons tail head ih =>
    rw [makedirs]
    split
    · exact made_file links exist_ok _ location
    · split
      · rename_i after hmade
        rwa [hmade] at ih
      · rename_i error after hmade
        rw [hmade] at ih
        split
        · exact ih
        · exact (made_file links exist_ok _ location).trans ih

variable (tree) in
theorem make_upperdirs_file (upperdirs : List (Step String)) (location : List String) :
    (make_upperdirs links exist_ok upperdirs tree).2.file location = tree.file location := by
  unfold make_upperdirs
  split
  · rfl
  · exact makedirs_file links exist_ok _ location

/-- Whether a member is a file that is written at a location. -/
def writes (limit : ℕ) (tree : Tree String β) (destination location : List String) (member : Member β) : Bool :=
  member.kind = .regular && follow tree false limit [] (joined destination member.name) = some location

theorem make_member_file {member : Member β} {targetpath : List (Step String)} {target : List String}
    (hkind : member.kind.refused = false) (htarget : follow tree false limit [] targetpath = some target)
    (hmake : make_member links makeother member targetpath tree = (none, tree')) (location : List String) :
    tree'.file location = if member.kind = .regular ∧ target = location then some member.content
      else tree.file location := by
  unfold make_member at hmake
  obtain hmember | hmember := Kind.refused_eq_false.mp hkind
  · rw [hmember] at hmake ⊢
    dsimp only at hmake
    split at hmake
    · rename_i after hwrite
      cases hmake
      rw [write_file_file hwrite htarget]
      by_cases heq : location = target
      · rw [if_pos heq, if_pos ⟨rfl, heq.symm⟩]
      · rw [if_neg heq, if_neg fun h => heq h.2.symm]
    · cases hmake
  · rw [hmember] at hmake ⊢
    rw [if_neg (by simp)]
    dsimp only at hmake
    split at hmake
    · rename_i after hmkdir
      cases hmake
      exact mkdir_file hmkdir location
    · split at hmake
      · cases hmake
        rfl
      · cases hmake
    · cases hmake

theorem extract_member_file {member : Member β} (hchecked : Checked limit tree destination member)
    (hextract : extract_member links exist_ok makeother member (joined destination member.name) tree = (none, tree'))
    (location : List String) :
    SameLinks tree tree' ∧ tree'.file location = if writes limit tree destination location member = true then
      some member.content else tree.file location := by
  have hconfined : Confined True (destination <+: ·) tree
      (extract_member links exist_ok makeother member (joined destination member.name) tree).2 :=
    extract_member_confined links exist_ok makeother hchecked.kind (.inl trivial) hchecked.leads
  rw [hextract] at hconfined
  refine ⟨hconfined.links, ?_⟩
  obtain ⟨hkind, target, htarget, _⟩ := hchecked
  have hwrites : writes limit tree destination location member = true ↔ member.kind = .regular ∧ target = location := by
    unfold writes
    rw [Bool.and_eq_true, decide_eq_true_eq, decide_eq_true_eq, htarget, Option.some.injEq]
  rw [if_congr hwrites rfl rfl]
  unfold extract_member at hextract
  split at hextract
  · cases hextract
  · rename_i hne
    have hsafe : Safe True limit destination tree (joined destination member.name) := .inl trivial
    have hupper := make_upperdirs_confined links exist_ok hne hsafe
    have hfile := make_upperdirs_file links exist_ok tree (joined destination member.name).dropLast location
    split at hextract
    · cases hextract
    · rename_i after hmade
      rw [hmade] at hupper hfile
      rw [← hfile]
      exact make_member_file links makeother hkind ((follow_congr hupper.links limit [] _).symm.trans htarget)
        hextract location

theorem extractall_file {members : List (Member β)}
    (hchecked : ∀ member ∈ members, Checked limit tree destination member)
    (hextract : extractall links exist_ok makeother destination members tree = (none, tree')) (location : List String) :
    tree'.file location =
      (((members.filter (writes limit tree destination location)).getLast?).map Member.content).or
        (tree.file location) := by
  induction members generalizing tree with
  | nil =>
    cases hextract
    rfl
  | cons member members ih =>
    rw [List.forall_mem_cons] at hchecked
    rw [extractall] at hextract
    split at hextract
    · cases hextract
    · rename_i after hmember
      obtain ⟨hlinks, hfile⟩ := extract_member_file links exist_ok makeother hchecked.1 hmember location
      have hsame : writes limit after destination location = writes limit tree destination location := by
        funext other
        unfold writes
        rw [follow_congr hlinks]
      have hrest := ih (fun other hother =>
        ⟨(hchecked.2 other hother).kind, (hchecked.2 other hother).leads.congr hlinks⟩)
        hextract
      rw [hrest, hfile, hsame]
      by_cases hwrites : writes limit tree destination location member = true
      · rw [if_pos hwrites, List.filter_cons_of_pos hwrites, List.getLast?_cons]
        cases (members.filter (writes limit tree destination location)).getLast? with
        | none => rfl
        | some last => rfl
      · rw [if_neg hwrites, List.filter_cons_of_neg hwrites]

end Files

variable (links limit : ℕ) (exist_ok : Bool)
  (makeother : Member β → List (Step String) → Tree String β → Option Errno × Tree String β)

/-- Outside of the destination no file and no link is written, lost or made, whatever the
archive holds and whatever links there are. New directories can stand there only if the
destination is no directory or a name leads up. After a refusal nothing has changed. -/
theorem extraction_confined (members : List (Member β)) (path : List (Step String)) (tree : Tree String β)
    (destination : List String) (hdestination : follow tree false limit [] path = some destination) :
    Confined (tree.node destination ≠ some .directory ∨ ∃ member ∈ members, .up ∈ steps member.name)
      (destination <+: ·) tree (safe_extract links exist_ok makeother limit members path tree).2 ∧
    ((∃ member ∈ members, ¬ Checked limit tree destination member) →
      (safe_extract links exist_ok makeother limit members path tree).2 = tree) := by
  unfold safe_extract
  rw [hdestination]
  dsimp only
  cases hchecks : members.forM (check_member limit tree destination) with
  | error error => exact ⟨.refl tree, fun _ => rfl⟩
  | ok _ =>
    have hchecked := forM_check_eq_ok.mp hchecks
    have hsafe : ∀ member ∈ members,
        Safe (tree.node destination ≠ some .directory ∨ ∃ member ∈ members, .up ∈ steps member.name) limit destination
          tree (joined destination member.name) := by
      intro member hmember
      by_cases hup : .up ∈ steps member.name
      · exact .inl (.inr ⟨member, hmember, hup⟩)
      · by_cases hdirectory : tree.node destination = some .directory
        · exact .inr ⟨fun h => hup (up_mem_joined h), hdirectory, (hchecked member hmember).leads⟩
        · exact .inl (.inl hdirectory)
    have hconfined := extractall_confined links exist_ok makeother hchecked hsafe
    constructor
    · dsimp only
      split
      · rename_i error after hextract
        rwa [hextract] at hconfined
      · rename_i after hextract
        rwa [hextract] at hconfined
    · rintro ⟨member, hmember, hrefused⟩
      exact absurd (hchecked member hmember) hrefused

def output_tree : Tree String ℕ := .directories [[], ["tmp"], ["tmp", "output"]] (by decide) (by decide)

/-- The checks let a name pass that leads up, past a directory that is then made outside. -/
theorem extraction_confined_past_parent :
    let extracted := (safe_extract 40 true (fun _ _ tree => (none, tree)) 40
      [⟨"../new/../output/report", .regular, 7⟩] [.name "tmp", .name "output"] output_tree).2
    extracted.node ["tmp", "new"] = some .directory ∧ extracted.node ["tmp", "output", "report"] = some (.file 7) ∧
      Confined (output_tree.node ["tmp", "output"] ≠ some .directory ∨
        ∃ member ∈ [(⟨"../new/../output/report", .regular, 7⟩ : Member ℕ)], .up ∈ steps member.name)
        (["tmp", "output"] <+: ·) output_tree extracted :=
  ⟨rfl, rfl, (extraction_confined 40 40 true _ _ _ _ _ rfl).1⟩

/-- After an extraction that returns, a file holds what the last member that is written
there holds, or what it held before. -/
theorem extraction_exact (members : List (Member β)) (path : List (Step String)) (tree after : Tree String β)
    (destination : List String) (hdestination : follow tree false limit [] path = some destination)
    (hextract : safe_extract links exist_ok makeother limit members path tree = (.ok (), after))
    (location : List String) :
    after.file location =
      (((members.filter (writes limit tree destination location)).getLast?).map Member.content).or
        (tree.file location) := by
  unfold safe_extract at hextract
  rw [hdestination] at hextract
  dsimp only at hextract
  cases hchecks : members.forM (check_member limit tree destination) with
  | error error =>
    rw [hchecks] at hextract
    cases hextract
  | ok _ =>
    rw [hchecks] at hextract
    dsimp only at hextract
    split at hextract
    · cases hextract
    · rename_i result hall
      cases hextract
      exact extractall_file links exist_ok makeother (forM_check_eq_ok.mp hchecks) hall location

theorem extraction_exact_twice :
    let extracted := safe_extract 40 true (fun _ _ tree => (none, tree)) 40
      [⟨"suite/report", .regular, 1⟩, ⟨"./suite//report", .regular, 2⟩] [.name "tmp", .name "output"] output_tree
    extracted.1 = .ok () ∧ extracted.2.file ["tmp", "output", "suite", "report"] = some 2 := by
  intro extracted
  have hexact := extraction_exact 40 40 true (fun _ _ tree => (none, tree))
    [⟨"suite/report", .regular, 1⟩, ⟨"./suite//report", .regular, 2⟩] [.name "tmp", .name "output"] output_tree
    extracted.2 ["tmp", "output"] rfl (Prod.ext rfl rfl) ["tmp", "output", "suite", "report"]
  exact ⟨rfl, hexact.trans rfl⟩

end rebuild_g0_release
