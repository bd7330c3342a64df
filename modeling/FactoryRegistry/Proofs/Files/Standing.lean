import FactoryRegistry.Files.FileSystem
import FactoryRegistry.Proofs.Except

/-!
# What stands where

A tree of files is known by what stands at each of its places, a place being the names on the way
from its root. Above everything there is a directory (`standing_of_append`), and a file or a
directory without entries that is put into a directory changes what stands at its own place alone
(`standing_put`).

A path leads from one place to the next by looking at what stands there (`step_eq`). So it leads to
the same place in every file system that has at least the same directories and entries
(`Keeps.locate`).
-/

namespace FactoryRegistry

/-- What stands at a place. -/
inductive Standing where
  /-- Neither a file nor a directory. -/
  | nothing
  /-- A file with its content. -/
  | file (content : ByteArray)
  /-- A directory. -/
  | directory

/-- Whether there is nothing at a place can be seen. -/
instance (s : Standing) : Decidable (s = .nothing) :=
  match s with
  | .nothing => isTrue rfl
  | .file _ | .directory => isFalse nofun

namespace Entry

/-- What an entry is to those who look at its place. -/
def kind : Entry → Standing
  | file content => .file content
  | directory _ => .directory

/-- What stands at a place of a tree. -/
def standing (root : Entry) (place : List String) : Standing :=
  ((root.find? place).map kind).getD .nothing

variable {root : Entry} {place dir other : List String} {name : String}

/-- `find?` along names one after another goes on from what it finds first. -/
theorem find?_append (root : Entry) (place names : List String) :
    root.find? (place ++ names) = (root.find? place).bind (find? names) := by
  induction place generalizing root with
  | nil => rfl
  | cons n place ih =>
    cases root with
    | file content => rfl
    | directory entries =>
      rw [List.cons_append, find?, find?, Option.bind_assoc]
      exact congrArg _ (funext ih)

theorem find?_singleton (entries : List (String × Entry)) (name : String) :
    (directory entries).find? [name] = entries.lookup name := by
  rw [find?]
  cases entries.lookup name <;> rfl

theorem kind_ne_nothing (e : Entry) : e.kind ≠ .nothing := by cases e <;> nofun

/-- A directory stands where `find?` finds one. -/
theorem standing_eq_directory_iff :
    root.standing place = .directory ↔ ∃ entries, root.find? place = some (.directory entries) := by
  rw [standing]
  rcases root.find? place with _ | _ | entries <;> simp [kind]

theorem standing_eq_file_iff {content : ByteArray} :
    root.standing place = .file content ↔ root.find? place = some (.file content) := by
  rw [standing]
  rcases root.find? place with _ | _ | entries <;> simp [kind]

theorem standing_eq_nothing_iff : root.standing place = .nothing ↔ root.find? place = none := by
  rw [standing]
  rcases root.find? place with _ | _ | entries <;> simp [kind]

/-- What stands behind a first name stands in the entry of that name. -/
theorem standing_directory_cons (entries : List (String × Entry)) (name : String)
    (names : List String) :
    (directory entries).standing (name :: names) =
      ((entries.lookup name).map fun e => e.standing names).getD .nothing := by
  rw [standing, find?]
  cases entries.lookup name with
  | none => rfl
  | some e => rfl

/-- Where there is something, there is a directory at every place above it. -/
theorem standing_of_append {names : List String} (hnames : names ≠ [])
    (h : root.standing (place ++ names) ≠ .nothing) : root.standing place = .directory := by
  obtain ⟨n, names, rfl⟩ := List.exists_cons_of_ne_nil hnames
  rw [ne_eq, standing_eq_nothing_iff, find?_append] at h
  rw [standing_eq_directory_iff]
  rcases hfind : root.find? place with _ | _ | entries
  · exact absurd (by rw [hfind]; rfl) h
  · exact absurd (by rw [hfind]; rfl) h
  · exact ⟨entries, rfl⟩

/-- A file, or a directory without entries. -/
def IsBare (e : Entry) : Prop := ∀ names ≠ [], e.find? names = none

/-- A file has nothing below it. -/
theorem isBare_file (content : ByteArray) : (file content).IsBare := fun names hnames => by
  obtain ⟨n, names, rfl⟩ := List.exists_cons_of_ne_nil hnames
  rfl

theorem isBare_empty : empty.IsBare := fun names hnames => by
  obtain ⟨n, names, rfl⟩ := List.exists_cons_of_ne_nil hnames
  rfl

/-- What stands at the places of an entry that `IsBare`: the entry itself at the first. -/
theorem IsBare.standing {e : Entry} (he : e.IsBare) (names : List String) :
    e.standing names = if names = [] then e.kind else .nothing := by
  split_ifs with hnames
  · rw [hnames]
    rfl
  · rw [standing_eq_nothing_iff.2 (he names hnames)]

/-- An entry that `IsBare`, put into a directory where no directory was, changes what stands at its
place and nothing else. The induction is on the directory. -/
theorem standing_put {e : Entry} (he : e.IsBare) (hdir : root.standing dir = .directory)
    (hplace : root.standing (dir ++ [name]) ≠ .directory) (other : List String) :
    (put e (dir ++ [name]) root).standing other =
      if other = dir ++ [name] then e.kind else root.standing other := by
  induction dir generalizing root other with
  | nil =>
    -- the directory itself: of its entries only the one called `name` changes
    obtain ⟨entries, hroot⟩ := standing_eq_directory_iff.1 hdir
    obtain rfl := Option.some.inj hroot
    rw [List.nil_append, put]
    cases other with
    | nil => rw [if_neg (List.cons_ne_nil _ _).symm]; rfl
    | cons n names =>
      rw [standing_directory_cons, Association.lookup_alter, standing_directory_cons]
      by_cases hn : n = name
      · subst hn
        rw [if_pos rfl, Option.map_some, Option.getD_some, put, he.standing]
        by_cases hnames : names = []
        · rw [if_pos hnames, if_pos (by rw [hnames])]
        · -- there was nothing behind the place before either, since there was no directory
          rw [if_neg hnames, if_neg (by simpa using hnames), ← standing_directory_cons]
          by_contra hnothing
          have hsomething : (directory entries).standing ([n] ++ names) ≠ .nothing :=
            Ne.symm hnothing
          exact hplace (standing_of_append hnames hsomething)
      · rw [if_neg hn, if_neg (by simp [hn])]
  | cons d ds ih =>
    cases root with
    | file content => cases hdir
    | directory entries =>
      -- further in: what holds of the entry `d` by induction holds of the whole
      rw [standing_directory_cons] at hdir
      rw [List.cons_append, standing_directory_cons] at hplace
      rw [List.cons_append, put]
      cases hd : entries.lookup d with
      | none => rw [hd] at hdir; cases hdir
      | some sub =>
        rw [hd] at hdir hplace
        cases other with
        | nil => rw [if_neg (List.cons_ne_nil _ _).symm]; rfl
        | cons n names =>
          rw [standing_directory_cons, Association.lookup_alter, standing_directory_cons]
          by_cases hn : n = d
          · subst hn
            rw [if_pos rfl, hd]
            simpa using ih hdir hplace names
          · rw [if_neg hn, if_neg (by simp [hn])]

end Entry

namespace FileSystem

variable {fs fs' : FileSystem} {place place' : List String} {name : String} {p : Path}

/-- What stands at a place of a file system. -/
def standing (fs : FileSystem) (place : List String) : Standing := fs.root.standing place

/-- Where no directory is found, none stands. -/
theorem standing_ne_directory (h : ∀ entries, fs.root.find? place ≠ some (.directory entries)) :
    fs.standing place ≠ .directory := fun hdir => by
  obtain ⟨entries, hentries⟩ := Entry.standing_eq_directory_iff.1 hdir
  exact h entries hentries

/-- A directory is something. -/
theorem ne_nothing_of_directory (h : fs.standing place = .directory) :
    fs.standing place ≠ .nothing := by
  rw [h]
  nofun

/-- Above a directory, and at it, there is a directory. -/
theorem standing_dropLast (h : fs.standing place = .directory) :
    fs.standing place.dropLast = .directory := by
  rcases List.eq_nil_or_concat place with rfl | ⟨above, name, rfl⟩
  · exact h
  · rw [List.concat_eq_append] at h ⊢
    rw [List.dropLast_concat]
    exact Entry.standing_of_append (List.cons_ne_nil name []) (ne_nothing_of_directory h)

/-- The root is a directory where anything below it is one. -/
theorem standing_root (h : fs.standing place = .directory) : fs.standing [] = .directory := by
  by_cases hplace : place = []
  · rwa [hplace] at h
  · have hsomething : fs.root.standing ([] ++ place) ≠ .nothing := ne_nothing_of_directory h
    exact Entry.standing_of_append hplace hsomething

/-- Where `step` leads depends on what stands at a place and right below it. -/
theorem step_eq (fs : FileSystem) (place : List String) (name : String) :
    fs.step place name =
      match fs.standing place with
      | .directory =>
        if name = ".." then .ok place.dropLast
        else if maxNameSize < name.utf8ByteSize then .error .nameTooLong
        else if fs.standing (place ++ [name]) = .nothing then .error .missing
        else .ok (place ++ [name])
      | .file _ => .error .notDirectory
      | .nothing => .error .missing := by
  simp only [step, standing, Entry.standing, Entry.find?_append]
  rcases fs.root.find? place with _ | _ | entries
  · rfl
  · rfl
  · simp only [Option.map_some, Option.getD_some, Entry.kind, Option.bind_some, beq_iff_eq,
      Entry.find?_singleton]
    cases entries.lookup name <;> simp [Entry.kind_ne_nothing]

/-- How `step` leads from one place to another: to the directory above, or to an entry. -/
theorem step_eq_ok_iff :
    fs.step place name = .ok place' ↔ fs.standing place = .directory ∧
      (name = ".." ∧ place' = place.dropLast ∨
        name ≠ ".." ∧ name.utf8ByteSize ≤ maxNameSize ∧ fs.standing (place ++ [name]) ≠ .nothing ∧
          place' = place ++ [name]) := by
  rw [step_eq]
  cases fs.standing place <;> simp only [reduceCtorEq, false_and, true_and]
  split_ifs with hup hlong hnothing
  · simp [hup, eq_comm]
  · simp [hup, Nat.not_le_of_lt hlong]
  · simp [hup, hnothing]
  · simp [hup, hnothing, Nat.le_of_not_lt hlong, eq_comm]

/-- Where something stands, `step` misses a name only if that is a directory in which the name is no
entry and could be one. -/
theorem step_eq_missing_iff (hplace : fs.standing place ≠ .nothing) :
    fs.step place name = .error .missing ↔ fs.standing place = .directory ∧
      name ≠ ".." ∧ name.utf8ByteSize ≤ maxNameSize ∧ fs.standing (place ++ [name]) = .nothing := by
  rw [step_eq]
  cases hkind : fs.standing place with
  | nothing => exact absurd hkind hplace
  | file content => simp
  | directory =>
    dsimp only
    split_ifs with hup hlong hnothing
    · simp [hup]
    · simp [Nat.not_le_of_lt hlong]
    · simp [hup, hnothing, Nat.le_of_not_lt hlong]
    · simp [hnothing]

/-- A `step` leads to something. -/
theorem standing_of_step (h : fs.step place name = .ok place') : fs.standing place' ≠ .nothing := by
  obtain ⟨hplace, ⟨-, rfl⟩ | ⟨-, -, hthere, rfl⟩⟩ := step_eq_ok_iff.1 h
  · exact ne_nothing_of_directory (standing_dropLast hplace)
  · exact hthere

/-- Names lead from something to something. -/
theorem standing_of_foldlM_step {names : List String} (hplace : fs.standing place ≠ .nothing)
    (h : names.foldlM fs.step place = .ok place') : fs.standing place' ≠ .nothing := by
  induction names generalizing place with
  | nil => cases h; exact hplace
  | cons name names ih =>
    rw [List.foldlM_cons] at h
    obtain ⟨between, hstep, hrest⟩ := bind_eq_ok_iff.1 h
    exact ih (standing_of_step hstep) hrest

/-- A file system has the working directory of another, all its directories, and something wherever
the other has something. -/
structure Keeps (fs fs' : FileSystem) : Prop where
  /-- The working directory is the same. -/
  workingDirectory : fs'.workingDirectory = fs.workingDirectory
  /-- Directories stay directories. -/
  directory : ∀ {place}, fs.standing place = .directory → fs'.standing place = .directory
  /-- Nothing goes away. -/
  something : ∀ {place}, fs.standing place ≠ .nothing → fs'.standing place ≠ .nothing

namespace Keeps

/-- A `step` leads where it led before, if the file system `Keeps` what it had. -/
theorem step (hk : fs.Keeps fs') (h : fs.step place name = .ok place') :
    fs'.step place name = .ok place' := by
  obtain ⟨hplace, hname⟩ := step_eq_ok_iff.1 h
  exact step_eq_ok_iff.2 ⟨hk.directory hplace,
    hname.imp_right fun ⟨hup, hshort, hthere, heq⟩ => ⟨hup, hshort, hk.something hthere, heq⟩⟩

theorem foldlM_step (hk : fs.Keeps fs') {names : List String}
    (h : names.foldlM fs.step place = .ok place') : names.foldlM fs'.step place = .ok place' := by
  induction names generalizing place with
  | nil => exact h
  | cons name names ih =>
    rw [List.foldlM_cons] at h ⊢
    obtain ⟨between, hstep, hrest⟩ := bind_eq_ok_iff.1 h
    rw [hk.step hstep]
    exact ih hrest

theorem start_eq (hk : fs.Keeps fs') (p : Path) : fs'.start p = fs.start p := by
  rw [start, start, hk.workingDirectory]

/-- A path leads where it led before. -/
theorem locate (hk : fs.Keeps fs') (h : fs.locate p = .ok place) : fs'.locate p = .ok place := by
  obtain ⟨⟨⟩, hcheck, hwalk⟩ := bind_eq_ok_iff.1 h
  exact bind_eq_ok_iff.2 ⟨(), hcheck, hk.start_eq p ▸ hk.foldlM_step hwalk⟩

end Keeps

/-- A path starts at a directory where the working directory is one. -/
theorem standing_start (hcwd : fs.standing fs.workingDirectory = .directory) (p : Path) :
    fs.standing (fs.start p) = .directory := by
  rw [start]
  split_ifs
  · exact hcwd
  · exact standing_root hcwd

/-- `locate` leads to something, from a working directory that is there. -/
theorem standing_of_locate (hcwd : fs.standing fs.workingDirectory = .directory)
    (h : fs.locate p = .ok place) : fs.standing place ≠ .nothing := by
  obtain ⟨⟨⟩, -, hwalk⟩ := bind_eq_ok_iff.1 h
  exact standing_of_foldlM_step (ne_nothing_of_directory (standing_start hcwd p)) hwalk

end FileSystem

end FactoryRegistry
