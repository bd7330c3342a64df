import FactoryRegistry.Proofs.Files.Standing

/-!
# What writing changes

Making one directory and writing one file each change what stands at the place that the path leads
to afterwards, and nothing else (`changesAt_of_makeOne`, `changesAt_of_writeText`). So making a
directory with all those above it adds directories on the way of the path (`MakesDirectories`), also
where it breaks off, and writing a file after that changes the file and such directories alone
(`writes_of_writeText`).
-/

namespace FactoryRegistry.FileSystem

variable {fs fs' fs'' : FileSystem} {place above : List String} {name : String} {p q : Path}
  {new : Standing}

/-! ## Changes at one place -/

/-- What stands at one place is new, and nothing else is. -/
structure ChangesAt (fs fs' : FileSystem) (place : List String) (new : Standing) : Prop where
  /-- The working directory is the same. -/
  workingDirectory : fs'.workingDirectory = fs.workingDirectory
  /-- The place has the new, and every other place what it had. -/
  standing_eq : ∀ other, fs'.standing other = if other = place then new else fs.standing other

namespace ChangesAt

theorem standing_self (h : fs.ChangesAt fs' place new) : fs'.standing place = new := by
  rw [h.standing_eq, if_pos rfl]

theorem standing_of_ne (h : fs.ChangesAt fs' place new) {other : List String}
    (hother : other ≠ place) : fs'.standing other = fs.standing other := by
  rw [h.standing_eq, if_neg hother]

/-- A file system `Keeps` what it has where something comes to a place without a directory. -/
theorem keeps (h : fs.ChangesAt fs' place new) (hold : fs.standing place ≠ .directory)
    (hnew : new ≠ .nothing) : fs.Keeps fs' where
  workingDirectory := h.workingDirectory
  directory := fun {other} hother => by
    rw [h.standing_of_ne (fun heq => hold (heq ▸ hother)), hother]
  something := fun {other} hother => by
    by_cases heq : other = place
    · rwa [heq, h.standing_self]
    · rwa [h.standing_of_ne heq]

end ChangesAt

/-- An entry that `IsBare`, put into a directory under a name of the path, is where the path
leads. -/
theorem changesAt_put {e : Entry} (he : e.IsBare) (hcheck : checkPath p = .ok ())
    (hlast : p.names.getLast? = some name) (habove : fs.locate p.parent = .ok above)
    (hdir : fs.standing above = .directory) (hup : name ≠ "..")
    (hshort : name.utf8ByteSize ≤ maxNameSize) (hold : fs.standing (above ++ [name]) ≠ .directory) :
    let fs' := { fs with root := Entry.put e (above ++ [name]) fs.root }
    fs.ChangesAt fs' (above ++ [name]) e.kind ∧ fs'.locate p = .ok (above ++ [name]) := by
  intro fs'
  have hchanges : fs.ChangesAt fs' (above ++ [name]) e.kind :=
    ⟨rfl, Entry.standing_put he hdir hold⟩
  refine ⟨hchanges, ?_⟩
  -- the path above leads where it led before, and from there the last name leads to the entry
  have hkeeps : fs.Keeps fs' := hchanges.keeps hold e.kind_ne_nothing
  obtain ⟨⟨⟩, -, hwalk⟩ := bind_eq_ok_iff.1 (hkeeps.locate habove)
  have hstep : fs'.step above name = .ok (above ++ [name]) := by
    refine step_eq_ok_iff.2 ⟨hkeeps.directory hdir, .inr ⟨hup, hshort, ?_, rfl⟩⟩
    rw [hchanges.standing_self]
    exact e.kind_ne_nothing
  have hnames : p.names = p.parent.names ++ [name] :=
    (List.dropLast_append_getLast? name hlast).symm
  rw [locate, hcheck, hnames]
  change List.foldlM _ (fs'.start p.parent) _ = _
  rw [List.foldlM_append, hwalk]
  exact bind_eq_ok_iff.2 ⟨above, rfl, bind_eq_ok_iff.2 ⟨_, hstep, rfl⟩⟩

/-- A directory that `makeOne` makes stands where the path leads, in the place of nothing. -/
theorem changesAt_of_makeOne (hcwd : fs.standing fs.workingDirectory = .directory)
    (h : fs.makeOne p = .ok fs') :
    ∃ place, fs.standing place = .nothing ∧ fs.ChangesAt fs' place .directory ∧
      fs'.locate p = .ok place := by
  rw [makeOne] at h
  obtain ⟨⟨⟩, hcheck, h⟩ := bind_eq_ok_iff.1 h
  cases hlast : p.names.getLast? with
  | none => rw [hlast] at h; cases h
  | some name =>
    rw [hlast] at h
    obtain ⟨above, habove, h⟩ := bind_eq_ok_iff.1 h
    -- only a name that is missing can be made, in a directory that stands there
    cases hstep : fs.step above name with
    | ok place => rw [hstep] at h; cases h
    | error problem =>
      rw [hstep] at h
      cases problem <;> cases h
      obtain ⟨hdir, hup, hshort, hnothing⟩ :=
        (step_eq_missing_iff (standing_of_locate hcwd habove)).1 hstep
      exact ⟨above ++ [name], hnothing,
        changesAt_put Entry.isBare_empty hcheck hlast habove hdir hup
        hshort (by rw [hnothing]; nofun)⟩

/-- A file that `writeText` writes stands where the path leads, in the place of no directory. -/
theorem changesAt_of_writeText (hcwd : fs.standing fs.workingDirectory = .directory) {text : String}
    (h : fs.writeText p text = .ok fs') :
    ∃ place, fs.standing place ≠ .directory ∧ fs.ChangesAt fs' place (.file text.toUTF8) ∧
      fs'.locate p = .ok place := by
  rw [writeText] at h
  obtain ⟨⟨⟩, hcheck, h⟩ := bind_eq_ok_iff.1 h
  cases hlast : p.names.getLast? with
  | none => rw [hlast] at h; cases h
  | some name =>
    rw [hlast] at h
    obtain ⟨above, habove, h⟩ := bind_eq_ok_iff.1 h
    have hthere : fs.standing above ≠ .nothing := standing_of_locate hcwd habove
    -- what is written in the place of a directory is refused, so the name leads to an entry
    cases hstep : fs.step above name with
    | ok place =>
      rw [hstep] at h
      dsimp only at h
      split at h
      · cases h
      next hfind =>
        obtain rfl := Except.ok.inj h
        have hold : fs.standing place ≠ .directory := standing_ne_directory hfind
        obtain ⟨hdir, ⟨-, rfl⟩ | ⟨hup, hshort, -, rfl⟩⟩ := step_eq_ok_iff.1 hstep
        · exact absurd (standing_dropLast hdir) hold
        · exact ⟨above ++ [name], hold,
            changesAt_put (Entry.isBare_file _) hcheck hlast habove hdir hup hshort hold⟩
    | error problem =>
      rw [hstep] at h
      cases problem <;> try cases h
      dsimp only at h
      split at h
      · cases h
      next hfind =>
        obtain rfl := Except.ok.inj h
        have hold : fs.standing (above ++ [name]) ≠ .directory := standing_ne_directory hfind
        obtain ⟨hdir, hup, hshort, -⟩ := (step_eq_missing_iff hthere).1 hstep
        exact ⟨above ++ [name], hold,
          changesAt_put (Entry.isBare_file _) hcheck hlast habove hdir hup hshort hold⟩

/-! ## Directories on the way -/

/-- A place is where a path leads, or one of the paths above it. -/
def OnTheWay (fs : FileSystem) (p : Path) (place : List String) : Prop :=
  ∃ names, names <+: p.names ∧ fs.locate { p with names } = .ok place

/-- At places on the way of a path directories came in the place of nothing, and nothing else
changed. -/
structure MakesDirectories (fs fs' : FileSystem) (p : Path) : Prop where
  /-- The working directory is the same. -/
  workingDirectory : fs'.workingDirectory = fs.workingDirectory
  /-- Each place has what it had, or a directory in the place of nothing. -/
  standing_eq_or : ∀ place, fs'.standing place = fs.standing place ∨
    fs.standing place = .nothing ∧ fs'.standing place = .directory ∧ fs'.OnTheWay p place

namespace MakesDirectories

theorem refl (fs : FileSystem) (p : Path) : fs.MakesDirectories fs p :=
  ⟨rfl, fun _ => .inl rfl⟩

theorem keeps (h : fs.MakesDirectories fs' p) : fs.Keeps fs' where
  workingDirectory := h.workingDirectory
  directory := fun {place} hplace => by
    obtain heq | ⟨-, hnew, -⟩ := h.standing_eq_or place
    · rwa [heq]
    · exact hnew
  something := fun {place} hplace => by
    obtain heq | ⟨hold, -, -⟩ := h.standing_eq_or place
    · rwa [heq]
    · exact absurd hold hplace

/-- Directories on the way of a path are on the way of every path below it. -/
theorem of_prefix (h : fs.MakesDirectories fs' p) (hroot : q.root = p.root)
    (hnames : p.names <+: q.names) : fs.MakesDirectories fs' q := by
  refine ⟨h.workingDirectory, fun place => (h.standing_eq_or place).imp_right ?_⟩
  rintro ⟨hold, hnew, names, hprefix, hlocate⟩
  exact ⟨hold, hnew, names, hprefix.trans hnames, hroot ▸ hlocate⟩

/-- Directories made in two stages are directories made. -/
theorem trans (h : fs.MakesDirectories fs' p) (h' : fs'.MakesDirectories fs'' p) :
    fs.MakesDirectories fs'' p := by
  refine ⟨h'.workingDirectory.trans h.workingDirectory, fun place => ?_⟩
  obtain heq' | ⟨hold', hnew', hway'⟩ := h'.standing_eq_or place
  · rw [heq']
    refine (h.standing_eq_or place).imp_right ?_
    rintro ⟨hold, hnew, names, hprefix, hlocate⟩
    exact ⟨hold, hnew, names, hprefix, h'.keeps.locate hlocate⟩
  · -- what came in the place of nothing later had not come before
    obtain heq | ⟨-, hnew, -⟩ := h.standing_eq_or place
    · exact .inr ⟨heq ▸ hold', hnew', hway'⟩
    · rw [hold'] at hnew
      cases hnew

/-- A directory that `makeOne` makes is on the way of its path. -/
theorem of_makeOne (hcwd : fs.standing fs.workingDirectory = .directory)
    (h : fs.makeOne p = .ok fs') : fs.MakesDirectories fs' p := by
  obtain ⟨place, hold, hchanges, hlocate⟩ := changesAt_of_makeOne hcwd h
  refine ⟨hchanges.workingDirectory, fun other => ?_⟩
  by_cases heq : other = place
  · rw [heq]
    exact .inr ⟨hold, hchanges.standing_self, p.names, List.prefix_rfl, hlocate⟩
  · exact .inl (hchanges.standing_of_ne heq)

end MakesDirectories

/-- Whether or not `makeWithParents` succeeds, the directories that are made are on the way of the
path. The induction is on the names, from the last one. -/
theorem makesDirectories_makeWithParents (root : PathRoot) (names : List String)
    (hcwd : fs.standing fs.workingDirectory = .directory) :
    fs.MakesDirectories (fs.makeWithParents root names).2 { root, names := names.reverse } := by
  induction names with
  | nil => exact .refl fs _
  | cons name names ih =>
    set path : Path := { root, names := (name :: names).reverse } with hpath
    have hparents : fs.MakesDirectories (fs.makeWithParents root names).2 path :=
      ih.of_prefix rfl (by rw [hpath, List.reverse_cons]; exact List.prefix_append _ _)
    -- the last directory is made in what making the others left, or nothing is done for it
    have hlast : ∀ {fs₁ : FileSystem} (fs₂ : FileSystem), fs.MakesDirectories fs₁ path →
        fs₁.makeOne path = .ok fs₂ → fs.MakesDirectories fs₂ path := fun {fs₁} fs₂ h₁ h₂ =>
      h₁.trans (.of_makeOne (by rw [h₁.workingDirectory]; exact h₁.keeps.directory hcwd) h₂)
    rw [makeWithParents]
    dsimp only
    rw [← hpath]
    split
    next =>
      split
      next fs₁ hmake =>
        rw [hmake] at hparents
        split
        next fs₂ h₂ => exact hlast fs₂ hparents h₂
        next => split_ifs <;> exact hparents
      next hmake => rwa [hmake] at hparents
    next =>
      split
      next fs₂ h₂ => exact hlast fs₂ (.refl fs path) h₂
      next => split_ifs <;> exact .refl fs path

/-- Whether or not `makeDirectories` succeeds, all that is made is directories on the way of its
path. -/
theorem makesDirectories_makeDirectories (hcwd : fs.standing fs.workingDirectory = .directory)
    (p : Path) : fs.MakesDirectories (fs.makeDirectories p).2 p := by
  have h := makesDirectories_makeWithParents p.root p.names.reverse hcwd
  rwa [List.reverse_reverse] at h

/-! ## Files -/

/-- The path leads to a file with this content, where no directory was. Apart from that, all that
is new are directories in the place of nothing on the way of the path above. -/
structure Writes (fs fs' : FileSystem) (p : Path) (content : ByteArray) : Prop where
  /-- The working directory is the same. -/
  workingDirectory : fs'.workingDirectory = fs.workingDirectory
  /-- One place has the file, and each other place what it had, or a new directory. -/
  exists_place : ∃ place, fs'.locate p = .ok place ∧ fs.standing place ≠ .directory ∧
    fs'.standing place = .file content ∧
    ∀ other ≠ place, fs'.standing other = fs.standing other ∨
      fs.standing other = .nothing ∧ fs'.standing other = .directory ∧ fs'.OnTheWay p.parent other

/-- What is left by `makeDirectories` above a file and then `writeText` of the file. -/
theorem writes_of_writeText (hcwd : fs.standing fs.workingDirectory = .directory) {text : String}
    (hmake : (fs.makeDirectories p.parent).2 = fs')
    (hwrite : fs'.writeText p text = .ok fs'') : fs.Writes fs'' p text.toUTF8 := by
  have hmakes : fs.MakesDirectories fs' p.parent := hmake ▸ makesDirectories_makeDirectories hcwd _
  have hcwd' : fs'.standing fs'.workingDirectory = .directory := by
    rw [hmakes.workingDirectory]
    exact hmakes.keeps.directory hcwd
  obtain ⟨place, hold, hchanges, hlocate⟩ := changesAt_of_writeText hcwd' hwrite
  -- the file comes on top of the directories, and all paths lead on as they did
  refine ⟨hchanges.workingDirectory.trans hmakes.workingDirectory, place, hlocate,
    fun hdir => hold (hmakes.keeps.directory hdir), hchanges.standing_self, fun other hother => ?_⟩
  rw [hchanges.standing_of_ne hother]
  refine (hmakes.standing_eq_or other).imp_right ?_
  rintro ⟨hnothing, hnew, names, hprefix, hway⟩
  exact ⟨hnothing, hnew, names, hprefix, (hchanges.keeps hold nofun).locate hway⟩

/-- The file that was written is what the path leads to. -/
theorem Writes.entryAt {content : ByteArray} (h : fs.Writes fs' p content) :
    fs'.entryAt p = .ok (.file content) := by
  obtain ⟨place, hlocate, -, hfile, -⟩ := h.exists_place
  refine bind_eq_ok_iff.2 ⟨place, hlocate, ?_⟩
  rw [Entry.standing_eq_file_iff.1 hfile]
  rfl

end FactoryRegistry.FileSystem
