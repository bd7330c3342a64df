import FactoryRegistry.CommandLine.Program
import FactoryRegistry.Proofs.Config.Interruption
import FactoryRegistry.Proofs.Json.Limit
import FactoryRegistry.Proofs.Yaml.Document

/-!
# Files that are not read

A file of text that is not read as a configuration or as a manifest is refused by a fault that names
it, except where a value in it cannot be made for one of the causes of `Failure.Unmakeable`. Then no
fault is made, and a command breaks off without a report (`failures_of_file`). A document can be of
that kind (`misfit_tag_unreported`).
-/

namespace FactoryRegistry

open Config CommandLine Number

/-- The fault refuses the file at a path, or a part of it. -/
def Fault.Refuses (fault : Fault) (path : Path) : Prop :=
  ∃ part reason, fault = .configInvalid (path.text ++ part) reason

/-- The failure is a fault that refuses the file at a path, or a part of it. -/
def Failure.Refuses (failure : Failure) (path : Path) : Prop :=
  ∃ fault : Fault, failure = .fault fault ∧ fault.Refuses path

/-! ## Reading -/

section Reading

variable {fs : FileSystem} {path : Path} {failure : Failure} {text : String} {next : Nat}

theorem refuses_whole (path : Path) (reason : String) :
    (Failure.fault (.configInvalid path.text reason)).Refuses path :=
  ⟨_, rfl, "", reason, by rw [String.append_empty]⟩

/-- What a text in a file is not read for: it is refused, or a value in it cannot be made. -/
def Unread (path : Path) (failure : Failure) : Prop := failure.Refuses path ∨ failure.Unmakeable

/-- `readYaml` fails with a fault that refuses the file, or on a value that cannot be made. -/
theorem readYaml_unread (path : Path) (next : Nat) (text : String) :
    FailsOnly (Unread path) (readYaml path next text) := by
  rw [readYaml]
  split
  · exact .ok
  · exact .error (Or.inl (refuses_whole _ _))
  next cause h => exact .error (Or.inr (Yaml.accounted_read next text _ h))

/-- `readJson` fails with a fault that refuses the file, or on an integer of more than `maxDigits`
digits. JSON has no other values that cannot be made. -/
theorem readJson_unread (path : Path) (next : Nat) (text : String) :
    FailsOnly (fun failure => failure.Refuses path ∨
      ∃ count, maxDigits < count ∧ failure = .longInteger count) (readJson path next text) := by
  rw [readJson]
  split
  · exact .ok
  · exact .error (Or.inl (refuses_whole _ _))
  next count h => exact .error (Or.inr ⟨count, (Json.accounted_read text _ h).1, rfl⟩)

theorem readRequired_of_text (hfile : fs.entryAt path = .ok (.file text.toUTF8)) :
    readRequired fs path = .ok (String.ofList (Text.unifyNewlines text.toList)) := by
  have hthere : fs.hasEntry path = .ok true := by rw [FileSystem.hasEntry, hfile]
  rw [readRequired, hthere, readText_of_text hfile]
  rfl

/-- `readDocument` fails as the reader does that the suffix of `path` chooses: only an integer that
is too long comes out of a `.json` file. -/
theorem readDocument_unread (hfile : fs.entryAt path = .ok (.file text.toUTF8)) (next : Nat) :
    FailsOnly (fun failure => failure.Refuses path ∨
      failure.Unmakeable ∧ (path.suffix = ".json" → ∃ count, failure = .longInteger count))
      (readDocument fs path next) := by
  rw [readDocument, readRequired_of_text hfile]
  change FailsOnly _ (if _ then _ else _)
  split
  · intro failure h
    refine (readJson_unread path next _ failure h).imp_right ?_
    rintro ⟨count, hcount, rfl⟩
    exact ⟨.digits hcount, fun _ => ⟨count, rfl⟩⟩
  next hsuffix =>
    intro failure h
    exact (readYaml_unread path next _ failure h).imp_right fun h =>
      ⟨h, fun hjson => absurd (by simpa using hjson) hsuffix⟩

/-- `mergeFile` fails because the file is not read, or because `Configuration.merge` fails on the
document in it. -/
theorem mergeFile_unread (hfile : fs.entryAt path = .ok (.file text.toUTF8)) {c : Configuration}
    {depth : Nat} (h : (c.mergeFile fs path depth).1 = .error failure) :
    failure.Refuses path ∨
      (failure.Unmakeable ∧ (path.suffix = ".json" → ∃ count, failure = .longInteger count)) ∨
      ∃ doc next, readDocument fs path c.next = .ok (doc, next) ∧
        (c.merge doc next depth).1 = .error failure := by
  rcases Configuration.mergeFile_cases fs path c depth with
    ⟨cause, hread, hmerge⟩ | ⟨doc, next, hread, hmerge⟩ | hmerge | hmerge <;> rw [hmerge] at h
  · cases h
    exact (readDocument_unread hfile _ _ hread).imp_right Or.inl
  · exact Or.inr (Or.inr ⟨doc, next, hread, h⟩)
  · cases h
  · cases h
    exact Or.inl (refuses_whole _ _)

/-- In the empty configuration `mergeFile` fails only because the file is not read: nothing has been
merged that a merge could be interrupted by. -/
theorem mergeFile_empty_unread (hfile : fs.entryAt path = .ok (.file text.toUTF8))
    (h : (Configuration.mergeFile fs path {}).1 = .error failure) : Unread path failure := by
  refine (mergeFile_unread hfile h).imp_right fun h => h.elim And.left ?_
  rintro ⟨doc, next, hread, hmerge⟩
  -- the only mapping there is stands at one place
  rw [Configuration.merge_of_unshared .empty hread fun l _ =>
    Value.unshared_of_nodup (Multiset.nodup_singleton 0) l] at hmerge
  cases hmerge

end Reading

/-! ## Manifests -/

section Manifests

open Manifest

/-- What the bindings in a file are not read for: a part of it is refused, or an integer is too long
to be written. -/
def UnreadBindings (path : Path) (failure : Failure) : Prop :=
  failure.Refuses path ∨ failure = .unwritableInteger

variable {path : Path} {entries : List (Scalar × Value)}

theorem invalid_unread {α : Type} (part reason : String) :
    FailsOnly (UnreadBindings path) (invalid (path.text ++ part) reason : Except Failure α) :=
  .error (Or.inl ⟨_, rfl, part, reason, rfl⟩)

theorem written_unread (v : Value) : FailsOnly (UnreadBindings path) v.written := fun _ h =>
  Or.inr (Value.eq_unwritableInteger_of_written h)

theorem require_unread (part name : String) :
    FailsOnly (UnreadBindings path) (require (path.text ++ part) entries name) := by
  rw [require]
  exact .ite .ok (invalid_unread part _)

theorem accessibleOf_unread (part : String) :
    FailsOnly (UnreadBindings path) (accessibleOf (path.text ++ part) entries) := by
  rw [accessibleOf]
  split
  · exact .ok
  · have hkey : s!"{path.text ++ part}.accessible" = path.text ++ (part ++ ".accessible") :=
      String.append_assoc
    rw [hkey]
    exact invalid_unread _ _

/-- `readEntry` fails where one of `require`, `packageOf` and `accessibleOf` does, or with a fault
about the entry. -/
theorem readEntry_unread (part : String) (v : Value) :
    FailsOnly (UnreadBindings path) (readEntry (path.text ++ part) v) := by
  unfold readEntry
  split
  · have hpackage : ∀ entries,
        FailsOnly (UnreadBindings path) (Manifest.packageOf entries) := fun _ =>
      .ite (written_unread _) .ok
    exact (require_unread _ _).bind fun _ => (require_unread _ _).bind fun _ =>
      (accessibleOf_unread _).bind fun _ => (written_unread _).bind fun _ =>
        (written_unread _).bind fun _ => (hpackage _).bind fun _ => .pure
  · exact invalid_unread part _

/-- `readEntries` fails where `readEntry` does on one of the items. The induction is on the
items. -/
theorem readEntries_unread (index : Nat) (items : List Value) :
    FailsOnly (UnreadBindings path) (readEntries path.text index items) := by
  induction items generalizing index with
  | nil => exact .ok
  | cons entry items ih =>
    have hkey : s!"{path.text}:bindings[{natText index}]" =
        path.text ++ (":bindings[" ++ (natText index ++ "]")) := by
      simp only [String.append_assoc, toString]
    rw [readEntries, hkey]
    exact (readEntry_unread _ entry).bind fun _ => (ih _).bind fun _ => .pure

/-- `Manifest.read` fails with a fault about the file, or where `readEntries` does. -/
theorem read_unread (path : Path) (document : Value) :
    FailsOnly (UnreadBindings path) (Manifest.read path.text document) := by
  unfold Manifest.read
  split
  · exact .ok
  · split
    · exact .ok
    · exact readEntries_unread 0 _
    · exact invalid_unread ":bindings" _
  · exact .error (Or.inl (refuses_whole path _))

end Manifests

/-- `Manifest.load` fails because the file is not read, or because `Manifest.read` fails on the
document in it. -/
theorem load_unread {fs : FileSystem} {path : Path} {text : String} {failure : Failure}
    (hfile : fs.entryAt path = .ok (.file text.toUTF8))
    (h : Manifest.load fs path = .error failure) :
    failure.Refuses path ∨ failure.Unmakeable ∨ failure = .unwritableInteger := by
  have hload : FailsOnly (fun failure =>
      failure.Refuses path ∨ failure.Unmakeable ∨ failure = .unwritableInteger)
      (Manifest.load fs path) := by
    rw [Manifest.load, readRequired_of_text hfile]
    refine FailsOnly.bind .ok fun text => FailsOnly.bind ?_ fun ⟨document, _⟩ => ?_
    · exact (readYaml_unread path 0 text).mono fun _ => Or.imp_right Or.inl
    · exact (read_unread path document).mono fun _ => Or.imp_right Or.inr
  exact hload failure h

/-! ## Commands -/

namespace CommandLine

section Runs

variable {task : Task} {t : Console.Terminal} {fs : FileSystem}
  {environment : List (String × String)} {failure : Failure}

/-- A command ends with the status 1 and the report of a fault, and leaves the files as they are. -/
structure Outcome.Reports (o : Outcome) (task : Task) (fs : FileSystem) (fault : Fault) : Prop where
  status : o.status = 1
  files : o.files = fs
  output : o.output =
    plainly (Console.failure s!"  {Console.crossMark} {task.command.complaint}: {fault.report}")
  failure : o.failure = none

/-- A command ends with the status 1 and a failure that no report is made of, and leaves the files
as they are. -/
structure Outcome.BreaksOff (o : Outcome) (fs : FileSystem) (cause : Failure) : Prop where
  status : o.status = 1
  files : o.files = fs
  output : o.output = ""
  failure : o.failure = some cause

/-- A build whose request cannot be loaded fails with the same `failure` and leaves `fs` as it
is. -/
theorem build_of_load_error (h : task.request.load fs environment = .error failure) :
    task.build fs environment = (.error failure, task.request.configEvents fs, fs) := by
  have hrun : task.request.run fs environment = (.error failure, task.request.configEvents fs) := by
    rw [BuildRequest.run, h]
  rw [Task.build]
  cases task.command with
  | inspect => rw [hrun]
  | freeze => rw [BuildRequest.freeze, hrun]

/-- A command `Reports` the fault that its request cannot be loaded for. -/
theorem reports_of_load_error {fault : Fault}
    (h : task.request.load fs environment = .error (.fault fault)) :
    (task.run t fs environment).Reports task fs fault := by
  rw [Task.run, build_of_load_error h]
  exact ⟨rfl, rfl, rfl, rfl⟩

/-- A command `BreaksOff` where its request cannot be loaded for a cause that is no fault. -/
theorem breaksOff_of_load_error (h : task.request.load fs environment = .error failure)
    (hcause : ∀ fault, failure ≠ .fault fault) :
    (task.run t fs environment).BreaksOff fs failure := by
  rw [Task.run, build_of_load_error h]
  -- the report is the branch of faults, which this failure is none of
  cases failure with
  | fault fault => exact absurd rfl (hcause fault)
  | _ => exact ⟨rfl, rfl, rfl, rfl⟩

/-- The only file of the configuration is merged first, into the empty configuration, so its failure
is that of `load`. -/
theorem load_of_config {path : Path} (environment : List (String × String))
    (hfiles : task.request.sources.filesToMerge fs = .ok [path])
    (h : (Configuration.mergeFile fs path {}).1 = .error failure) :
    task.request.load fs environment = .error failure := by
  have hmerges : (Configuration.mergeFiles fs {} [path]).1 = .error failure := by
    rw [Configuration.mergeFiles]
    split
    next hok => rw [hok] at h; cases h
    next herror => rw [herror] at h; exact h
  have hsources : task.request.sources.load fs environment = .error failure := by
    rw [Sources.load, hfiles]
    change ((Configuration.mergeFiles fs {} [path]).1.map _ >>= _) = _
    rw [hmerges]
    rfl
  rw [BuildRequest.load, hsources]
  rfl

/-- The manifest is loaded after the configuration and the two sections, so its failure is that of
`load` where these succeed. -/
theorem load_of_manifest {c : Configuration} {options : AotOptions} {output : OutputSettings}
    (hload : task.request.sources.load fs environment = .ok c)
    (hoptions : c.aotOptions = .ok options) (houtput : c.outputSettings = .ok output)
    (h : Manifest.load fs (.of task.manifest) = .error failure) :
    task.request.load fs environment = .error failure := by
  rw [BuildRequest.load, hload]
  change (c.aotOptions >>= _) = _
  rw [hoptions]
  change (c.outputSettings >>= _) = _
  rw [houtput]
  change (Manifest.load fs (.of task.manifest) >>= _) = _
  rw [h]
  rfl

end Runs

/-- A file of text that `mergeFile` or `Manifest.load` do not read is refused by a fault that names
it (`Refuses`), or a value in it cannot be made (`Unmakeable`). Besides, a merge may be interrupted
(`interrupts`), and an integer be too long to be written (`unwritableInteger`).

A command `Reports` the fault that refuses its only file of the configuration or its manifest, and
`BreaksOff` where a value in that file cannot be made. -/
theorem failures_of_file {fs : FileSystem} {path : Path} {text : String}
    (hfile : fs.entryAt path = .ok (.file text.toUTF8)) :
    (∀ (c : Configuration) depth failure, (c.mergeFile fs path depth).1 = .error failure →
      failure.Refuses path ∨
        (failure.Unmakeable ∧ (path.suffix = ".json" → ∃ count, failure = .longInteger count)) ∨
        failure.interrupts = true) ∧
    (∀ failure, Manifest.load fs path = .error failure →
      failure.Refuses path ∨ failure.Unmakeable ∨ failure = .unwritableInteger) ∧
    (∀ (task : Task) t environment failure,
      task.request.sources.filesToMerge fs = .ok [path] →
      (Configuration.mergeFile fs path {}).1 = .error failure →
      (∃ fault : Fault, failure = .fault fault ∧ fault.Refuses path ∧
          (task.run t fs environment).Reports task fs fault) ∨
        failure.Unmakeable ∧ (task.run t fs environment).BreaksOff fs failure) ∧
    (∀ (task : Task) t environment c options output failure, path = .of task.manifest →
      task.request.sources.load fs environment = .ok c → c.aotOptions = .ok options →
      c.outputSettings = .ok output → Manifest.load fs path = .error failure →
      (∃ fault : Fault, failure = .fault fault ∧ fault.Refuses path ∧
          (task.run t fs environment).Reports task fs fault) ∨
        (failure.Unmakeable ∨ failure = .unwritableInteger) ∧
          (task.run t fs environment).BreaksOff fs failure) := by
  refine ⟨fun c depth failure h => ?_, fun failure => load_unread hfile, ?_, ?_⟩
  · refine (mergeFile_unread hfile h).imp_right (Or.imp_right ?_)
    rintro ⟨doc, next, -, hmerge⟩
    exact Configuration.merge_interrupts hmerge
  · intro task t environment failure hfiles hmerge
    -- the file is merged before anything else, so that only reading it can fail
    have hload := load_of_config environment hfiles hmerge
    rcases mergeFile_empty_unread hfile hmerge with ⟨fault, rfl, hrefuses⟩ | hunmakeable
    · exact Or.inl ⟨fault, rfl, hrefuses, reports_of_load_error hload⟩
    · exact Or.inr ⟨hunmakeable, breaksOff_of_load_error hload hunmakeable.ne_fault⟩
  · rintro task t environment c options output failure rfl hload hoptions houtput hmanifest
    have hload := load_of_manifest hload hoptions houtput hmanifest
    rcases load_unread hfile hmanifest with ⟨fault, rfl, hrefuses⟩ | hunmakeable | rfl
    · exact Or.inl ⟨fault, rfl, hrefuses, reports_of_load_error hload⟩
    · exact Or.inr ⟨Or.inl hunmakeable, breaksOff_of_load_error hload hunmakeable.ne_fault⟩
    · exact Or.inr ⟨Or.inr rfl, breaksOff_of_load_error hload fun _ h => nomatch h⟩

/-- Three manifests: an open mapping, a text with the tag of an integer, and a mapping with the tag
of a text, whose default value is the mapping itself. -/
def unreadFiles : FileSystem where
  root := .directory [
    ("open.yaml", .file "bindings: \x7b\n".toUTF8),
    ("misfit.yaml", .file "bindings: !!int x\n".toUTF8),
    ("endless.yaml", .file "bindings: !!str &x \x7b=: *x\x7d\n".toUTF8)]
  workingDirectory := []

/-- A mapping that is not closed is refused by every one of the readers, and by a command that has
it as its configuration or as its manifest. -/
theorem open_mapping_refused :
    unreadFiles.entryAt { names := ["open.yaml"] } = .ok (.file "bindings: \x7b\n".toUTF8) ∧
      ∃ failure, Manifest.load unreadFiles { names := ["open.yaml"] } = .error failure ∧
        failure.Refuses { names := ["open.yaml"] } := by
  have hfile : unreadFiles.entryAt { names := ["open.yaml"] } =
      .ok (.file "bindings: \x7b\n".toUTF8) := rfl
  have hfails : failsWith Failure.isConfigFault
      (Manifest.load unreadFiles { names := ["open.yaml"] }) = true := by decide +kernel
  obtain ⟨failure, hload, hfault⟩ := failsWith_iff.1 hfails
  refine ⟨hfile, failure, hload, ?_⟩
  rcases (failures_of_file hfile).2.1 failure hload with h | h | rfl
  · exact h
  · cases h <;> cases hfault
  · cases hfault

/-- A command that summarises the build of the second one. -/
def misfitTask : Task where
  command := .inspect
  manifest := "misfit.yaml"
  config := none
  settings := none
  asJson := false
  output := ""
  verbose := false
  quiet := false

/-- A text that does not fit its tag is reported neither by the readers nor by a command. -/
theorem misfit_tag_unreported :
    unreadFiles.entryAt { names := ["misfit.yaml"] } =
        .ok (.file "bindings: !!int x\n".toUTF8) ∧
      failsWith (!Failure.isConfigFault ·)
        (Manifest.load unreadFiles { names := ["misfit.yaml"] }) = true ∧
      failsWith (!Failure.isConfigFault ·)
        (Configuration.mergeFile unreadFiles { names := ["misfit.yaml"] } {}).1 = true ∧
      (misfitTask.run {} unreadFiles []).failure.isSome = true :=
  ⟨rfl, by decide +kernel, by decide +kernel, by decide +kernel⟩

/-- A text that stands for itself has no end, and this is not reported either. -/
example : failsWith (!Failure.isConfigFault ·)
    (Manifest.load unreadFiles { names := ["endless.yaml"] }) = true := by decide +kernel

end CommandLine

end FactoryRegistry
