import FactoryRegistry.CommandLine.Program
import FactoryRegistry.Proofs.Build.View
import FactoryRegistry.Proofs.Config.Precedence
import FactoryRegistry.Proofs.Files.Writing
import FactoryRegistry.Proofs.Json.Indented

/-!
# Frozen builds

The tool changes no file unless it freezes a build that was made. Then the file that it writes, with
directories in which it is to stand, is all that changes; its text is the one that the inspection of
the same build prints as data, and the value that is read from it is the view of the build
(`freeze_all_or_nothing`).
-/

namespace FactoryRegistry

/-! ## Requests -/

namespace BuildRequest

variable {fs fs' : FileSystem} {environment : List (String × String)} {request : BuildRequest}
  {output : Path} {build : Build} {events : List Event} {failure : Failure}

/-- A build that fails is not frozen. -/
theorem freeze_of_error (h : request.run fs environment = (.error failure, events))
    (output : Path) :
    request.freeze fs environment output = (.error failure, events, fs) := by
  rw [freeze, h]

/-- A frozen build was made, then the directories for its file, and then the file. -/
theorem steps_of_freeze (h : request.freeze fs environment output = (.ok build, events, fs')) :
    request.run fs environment = (.ok build, events) ∧
      (fs.makeDirectories output.parent).2.writeText output build.view.indented = .ok fs' := by
  rw [freeze] at h
  split at h
  · cases h
  next build' events' hrun =>
    split at h
    · cases h
    next fs₁ hmake =>
      split at h
      · cases h
      next fs₂ hwrite =>
        cases h
        exact ⟨hrun, by rw [hmake]; exact hwrite⟩

end BuildRequest

namespace CommandLine

open Console

variable {t : Terminal} {fs : FileSystem} {environment : List (String × String)}
  {arguments : List String} {task : Task} {build : Build} {events : List Event} {failure : Failure}

/-! ## Tasks -/

theorem run_of_task (h : Invocation.read arguments = .task task) :
    run t fs environment arguments = task.run t fs environment := by
  rw [run, h]

/-- A task leaves the files as `build` does. -/
theorem Task.files_run (task : Task) (t : Terminal) (fs : FileSystem)
    (environment : List (String × String)) :
    (task.run t fs environment).files = (task.build fs environment).2.2 := by
  rw [Task.run]
  rcases task.build fs environment with ⟨_ | _, _, _⟩
  next cause _ _ => cases cause <;> rfl
  next => rfl

/-- A task succeeds if its `build` is made and written. -/
theorem Task.status_run_eq_zero_iff :
    (task.run t fs environment).status = 0 ↔
      ∃ build, (task.build fs environment).1 = .ok build := by
  rw [Task.run]
  rcases task.build fs environment with ⟨cause | build, _, _⟩
  · cases cause <;> simp
  · simp

/-- A task that fails has the status of failures. -/
theorem Task.status_run_of_error (h : (task.build fs environment).1 = .error failure) :
    (task.run t fs environment).status = 1 := by
  rw [Task.run]
  revert h
  rcases task.build fs environment with ⟨cause | build, _, _⟩
  · intro h
    cases cause <;> rfl
  · intro h
    cases h

theorem Task.build_of_inspect (h : task.command = .inspect) :
    task.build fs environment =
      ((task.request.run fs environment).1, (task.request.run fs environment).2, fs) := by
  rw [Task.build, h]

theorem Task.build_of_freeze (h : task.command = .freeze) :
    task.build fs environment = task.request.freeze fs environment (.of task.output) := by
  rw [Task.build, h]

/-- Where the build fails, freezing fails and leaves the files as they are. -/
theorem Task.run_of_freeze_error (hcommand : task.command = .freeze)
    (hrun : task.request.run fs environment = (.error failure, events)) (t : Terminal) :
    (task.run t fs environment).status = 1 ∧ (task.run t fs environment).files = fs := by
  have hbuild : task.build fs environment = (.error failure, events, fs) := by
    rw [build_of_freeze hcommand, BuildRequest.freeze_of_error hrun]
  exact ⟨status_run_of_error (by rw [hbuild]), by rw [files_run, hbuild]⟩

/-- Freezing that succeeded made the build and wrote its text. -/
theorem Task.steps_of_freeze (hcommand : task.command = .freeze)
    (hstatus : (task.run t fs environment).status = 0) :
    ∃ build events, task.request.run fs environment = (.ok build, events) ∧
      (fs.makeDirectories (Path.of task.output).parent).2.writeText (.of task.output)
        build.view.indented = .ok (task.run t fs environment).files := by
  obtain ⟨build, hbuild⟩ := status_run_eq_zero_iff.1 hstatus
  rw [files_run]
  rw [build_of_freeze hcommand] at hbuild ⊢
  rcases hfreeze : task.request.freeze fs environment (.of task.output) with ⟨result, events, files⟩
  rw [hfreeze] at hbuild
  obtain rfl : result = .ok build := hbuild
  exact ⟨build, events, BuildRequest.steps_of_freeze hfreeze⟩

/-- An `indented` text is printed as it is, on lines of its own. -/
theorem plainly_indented {v : Json} (hv : v.Readable) :
    plainly [v.indented] = v.indented ++ "\n" := by
  -- no escape sequence begins in a plain text, so none is taken out of it
  have hescape : escape ∉ v.indented.toList := fun h =>
    absurd (Json.isPlain_indented hv _ h) (by decide)
  rw [plainly, written]
  simp [stripStyles, stripFrom_eq_self hescape]

/-- The inspection of a build as data prints its text, and changes no file. -/
theorem Task.run_of_inspect (hcommand : task.command = .inspect) (hjson : task.asJson = true)
    (hrun : task.request.run fs environment = (.ok build, events)) (t : Terminal) :
    let outcome := task.run t fs environment
    outcome.status = 0 ∧ outcome.output = build.view.indented ++ "\n" ∧ outcome.files = fs := by
  have hbuild : task.build fs environment = (.ok build, events, fs) := by
    rw [build_of_inspect hcommand, hrun]
  have hshow : task.show t build = [build.view.indented] := by
    rw [Task.show, hcommand]
    exact if_pos hjson
  rw [Task.run, hbuild]
  refine ⟨rfl, ?_, rfl⟩
  change plainly (task.show t build) = _
  rw [hshow, plainly_indented (BuildRequest.view_readable hrun)]

/-- The tool changes no file unless it freezes a build that was made. -/
theorem made_of_files_run (h : (run t fs environment arguments).files ≠ fs) :
    ∃ task build events, Invocation.read arguments = .task task ∧ task.command = .freeze ∧
      task.request.run fs environment = (.ok build, events) := by
  rw [run] at h
  split at h
  · -- help, a version and errors of usage leave the files alone
    exact absurd rfl h
  · exact absurd rfl h
  · exact absurd rfl h
  · exact absurd rfl h
  next task hread =>
    rw [Task.files_run] at h
    cases hcommand : task.command with
    | inspect =>
      rw [Task.build_of_inspect hcommand] at h
      exact absurd rfl h
    | freeze =>
      rw [Task.build_of_freeze hcommand] at h
      rcases hrun : task.request.run fs environment with ⟨failure | build, events⟩
      · rw [BuildRequest.freeze_of_error hrun] at h
        exact absurd rfl h
      · exact ⟨task, build, events, hread, hcommand, hrun⟩

/-- Freezing is all or nothing, and nothing is lost in it.

Whatever the arguments of `run` are, files change only where they ask for a build to be frozen and
that build was made. If the build fails, so does the command, and all files are as they were. If the
command succeeds, all that is new, as long as the working directory is a directory, is the file at
the path of the output with directories on the way to it (`Writes`). Its text, on a line of its own,
is what every inspection of the same request prints as data, and the value read from that text is
the view of the build up to the order of members. -/
theorem freeze_all_or_nothing (t : Terminal) (fs : FileSystem)
    (environment : List (String × String)) (arguments : List String) :
    let outcome := run t fs environment arguments
    (outcome.files ≠ fs → ∃ task build events, Invocation.read arguments = .task task ∧
      task.command = .freeze ∧ task.request.run fs environment = (.ok build, events)) ∧
    ∀ task, Invocation.read arguments = .task task → task.command = .freeze →
      (∀ failure events, task.request.run fs environment = (.error failure, events) →
        outcome.status = 1 ∧ outcome.files = fs) ∧
      (outcome.status = 0 → ∃ build events text decoded,
        task.request.run fs environment = (.ok build, events) ∧
          (fs.standing fs.workingDirectory = .directory →
            fs.Writes outcome.files (.of task.output) text.toUTF8 ∧
              outcome.files.readText (.of task.output) = .ok text) ∧
          (∀ t' arguments' inspection, Invocation.read arguments' = .task inspection →
            inspection.command = .inspect → inspection.asJson = true →
            inspection.request = task.request →
            let shown := run t' fs environment arguments'
            shown.status = 0 ∧ shown.output = text ++ "\n" ∧ shown.files = fs) ∧
          Json.read text = .ok decoded ∧ build.view.SameUpToOrder decoded) := by
  intro outcome
  refine ⟨made_of_files_run, fun task hread hcommand => ?_⟩
  have houtcome : outcome = task.run t fs environment := run_of_task hread
  rw [houtcome]
  refine ⟨fun failure events hrun => Task.run_of_freeze_error hcommand hrun t, fun hstatus => ?_⟩
  obtain ⟨build, events, hrun, hwrite⟩ := Task.steps_of_freeze hcommand hstatus
  have hreadable : build.view.Readable := BuildRequest.view_readable hrun
  obtain ⟨decoded, hdecoded, hsame⟩ := Json.read_indented_same hreadable
  refine ⟨build, events, build.view.indented, decoded, hrun, fun hcwd => ?_, ?_, hdecoded, hsame⟩
  · have hwrites := FileSystem.writes_of_writeText hcwd rfl hwrite
    refine ⟨hwrites, ?_⟩
    -- reading unifies line breaks, but the text has no others than line feeds
    rw [Config.readText_of_text hwrites.entryAt, Json.unifyNewlines_indented hreadable,
      String.ofList_toList]
  · intro t' arguments' inspection hread' hcommand' hjson hrequest
    rw [run_of_task hread']
    exact Task.run_of_inspect hcommand' hjson (hrequest ▸ hrun) t'

/-- The task of an invocation that has one. -/
def Invocation.task? : Invocation → Option Task
  | .task task => some task
  | _ => none

theorem Invocation.eq_of_task? {i : Invocation} (h : i.task? = some task) : i = .task task := by
  cases i <;> cases h
  rfl

/-- The manifest of one binding. -/
def oneBinding : FileSystem where
  root := .directory [("bindings.yaml",
    .file "bindings:\n- \x7bcontract: C, implementation: p.F\x7d\n".toUTF8)]
  workingDirectory := []

/-- Words that ask for its build to be frozen in a directory that is not there. -/
def freezeWords : List String := ["freeze", "bindings.yaml", "-o", "build/factories.json"]

/-- What these words ask for. -/
def freezeTask : Task where
  command := .freeze
  manifest := "bindings.yaml"
  config := none
  settings := none
  asJson := false
  output := "build/factories.json"
  verbose := false
  quiet := false

/-- The build is frozen in a new directory and reads as it is shown; without the manifest nothing is
made. -/
theorem freeze_oneBinding :
    let frozen := run {} oneBinding [] freezeWords
    let shown := run {} oneBinding [] ["inspect", "--json", "bindings.yaml"]
    let bare : FileSystem := { oneBinding with root := .empty }
    (∃ build events text decoded, freezeTask.request.run oneBinding [] = (.ok build, events) ∧
      oneBinding.Writes frozen.files (.of "build/factories.json") text.toUTF8 ∧
      frozen.files.readText (.of "build/factories.json") = .ok text ∧
      shown.output = text ++ "\n" ∧ Json.read text = .ok decoded ∧
      build.view.SameUpToOrder decoded) ∧
    (run {} bare [] freezeWords).files = bare := by
  intro frozen shown bare
  have hread : Invocation.read freezeWords = .task freezeTask :=
    Invocation.eq_of_task? (by decide +kernel)
  have hinspect : Invocation.read ["inspect", "--json", "bindings.yaml"] =
      .task { freezeTask with command := .inspect, asJson := true, output := "" } :=
    Invocation.eq_of_task? (by decide +kernel)
  have hstatus : frozen.status = 0 := by decide +kernel
  have hfails : failsWith (fun _ => true) (freezeTask.request.run bare []).1 = true := by
    decide +kernel
  constructor
  · obtain ⟨-, hfreeze⟩ := freeze_all_or_nothing {} oneBinding [] freezeWords
    obtain ⟨-, hfrozen⟩ := hfreeze freezeTask hread rfl
    obtain ⟨build, events, text, decoded, hrun, hfile, hshown, hdecoded, hsame⟩ := hfrozen hstatus
    obtain ⟨hwrites, htext⟩ := hfile rfl
    obtain ⟨-, houtput, -⟩ := hshown {} _ _ hinspect rfl rfl rfl
    exact ⟨build, events, text, decoded, hrun, hwrites, htext, houtput, hdecoded, hsame⟩
  · obtain ⟨failure, hfailure, -⟩ := failsWith_iff.1 hfails
    obtain ⟨-, hfreeze⟩ := freeze_all_or_nothing {} bare [] freezeWords
    exact ((hfreeze freezeTask hread rfl).1 failure _ (Prod.ext hfailure rfl)).2

end CommandLine

end FactoryRegistry
