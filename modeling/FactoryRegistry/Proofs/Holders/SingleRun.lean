import FactoryRegistry.Proofs.Association.Keys
import FactoryRegistry.Proofs.Description.Rebuild
import FactoryRegistry.Proofs.Except
import FactoryRegistry.Proofs.Holders.Growth

/-!
# Updates as one run

Every update hands the holder of its package over to a new builder, runs a program there and stores
what the builder describes. The holder is the same as if all programs that succeeded had been run
one after another on a single builder, and each program has the same answers there
(`Holders.updates_single_run`). A program that fails leaves no trace.

* `Program.transcript`, `Program.andThen`: the calls that a program makes with their outcomes, and
  two programs one after the other;
* `Program.run_of_build_eq`: programs do not tell builders apart that describe the same class;
* `Holders.History`: holders with the updates that succeeded, from the first one on.
-/

namespace FactoryRegistry

/-! ## Programs -/

/-- The calls that a program makes, with their outcomes. -/
abbrev Transcript := List (Edit × Except Fault Answer)

namespace Program

/-- The calls that a program makes on a builder, until it ends. -/
def transcript : Program → TypeBuilder → Transcript
  | finish, _ => []
  | abort _, _ => []
  | call edit next, b =>
    (edit, (b.attempt edit).1) :: (next (b.attempt edit).1).transcript (b.attempt edit).2

/-- A program and then another one, if the first one does not give up. -/
def andThen : Program → Program → Program
  | finish, q => q
  | abort failure, _ => abort failure
  | call edit next, q => call edit fun outcome => (next outcome).andThen q

/-- Some programs one after another. -/
def sequence (programs : List Program) : Program := programs.foldl andThen finish

variable {p q : Program} {b c : TypeBuilder}

/-- The `run` of a call goes on with what `attempt` answers and leaves. -/
theorem run_call (edit : Edit) (next : Except Fault Answer → Program) (b : TypeBuilder) :
    (call edit next).run b = (next (b.attempt edit).1).run (b.attempt edit).2 := by
  rw [run, TypeBuilder.attempt]
  cases b.apply edit <;> rfl

/-- The second program of `andThen` goes on with the builder that the first one leaves. -/
theorem run_andThen (p q : Program) (b : TypeBuilder) :
    (p.andThen q).run b = p.run b >>= q.run := by
  induction p generalizing b with
  | finish => rfl
  | abort failure => rfl
  | call edit next ih => rw [andThen, run_call, run_call, ih]

/-- The calls of `andThen` are those of the first program and then those of the second one. -/
theorem transcript_andThen (h : p.run b = .ok c) (q : Program) :
    (p.andThen q).transcript b = p.transcript b ++ q.transcript c := by
  induction p generalizing b with
  | finish =>
    cases h
    rfl
  | abort failure => cases h
  | call edit next ih =>
    rw [run_call] at h
    rw [andThen, transcript, transcript, ih _ h, List.cons_append]

/-- A program on builders that describe the same class makes the same calls with the same outcomes
(`transcript`). It leaves builders that describe the same class, or it gives up with the same
failure. -/
theorem run_of_build_eq (h : b.build = c.build) (p : Program) :
    p.transcript b = p.transcript c ∧
      (p.run b).map TypeBuilder.build = (p.run c).map TypeBuilder.build := by
  induction p generalizing b c with
  | finish => exact ⟨rfl, congrArg Except.ok h⟩
  | abort failure => exact ⟨rfl, rfl⟩
  | call edit next ih =>
    obtain ⟨houtcome, hbuild⟩ := TypeBuilder.attempt_of_build_eq h edit
    -- the same outcome lets the program go on in the same way
    obtain ⟨htranscript, hrun⟩ := ih (b.attempt edit).1 hbuild
    rw [transcript, transcript, run_call, run_call, ← houtcome, htranscript]
    exact ⟨rfl, hrun⟩

/-- A `sequence` with one more program is the sequence `andThen` this program. -/
theorem sequence_concat (programs : List Program) (p : Program) :
    sequence (programs ++ [p]) = (sequence programs).andThen p := by
  rw [sequence, List.foldl_append]
  rfl

end Program

namespace Holders

/-! ## Updates -/

/-- An update, and the holders after it. A failure leaves them as they were. -/
def attempt (h : Holders) (package : String) (program : Program) :
    Except Failure TypeDescription × Holders :=
  match h.update package program with
  | .ok (holder, k) => (.ok holder, k)
  | .error failure => (.error failure, h)

variable {h : Holders} {package : String} {q : Program} {c : TypeBuilder} {failure : Failure}

theorem attempt_of_ok (hrun : q.run (.ofType (h.get package)) = .ok c) :
    h.attempt package q = (.ok c.build, h.put package c.build) := by
  rw [attempt, update, hrun]
  rfl

theorem attempt_of_error (hrun : q.run (.ofType (h.get package)) = .error failure) :
    h.attempt package q = (.error failure, h) := by
  rw [attempt, update, hrun]
  rfl

/-- An update that succeeded. -/
structure Success where
  /-- The package. -/
  package : String
  /-- The program that was run. -/
  program : Program
  /-- The calls that it made, with their outcomes. -/
  transcript : Transcript

/-- Holders and the updates that succeeded, in order. -/
structure History where
  /-- The holders. -/
  holders : Holders
  /-- The updates. -/
  successes : List Success := []

namespace History

/-- The history after a further update. A failure leaves it as it was. -/
def next (s : History) (call : String × Program) : History :=
  match s.holders.attempt call.1 call.2 with
  | (.ok _, holders) =>
    { holders
      successes := s.successes ++
        [⟨call.1, call.2, call.2.transcript (.ofType (s.holders.get call.1))⟩] }
  | (.error _, _) => s

/-- The history of some updates. -/
def ofCalls (className : String) (calls : List (String × Program)) : History :=
  calls.foldl next { holders := { className } }

/-- The successful updates of a package. -/
def ofPackage (s : History) (package : String) : List Success :=
  s.successes.filter (·.package = package)

/-- The programs that succeeded for a package, one after another. -/
def programOf (s : History) (package : String) : Program :=
  .sequence ((s.ofPackage package).map Success.program)

/-- The calls that the programs of a package made in their updates. -/
def transcriptOf (s : History) (package : String) : Transcript :=
  (s.ofPackage package).flatMap Success.transcript

variable {className : String} {s : History} {e : Success} {t : TypeDescription}

/-- The history after an update that succeeded. -/
def push (s : History) (e : Success) (holder : TypeDescription) : History where
  holders := s.holders.put e.package holder
  successes := s.successes ++ [e]

/-- An update that succeeds is pushed with its program and the calls that it made. -/
theorem next_of_ok (hrun : q.run (.ofType (s.holders.get package)) = .ok c) :
    s.next (package, q) =
      s.push ⟨package, q, q.transcript (.ofType (s.holders.get package))⟩ c.build := by
  rw [next, attempt_of_ok hrun]
  rfl

/-- An update that fails leaves no trace. -/
theorem next_of_error (hrun : q.run (.ofType (s.holders.get package)) = .error failure) :
    s.next (package, q) = s := by
  rw [next, attempt_of_error hrun]

theorem programOf_push_self (s : History) (e : Success) (t : TypeDescription) :
    (s.push e t).programOf e.package = (s.programOf e.package).andThen e.program := by
  rw [programOf, ofPackage, push, List.filter_append, List.filter_cons_of_pos (by simp),
    List.filter_nil, List.map_append, List.map_singleton, Program.sequence_concat]
  rfl

theorem transcriptOf_push_self (s : History) (e : Success) (t : TypeDescription) :
    (s.push e t).transcriptOf e.package = s.transcriptOf e.package ++ e.transcript := by
  rw [transcriptOf, ofPackage, push, List.filter_append, List.filter_cons_of_pos (by simp),
    List.filter_nil, List.flatMap_append, List.flatMap_singleton]
  rfl

/-- An update of another package is none of this one. -/
theorem ofPackage_push_of_ne (s : History) (t : TypeDescription) {p : String} (h : e.package ≠ p) :
    (s.push e t).ofPackage p = s.ofPackage p := by
  rw [ofPackage, push, List.filter_append, List.filter_cons_of_neg (by simpa using h),
    List.filter_nil, List.append_nil]
  rfl

/-! ## Single runs -/

/-- The holder of a package describes what a single run of its programs leaves on a builder of the
default holder, and the programs made the same calls in it. -/
structure SingleRun (className : String) (s : History) (p : String) (b : TypeBuilder) : Prop where
  /-- The run succeeds. -/
  run_eq : (s.programOf p).run (.ofType (defaultHolder className)) = .ok b
  /-- Its builder describes the holder. -/
  build_eq : b.build = s.holders.get p
  /-- The calls have the outcomes that they had in the updates. -/
  transcript_eq : (s.programOf p).transcript (.ofType (defaultHolder className)) = s.transcriptOf p

/-- A program does not tell the builder of a `SingleRun` from one that the holder is handed over
to. -/
theorem SingleRun.same_build {b : TypeBuilder} {p : String} (h : SingleRun className s p b) :
    (TypeBuilder.ofType (s.holders.get p)).build = b.build := by
  rw [← h.build_eq, TypeBuilder.build_ofType_build]

/-- One more program of the package goes on with the `SingleRun`. -/
theorem SingleRun.push_self {b : TypeBuilder} (h : SingleRun className s package b)
    (hrun : q.run (.ofType (s.holders.get package)) = .ok c) :
    ∃ d, SingleRun className
      (s.push ⟨package, q, q.transcript (.ofType (s.holders.get package))⟩ c.build) package d := by
  obtain ⟨htranscript, hresult⟩ := Program.run_of_build_eq h.same_build q
  -- so it succeeds on the builder of the run too
  obtain ⟨d, hd, hbuild⟩ : ∃ d, q.run b = .ok d ∧ d.build = c.build := by
    rw [hrun] at hresult
    exact map_eq_ok_iff.1 hresult.symm
  refine ⟨d, ?_, ?_, ?_⟩
  · rw [programOf_push_self, Program.run_andThen, h.run_eq]
    exact hd
  · rw [hbuild, push, get_put, if_pos rfl]
  · rw [programOf_push_self, transcriptOf_push_self, Program.transcript_andThen h.run_eq,
      h.transcript_eq, htranscript]

/-- An update of another package does not concern the `SingleRun`. -/
theorem SingleRun.push_of_ne {b : TypeBuilder} {p : String} (h : SingleRun className s p b)
    (hne : e.package ≠ p) (t : TypeDescription) : SingleRun className (s.push e t) p b := by
  have hof := ofPackage_push_of_ne s t hne
  refine ⟨?_, ?_, ?_⟩
  · rw [programOf, hof]
    exact h.run_eq
  · rw [push, get_put, if_neg (Ne.symm hne)]
    exact h.build_eq
  · rw [programOf, transcriptOf, hof]
    exact h.transcript_eq

/-- The packages are those of the successful updates, and every holder comes from a single run. -/
structure Replayed (className : String) (s : History) : Prop where
  /-- The configured name stays. -/
  className_eq : s.holders.className = className
  /-- The packages are in the order of their first success. -/
  packages_eq : s.holders.packages = (s.successes.map Success.package).eraseDups
  /-- Each holder comes from a single run. -/
  single_run : ∀ p, ∃ b, SingleRun className s p b

/-- Before any update every package shows the default holder. -/
theorem replayed_empty (className : String) : Replayed className { holders := { className } } where
  className_eq := rfl
  packages_eq := rfl
  single_run := fun _ => ⟨_, rfl, rfl, rfl⟩

/-- One more update leaves the holders `Replayed`, be it of a new package or of a known one, and
whether it succeeds or fails. -/
theorem Replayed.next (h : Replayed className s) (call : String × Program) :
    Replayed className (s.next call) := by
  obtain ⟨package, program⟩ := call
  cases hrun : program.run (.ofType (s.holders.get package)) with
  | error failure =>
    rw [next_of_error hrun]
    exact h
  | ok c =>
    rw [next_of_ok hrun]
    refine ⟨h.className_eq, ?_, fun p => ?_⟩
    · -- a package is new in the holders if it is new among the successful updates
      rw [push, packages_put, h.packages_eq, List.map_append, List.map_singleton, eraseDups_concat]
    · -- the run of the package goes on, and no other run is concerned
      obtain ⟨b, hb⟩ := h.single_run p
      by_cases hp : package = p
      · subst hp
        exact hb.push_self hrun
      · exact ⟨b, hb.push_of_ne hp _⟩

/-- The holders are `Replayed` after any updates. The induction is on the updates, from the last
one. -/
theorem replayed_ofCalls (className : String) (calls : List (String × Program)) :
    Replayed className (ofCalls className calls) := by
  -- from the end: the last update is the next one of the history of the others
  induction calls using List.reverseRecOn with
  | nil => exact replayed_empty className
  | append_singleton calls call ih =>
    rw [ofCalls, List.foldl_append]
    exact ih.next call

end History

/-- Calls of `attempt` come to single runs.

After any updates of any packages, some of which fail, the packages are those of the successful
updates in the order of their first success. For each package there is a builder that the programs
of its successful updates leave when they are run one after another on a builder of the default
holder; the holder of the package is the class that this builder describes, so it is the default
holder if there was no such update; and the programs made the same calls with the same outcomes in
their updates as they make in that run. So does any further program: the next update succeeds or
fails as the program does on that builder, it stores what the program leaves there, and if it fails
nothing changes and its failure is handed on. -/
theorem updates_single_run (className : String) (calls : List (String × Program)) :
    let s := History.ofCalls className calls
    s.holders.packages = (s.successes.map Success.package).eraseDups ∧
    ∀ p, ∃ b, (s.programOf p).run (.ofType (defaultHolder className)) = .ok b ∧
      s.holders.get p = b.build ∧
      (p ∈ s.successes.map Success.package ∨ s.holders.get p = defaultHolder className) ∧
      (s.programOf p).transcript (.ofType (defaultHolder className)) = s.transcriptOf p ∧
      ∀ program : Program,
        program.transcript (.ofType (s.holders.get p)) = program.transcript b ∧
        s.holders.attempt p program = match program.run b with
          | .ok c => (.ok c.build, s.holders.put p c.build)
          | .error failure => (.error failure, s.holders) := by
  intro s
  have hs : History.Replayed className s := History.replayed_ofCalls className calls
  refine ⟨hs.packages_eq, fun p => ?_⟩
  obtain ⟨b, hb⟩ := hs.single_run p
  refine ⟨b, hb.run_eq, hb.build_eq.symm, ?_, hb.transcript_eq, fun program => ?_⟩
  · by_cases hp : p ∈ s.successes.map Success.package
    · exact Or.inl hp
    · -- without a success the package is none of those that have a holder
      have hnew : p ∉ s.holders.packages := by rwa [hs.packages_eq, List.mem_eraseDups]
      exact Or.inr (hs.className_eq ▸ get_of_not_mem hnew)
  · obtain ⟨htranscript, hresult⟩ := Program.run_of_build_eq hb.same_build program
    refine ⟨htranscript, ?_⟩
    -- the program ends alike on both builders
    cases hrun : program.run (.ofType (s.holders.get p)) with
    | error failure =>
      rw [hrun] at hresult
      rw [attempt_of_error hrun]
      cases hrun' : program.run b with
      | error failure' =>
        rw [hrun'] at hresult
        rw [Except.error.inj hresult]
      | ok d =>
        rw [hrun'] at hresult
        cases hresult
    | ok c =>
      rw [hrun] at hresult
      obtain ⟨d, hd, hbuild⟩ := map_eq_ok_iff.1 hresult.symm
      rw [attempt_of_ok hrun, hd]
      dsimp only
      rw [hbuild]

end Holders

end FactoryRegistry
