import FactoryRegistry.Proofs.Fingerprint.Order
import FactoryRegistry.Proofs.Generator.Registration
import FactoryRegistry.Proofs.Holders.Order

/-!
# Independent operations

A program on the holder of one package and an operation that does not touch that holder can be
carried out in either order. Both give the same results, and the states differ in the order of the
packages at most. A fingerprint does not show that order, because the qualified names of the
holders in a build are pairwise different (`Tidy.qualifiedNames_nodup`).

* `Generator.SameUpToOrder`: two states differ in the order of their packages only, which every
  operation preserves (`SameUpToOrder.step`), and so does a run (`SameUpToOrder.run`);
* `Operation.IndependentOf`: an operation does not touch the holder of a package. Replacing that
  holder first changes nothing about such an operation (`step_with_put`);
* `holder_order_irrelevant`: the main result, on a swap of two neighbours in any build.
-/

namespace FactoryRegistry

/-- Files of classes with one name have the same `qualifiedName` only in the same package. The
unnamed package is no exception, for its qualified names are the shortest. -/
theorem SourceFile.package_eq_of_qualifiedName {f g : SourceFile}
    (hname : f.type.name = g.type.name) (h : f.qualifiedName = g.qualifiedName) :
    f.package = g.package := by
  have hlength := congrArg String.length h
  rw [qualifiedName, qualifiedName] at h hlength
  rw [← hname] at h hlength
  split at h <;> split at h <;> rename_i hf hg
  · rw [String.isEmpty_iff.1 hf, String.isEmpty_iff.1 hg]
  · simp [toString, hf, hg] at hlength
  · simp [toString, hf, hg] at hlength
  · exact (String.append_left_inj _).1 ((String.append_left_inj _).1 h)

/-- An operation that neither reads nor writes the holder of a package. -/
def Operation.IndependentOf (op : Operation) (package : String) : Prop :=
  match op with
  | .setProperty _ _ | .writeStaticBlock _ => True
  | .writeHolder p _ => p ≠ package
  | .register b => b.accessible = true ∨ b.package ≠ package
  | .generateRegistry | .generate => False

/-- Outcomes that differ in the order of generated holders only. -/
inductive SameOutcome : Except Failure Result → Except Failure Result → Prop
  /-- There is no difference at all. -/
  | same (outcome) : SameOutcome outcome outcome
  /-- Sources were generated: one registry, the same holders and one fingerprint. -/
  | sources {s s' : GeneratedSources} (registry : s'.registry = s.registry)
      (factoryClasses : s.factoryClasses.Perm s'.factoryClasses)
      (fingerprint : s'.fingerprint = s.fingerprint) :
      SameOutcome (.ok (.sources s)) (.ok (.sources s'))

namespace Generator

/-- States that differ in the order of their packages only. -/
structure SameUpToOrder (g g' : Generator) : Prop where
  /-- Everything but the holders is the same. -/
  state : g' = { g with holders := g'.holders }
  /-- The holders are the same, perhaps in another order. -/
  holders : g.holders.SameUpToOrder g'.holders

/-- Every holder is the only one of its package and has the configured name. -/
structure Tidy (g : Generator) : Prop where
  /-- No package has two holders. -/
  distinct : g.holders.Distinct
  /-- The holders have the configured name. -/
  normal : g.holders.Normal

/-! ## Tidy states -/

namespace Tidy

variable {g : Generator}

/-- A `step` keeps a state `Tidy`. -/
theorem step (hg : g.Tidy) (op : Operation) : (g.step op).2.Tidy := by
  refine ⟨?_, step_normal hg.normal op⟩
  obtain h | ⟨package, program, holder, h⟩ := g.step_holders op
  · rw [h]
    exact hg.distinct
  · exact Holders.update_distinct hg.distinct h

/-- A file among `factoryClasses` holds the class of its package. -/
theorem type_eq_of_mem (hg : g.Tidy) {f : SourceFile} (hf : f ∈ g.factoryClasses) :
    f.type = g.holders.get f.package := by
  obtain ⟨e, he, rfl⟩ := List.mem_map.1 hf
  have hentry := (List.mem_filter.1 he).1
  rw [hg.distinct.entries_eq] at hentry
  obtain ⟨p, -, rfl⟩ := List.mem_map.1 hentry
  rfl

/-- The files among `factoryClasses` have pairwise different qualified names. -/
theorem qualifiedNames_nodup (hg : g.Tidy) :
    (g.factoryClasses.map SourceFile.qualifiedName).Nodup := by
  have hpackages : (g.factoryClasses.map SourceFile.package).Nodup := by
    have hsublist : (g.factoryClasses.map SourceFile.package).Sublist g.holders.packages := by
      rw [factoryClasses, List.map_map]
      exact List.filter_sublist.map _
    exact hsublist.nodup hg.distinct
  refine List.Nodup.map_on (fun f hf f' hf' h => ?_) (List.Nodup.of_map _ hpackages)
  -- all classes have the configured name, so the packages are the same and with them the files
  have hpackage : f.package = f'.package := by
    refine SourceFile.package_eq_of_qualifiedName ?_ h
    rw [hg.type_eq_of_mem hf, hg.type_eq_of_mem hf', hg.normal.name, hg.normal.name]
  exact List.inj_on_of_nodup_map hpackages hf hf' hpackage

end Tidy

/-- Every state of a build is `Tidy`. -/
theorem reached_tidy (options : AotOptions) (output : OutputSettings) (ops : List Operation) :
    (reached options output ops).Tidy :=
  reached_invariant options output
    ⟨List.nodup_nil, Holders.normal_of_entries_nil output.providerClass⟩
    (fun _ op hg => hg.step op) ops

/-! ## States with packages in different orders -/

namespace Placement

variable {h k h' k' : Holders} {b : Binding} {r r' : Registration}

/-- A `Placement` depends on the configured name and, where the binding needs an accessor, on the
holder of its package. Nothing else about the holders has an effect. -/
theorem eq_of_get_eq (hp : Placement h b r k) (hp' : Placement h' b r' k')
    (hname : h'.className = h.className)
    (hget : b.accessible = false → h'.get b.package = h.get b.package) :
    r' = r ∧ (k = h ∧ k' = h' ∨
      b.accessible = false ∧ ∃ t, k = h.put b.package t ∧ k' = h'.put b.package t) := by
  -- both placements are of the same kind, since they see the same holder
  cases hp with
  | direct accessible =>
    cases hp' with
    | direct => exact ⟨rfl, .inl ⟨rfl, rfl⟩⟩
    | reused inaccessible => rw [accessible] at inaccessible; cases inaccessible
    | added inaccessible => rw [accessible] at inaccessible; cases inaccessible
  | reused inaccessible slot =>
    cases hp' with
    | direct accessible => rw [inaccessible] at accessible; cases accessible
    | reused _ slot' =>
      rw [hget inaccessible, slot] at slot'
      cases slot'
      exact ⟨congrArg (viaAccessor · b _) hname, .inl ⟨rfl, rfl⟩⟩
    | added _ slot' => rw [hget inaccessible, slot] at slot'; cases slot'
  | added inaccessible slot =>
    cases hp' with
    | direct accessible => rw [inaccessible] at accessible; cases accessible
    | reused _ slot' => rw [hget inaccessible, slot] at slot'; cases slot'
    | added _ slot' =>
      rw [hget inaccessible, slot] at slot'
      cases slot'
      refine ⟨congrArg (viaAccessor · b _) hname, .inr ⟨inaccessible, _, rfl, ?_⟩⟩
      rw [hget inaccessible]

/-- Whether a binding is placed among some holders or among the same ones in another order makes no
difference but for that order. -/
theorem sameUpToOrder (hp : Placement h b r k) (hp' : Placement h' b r' k')
    (hh : h.SameUpToOrder h') : r' = r ∧ k.SameUpToOrder k' := by
  obtain ⟨hr, ⟨rfl, rfl⟩ | ⟨-, t, rfl, rfl⟩⟩ :=
    hp.eq_of_get_eq hp' hh.className fun _ => hh.get b.package
  · exact ⟨hr, hh⟩
  · exact ⟨hr, hh.put b.package t⟩

/-- A binding that does not touch the holder of a package is placed in the same way after `put` of
another one there. -/
theorem put {package : String} {t : TypeDescription} (hp : Placement h b r k)
    (hp' : Placement (h.put package t) b r' k')
    (hb : b.accessible = true ∨ b.package ≠ package) :
    r' = r ∧ (k.put package t).SameUpToOrder k' := by
  have hother : b.accessible = false → b.package ≠ package := by
    intro inaccessible
    obtain accessible | hne := hb
    · rw [inaccessible] at accessible
      cases accessible
    · exact hne
  obtain ⟨hr, ⟨rfl, rfl⟩ | ⟨inaccessible, u, rfl, rfl⟩⟩ := hp.eq_of_get_eq hp' rfl fun h' => by
    rw [Holders.get_put, if_neg (hother h')]
  · exact ⟨hr, .refl _⟩
  · exact ⟨hr, h.put_put_of_ne (hother inaccessible).symm t u⟩

end Placement

variable {g : Generator} {k : Holders}

/-- `setProperty` does not depend on the holders. -/
theorem setProperty_with_holders (g : Generator) (k : Holders) (key value : String) :
    ({ g with holders := k }).setProperty key value =
      ((g.setProperty key value).1, { (g.setProperty key value).2 with holders := k }) := by
  have hothers : ({ g with holders := k } : Generator).otherStatements = g.otherStatements := rfl
  rw [setProperty_eq, setProperty_eq, hothers]
  split_ifs <;> rfl

/-- A `step` from a state whose packages stand in another order has the same outcome but for that
order, and so has the state after it. -/
theorem step_with_holders (hg : g.Tidy) (hk : g.holders.SameUpToOrder k) (op : Operation) :
    ∃ outcome l,
      ({ g with holders := k }).step op = (outcome, { (g.step op).2 with holders := l }) ∧
      SameOutcome (g.step op).1 outcome ∧ (g.step op).2.holders.SameUpToOrder l := by
  cases op with
  | setProperty key value =>
    rw [step, setProperty_with_holders]
    refine ⟨_, k, rfl, .same _, ?_⟩
    rw [step, setProperty_holders]
    exact hk
  | writeStaticBlock w => exact ⟨_, k, rfl, .same _, hk⟩
  | writeHolder package program =>
    simp only [step, writeHolder, Holders.update, hk.get package]
    cases program.run (.ofType (g.holders.get package)) with
    | error failure => exact ⟨_, k, rfl, .same _, hk⟩
    | ok b => exact ⟨_, _, rfl, .same _, hk.put package b.build⟩
  | register b =>
    cases hblock : g.block.finalized with
    | true =>
      have hregister := register_of_finalized (g := { g with holders := k }) hblock b
      rw [step, hregister, step, register_of_finalized hblock]
      exact ⟨_, k, rfl, .same _, hk⟩
    | false =>
      obtain ⟨r, l, hplacement, hregister⟩ := register_of_open hblock b
      obtain ⟨r', l', hplacement', hregister'⟩ :=
        register_of_open (g := { g with holders := k }) hblock b
      obtain ⟨rfl, hl⟩ := hplacement.sameUpToOrder hplacement' hk
      rw [step, hregister', step, hregister]
      exact ⟨_, l', rfl, .same _, hl⟩
  | generateRegistry =>
    simp only [step, generateRegistry]
    cases g.block.finalize <;> exact ⟨_, k, rfl, .same _, hk⟩
  | generate =>
    simp only [step, generate, generateRegistry]
    cases g.block.finalize with
    | error fault => exact ⟨_, k, rfl, .same _, hk⟩
    | ok closed =>
      -- the files are the same ones, and their names are different, so the fingerprint is the same
      have hfiles : g.factoryClasses.Perm (factoryClasses { g with holders := k }) :=
        ((hk.entries_perm hg.distinct).filter _).map _
      have hfingerprint :=
        fingerprint_eq_of_perm hfiles hg.qualifiedNames_nodup
          (g.output.target.assembleFile closed.1)
      exact ⟨_, k, rfl, .sources rfl hfiles hfingerprint.symm, hk⟩

namespace SameUpToOrder

variable {g g' : Generator}

/-- A state is `SameUpToOrder` as itself. -/
theorem refl (g : Generator) : g.SameUpToOrder g := ⟨rfl, .refl g.holders⟩

/-- A `step` from states that are `SameUpToOrder` has the same outcome, and so are the states after
it. -/
theorem step (hs : g.SameUpToOrder g') (hg : g.Tidy) (op : Operation) :
    SameOutcome (g.step op).1 (g'.step op).1 ∧ (g.step op).2.SameUpToOrder (g'.step op).2 := by
  obtain ⟨outcome, l, hstep, houtcome, hl⟩ := step_with_holders hg hs.holders op
  rw [hs.state, hstep]
  exact ⟨houtcome, rfl, hl⟩

/-- A `run` from states that are `SameUpToOrder` has the same outcomes, and so are the states after
it. The induction is on the operations. -/
theorem run (hs : g.SameUpToOrder g') (hg : g.Tidy) (ops : List Operation) :
    List.Forall₂ SameOutcome (g.run ops).1 (g'.run ops).1 ∧
      (g.run ops).2.SameUpToOrder (g'.run ops).2 := by
  induction ops generalizing g g' with
  | nil => exact ⟨.nil, hs⟩
  | cons op ops ih =>
    obtain ⟨houtcome, hstep⟩ := hs.step hg op
    obtain ⟨houtcomes, hrun⟩ := ih hstep (hg.step op)
    exact ⟨.cons houtcome houtcomes, hrun⟩

/-- `generate` from states that are `SameUpToOrder` gives one fingerprint, or the same failure. -/
theorem fingerprint (hs : g.SameUpToOrder g') (hg : g.Tidy) :
    g'.generate.1.map GeneratedSources.fingerprint =
      g.generate.1.map GeneratedSources.fingerprint := by
  have houtcome := (hs.step hg .generate).1
  simp only [Generator.step] at houtcome
  cases hresult : g.generate.1 <;> cases hresult' : g'.generate.1 <;>
    rw [hresult, hresult'] at houtcome <;> cases houtcome
  case error.error.same => rfl
  case ok.ok.same => rfl
  case ok.ok.sources hfingerprint => exact congrArg Except.ok hfingerprint

end SameUpToOrder

/-! ## Swapping two operations -/

/-- An operation that is `IndependentOf` a package leaves its holder as it is. -/
theorem get_step_of_independent (g : Generator) {op : Operation} {package : String}
    (hop : op.IndependentOf package) :
    (g.step op).2.holders.get package = g.holders.get package := by
  cases op with
  | setProperty key value => rw [step, setProperty_holders]
  | writeStaticBlock w => rfl
  | writeHolder p program =>
    obtain ⟨holder, k, hupdate, hwrite⟩ | ⟨failure, -, hwrite⟩ := g.writeHolder_cases p program
    · obtain ⟨b, -, -, rfl⟩ := Holders.update_eq_ok hupdate
      rw [step, hwrite]
      exact (g.holders.get_put p b.build package).trans (if_neg (Ne.symm hop))
    · rw [step, hwrite]
  | register b =>
    cases hblock : g.block.finalized with
    | true => rw [step, register_of_finalized hblock]
    | false =>
      obtain ⟨r, k, hplacement, hregister⟩ := register_of_open hblock b
      rw [step, hregister]
      -- an accessible binding touches no holder, any other one only that of its package
      obtain accessible | hpackage := hop
      · cases hplacement with
        | direct => rfl
        | reused => rfl
        | added inaccessible => rw [accessible] at inaccessible; cases inaccessible
      · exact hplacement.get_of_ne (Ne.symm hpackage)
  | generateRegistry => exact hop.elim
  | generate => exact hop.elim

/-- `put` of a holder before an operation that is `IndependentOf` its package is as good as
afterwards. -/
theorem step_with_put (g : Generator) {op : Operation} {package : String}
    (hop : op.IndependentOf package) (t : TypeDescription) :
    ∃ l, ({ g with holders := g.holders.put package t }).step op =
        ((g.step op).1, { (g.step op).2 with holders := l }) ∧
      ((g.step op).2.holders.put package t).SameUpToOrder l := by
  cases op with
  | setProperty key value =>
    rw [step, setProperty_with_holders]
    refine ⟨_, rfl, ?_⟩
    rw [step, setProperty_holders]
    exact .refl _
  | writeStaticBlock w => exact ⟨_, rfl, .refl _⟩
  | writeHolder p program =>
    have hget : (g.holders.put package t).get p = g.holders.get p :=
      (g.holders.get_put package t p).trans (if_neg hop)
    simp only [step, writeHolder, Holders.update, hget]
    -- the program runs on the same holder, and two packages can be put in either order
    cases program.run (.ofType (g.holders.get p)) with
    | error failure => exact ⟨_, rfl, .refl _⟩
    | ok b => exact ⟨_, rfl, g.holders.put_put_of_ne (Ne.symm hop) t b.build⟩
  | register b =>
    cases hblock : g.block.finalized with
    | true =>
      have hregister :=
        register_of_finalized (g := { g with holders := g.holders.put package t }) hblock b
      rw [step, hregister, step, register_of_finalized hblock]
      exact ⟨_, rfl, .refl _⟩
    | false =>
      -- the binding is placed in the same way on both sides
      obtain ⟨r, k, hplacement, hregister⟩ := register_of_open hblock b
      obtain ⟨r', k', hplacement', hregister'⟩ :=
        register_of_open (g := { g with holders := g.holders.put package t }) hblock b
      obtain ⟨rfl, hk⟩ := hplacement.put hplacement' hop
      rw [step, hregister', step, hregister]
      exact ⟨k', rfl, hk⟩
  | generateRegistry => exact hop.elim
  | generate => exact hop.elim

/-- A program on a holder and an operation that is `IndependentOf` it give the same results in
either order, and the states afterwards are `SameUpToOrder`. -/
theorem step_swap (g : Generator) {op : Operation} {package : String}
    (hop : op.IndependentOf package) (program : Program) :
    let write := Operation.writeHolder package program
    ((g.step write).2.step op).1 = (g.step op).1 ∧
      ((g.step op).2.step write).1 = (g.step write).1 ∧
      ((g.step op).2.step write).2.SameUpToOrder ((g.step write).2.step op).2 := by
  have hget := g.get_step_of_independent hop
  intro write
  -- the program finds the same holder in both orders, so it fails in both or in none
  cases hrun : program.run (.ofType (g.holders.get package)) with
  | error failure =>
    have hwrite : ∀ g' : Generator, g'.holders.get package = g.holders.get package →
        g'.step write = (.error failure, g') := by
      intro g' hg'
      simp only [write, step, writeHolder, Holders.update, hg', hrun]
      rfl
    rw [hwrite g rfl, hwrite _ hget]
    exact ⟨rfl, rfl, .refl _⟩
  | ok b =>
    have hwrite : ∀ g' : Generator, g'.holders.get package = g.holders.get package →
        g'.step write =
          (.ok (.holder b.build), { g' with holders := g'.holders.put package b.build }) := by
      intro g' hg'
      simp only [write, step, writeHolder, Holders.update, hg', hrun]
      rfl
    obtain ⟨l, hstep, hl⟩ := g.step_with_put hop b.build
    rw [hwrite g rfl, hwrite _ hget, hstep]
    exact ⟨rfl, rfl, rfl, hl⟩

/-- In every state of a build the emitted holders have pairwise different qualified names, so the
`fingerprint` is the same in whatever order they are given.

Swapping a `writeHolder` with a neighbour that is `IndependentOf` its package changes nothing but
the order of the packages: both give the same results in either order, and so does every later
operation, except that sources may list the holders in another order. At the end the statements, the
ledger and the holder of each package are the same, and generating gives the same fingerprint. -/
theorem holder_order_irrelevant (options : AotOptions) (output : OutputSettings) :
    (∀ ops : List Operation,
      let g := reached options output ops
      (g.factoryClasses.map SourceFile.qualifiedName).Nodup ∧
        ∀ (registry : SourceFile) (files : List SourceFile), files.Perm g.factoryClasses →
          fingerprint registry files = fingerprint registry g.factoryClasses) ∧
    (∀ (before : List Operation) (package : String) (program : Program) (op : Operation)
        (after : List Operation), op.IndependentOf package →
      let write := Operation.writeHolder package program
      let g := reached options output before
      let g₁ := (g.run [op, write]).2
      let g₂ := (g.run [write, op]).2
      (g.run [write, op]).1 = (g.run [op, write]).1.reverse ∧
        List.Forall₂ SameOutcome (g₁.run after).1 (g₂.run after).1 ∧
        (reached options output (before ++ op :: write :: after)).SameUpToOrder
          (reached options output (before ++ write :: op :: after)) ∧
        (reached options output (before ++ write :: op :: after)).generate.1.map
            GeneratedSources.fingerprint =
          (reached options output (before ++ op :: write :: after)).generate.1.map
            GeneratedSources.fingerprint) := by
  refine ⟨fun ops => ?_, fun before package program op after hop => ?_⟩
  · have hnodup := (reached_tidy options output ops).qualifiedNames_nodup
    exact ⟨hnodup, fun registry files hperm =>
      (fingerprint_eq_of_perm hperm.symm hnodup registry).symm⟩
  · intro write g g₁ g₂
    have htidy : g.Tidy := reached_tidy options output before
    have htidy₁ : g₁.Tidy := (htidy.step op).step write
    obtain ⟨hop', hwrite, hswap⟩ := g.step_swap hop program
    have hsame : g₁.SameUpToOrder g₂ := hswap
    obtain ⟨houtcomes, hend⟩ := hsame.run htidy₁ after
    rw [reached_append, reached_append]
    refine ⟨?_, houtcomes, hend, ?_⟩
    · simp only [run, List.reverse_cons, List.reverse_nil, List.nil_append, List.singleton_append]
      rw [hop', hwrite]
    · exact hend.fingerprint (run_invariant (P := Tidy) (fun _ op h => h.step op) htidy₁ after)

/-- A registration in one new package and a program on the holder of another one leave the packages
in the order of the two operations, and the fingerprint does not tell which one that is. -/
theorem fingerprint_of_swapped_packages :
    let op := Operation.register ⟨"C", "p.Foo", "p", false⟩
    let write := Operation.writeHolder "q" (addMethodProgram ⟨"foo", "void", [], .empty, ""⟩)
    let g := reached {} {} [op, write]
    let g' := reached {} {} [write, op]
    op.IndependentOf "q" ∧ g.holders.packages = ["p", "q"] ∧ g'.holders.packages = ["q", "p"] ∧
      g'.generate.1.map GeneratedSources.fingerprint =
        g.generate.1.map GeneratedSources.fingerprint := by
  have hop : (Operation.register ⟨"C", "p.Foo", "p", false⟩).IndependentOf "q" :=
    .inr (by decide)
  obtain ⟨-, -, -, hfingerprint⟩ := (holder_order_irrelevant {} {}).2 [] "q"
    (addMethodProgram ⟨"foo", "void", [], .empty, ""⟩) _ [] hop
  exact ⟨hop, rfl, rfl, hfingerprint⟩

end Generator

end FactoryRegistry
