import Mathlib.Data.List.TakeWhile
import FactoryRegistry.Proofs.Generator.Emission
import FactoryRegistry.Proofs.Generator.Independence

/-!
# When emitted files have different names

The holders that a build emits have pairwise different qualified names, but nothing keeps the
registry apart from them. Whether it is depends on one package at most, which the settings alone
determine: the package whose holder would be called as the registry
(`OutputSettings.sharedPackage?`). A build emits two files of one name exactly when it emits the
holder of that package (`emitted_names_nodup_iff`). Class names without dots share a package only
when they are equal, and then it is the package of the registry.
-/

namespace FactoryRegistry

/-- The name of a class in a package. -/
def qualify (package name : String) : String :=
  if package.isEmpty then name else s!"{package}.{name}"

theorem toList_qualify {package : String} (hpackage : package ≠ "") (name : String) :
    (qualify package name).toList = package.toList ++ '.' :: name.toList := by
  simp [qualify, hpackage, toString]

/-- Classes of one name are qualified alike only in the same package. -/
theorem qualify_left_inj {p q name : String} : qualify p name = qualify q name ↔ p = q :=
  ⟨fun h => SourceFile.package_eq_of_qualifiedName (f := ⟨p, Holders.defaultHolder name⟩)
    (g := ⟨q, Holders.defaultHolder name⟩) rfl h, congrArg (qualify · name)⟩

/-- A name without dots can be told from its package. -/
theorem takeWhile_reverse_qualify (package : String) {name : String} (hname : '.' ∉ name.toList) :
    (qualify package name).toList.reverse.takeWhile (· ≠ '.') = name.toList.reverse := by
  have hall : ∀ c ∈ name.toList.reverse, (decide (c ≠ '.')) = true := by
    intro c hc
    have hne : c ≠ '.' := fun h => hname (h ▸ List.mem_reverse.1 hc)
    simpa using hne
  by_cases hpackage : package = ""
  · subst hpackage
    exact List.takeWhile_eq_self_iff.2 hall
  · rw [toList_qualify hpackage, List.reverse_append, List.reverse_cons, List.append_assoc,
      List.takeWhile_append_of_pos hall]
    simp

/-- Names without dots are qualified alike only when both the packages and the names are equal. -/
theorem qualify_inj {p q m n : String} (hm : '.' ∉ m.toList) (hn : '.' ∉ n.toList) :
    qualify p m = qualify q n ↔ p = q ∧ m = n := by
  refine ⟨fun h => ?_, fun ⟨hp, hm⟩ => by rw [hp, hm]⟩
  have hlast := takeWhile_reverse_qualify p hm
  rw [h, takeWhile_reverse_qualify q hn, List.reverse_inj] at hlast
  obtain rfl : n = m := String.toList_injective hlast
  exact ⟨qualify_left_inj.1 h, rfl⟩

namespace OutputSettings

/-- The qualified name of the registry. -/
def registryName (o : OutputSettings) : String := qualify o.registryPackage o.registryClass

/-- The package whose holder has the qualified name of the registry, if there is one. -/
def sharedPackage? (o : OutputSettings) : Option String :=
  if o.providerClass = o.registryName then some ""
  else
    ((o.registryName.toList.dropSuffix? ('.' :: o.providerClass.toList)).map String.ofList).filter
      (· ≠ "")

variable {o : OutputSettings}

/-- The `sharedPackage?` is the only one whose holder is called as the registry. -/
theorem sharedPackage?_eq_some_iff {p : String} :
    o.sharedPackage? = some p ↔ qualify p o.providerClass = o.registryName := by
  rw [sharedPackage?]
  split_ifs with hunnamed
  · -- in the unnamed package the holder is called as the registry, so it is in no other
    have hempty : qualify "" o.providerClass = o.registryName := hunnamed
    rw [← hempty, qualify_left_inj, Option.some_inj, eq_comm]
  · rw [Option.filter_eq_some_iff, Option.map_eq_some_iff, decide_eq_true_iff]
    refine ⟨fun ⟨⟨cs, hdrop, hcs⟩, hp⟩ => ?_, fun h => ?_⟩
    · obtain ⟨suffix, hname, hsuffix⟩ := List.dropSuffix?_eq_some_iff.1 hdrop
      apply String.toList_injective
      rw [toList_qualify hp, hname, eq_of_beq hsuffix, ← hcs, String.toList_ofList]
    · have hp : p ≠ "" := by
        rintro rfl
        exact hunnamed h
      refine ⟨⟨p.toList, ?_, String.ofList_toList⟩, hp⟩
      rw [← h, toList_qualify hp]
      exact List.dropSuffix?_eq_some_iff.2 ⟨_, rfl, BEq.rfl⟩

/-- Class names without dots have a `sharedPackage?` only when they are equal, and then it is the
package of the registry. -/
theorem sharedPackage?_of_no_dots (hregistry : '.' ∉ o.registryClass.toList)
    (hprovider : '.' ∉ o.providerClass.toList) :
    o.sharedPackage? =
      if o.registryClass = o.providerClass then some o.registryPackage else none := by
  ext p
  rw [sharedPackage?_eq_some_iff, registryName, qualify_inj hprovider hregistry]
  split_ifs with hsame <;> simp [hsame, eq_comm]

end OutputSettings

namespace Generator

/-- The qualified names of all files of a build. -/
def emittedNames (s : GeneratedSources) : List String :=
  (s.registry :: s.factoryClasses).map SourceFile.qualifiedName

/-- What `generate` hands out are the registry and the holders of the state before. -/
theorem sources_of_generate {g : Generator} {sources : GeneratedSources}
    (hsources : g.generate.1 = .ok sources) :
    sources.registry = g.output.target.assembleFile g.block.block ∧
      sources.factoryClasses = g.factoryClasses := by
  rw [generate_eq] at hsources
  split_ifs at hsources
  cases hsources
  exact ⟨rfl, rfl⟩

/-- Two files of one name are the registry and the holder of the `sharedPackage?`. -/
theorem emittedNames_nodup_iff {options : AotOptions} {output : OutputSettings}
    {ops : List Operation} {sources : GeneratedSources}
    (hsources : (reached options output ops).generate.1 = .ok sources) :
    (sources.factoryClasses.map SourceFile.qualifiedName).Nodup ∧
      ((emittedNames sources).Nodup ↔
        ∀ f ∈ sources.factoryClasses, output.sharedPackage? ≠ some f.package) := by
  obtain ⟨hregistry, hclasses⟩ := sources_of_generate hsources
  have htidy := reached_tidy options output ops
  have hnodup := htidy.qualifiedNames_nodup
  rw [emittedNames, List.map_cons, hregistry, hclasses, reached_output]
  refine ⟨hnodup, ?_⟩
  rw [List.nodup_cons, and_iff_left hnodup, List.mem_map]
  simp only [not_exists, not_and, ne_eq, OutputSettings.sharedPackage?_eq_some_iff]
  refine forall₂_congr fun f hf => not_congr ?_
  -- every emitted class has the configured name
  have hname : f.type.name = output.providerClass := by
    rw [htidy.type_eq_of_mem hf, htidy.normal.name, reached_className]
  rw [SourceFile.qualifiedName, hname]
  rfl

/-- One binding that needs an accessor in the `sharedPackage?` makes a build emit two files of one
name. -/
theorem emittedNames_of_sharedPackage (options : AotOptions) {output : OutputSettings} {p : String}
    (hp : output.sharedPackage? = some p) :
    ∃ ops sources, (reached options output ops).generate.1 = .ok sources ∧
      ¬ (emittedNames sources).Nodup := by
  -- the binding is not accessible from the registry's package, so its own package gets a holder
  let bs : List Binding := [⟨"Contract", "Implementation", p, false⟩]
  obtain ⟨hopen, hexact, -⟩ := reached_registrations options output bs
  obtain ⟨fingerprint, hgenerate⟩ := generate_of_open hopen
  refine ⟨bs.map .register, _, hgenerate, fun hnodup => ?_⟩
  have hapart := (emittedNames_nodup_iff hgenerate).2.1 hnodup
  have hpackages : accessorPackages bs = [p] := by
    simp [bs, accessorPackages, inaccessibleOf, List.eraseDups_cons]
  have hfiles := factoryClasses_eq (g := reached options output (bs.map .register))
    (hexact.packages ▸ nodup_eraseDups _) fun q => hexact.hasMembers
  simp only at hapart
  rw [hfiles, hexact.packages, hpackages] at hapart
  exact hapart _ (List.mem_singleton.2 rfl) hp

/-- The holders that a build emits have pairwise different qualified names. The registry is called
as none of them exactly when no holder is emitted for the `sharedPackage?`, which is the only one
where the provider class gets the qualified name of the registry. Settings without a shared package
are exactly those with which every build emits files of pairwise different names, and class names
without dots share a package only when they are equal, namely the package of the registry. -/
theorem emitted_names_nodup_iff (options : AotOptions) (output : OutputSettings) :
    (∀ ops sources, (reached options output ops).generate.1 = .ok sources →
      (sources.factoryClasses.map SourceFile.qualifiedName).Nodup ∧
      ((emittedNames sources).Nodup ↔
        ∀ f ∈ sources.factoryClasses, output.sharedPackage? ≠ some f.package)) ∧
    (∀ p, output.sharedPackage? = some p ↔
      qualify p output.providerClass = qualify output.registryPackage output.registryClass) ∧
    ((∀ ops sources, (reached options output ops).generate.1 = .ok sources →
      (emittedNames sources).Nodup) ↔
        output.sharedPackage? = none) ∧
    ('.' ∉ output.registryClass.toList → '.' ∉ output.providerClass.toList →
      output.sharedPackage? =
        if output.registryClass = output.providerClass then some output.registryPackage
        else none) := by
  refine ⟨fun ops sources hsources => emittedNames_nodup_iff hsources,
    fun p => OutputSettings.sharedPackage?_eq_some_iff, ⟨fun hall => ?_, fun hnone => ?_⟩,
    OutputSettings.sharedPackage?_of_no_dots⟩
  · -- a shared package would give a build with two files of one name
    rw [Option.eq_none_iff_forall_ne_some]
    intro p hp
    obtain ⟨ops, sources, hsources, hnot⟩ := emittedNames_of_sharedPackage options hp
    exact hnot (hall ops sources hsources)
  · intro ops sources hsources
    refine (emittedNames_nodup_iff hsources).2.2 fun f _ => ?_
    simp [hnone]

/-- A registry that is called as the provider class is emitted twice under one name when a binding
of its package needs an accessor. -/
theorem registry_called_as_holder :
    let output : OutputSettings := { registryPackage := "p", registryClass := "_FactoryProvider" }
    ∃ sources,
      (reached {} output [.register (.of "C" "p.Foo" "p" false)]).generate.1 = .ok sources ∧
        sources.registry.qualifiedName = "p._FactoryProvider" ∧
        sources.factoryClasses.map SourceFile.qualifiedName = ["p._FactoryProvider"] ∧
        ¬ (emittedNames sources).Nodup := by
  intro output
  refine ⟨_, rfl, rfl, rfl, ?_⟩
  decide

end Generator

end FactoryRegistry
