import FactoryRegistry.Proofs.Generator.Step

/-!
# Suppliers keep their accessors

The supplier of a registration is a constructor call, or a call of an accessor in the holder of the
binding's package. `supplier_resolves` says that such a call names an accessor of an emitted holder
at once and in every later state of the build, and that this accessor makes the instance which the
binding asked for.
-/

namespace FactoryRegistry

open Generator

/-- An `accessorCall` begins with the `qualifiedName` of its holder. -/
theorem accessorCall_eq (f : SourceFile) (a : String) :
    accessorCall f.type.name f.package a = f.qualifiedName ++ "." ++ a ++ "()" := by
  rw [accessorCall, SourceFile.qualifiedName]
  split <;> simp [toString, String.append_assoc]

/-- A method that was found is listed, so its class has members. -/
theorem TypeDescription.hasMembers_of_method? {t : TypeDescription} {name : String} {m : Method}
    (hm : t.method? name = some m) : t.hasMembers = true := by
  have hmem : m ∈ t.methods := List.mem_of_find?_eq_some hm
  have hmethods : t.methods.isEmpty = false := by
    simpa using List.ne_nil_of_mem hmem
  simp [hasMembers, hmethods]

namespace Generator

/-- The holder in which a method is found is among the `factoryClasses`. -/
theorem mem_factoryClasses_of_method? {g : Generator} {package name : String} {m : Method}
    (hm : (g.holders.get package).method? name = some m) :
    ⟨package, g.holders.get package⟩ ∈ g.factoryClasses := by
  refine List.mem_map.2 ⟨(package, g.holders.get package), List.mem_filter.2 ⟨?_, ?_⟩, rfl⟩
  · exact Holders.mem_entries_of_method? hm
  · exact TypeDescription.hasMembers_of_method? hm

/-- Where a registration has an accessor, the supplier calls it and the holder afterwards has it. -/
theorem Placement.accessor_serves {h k : Holders} {b : Binding} {r : Registration} {a : String}
    (hp : Placement h b r k) (ha : r.accessor = some a) :
    r.supplier = accessorCall h.className b.package a ∧
      ∃ m, (k.get b.package).method? a = some m ∧ servesBinding b m = true := by
  cases hp with
  | direct => cases ha
  | reused _ slot =>
    cases ha
    exact ⟨rfl, exists_serving_of_taken slot⟩
  | added _ slot =>
    cases ha
    refine ⟨rfl, accessorMethod b a, ?_, servesBinding_iff.2 ⟨rfl, rfl⟩⟩
    rw [Holders.get_put, if_pos rfl]
    exact TypeDescription.method?_withMethod (method?_eq_none_of_free slot)

/-- Where a registration has no accessor, the supplier is a constructor call. -/
theorem Placement.supplier_of_accessor_none {h k : Holders} {b : Binding} {r : Registration}
    (hp : Placement h b r k) (ha : r.accessor = none) :
    r.supplier = s!"new {b.implementation}()" := by
  cases hp with
  | direct => rfl
  | reused => cases ha
  | added => cases ha

/-- From a registration on, in every later state of the build, the supplier of the registration is
the `accessorCall` of the first method of its name in an emitted holder of the binding's package;
that method returns the contract and does nothing but make the instance (`accessorBody`). A
registration without accessor has a constructor call as its supplier. -/
theorem supplier_resolves (options : AotOptions) (output : OutputSettings)
    (before : List Operation) (b : Binding) (after : List Operation) {r : Registration}
    (hr : ((reached options output before).register b).1 = .ok r) :
    let g := reached options output (before ++ .register b :: after)
    (∀ a, r.accessor = some a →
      (∃ m, (g.holders.get b.package).method? a = some m ∧ m.returnType = b.contract ∧
        m.code = ⟨[s!"return new {b.implementation}()"]⟩) ∧
      ∃ f ∈ g.factoryClasses, f.package = b.package ∧
        r.supplier = f.qualifiedName ++ "." ++ a ++ "()") ∧
    (r.accessor = none → r.supplier = s!"new {b.implementation}()") := by
  intro g
  have hplacement := placement_of_register hr
  refine ⟨fun a ha => ?_, hplacement.supplier_of_accessor_none⟩
  obtain ⟨hsupplier, m, hm, hserves⟩ := hplacement.accessor_serves ha
  -- the later state continues the one right after the registration, so the holders only grew
  have hstate : g = (((reached options output before).register b).2.run after).2 :=
    reached_append options output before (.register b :: after)
  have hgrows : ((reached options output before).register b).2.holders.Grows g.holders := by
    rw [hstate]
    exact run_grows _ after
  -- the supplier was made with the class name configured then, which is the one of the holder now
  have hclass : g.holders.className = (reached options output before).holders.className :=
    hgrows.className.trans ((reached options output before).step_grows (.register b)).className
  have hfound : (g.holders.get b.package).method? a = some m := hgrows.method? hm
  have hname : (g.holders.get b.package).name = g.holders.className :=
    (reached_normal options output _).name b.package
  refine ⟨⟨m, hfound, servesBinding_iff.1 hserves⟩,
    ⟨b.package, g.holders.get b.package⟩, mem_factoryClasses_of_method? hfound, rfl, ?_⟩
  rw [hsupplier, ← hclass, ← hname]
  exact accessorCall_eq ⟨b.package, g.holders.get b.package⟩ a

/-- The accessor gives way to a method that someone else wrote under its first candidate name, and
it is still there after the sources were generated. -/
theorem supplier_resolves_beside_foreign_method :
    let before : List Operation :=
      [.writeHolder "p" (addMethodProgram ⟨"foo", "void", [], .empty, ""⟩)]
    let b : Binding := ⟨"C", "p.Foo", "p", false⟩
    let r : Registration := ⟨"C", "p.Foo", "p._FactoryProvider.fooForC()", some "fooForC"⟩
    let g := reached {} {} (before ++ .register b :: [.generate])
    ((reached {} {} before).register b).1 = .ok r ∧
      (∃ m, (g.holders.get b.package).method? "fooForC" = some m ∧ m.returnType = b.contract ∧
        m.code = ⟨[s!"return new {b.implementation}()"]⟩) ∧
      ∃ f ∈ g.factoryClasses, f.package = b.package ∧
        r.supplier = f.qualifiedName ++ "." ++ "fooForC" ++ "()" :=
  ⟨rfl, (supplier_resolves {} {}
    [.writeHolder "p" (addMethodProgram ⟨"foo", "void", [], .empty, ""⟩)]
    ⟨"C", "p.Foo", "p", false⟩ [.generate] rfl).1 "fooForC" rfl⟩

end Generator

end FactoryRegistry
