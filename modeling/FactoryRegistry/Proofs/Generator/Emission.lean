import Mathlib.Data.List.Forall2
import FactoryRegistry.Proofs.Association.Keys
import FactoryRegistry.Proofs.Generator.Allocation

/-!
# The holders that registrations make

A build that only registers bindings emits one holder for each package with a binding that the
registry cannot reach, and each holder has one accessor for each pair of a contract and an
implementation among those bindings (`factoryClasses_exact`).

The argument is an induction over the bindings. `ExactHolders` says that the holders are the
expected ones for the bindings so far and that each of these bindings finds its accessor. One more
placement keeps that (`ExactHolders.placed`): a pair that came before finds its accessor again, and
a new pair is served by no method yet, so its search ends at a free slot.
-/

namespace FactoryRegistry

/-! ## What is expected after some bindings -/

/-- The bindings that the registry cannot reach. -/
def inaccessibleOf (bs : List Binding) : List Binding := bs.filter fun b => !b.accessible

/-- The packages of the bindings that the registry cannot reach, in the order of the first one. -/
def accessorPackages (bs : List Binding) : List String :=
  ((inaccessibleOf bs).map (·.package)).eraseDups

/-- The pairs of a contract and an implementation among the bindings of a package that the registry
cannot reach, in the order of the first one. -/
def accessorPairs (bs : List Binding) (package : String) : List (String × String) :=
  (((inaccessibleOf bs).filter fun b => b.package = package).map fun b =>
    (b.contract, b.implementation)).eraseDups

/-- A method is the accessor of a contract and an implementation. -/
structure IsAccessor (m : Method) (pair : String × String) : Prop where
  /-- It returns the contract. -/
  returnType : m.returnType = pair.1
  /-- It is public and static and nothing else. -/
  modifiers : m.modifiers = [.public, .static]
  /-- It makes an instance of the implementation. -/
  code : m.code = ⟨[s!"return new {pair.2}()"]⟩
  /-- It has no documentation. -/
  doc : m.doc = ""

/-- A class is a holder of the accessors of some pairs and of nothing else. -/
structure IsHolder (className : String) (t : TypeDescription) (pairs : List (String × String)) :
    Prop where
  /-- It has the configured name. -/
  name : t.name = className
  /-- It is public and abstract. -/
  modifiers : t.modifiers = [.public, .abstract]
  /-- It has no fields. -/
  fields : t.fields = []
  /-- It has no static initializer. -/
  staticBlock : t.staticBlock = none
  /-- It has no documentation. -/
  doc : t.doc = ""
  /-- Its methods are the accessors of the pairs, in order. -/
  methods : List.Forall₂ IsAccessor t.methods pairs
  /-- Its methods have different names. -/
  nodup : (t.methods.map (·.name)).Nodup

section Expected

variable {bs : List Binding} {b : Binding} {package : String}

theorem mem_inaccessibleOf : b ∈ inaccessibleOf bs ↔ b ∈ bs ∧ b.accessible = false := by
  simp [inaccessibleOf]

/-- A package is among `accessorPackages` when one of its bindings needs an accessor. -/
theorem mem_accessorPackages_iff :
    package ∈ accessorPackages bs ↔ ∃ b ∈ bs, b.accessible = false ∧ b.package = package := by
  rw [accessorPackages, List.mem_eraseDups, List.mem_map]
  simp only [mem_inaccessibleOf, and_assoc]

/-- The pair of a binding that needs an accessor is among `accessorPairs` exactly when the binding
is listed. -/
theorem mem_accessorPairs_iff (hb : b.accessible = false) :
    (b.contract, b.implementation) ∈ accessorPairs bs b.package ↔ b ∈ bs := by
  rw [accessorPairs, List.mem_eraseDups, List.mem_map]
  refine ⟨fun ⟨c, hmem, hpair⟩ => ?_, fun hmem => ⟨b, ?_, rfl⟩⟩
  · -- the two bindings agree in all their parts
    obtain ⟨hc, hpackage⟩ := List.mem_filter.1 hmem
    obtain ⟨hc, haccessible⟩ := mem_inaccessibleOf.1 hc
    obtain ⟨hcontract, himplementation⟩ := Prod.mk.inj hpair
    obtain rfl : c = b := Binding.ext hcontract himplementation (by simpa using hpackage)
      (haccessible.trans hb.symm)
    exact hc
  · exact List.mem_filter.2 ⟨mem_inaccessibleOf.2 ⟨hmem, hb⟩, by simp⟩

variable (bs) (b) (package)

theorem inaccessibleOf_concat :
    inaccessibleOf (bs ++ [b]) = inaccessibleOf bs ++ if b.accessible then [] else [b] := by
  rw [inaccessibleOf, List.filter_append, inaccessibleOf]
  cases hb : b.accessible <;> simp [hb]

/-- One more binding adds its package to `accessorPackages` when it is the first there that needs an
accessor. -/
theorem accessorPackages_concat :
    accessorPackages (bs ++ [b]) =
      if b.accessible = true ∨ b.package ∈ accessorPackages bs then accessorPackages bs
      else accessorPackages bs ++ [b.package] := by
  rw [accessorPackages, inaccessibleOf_concat, List.map_append]
  cases hb : b.accessible with
  | true => simp [accessorPackages]
  | false =>
    rw [if_neg Bool.false_ne_true, List.map_singleton, eraseDups_concat]
    simp [accessorPackages]

/-- One more binding adds its pair to the `accessorPairs` of its package when it needs an accessor
and was not listed before. -/
theorem accessorPairs_concat :
    accessorPairs (bs ++ [b]) package =
      if b.accessible = true ∨ b ∈ bs ∨ b.package ≠ package then accessorPairs bs package
      else accessorPairs bs package ++ [(b.contract, b.implementation)] := by
  rw [accessorPairs, inaccessibleOf_concat, List.filter_append, List.map_append]
  cases hb : b.accessible with
  | true => simp [accessorPairs]
  | false =>
    rw [if_neg Bool.false_ne_true]
    by_cases hpackage : b.package = package
    · subst hpackage
      simp only [decide_true, List.filter_cons_of_pos, List.filter_nil, List.map_singleton]
      rw [eraseDups_concat, ← accessorPairs]
      simp [mem_accessorPairs_iff hb]
    · simp [hpackage, accessorPairs]

end Expected

/-! ## Holders that are the expected ones -/

/-- The `accessorMethod` of a binding is the accessor of its pair. -/
theorem isAccessor_accessorMethod (b : Binding) (name : String) :
    IsAccessor (accessorMethod b name) (b.contract, b.implementation) :=
  ⟨rfl, rfl, rfl, rfl⟩

/-- An accessor that serves a binding is the accessor of its pair. -/
theorem IsAccessor.pair_eq {m : Method} {pair : String × String} (hm : IsAccessor m pair)
    {b : Binding} (hserves : servesBinding b m = true) :
    pair = (b.contract, b.implementation) := by
  obtain ⟨hreturn, hcode⟩ := servesBinding_iff.1 hserves
  have hbody : accessorBody ⟨pair.1, pair.2, "", false⟩ = accessorBody b := hm.code.symm.trans hcode
  exact Prod.ext (hm.returnType.symm.trans hreturn) (accessorBody_eq_iff.1 hbody)

namespace IsHolder

variable {className : String} {t : TypeDescription} {pairs : List (String × String)}

/-- The `defaultHolder` is one of no accessors. -/
theorem default (className : String) : IsHolder className (Holders.defaultHolder className) [] :=
  ⟨rfl, rfl, rfl, rfl, rfl, .nil, List.nodup_nil⟩

/-- A binding that finds an accessor has its pair among those of the holder. -/
theorem mem_of_taken (ht : IsHolder className t pairs) {b : Binding} {a : String}
    (hslot : findAccessor t b = .taken a) : (b.contract, b.implementation) ∈ pairs := by
  obtain ⟨m, hfound, hserves⟩ := exists_serving_of_taken hslot
  obtain ⟨hlength, hall⟩ := List.forall₂_iff_get.1 ht.methods
  obtain ⟨i, rfl⟩ := List.get_of_mem (List.mem_of_find?_eq_some hfound)
  have hpair := hall i i.isLt (hlength ▸ i.isLt)
  rw [← hpair.pair_eq hserves]
  exact List.get_mem _ _

/-- A holder with one more accessor of a new name is one of one pair more. -/
theorem withMethod (ht : IsHolder className t pairs) {m : Method} {pair : String × String}
    (hm : IsAccessor m pair) (hunused : t.method? m.name = none) :
    IsHolder className (t.withMethod m) (pairs ++ [pair]) where
  name := ht.name
  modifiers := by rw [TypeDescription.withMethod, ht.modifiers]; rfl
  fields := ht.fields
  staticBlock := ht.staticBlock
  doc := ht.doc
  methods := List.rel_append ht.methods (.cons hm .nil)
  nodup := by
    rw [TypeDescription.withMethod, List.map_append, List.map_singleton, ← List.concat_eq_append]
    refine ht.nodup.concat fun hmem => ?_
    obtain ⟨m', hm', hname⟩ := List.mem_map.1 hmem
    -- a lookup of the name would have found that method
    exact absurd hname (by simpa using List.find?_eq_none.1 hunused m' hm')

/-- A holder of some accessors has members. -/
theorem hasMembers (ht : IsHolder className t pairs) (hpairs : pairs ≠ []) :
    t.hasMembers = true := by
  have hmethods : t.methods ≠ [] := by
    intro h
    have hlength := ht.methods.length_eq
    rw [h] at hlength
    exact hpairs (List.length_eq_zero_iff.1 hlength.symm)
  simp [TypeDescription.hasMembers, hmethods]

end IsHolder

/-- The holders are those that the registrations of some bindings make. -/
structure ExpectedHolders (h : Holders) (bs : List Binding) : Prop where
  /-- The packages are the expected ones, in order. -/
  packages : h.packages = accessorPackages bs
  /-- The holder of each package has the expected accessors. -/
  holder : ∀ p, IsHolder h.className (h.get p) (accessorPairs bs p)

namespace ExpectedHolders

variable {h : Holders} {bs : List Binding} {b : Binding}

/-- Nothing more is expected after a binding that needs no accessor or was listed before. -/
theorem known (he : ExpectedHolders h bs) (hb : b.accessible = true ∨ b ∈ bs) :
    ExpectedHolders h (bs ++ [b]) where
  packages := by
    rw [accessorPackages_concat, he.packages, if_pos]
    cases haccessible : b.accessible with
    | true => exact .inl rfl
    | false =>
      have hmem : b ∈ bs := by simpa [haccessible] using hb
      exact .inr (mem_accessorPackages_iff.2 ⟨b, hmem, haccessible, rfl⟩)
  holder p := by
    rw [accessorPairs_concat, if_pos (hb.imp_right .inl)]
    exact he.holder p

/-- A new accessor is expected after a binding that needs one and was not listed before. -/
theorem extended (he : ExpectedHolders h bs) (hb : b.accessible = false) (hnew : b ∉ bs)
    {a : String} (hunused : (h.get b.package).method? a = none) :
    ExpectedHolders (h.put b.package ((h.get b.package).withMethod (accessorMethod b a)))
      (bs ++ [b]) where
  packages := by
    rw [Holders.packages_put, he.packages, accessorPackages_concat, hb]
    simp
  holder p := by
    rw [Holders.get_put, accessorPairs_concat]
    split
    next hp =>
      subst hp
      rw [if_neg (by simp [hb, hnew])]
      exact (he.holder b.package).withMethod (isAccessor_accessorMethod b a) hunused
    next hp =>
      rw [if_pos (.inr (.inr (Ne.symm hp)))]
      exact he.holder p

end ExpectedHolders

/-- The holders are the expected ones, and each binding that needs an accessor finds it. -/
structure ExactHolders (h : Holders) (bs : List Binding) : Prop extends ExpectedHolders h bs where
  /-- Each binding that needs an accessor finds it. -/
  found : ∀ b ∈ bs, b.accessible = false → ∃ a, findAccessor (h.get b.package) b = .taken a

namespace ExactHolders

open Generator

variable {h k : Holders} {bs : List Binding} {b : Binding} {r : Registration}

/-- Without bindings there are no holders. -/
theorem nil (className : String) : ExactHolders { className } [] :=
  ⟨⟨rfl, fun _ => .default className⟩, fun _ hb => absurd hb List.not_mem_nil⟩

/-- A `Placement` of one more binding leaves the holders that are expected then. -/
theorem placed (he : ExactHolders h bs) (hp : Placement h b r k) :
    ExactHolders k (bs ++ [b]) where
  toExpectedHolders := by
    cases hp with
    | direct accessible => exact he.known (.inl accessible)
    | reused inaccessible slot =>
      -- only a binding with the same pair, which is the same binding, left such an accessor
      have hpair := (he.holder b.package).mem_of_taken slot
      exact he.known (.inr ((mem_accessorPairs_iff inaccessible).1 hpair))
    | added inaccessible slot =>
      refine he.extended inaccessible (fun hmem => ?_) (method?_eq_none_of_free slot)
      -- a binding that was listed before would have found its accessor
      obtain ⟨a, hfound⟩ := he.found b hmem inaccessible
      rw [slot] at hfound
      cases hfound
  found c hc hinaccessible := by
    obtain hc | hc := List.mem_append.1 hc
    · obtain ⟨a, hfound⟩ := he.found c hc hinaccessible
      exact ⟨a, findAccessor_taken_mono (hp.grows.methods c.package) hfound⟩
    · obtain rfl := List.mem_singleton.1 hc
      obtain ⟨a, rfl⟩ := hp.eq_viaAccessor hinaccessible
      exact ⟨a, hp.findAccessor_eq_taken rfl (.refl k)⟩

/-- A package with a holder is one where the holder has members. -/
theorem hasMembers (he : ExactHolders h bs) {p : String} (hp : p ∈ h.packages) :
    (h.get p).hasMembers = true := by
  rw [he.packages] at hp
  obtain ⟨b, hmem, hb, rfl⟩ := mem_accessorPackages_iff.1 hp
  exact (he.holder b.package).hasMembers
    (List.ne_nil_of_mem ((mem_accessorPairs_iff hb).2 hmem))

end ExactHolders

/-! ## Accessors that are called -/

/-- Every method of a holder is called by the supplier of some statement. -/
def AllCalled (h : Holders) (statements : List String) : Prop :=
  ∀ p, ∀ m ∈ (h.get p).methods,
    s!"factories.add({m.returnType}.class, () -> {Generator.accessorCall h.className p m.name})" ∈
      statements

/-- A `Placement` leaves `AllCalled` true, once the statements of its registration are written. -/
theorem AllCalled.placed {h k : Holders} {statements : List String} {b : Binding}
    {r : Registration} (hc : AllCalled h statements) (hp : Generator.Placement h b r k) :
    AllCalled k (statements ++ Generator.registrationStatements r) := by
  intro p m hm
  rw [hp.grows.className, List.mem_append]
  cases hp with
  | direct => exact .inl (hc p m hm)
  | reused => exact .inl (hc p m hm)
  | added =>
    -- of the holders, only the one of the package has a new method, and the registration calls it
    rw [Holders.get_put] at hm
    split at hm
    next hpackage =>
      subst hpackage
      obtain hm | hm := List.mem_append.1 hm
      · exact .inl (hc b.package m hm)
      · obtain rfl := List.mem_singleton.1 hm
        exact .inr List.mem_cons_self
    next => exact .inl (hc p m hm)

namespace Generator

/-! ## Builds that only register bindings -/

/-- `generate` hands out an open block. -/
theorem generate_of_open {g : Generator} (hopen : g.block.finalized = false) :
    ∃ fingerprint, g.generate.1 =
      .ok ⟨g.output.target.assembleFile g.block.block, g.factoryClasses, fingerprint⟩ := by
  simp [generate_eq, hopen]

/-- Holders with distinct packages that all have members are emitted one for each package. -/
theorem factoryClasses_eq {g : Generator} (hnodup : g.holders.packages.Nodup)
    (hmembers : ∀ p ∈ g.holders.packages, (g.holders.get p).hasMembers = true) :
    g.factoryClasses = g.holders.packages.map fun p => ⟨p, g.holders.get p⟩ := by
  have hentries : g.holders.entries = g.holders.packages.map fun p => (p, g.holders.get p) :=
    Association.eq_map_lookup hnodup _
  rw [factoryClasses, hentries, List.filter_eq_self.2, List.map_map]
  · rfl
  · intro e he
    obtain ⟨p, hp, rfl⟩ := List.mem_map.1 he
    exact hmembers p hp

/-- What registrations alone leave: an open block, the holders that are expected (`ExactHolders`)
and no accessor uncalled (`AllCalled`). The induction is on the bindings, from the last one. -/
theorem reached_registrations (options : AotOptions) (output : OutputSettings)
    (bs : List Binding) :
    let g := reached options output (bs.map .register)
    g.block.finalized = false ∧ ExactHolders g.holders bs ∧
      AllCalled g.holders g.block.block.statements := by
  induction bs using List.reverseRecOn with
  | nil =>
    refine ⟨new_open options output, ?_, ?_⟩ <;> rw [List.map_nil, reached, run, new_holders]
    · exact .nil output.providerClass
    · exact fun p m hm => absurd hm List.not_mem_nil
  | append_singleton bs b ih =>
    obtain ⟨hopen, hexact, hcalled⟩ := ih
    obtain ⟨r, k, hplacement, hregister⟩ := register_of_open hopen b
    rw [List.map_append, List.map_singleton, reached_concat, step, hregister]
    exact ⟨rfl, hexact.placed hplacement, hcalled.placed hplacement⟩

/-- After `register` of any bindings, and nothing else, `generate` succeeds. It emits one holder for
each of the `accessorPackages`, in the order of the first binding that needs an accessor. The
methods of a holder are the accessors of its `accessorPairs`, in the order of their first occurrence
and with different names, and the holder has nothing else. The static block calls every accessor. -/
theorem factoryClasses_exact (options : AotOptions) (output : OutputSettings)
    (bs : List Binding) :
    let g := reached options output (bs.map .register)
    ∃ sources block, g.generate.1 = .ok sources ∧
      sources.registry.type.staticBlock = some block ∧
      sources.factoryClasses.map (·.package) = accessorPackages bs ∧
      (accessorPackages bs).Nodup ∧
      ∀ f ∈ sources.factoryClasses,
        IsHolder output.providerClass f.type (accessorPairs bs f.package) ∧
        ∀ m ∈ f.type.methods,
          s!"factories.add({m.returnType}.class, () -> {f.qualifiedName}.{m.name}())" ∈
            block.statements := by
  intro g
  obtain ⟨hopen, hexact, hcalled⟩ := reached_registrations options output bs
  obtain ⟨fingerprint, hgenerate⟩ := generate_of_open hopen
  have hclass : g.holders.className = output.providerClass := reached_className options output _
  have hnodup : (accessorPackages bs).Nodup := nodup_eraseDups _
  have hfiles := factoryClasses_eq (hexact.packages ▸ hnodup) fun p => hexact.hasMembers
  refine ⟨_, g.block.block, hgenerate, rfl, ?_, hnodup, fun f hf => ?_⟩
  · rw [hfiles, List.map_map, ← hexact.packages]
    exact List.map_id _
  · rw [hfiles] at hf
    obtain ⟨p, -, rfl⟩ := List.mem_map.1 hf
    refine ⟨hclass ▸ hexact.holder p, fun m hm => ?_⟩
    -- the call is written with the name of the class, which every holder has
    have hcall := accessorCall_eq ⟨p, g.holders.get p⟩ m.name
    have hname : (g.holders.get p).name = g.holders.className := (hexact.holder p).name
    have hstatement := hcalled p m hm
    rw [← hname, hcall] at hstatement
    simpa [toString, String.append_assoc] using hstatement

end Generator

end FactoryRegistry
