import FactoryRegistry.Holders

/-!
# Growth of holders

No program renames a class or takes a method away from it: programs only put new methods after
those that are there. What a lookup by name finds in a holder is therefore found there ever after.

* `TypeBuilder.Grows`, `Holders.Grows`: one builder, or one set of holders, comes from another by
  such growth;
* `Program.run_grows`, `Holders.update_grows`: programs and updates let them grow;
* `Holders.Normal`: holders bear the configured name and list their modifiers in canonical order,
  which updates preserve (`Holders.update_normal`).
-/

namespace FactoryRegistry

/-! ## Builders -/

namespace TypeBuilder

/-- A builder has the class name of another one and starts with its methods. -/
structure Grows (b c : TypeBuilder) : Prop where
  /-- The class name is the same. -/
  name : c.name = b.name
  /-- The methods are the old ones and perhaps more. -/
  methods : b.methods <+: c.methods

/-- A builder `Grows` into itself. -/
theorem Grows.refl (b : TypeBuilder) : b.Grows b := ⟨rfl, List.prefix_refl _⟩

/-- Growth in two stages is growth. -/
theorem Grows.trans {b c d : TypeBuilder} (hbc : b.Grows c) (hcd : c.Grows d) : b.Grows d :=
  ⟨hcd.name.trans hbc.name, hbc.methods.trans hcd.methods⟩

/-- A call that is carried out lets the builder grow. -/
theorem apply_grows {b c : TypeBuilder} {edit : Edit} {answer : Answer}
    (h : b.apply edit = .ok (answer, c)) : b.Grows c := by
  cases edit with
  | addMethod m =>
    -- a refused method leaves no builder, an accepted one stands at the end
    rw [apply] at h
    split at h
    next => cases h
    next => cases h; exact ⟨rfl, List.prefix_append _ _⟩
  | addField f =>
    rw [apply] at h
    split at h
    next => cases h
    next => cases h; exact ⟨rfl, List.prefix_refl _⟩
  -- no other call touches the methods, and none at all touches the name
  | _ => cases h; exact ⟨rfl, List.prefix_refl _⟩

/-- A builder has a method of a name exactly when `method?` finds one. -/
theorem hasMethod_eq_isSome (b : TypeBuilder) (name : String) :
    b.hasMethod name = (b.method? name).isSome := by
  rw [hasMethod, method?, List.isSome_find?]

end TypeBuilder

/-- A program lets the builder grow, whichever calls it makes. The induction is on the program. -/
theorem Program.run_grows {program : Program} {b c : TypeBuilder} (h : program.run b = .ok c) :
    b.Grows c := by
  induction program generalizing b with
  | finish => cases h; exact .refl _
  | abort failure => cases h
  | call edit next ih =>
    rw [run] at h
    split at h
    next answer b' happly => exact (TypeBuilder.apply_grows happly).trans (ih _ h)
    -- a refused call leaves the builder as it was, and the program may go on
    next => exact ih _ h

/-- A method that `method?` finds is found also among more methods that follow. -/
theorem TypeDescription.method?_of_prefix {t u : TypeDescription} (h : t.methods <+: u.methods)
    {name : String} {m : Method} (hm : t.method? name = some m) : u.method? name = some m :=
  h.find?_eq_some hm

/-! ## Holders -/

namespace Holders

/-- Holders have the configured name of others, and each starts with the methods it had. -/
structure Grows (h k : Holders) : Prop where
  /-- The configured name is the same. -/
  className : k.className = h.className
  /-- The methods of each package are the old ones and perhaps more. -/
  methods : ∀ p, (h.get p).methods <+: (k.get p).methods

/-- Holders `Grows` into themselves. -/
theorem Grows.refl (h : Holders) : h.Grows h := ⟨rfl, fun _ => List.prefix_refl _⟩

/-- Growth in two stages is growth. -/
theorem Grows.trans {h k l : Holders} (hk : h.Grows k) (hl : k.Grows l) : h.Grows l :=
  ⟨hl.className.trans hk.className, fun p => (hk.methods p).trans (hl.methods p)⟩

/-- A method that `method?` finds is found ever after. -/
theorem Grows.method? {h k : Holders} (hk : h.Grows k) {p name : String} {m : Method}
    (hm : (h.get p).method? name = some m) : (k.get p).method? name = some m :=
  TypeDescription.method?_of_prefix (hk.methods p) hm

/-- `put` of a holder that starts with the methods of the old one is growth. -/
theorem put_grows {h : Holders} {package : String} {holder : TypeDescription}
    (hmethods : (h.get package).methods <+: holder.methods) : h.Grows (h.put package holder) := by
  refine ⟨rfl, fun p => ?_⟩
  rw [get_put]
  split
  next hp => exact hp ▸ hmethods
  next => exact List.prefix_refl _

/-- Every holder has the configured name, and its modifiers are in canonical order. -/
structure Normal (h : Holders) : Prop where
  /-- The class of each package has the configured name. -/
  name : ∀ p, (h.get p).name = h.className
  /-- The modifiers of each class are in canonical order. -/
  modifiers : ∀ p, Modifier.canonical (h.get p).modifiers = (h.get p).modifiers

/-- Without any holder all packages show the default one. -/
theorem normal_of_entries_nil (className : String) : Normal { className } :=
  ⟨fun _ => rfl, fun _ => rfl⟩

/-- `put` of a holder that a builder of its name describes keeps holders `Normal`. -/
theorem put_build_normal {h : Holders} (hn : h.Normal) {package : String} {b : TypeBuilder}
    (hname : b.name = h.className) : (h.put package b.build).Normal := by
  refine ⟨fun p => ?_, fun p => ?_⟩ <;> rw [get_put] <;> split
  · exact hname
  · exact hn.name p
  · exact Modifier.canonical_canonical b.modifiers
  · exact hn.modifiers p

variable {h k : Holders} {package : String} {program : Program} {holder : TypeDescription}

/-- An `update` that succeeds puts what its program left. -/
theorem update_eq_ok (hk : h.update package program = .ok (holder, k)) :
    ∃ b, program.run (.ofType (h.get package)) = .ok b ∧ holder = b.build ∧
      k = h.put package b.build := by
  rw [update] at hk
  cases hrun : program.run (.ofType (h.get package)) with
  | error failure => rw [hrun] at hk; cases hk
  | ok b => rw [hrun] at hk; cases hk; exact ⟨b, rfl, rfl, rfl⟩

/-- An `update` lets the holders grow. -/
theorem update_grows (hk : h.update package program = .ok (holder, k)) : h.Grows k := by
  obtain ⟨b, hrun, -, rfl⟩ := update_eq_ok hk
  exact put_grows (Program.run_grows hrun).methods

/-- An `update` keeps holders `Normal`. -/
theorem update_normal (hn : h.Normal) (hk : h.update package program = .ok (holder, k)) :
    k.Normal := by
  obtain ⟨b, hrun, -, rfl⟩ := update_eq_ok hk
  exact put_build_normal hn ((Program.run_grows hrun).name.trans (hn.name package))

/-- A package that has no holder shows the `defaultHolder`. -/
theorem get_of_not_mem {h : Holders} {package : String} (hnew : package ∉ h.packages) :
    h.get package = defaultHolder h.className := by
  have hlookup : h.entries.lookup package = none := by
    rw [List.lookup_eq_none_iff]
    rintro ⟨p, t⟩ hmem
    have hp : p ∈ h.packages := List.mem_map.2 ⟨(p, t), hmem, rfl⟩
    simpa using fun heq : package = p => hnew (heq ▸ hp)
  rw [get, hlookup, Option.getD_none]

/-- A package in whose holder a method is found has a holder of its own. -/
theorem mem_entries_of_method? {p name : String} {m : Method}
    (hm : (h.get p).method? name = some m) : (p, h.get p) ∈ h.entries := by
  cases hlookup : h.entries.lookup p with
  | none =>
    -- the default holder has no methods
    rw [get, hlookup] at hm
    cases hm
  | some t =>
    rw [get, hlookup]
    obtain ⟨before, after, hentries, -⟩ := List.lookup_eq_some_iff.1 hlookup
    rw [hentries]
    exact List.mem_append_right before List.mem_cons_self

end Holders

end FactoryRegistry
