import FactoryRegistry.Build
import FactoryRegistry.Proofs.Description.View
import FactoryRegistry.Proofs.Generator.History
import FactoryRegistry.Proofs.OrderedMultimap.Grouping

/-!
# The view of a build

A build is what its bindings make of a fresh generator: its ledger and its sources are those of the
state that registering them in order leads to (`parts_of_ofBindings`). Its view is a value without
numbers in which no object repeats a name, whatever the contracts are called (`view_readable`).
-/

namespace FactoryRegistry

open Json

namespace Build

variable {options : AotOptions} {output : OutputSettings} {bindings : List Binding} {build : Build}
  {events : List Event}

/-! ## The state that a build is made from -/

/-- `registerBinding` leaves the generator as the registration itself does. -/
theorem state_of_registerBinding {g k : Generator} {b : Binding} {r : Registration}
    (h : registerBinding g b = .ok (r, events, k)) : k = (g.step (.register b)).2 := by
  rw [registerBinding] at h
  obtain ⟨r', -, heq⟩ := map_eq_ok_iff.1 h
  cases heq
  rfl

/-- `registerAll` is a run of the generator. -/
theorem state_of_registerAll {g k : Generator} {rs : List Registration}
    (h : registerAll g bindings = .ok (rs, events, k)) :
    k = (g.run (bindings.map .register)).2 := by
  induction bindings generalizing g rs events with
  | nil => cases h; rfl
  | cons b bindings ih =>
    rw [registerAll] at h
    obtain ⟨⟨r, first, k₁⟩, hfirst, h⟩ := bind_eq_ok_iff.1 h
    obtain ⟨⟨rs', more, k₂⟩, hrest, h⟩ := bind_eq_ok_iff.1 h
    cases h
    rw [ih hrest, state_of_registerBinding hfirst]
    rfl

/-- The parts of a build come from its arguments and from the state that registering its bindings
leads to. -/
theorem parts_of_ofBindings (h : ofBindings options output bindings = .ok (build, events)) :
    let g := Generator.reached options output (bindings.map .register)
    build.bindings = bindings ∧ build.options = options ∧ build.output = output ∧
      build.ledger = g.ledger ∧ g.generate.1 = .ok build.sources := by
  rw [ofBindings] at h
  obtain ⟨⟨rs, registered, g⟩, hregister, h⟩ := bind_eq_ok_iff.1 h
  obtain ⟨sources, hsources, h⟩ := bind_eq_ok_iff.1 h
  cases h
  obtain rfl := state_of_registerAll hregister
  exact ⟨rfl, rfl, rfl, rfl, hsources⟩

end Build

/-! ## Views of the parts -/

theorem AotOptions.view_readable (o : AotOptions) : o.view.Readable :=
  .object (by simp [flags]) (by simp [flags, Readable.bool])

theorem OutputSettings.view_readable (o : OutputSettings) : o.view.Readable :=
  .object (by simp [fields]) (by simp [fields, Readable.text])

theorem Binding.view_readable (b : Binding) : b.view.Readable :=
  .object (by simp) (by simp [Readable.text, Readable.bool])

/-- A `ledgerView` repeats no contract where the multimap repeats no key. -/
theorem Generator.ledgerView_readable {m : OrderedMultimap String String} (hnodup : m.keys.Nodup) :
    (ledgerView m).Readable := by
  refine .object ?_ fun member hmember => ?_
  · rw [List.map_map]
    exact hnodup
  · obtain ⟨e, -, rfl⟩ := List.mem_map.1 hmember
    exact readable_texts e.2

/-- The ledger of a generator in use repeats no contract. -/
theorem Generator.ledger_readable (options : AotOptions) (output : OutputSettings)
    (ops : List Operation) : (reached options output ops).ledger.Readable := by
  have hagrees := agrees_reached options output ops
  have hsuppliers : (ledgerView (reached options output ops).suppliers).Readable :=
    ledgerView_readable (by rw [hagrees.suppliers]; exact OrderedMultimap.nodup_keys_ofList _)
  have hnames : (ledgerView (reached options output ops).names).Readable :=
    ledgerView_readable (by rw [hagrees.names]; exact OrderedMultimap.nodup_keys_ofList _)
  exact .object (by simp) (by simp [hsuppliers, hnames])

/-- The view of a build can be read back from its text. -/
theorem Build.view_readable {options : AotOptions} {output : OutputSettings}
    {bindings : List Binding} {build : Build} {events : List Event}
    (h : ofBindings options output bindings = .ok (build, events)) : build.view.Readable := by
  -- the names of all objects but the two in the ledger are fixed
  obtain ⟨-, -, -, hledger, -⟩ := parts_of_ofBindings h
  have hledger' : build.ledger.Readable := hledger ▸ Generator.ledger_readable options output _
  have hoptions : (object [("aot", build.options.view), ("output", build.output.view)]).Readable :=
    .object (by simp) (by simp [AotOptions.view_readable, OutputSettings.view_readable])
  refine .object (by simp [GeneratedSources.members]) ?_
  simp [GeneratedSources.members, hledger', hoptions, Readable.text,
    build.sources.registry.view_readable, readable_array_map Binding.view_readable,
    readable_array_map SourceFile.view_readable]

/-- A build that a request was carried out for can be read back from the text of its view. -/
theorem BuildRequest.view_readable {fs : FileSystem} {environment : List (String × String)}
    {request : BuildRequest} {build : Build} {events : List Event}
    (h : request.run fs environment = (.ok build, events)) : build.view.Readable := by
  rw [run] at h
  split at h
  · cases h
  next options output bindings _ =>
    dsimp only at h
    split at h
    · cases h
    next hbuild =>
      cases h
      exact Build.view_readable hbuild

end FactoryRegistry
