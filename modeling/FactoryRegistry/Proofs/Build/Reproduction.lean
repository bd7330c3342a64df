import FactoryRegistry.Build
import FactoryRegistry.Proofs.Config.Section
import FactoryRegistry.Proofs.Generator.Emission
import FactoryRegistry.Proofs.Manifest.Reread

/-!
# A build from its own view

The view of a build states its bindings and its options, in the form in which a manifest and a
configuration state them. Reading them back and building once more gives the same build
(`view_reproduces_build`): nothing that the first reading filled in or rewrote is rewritten again.
-/

namespace FactoryRegistry

open Config

namespace Build

/-- The bindings that a view states, as a manifest. -/
def manifestOf (view : Json) : Json := .object [("bindings", (view.get? "bindings").getD .null)]

/-- The options that a view states, as a configuration. -/
def configurationOf (view : Json) : Json := (view.get? "options").getD .null

/-- The build of the bindings and the options that a view states. -/
def ofView (source : String) (view : Json) : Except Failure (Build × List Event) := do
  let bindings ← Manifest.read source (Value.ofJson 0 (manifestOf view)).1
  let c : Configuration := { root := (Value.ofJson 0 (configurationOf view)).1 }
  ofBindings (← c.aotOptions) (← c.outputSettings) bindings

/-! ## Building succeeds -/

/-- `registerBinding` succeeds on an open block, and leaves it open. -/
theorem exists_registerBinding {g : Generator} (hopen : g.block.finalized = false) (b : Binding) :
    ∃ r events k, registerBinding g b = .ok (r, events, k) ∧ k.block.finalized = false := by
  obtain ⟨r, k, -, hregister⟩ := Generator.register_of_open hopen b
  exact ⟨r, _, _, by rw [registerBinding, hregister]; rfl, rfl⟩

/-- `registerAll` succeeds on an open block, and leaves it open. -/
theorem exists_registerAll {g : Generator} (hopen : g.block.finalized = false)
    (bindings : List Binding) :
    ∃ rs events k, registerAll g bindings = .ok (rs, events, k) ∧ k.block.finalized = false := by
  induction bindings generalizing g with
  | nil => exact ⟨[], [], g, rfl, hopen⟩
  | cons b bindings ih =>
    obtain ⟨r, events, k, hfirst, hopen'⟩ := exists_registerBinding hopen b
    obtain ⟨rs, more, k', hrest, hopen''⟩ := ih hopen'
    refine ⟨r :: rs, events ++ more, k', ?_, hopen''⟩
    rw [registerAll, hfirst]
    change (registerAll k bindings >>= _) = _
    rw [hrest]
    rfl

/-- `ofBindings` succeeds on all bindings, and the build records what it was made from. -/
theorem exists_ofBindings (options : AotOptions) (output : OutputSettings)
    (bindings : List Binding) :
    ∃ build events, ofBindings options output bindings = .ok (build, events) ∧
      build.bindings = bindings ∧ build.options = options ∧ build.output = output := by
  obtain ⟨rs, events, g, hregister, hopen⟩ :=
    exists_registerAll (Generator.new_open options output) bindings
  obtain ⟨fingerprint, hgenerate⟩ := Generator.generate_of_open hopen
  generalize GeneratedSources.mk _ _ fingerprint = sources at hgenerate
  -- which events there are does not matter here, only that the run has some
  let directives := (Generator.new options output).block.block.statements.map Event.directiveWritten
  refine ⟨{
      bindings, registrations := rs, sources, ledger := g.ledger, contractCount := g.names.size,
      options, output },
    directives ++ events ++ generationEvents output g.names.size sources g.block.size,
    ?_, rfl, rfl, rfl⟩
  rw [ofBindings, hregister]
  change (g.generate.1 >>= _) = _
  rw [hgenerate]
  rfl

/-! ## What a view states -/

theorem manifestOf_view (b : Build) :
    manifestOf b.view = .object [("bindings", .array (b.bindings.map Binding.view))] := by
  simp [manifestOf, view, Json.get?, List.lookup_cons]

theorem configurationOf_view (b : Build) :
    configurationOf b.view = .object [("aot", b.options.view), ("output", b.output.view)] := by
  simp [configurationOf, view, Json.get?, List.lookup_cons]

/-- A manifest is read by `Manifest.read` and its bindings are built, with any options and settings.
The build succeeds. Whatever the manifest looked like, the `view` of the build states the same
bindings as a manifest (`manifestOf`) and the same options and settings as a configuration
(`configurationOf`), so that building from the view gives the same build, its view and its events
included. In particular the normal form of a binding is its own normal form. -/
theorem view_reproduces_build {source : String} {document : Value} {bindings : List Binding}
    (hread : Manifest.read source document = .ok bindings) (options : AotOptions)
    (output : OutputSettings) :
    ∃ build events, ofBindings options output bindings = .ok (build, events) ∧
      (∀ source' label,
        Manifest.read source' (Value.ofJson label (manifestOf build.view)).1 = .ok bindings) ∧
      (∀ label next,
        let c : Configuration :=
          { root := (Value.ofJson label (configurationOf build.view)).1, next }
        c.aotOptions = .ok options ∧ c.outputSettings = .ok output) ∧
      (∀ source', ofView source' build.view = .ok (build, events)) ∧
      ∀ contract implementation package accessible,
        let b := Binding.of contract implementation package accessible
        Binding.of b.contract b.implementation b.package b.accessible = b := by
  obtain ⟨build, events, hbuild, hbindings, hoptions, houtput⟩ :=
    exists_ofBindings options output bindings
  have hmanifest : ∀ source' label,
      Manifest.read source' (Value.ofJson label (manifestOf build.view)).1 = .ok bindings := by
    intro source' label
    rw [manifestOf_view, hbindings]
    exact Manifest.read_views (Manifest.wellFormed_of_read hread) source' label
  have hconfiguration : ∀ label next,
      let c : Configuration := { root := (Value.ofJson label (configurationOf build.view)).1, next }
      c.aotOptions = .ok options ∧ c.outputSettings = .ok output := by
    intro label next
    rw [configurationOf_view, hoptions, houtput]
    exact ⟨aotOptions_ofViews label next options output,
      outputSettings_ofViews label next options output⟩
  refine ⟨build, events, hbuild, hmanifest, hconfiguration, fun source' => ?_,
    fun contract implementation package accessible => Binding.of_of _ _ _ _ _ rfl⟩
  -- the second build is given what the first one was given
  obtain ⟨haot, hnames⟩ := hconfiguration 0 1
  rw [ofView, hmanifest source' 0]
  change (Configuration.aotOptions _ >>= _) = _
  rw [haot]
  change (Configuration.outputSettings _ >>= _) = _
  rw [hnames]
  exact hbuild

/-- A manifest with a truth value for a contract and an implementation without a dot: the view
states the text and the qualified name, which are read as they are. -/
theorem view_reproduces_normalized_build :
    let document : Value := .map 0 [(.text "bindings", .list 1 [.map 2 [
      (.text "contract", .scalar (.bool true)), (.text "implementation", .text "Foo"),
      (.text "package", .text "p"), (.text "accessible", .scalar (.bool false))]])]
    Manifest.read "m.yaml" document = .ok [⟨"True", "p.Foo", "p", false⟩] ∧
      ∃ build events, ofBindings {} {} [⟨"True", "p.Foo", "p", false⟩] = .ok (build, events) ∧
        ofView "m.yaml" build.view = .ok (build, events) := by
  intro document
  have hread : Manifest.read "m.yaml" document = .ok [⟨"True", "p.Foo", "p", false⟩] := rfl
  obtain ⟨build, events, hbuild, -, -, hview, -⟩ := view_reproduces_build hread {} {}
  exact ⟨hread, build, events, hbuild, hview "m.yaml"⟩

end Build

end FactoryRegistry
