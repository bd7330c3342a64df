import FactoryRegistry.Proofs.Generator.Emission
import FactoryRegistry.Proofs.Generator.Ledger

/-!
# The static block as a transcript

The static block of a build that only registers bindings tells which features are switched off and
what was registered (`staticBlock_eq_iff`), whatever the names of contracts and classes are.

One statement does not tell its parts, for a contract may contain the very text that separates it
from what follows. The two statements of a registration have different separators after the same
contract, though, and this tells where the contract ends: a longer contract would have to overlap
with both separators at once (`overlap_eq_nil`).
-/

namespace FactoryRegistry

/-! ## Cutting a statement into its parts -/

/-- What follows the contract where a supplier is added. -/
def supplierMark : String := ".class, () -> "

/-- What follows the contract where the name of an implementation is added. -/
def nameMark : String := ".class, \""

/-- Let two texts go on with `supplierMark` and with `nameMark` after `d`, and begin with the two
separators themselves. Then `d` is empty: up to the eighth character no separator could begin anew,
and the ninth one tells `supplierMark` from `nameMark`. -/
theorem overlap_eq_nil {d s s' i i' : List Char}
    (hsupplier : supplierMark.toList ++ s = d ++ (supplierMark.toList ++ s'))
    (hname : nameMark.toList ++ i = d ++ (nameMark.toList ++ i')) : d = [] := by
  by_contra hd
  have hpos : 0 < d.length := List.length_pos_iff.2 hd
  by_cases hlong : 8 < d.length
  · -- both texts show the ninth character of `d`
    have hsupplier' := congrArg (·[8]?) hsupplier
    have hname' := congrArg (·[8]?) hname
    simp only [List.getElem?_append_left hlong] at hsupplier' hname'
    rw [← hsupplier', List.getElem?_append_left (by decide),
      List.getElem?_append_left (by decide)] at hname'
    exact absurd hname' (by decide)
  · -- the separator that follows `d` would begin inside the first one
    have hpoint : ∀ n < 9, 0 < n → supplierMark.toList[n]? ≠ some '.' := by decide
    have hlength : supplierMark.toList.length = 14 := by decide
    have hstart := congrArg (·[d.length]?) hsupplier
    simp only [List.getElem?_append_right (Nat.le_refl d.length), Nat.sub_self] at hstart
    rw [List.getElem?_append_left (by omega)] at hstart
    exact hpoint d.length (by omega) hpos hstart

/-- A contract `c` that is followed by `supplierMark` in one text and by `nameMark` in another is
determined by the two texts, and so is what follows the separators. -/
theorem parts_eq_of_marks {c c' s s' i i' : List Char}
    (hsupplier : c ++ (supplierMark.toList ++ s) = c' ++ (supplierMark.toList ++ s'))
    (hname : c ++ (nameMark.toList ++ i) = c' ++ (nameMark.toList ++ i')) :
    c = c' ∧ s = s' ∧ i = i' := by
  have hc : c = c' := by
    -- one contract is the other one and some more text, which is empty
    obtain ⟨d, rfl, hd⟩ | ⟨d, rfl, hd⟩ := List.append_eq_append_iff.1 hsupplier
    · rw [List.append_assoc, List.append_cancel_left_eq] at hname
      rw [overlap_eq_nil hd hname, List.append_nil]
    · rw [List.append_assoc, List.append_cancel_left_eq] at hname
      rw [overlap_eq_nil hd hname.symm, List.append_nil]
  subst hc
  simpa using And.intro hsupplier hname

namespace Registration

/-- The contract, the implementation and the supplier of a registration. -/
def parts (r : Registration) : String × String × String :=
  (r.contract, r.implementation, r.supplier)

/-- The statement that adds a supplier, cut at `supplierMark`. -/
theorem supplierStatement_eq (contract supplier : String) :
    s!"factories.add({contract}.class, () -> {supplier})" =
      "factories.add(" ++ (contract ++ (supplierMark ++ (supplier ++ ")"))) := by
  simp [toString, String.append_assoc, supplierMark]

/-- The statement that adds a name, cut at `nameMark`. -/
theorem nameStatement_eq (contract implementation : String) :
    s!"names.add({contract}.class, \"{implementation}\")" =
      "names.add(" ++ (contract ++ (nameMark ++ (implementation ++ "\")"))) := by
  simp [toString, String.append_assoc, nameMark]

/-- The two `registrationStatements` of a registration determine its `parts`. -/
theorem parts_eq_of_statements {r r' : Registration}
    (h : Generator.registrationStatements r = Generator.registrationStatements r') :
    r.parts = r'.parts := by
  simp only [Generator.registrationStatements, List.cons.injEq, and_true] at h
  obtain ⟨hsupplier, hname⟩ := h
  rw [supplierStatement_eq, supplierStatement_eq, String.append_right_inj] at hsupplier
  rw [nameStatement_eq, nameStatement_eq, String.append_right_inj] at hname
  obtain ⟨hcontract, hs, hi⟩ := parts_eq_of_marks
    (by simpa only [String.toList_append] using congrArg String.toList hsupplier)
    (by simpa only [String.toList_append] using congrArg String.toList hname)
  rw [parts, parts, String.toList_injective hcontract,
    String.toList_injective (List.append_cancel_right hs),
    String.toList_injective (List.append_cancel_right hi)]

/-- The `registrationStatements` of registrations one after another determine the `parts` of each of
them. -/
theorem map_parts_eq_of_statements {rs rs' : List Registration}
    (h : rs.flatMap Generator.registrationStatements =
      rs'.flatMap Generator.registrationStatements) :
    rs.map parts = rs'.map parts := by
  induction rs generalizing rs' with
  | nil =>
    cases rs' with
    | nil => rfl
    | cons r' rs' => cases h
  | cons r rs ih =>
    cases rs' with
    | nil => cases h
    | cons r' rs' =>
      -- every registration writes two statements, so the heads correspond
      obtain ⟨hhead, htail⟩ := List.append_inj h rfl
      rw [List.map_cons, List.map_cons, parts_eq_of_statements hhead, ih htail]

/-- The `registrationStatements` of registrations depend on their `parts` alone. -/
theorem statements_eq_of_map_parts {rs rs' : List Registration}
    (h : rs.map parts = rs'.map parts) :
    rs.flatMap Generator.registrationStatements =
      rs'.flatMap Generator.registrationStatements := by
  let statementsOf : String × String × String → List String := fun p =>
    Generator.registrationStatements ⟨p.1, p.2.1, p.2.2, none⟩
  have hparts : ∀ rs : List Registration,
      rs.flatMap Generator.registrationStatements = (rs.map parts).flatMap statementsOf := by
    intro rs
    rw [List.flatMap_map]
    rfl
  rw [hparts, hparts, h]

end Registration

/-! ## Reading the switches -/

/-- What follows the key in a directive. -/
def directiveMark : String := "\", \""

/-- `directiveStatement`, cut after its key at `directiveMark` and after its value. -/
theorem directiveStatement_eq (key value : String) :
    Generator.directiveStatement key value =
      "System.setProperty(\"" ++ (key ++ (directiveMark ++ (value ++ "\")"))) := by
  change s!"System.setProperty(\"{key}\", \"{value}\")" = _
  simp only [toString, String.append_assoc, directiveMark]

/-- Texts whose first characters `c` and `d` are different are different, whatever follows. -/
theorem append_ne_append {a b : String} {c d : Char} (ha : a.toList.head? = some c)
    (hb : b.toList.head? = some d) (hne : c ≠ d) (x y : String) : a ++ x ≠ b ++ y := by
  intro h
  have hhead := congrArg (fun s => s.toList.head?) h
  simp only [String.toList_append, List.head?_append, ha, hb, Option.some_or,
    Option.some.injEq] at hhead
  exact hne hhead

namespace AotOptions

/-- The statements of the directives of the enabled switches. -/
def statements (o : AotOptions) : List String :=
  o.directives.map fun d => Generator.directiveStatement d.1 d.2

/-- The switches whose directive is among some statements. -/
def enabledIn (statements : List String) : AotOptions where
  removeYamlSupport :=
    Generator.directiveStatement "spring.native.remove-yaml-support" "true" ∈ statements
  removeXmlSupport := Generator.directiveStatement "spring.xml.ignore" "true" ∈ statements
  removeSpelSupport := Generator.directiveStatement "spring.spel.ignore" "true" ∈ statements

/-- The `statements` of options tell which switches are on. -/
theorem enabledIn_statements (o : AotOptions) : enabledIn o.statements = o := by
  obtain ⟨_ | _, _ | _, _ | _⟩ := o <;> decide

/-- A `directiveStatement` is not among the `registrationStatements`. -/
theorem directiveStatement_not_mem (key value : String) (rs : List Registration) :
    Generator.directiveStatement key value ∉ rs.flatMap Generator.registrationStatements := by
  intro hmem
  obtain ⟨r, -, hr⟩ := List.mem_flatMap.1 hmem
  simp only [Generator.registrationStatements, List.mem_cons, List.not_mem_nil, or_false] at hr
  have hfirst : "System.setProperty(\"".toList.head? = some 'S' := by decide
  rw [directiveStatement_eq, Registration.supplierStatement_eq, Registration.nameStatement_eq] at hr
  obtain h | h := hr
  · exact append_ne_append hfirst (b := "factories.add(") (d := 'f') (by decide) (by decide) _ _ h
  · exact append_ne_append hfirst (b := "names.add(") (d := 'n') (by decide) (by decide) _ _ h

/-- `registrationStatements` that follow do not hide the switches from `enabledIn`. -/
theorem enabledIn_append (ss : List String) (rs : List Registration) :
    enabledIn (ss ++ rs.flatMap Generator.registrationStatements) = enabledIn ss := by
  simp only [enabledIn, List.mem_append, directiveStatement_not_mem, or_false]

end AotOptions

namespace Generator

/-- An open block is handed out as the static initializer of the registry, by `assembleFile`. -/
theorem generateRegistry_of_open {g : Generator} (hopen : g.block.finalized = false) :
    g.generateRegistry.1 = .ok (g.output.target.assembleFile g.block.block) := by
  simp [generateRegistry_eq, hopen]

/-- The registrations that a fresh generator returns for some bindings. -/
def registered (options : AotOptions) (output : OutputSettings) (bs : List Binding) :
    List Registration :=
  ((new options output).run (bs.map .register)).1.filterMap Result.registration?

variable (options : AotOptions) (output : OutputSettings) (bs : List Binding)

/-- A fresh block holds the `statements` of the options. -/
theorem new_statements : (new options output).block.block.statements = options.statements := by
  obtain ⟨_ | _, _ | _, _ | _⟩ := options <;> rfl

/-- Registering the bindings `bs` leaves the `registrationStatements` of the `registered` ones after
the directives, and every binding has a registration. -/
theorem block_of_registrations :
    (reached options output (bs.map .register)).block.block.statements =
        options.statements ++ (registered options output bs).flatMap registrationStatements ∧
      (registered options output bs).map (fun r => (r.contract, r.implementation)) =
        bs.map fun b => (b.contract, b.implementation) := by
  induction bs using List.reverseRecOn with
  | nil => exact ⟨(new_statements options output).trans (List.append_nil _).symm, rfl⟩
  | append_singleton bs b ih =>
    obtain ⟨hstatements, hparts⟩ := ih
    have hopen := (reached_registrations options output bs).1
    obtain ⟨r, k, hplacement, hregister⟩ := register_of_open hopen b
    -- the next binding adds one registration, with the parts of the binding
    have hregistered :
        registered options output (bs ++ [b]) = registered options output bs ++ [r] := by
      simp only [registered, List.map_append, run_append, List.filterMap_append]
      rw [← reached, List.map_singleton, run, step, hregister]
      rfl
    obtain ⟨hcontract, himplementation⟩ := hplacement.parts
    rw [hregistered, @List.map_append _ _ _ bs, List.map_singleton, reached_concat, step, hregister]
    refine ⟨?_, ?_⟩
    · rw [hstatements, List.flatMap_append, List.append_assoc, List.flatMap_singleton]
    · rw [List.map_append, hparts, List.map_append, List.map_singleton, List.map_singleton,
        hcontract, himplementation]

/-- Bindings are registered on two fresh generators, and nothing else is done. Both registries can
be generated, and every binding is registered. The static initializers of the registries are the
same exactly when the same features are switched off and the registrations have the same contracts,
implementations and suppliers in the same order. -/
theorem staticBlock_eq_iff (options options' : AotOptions) (output output' : OutputSettings)
    (bs bs' : List Binding) :
    ∃ f f', (reached options output (bs.map .register)).generateRegistry.1 = .ok f ∧
      (reached options' output' (bs'.map .register)).generateRegistry.1 = .ok f' ∧
      (registered options output bs).map (fun r => (r.contract, r.implementation)) =
        bs.map (fun b => (b.contract, b.implementation)) ∧
      (f.type.staticBlock = f'.type.staticBlock ↔ options = options' ∧
        (registered options output bs).map Registration.parts =
          (registered options' output' bs').map Registration.parts) := by
  obtain ⟨hstatements, hparts⟩ := block_of_registrations options output bs
  obtain ⟨hstatements', -⟩ := block_of_registrations options' output' bs'
  have hfile := generateRegistry_of_open (reached_registrations options output bs).1
  have hfile' := generateRegistry_of_open (reached_registrations options' output' bs').1
  refine ⟨_, _, hfile, hfile', hparts, fun h => ?_, fun ⟨hoptions, hregistered⟩ => ?_⟩
  · have hblock := congrArg Block.statements (Option.some.inj h)
    rw [hstatements, hstatements'] at hblock
    -- the flags can be read off the block, so the statements before the registrations agree
    have hoptions : options = options' := by
      rw [← options.enabledIn_statements, ← AotOptions.enabledIn_append, hblock,
        AotOptions.enabledIn_append, options'.enabledIn_statements]
    subst hoptions
    exact ⟨rfl, Registration.map_parts_eq_of_statements (List.append_cancel_left hblock)⟩
  · subst hoptions
    have hblock := Registration.statements_eq_of_map_parts hregistered
    refine congrArg (fun statements => some (Block.mk statements)) ?_
    rw [hstatements, hstatements', hblock]

end Generator

end FactoryRegistry
