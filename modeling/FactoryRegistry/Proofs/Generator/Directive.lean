import FactoryRegistry.Proofs.Generator.History

/-!
# Directives and their refusals

The static block of a build is its directives followed by everything else, each in call order, and
as long as the block is open the verdict on a further directive depends on the two parts alone
(`block_eq_directives_append_others`).

A directive that is refused leaves the generator as it was, but for one case. The key is remembered
before the block is asked whether it is open, so the first new directive after a block of
directives alone was closed is remembered although it was not written (`RememberedRefusal`).
`refusal_unobserved_iff` says that a refusal can be observed later in that case only, and what is
observed then: the same directive counts as a duplicate, and any other new one as following `-1`
statements.
-/

namespace FactoryRegistry

namespace Generator

/-- A closed block of directives alone refuses a new directive, and no key is stray yet. -/
structure RememberedRefusal (g : Generator) (h : List Mark) (key : String) : Prop where
  /-- The block is closed. -/
  closed : g.block.finalized = true
  /-- The block holds directives alone. -/
  others : othersOf h = []
  /-- The closed block has not refused a new directive before. -/
  strays : straysOf h = []
  /-- The directive is not set. -/
  unset : key ∉ directiveKeysOf h

variable {g : Generator} {h : List Mark} {key value : String}

/-- The static block is the directives that were set (`directivesOf`), those of the options first,
followed by all other statements that were accepted (`othersOf`), and no directive is set twice. As
long as the block is open, a directive of the same key makes a further one a duplicate; otherwise
any other statement makes it come too late; otherwise it is written. -/
theorem block_eq_directives_append_others (options : AotOptions) (output : OutputSettings)
    (ops : List Operation) :
    let g := reached options output ops
    let h := reachedHistory options output ops
    g.block.block.statements =
      (directivesOf h).map (fun d => directiveStatement d.1 d.2) ++ othersOf h ∧
    (directiveKeysOf h).Nodup ∧
    (g.block.finalized = false → ∀ key value,
      g.setProperty key value =
        if key ∈ directiveKeysOf h then (.error (.fault (.directiveDuplicate key)), g)
        else if othersOf h ≠ [] then
          (.error (.fault (.directiveOrder key (registrationsOf h).length (othersOf h).length)), g)
        else
          (.ok (), { g with
            directives := g.directives ++ [key]
            block := ⟨⟨g.block.block.statements ++ [directiveStatement key value]⟩, false⟩ })) := by
  intro g h
  have ha : g.Agrees h := agrees_reached options output ops
  refine ⟨ha.statements, ?_, fun hopen key value => ?_⟩
  · have hnodup := ha.nodup
    rw [ha.keys] at hnodup
    exact hnodup.of_append_left
  · rw [ha.setProperty_eq, ha.strays_eq_nil hopen, hopen]
    simp [Block.add]

/-! ## Refused directives -/

/-- A `RememberedRefusal`: the state differs from the one before by the key alone. -/
theorem RememberedRefusal.setProperty (ha : g.Agrees h) (hr : RememberedRefusal g h key)
    (value : String) :
    g.setProperty key value = (.error (.fault (.blockFinalized "append")),
      { g with directives := g.directives ++ [key] }) := by
  rw [ha.setProperty_eq, hr.others, hr.strays, hr.closed]
  simp [hr.unset]

/-- Every other refusal by `setProperty` leaves the generator as it was. -/
theorem setProperty_refused_of_not_remembered (ha : g.Agrees h) {failure : Failure}
    (hrefused : (g.setProperty key value).1 = .error failure)
    (hr : ¬ RememberedRefusal g h key) : (g.setProperty key value).2 = g := by
  rw [ha.setProperty_eq] at hrefused ⊢
  split_ifs at hrefused ⊢ with hkey hothers hclosed
  · rfl
  · rfl
  · -- the block is asked only when nothing but directives is in it
    obtain ⟨hothers, hstrays⟩ := ha.no_others_of_balanced (not_not.1 hothers)
    rw [hstrays, List.append_nil] at hkey
    exact absurd ⟨hclosed, hothers, hstrays, hkey⟩ hr

/-- After a `RememberedRefusal` the same directive is a duplicate. -/
theorem RememberedRefusal.again (ha : g.Agrees h) (hr : RememberedRefusal g h key)
    (value again : String) :
    ((g.setProperty key value).2.setProperty key again).1 =
      .error (.fault (.directiveDuplicate key)) := by
  rw [hr.setProperty ha, Generator.setProperty_eq, if_pos (by simp)]

/-- After a refusal that is remembered, another new directive comes too late for a block of `-1`
statements, although the block had refused it for being closed. -/
theorem RememberedRefusal.other (ha : g.Agrees h) (hr : RememberedRefusal g h key)
    (value : String) {other : String} (hne : other ≠ key) (hunset : other ∉ directiveKeysOf h)
    (otherValue : String) :
    ((g.setProperty key value).2.setProperty other otherValue).1 =
        .error (.fault (.directiveOrder other (registrationsOf h).length (-1))) ∧
      (g.setProperty other otherValue).1 = .error (.fault (.blockFinalized "append")) := by
  have hother : RememberedRefusal g h other := ⟨hr.closed, hr.others, hr.strays, hunset⟩
  have hnew : key ∉ g.directives := by
    rw [ha.keys, hr.strays, List.append_nil]
    exact hr.unset
  -- the state after the refusal agrees with a history of one stray key
  have hnext := ha.refuse_directive hr.closed hr.others hr.strays hnew
  refine ⟨?_, by rw [hother.setProperty ha]⟩
  rw [hr.setProperty ha, hnext.setProperty_eq]
  simp [hr.others, hr.strays, hunset, hne]

/-- A directive that comes too late is told the number of statements that are no directives exactly
as long as no key is stray (`straysOf`). -/
theorem order_count_iff (ha : g.Agrees h) {bindings count : Int}
    (horder : (g.setProperty key value).1 =
      .error (.fault (.directiveOrder key bindings count))) :
    count = (othersOf h).length ↔ straysOf h = [] := by
  rw [ha.setProperty_eq] at horder
  split_ifs at horder with hkey hothers hclosed
  · cases horder
  · cases horder
    rw [← List.length_eq_zero_iff]
    omega
  · cases horder

/-- A refused directive is unobservable in every later call exactly when its refusal is no
`RememberedRefusal`; the generator is then left as it was. A refusal that is remembered turns the
same directive into a duplicate and every other new one into one that follows `-1` statements. The
number of statements in a refusal for coming too late is the true one exactly as long as no refusal
was remembered. -/
theorem refusal_unobserved_iff (options : AotOptions) (output : OutputSettings)
    (ops : List Operation) (key value : String) {failure : Failure}
    (hrefused : ((reached options output ops).setProperty key value).1 = .error failure) :
    let g := reached options output ops
    let h := reachedHistory options output ops
    let g' := (g.setProperty key value).2
    ((∀ later, (g'.run later).1 = (g.run later).1) ↔ ¬ RememberedRefusal g h key) ∧
    (¬ RememberedRefusal g h key → g' = g) ∧
    (RememberedRefusal g h key →
      failure = .fault (.blockFinalized "append") ∧
      (∀ again, (g'.setProperty key again).1 = .error (.fault (.directiveDuplicate key))) ∧
      ∀ other otherValue, other ≠ key → other ∉ directiveKeysOf h →
        (g'.setProperty other otherValue).1 =
            .error (.fault (.directiveOrder other (registrationsOf h).length (-1))) ∧
          (g.setProperty other otherValue).1 = .error (.fault (.blockFinalized "append"))) ∧
    (∀ bindings count, failure = .fault (.directiveOrder key bindings count) →
      (count = (othersOf h).length ↔ straysOf h = [])) := by
  intro g h g'
  have ha : g.Agrees h := agrees_reached options output ops
  have hkept : ¬ RememberedRefusal g h key → g' = g :=
    setProperty_refused_of_not_remembered ha hrefused
  refine ⟨⟨fun hsame hr => ?_, fun hr later => by rw [hkept hr]⟩, hkept, fun hr => ?_, ?_⟩
  · -- the same call once more tells the two states apart
    have hverdict := hsame [.setProperty key value]
    simp only [run, step, g'] at hverdict
    rw [hr.again ha value value, hr.setProperty ha value] at hverdict
    cases hverdict
  · rw [hr.setProperty ha] at hrefused
    cases hrefused
    exact ⟨rfl, hr.again ha value, fun other otherValue hne hunset =>
      hr.other ha value hne hunset otherValue⟩
  · rintro bindings count rfl
    exact order_count_iff ha hrefused

/-- After an empty block was closed the refusal of a first directive is remembered, so some later
call observes it. -/
theorem refusal_observed_after_empty_block :
    let g := reached {} {} [.generateRegistry]
    (g.setProperty "k" "v").1 = .error (.fault (.blockFinalized "append")) ∧
      ¬ ∀ later, ((g.setProperty "k" "v").2.run later).1 = (g.run later).1 := by
  intro g
  have hrefused : (g.setProperty "k" "v").1 = .error (.fault (.blockFinalized "append")) := rfl
  have hremembered : RememberedRefusal g (reachedHistory {} {} [.generateRegistry]) "k" :=
    ⟨rfl, rfl, rfl, List.not_mem_nil⟩
  exact ⟨hrefused, fun hsame =>
    (refusal_unobserved_iff {} {} [.generateRegistry] "k" "v" hrefused).1.1 hsame hremembered⟩

/-- A refused directive can leave a trace: the same call then fails with another fault, and so does
a call with another key, which reports `-1` statements of an empty block. -/
theorem refused_directive_leaves_trace :
    let g := reached {} {} [.generateRegistry]
    let g' := (g.setProperty "k" "v").2
    (g.setProperty "k" "v").1 = .error (.fault (.blockFinalized "append")) ∧
      (g'.setProperty "k" "v").1 = .error (.fault (.directiveDuplicate "k")) ∧
      (g.setProperty "j" "v").1 = .error (.fault (.blockFinalized "append")) ∧
      (g'.setProperty "j" "v").1 = .error (.fault (.directiveOrder "j" 0 (-1))) :=
  ⟨rfl, rfl, rfl, rfl⟩

end Generator

end FactoryRegistry
