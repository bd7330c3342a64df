import FactoryRegistry.Description.TypeDescription
import FactoryRegistry.Proofs.Json.RoundTrip

/-!
# Views determine descriptions

The view of a field, a method, a class or a source file is a value without numbers and repeated
names (`view_readable`), and no two of them have the same view, even after the members of every
object were put in the order of their names (`eq_of_sorted_view`). In particular a missing
initializer or static block is told from an empty one.
-/

namespace FactoryRegistry

namespace Json

/-- An array of texts is `Readable`. -/
theorem readable_texts (ss : List String) : Readable (texts ss) := by
  refine .array fun v hv => ?_
  obtain ⟨s, -, rfl⟩ := List.mem_map.1 hv
  exact .text s

/-- An optional text is `Readable`. -/
theorem readable_optionalText (s : Option String) : Readable (optionalText s) := by
  cases s with
  | none => exact .null
  | some s => exact .text s

/-- An array of views is `Readable` if each view is. -/
theorem readable_array_map {α : Type} {f : α → Json} (hf : ∀ a, Readable (f a)) (l : List α) :
    Readable (array (l.map f)) := by
  refine .array fun v hv => ?_
  obtain ⟨a, -, rfl⟩ := List.mem_map.1 hv
  exact hf a

/-- `sorted` leaves a text as it is. -/
@[simp]
theorem sorted_text (s : String) : (text s).sorted = text s := by rw [sorted]

/-- `sorted` leaves an array of texts as it is. -/
@[simp]
theorem sorted_texts (ss : List String) : (texts ss).sorted = texts ss := by
  rw [texts, sorted, sortedItems_eq_map, List.map_map]
  exact congrArg array (List.map_congr_left fun s _ => sorted_text s)

/-- `sorted` leaves an optional text as it is. -/
@[simp]
theorem sorted_optionalText (s : Option String) : (optionalText s).sorted = optionalText s := by
  cases s <;> rw [optionalText, sorted]

/-- `texts` determines the texts. -/
theorem texts_injective : Function.Injective texts := fun _ _ h =>
  List.map_injective_iff.2 (fun _ _ => text.inj) (array.inj h)

/-- `optionalText` tells a missing text from each text. -/
theorem optionalText_injective : Function.Injective optionalText := by
  rintro (_ | s) (_ | t) h <;> cases h <;> rfl

/-- An array of views `f` determines its items, also after `sorted`, if each view does. -/
theorem eq_of_sorted_array_map {α : Type} {f : α → Json}
    (hf : ∀ {a b}, (f a).sorted = (f b).sorted → a = b) {l m : List α}
    (h : (array (l.map f)).sorted = (array (m.map f)).sorted) : l = m := by
  rw [sorted, sorted, sortedItems_eq_map, sortedItems_eq_map, List.map_map, List.map_map] at h
  exact List.map_injective_iff.2 (fun _ _ => hf) (array.inj h)

/-- Two objects that are the same after `sorted` have the same members, each `sorted`. -/
theorem member_eq_of_sorted {members members' : List (String × Json)}
    (hnodup : (members.map Prod.fst).Nodup) (hnodup' : (members'.map Prod.fst).Nodup)
    (h : (object members).sorted = (object members').sorted) (name : String) :
    ((object members).get? name).map sorted = ((object members').get? name).map sorted := by
  rw [← get?_sorted hnodup, ← get?_sorted hnodup', h]

end Json

open Json

/-! ## Modifiers and members -/

/-- Modifiers have different names. -/
theorem Modifier.name_injective : Function.Injective Modifier.name := by
  intro m n h
  cases m <;> cases n <;> first | rfl | exact absurd h (by decide)

/-- The `view` of modifiers determines them and their order. -/
theorem Modifier.view_injective : Function.Injective Modifier.view := fun _ _ h =>
  List.map_injective_iff.2 name_injective (texts_injective h)

/-- The `view` of modifiers is `Readable`. -/
theorem Modifier.view_readable (ms : List Modifier) : (view ms).Readable :=
  readable_texts (ms.map name)

/-- `sorted` leaves the `view` of modifiers as it is. -/
@[simp]
theorem Modifier.sorted_view (ms : List Modifier) : (view ms).sorted = view ms :=
  sorted_texts (ms.map name)

namespace Field

/-- The `view` of a field is `Readable`. -/
theorem view_readable (f : Field) : f.view.Readable := by
  refine .object (by simp) ?_
  simp [Modifier.view_readable, readable_optionalText, Readable.text]

/-- The `view` of a field determines the field. -/
theorem eq_of_sorted_view {f g : Field} (h : f.view.sorted = g.view.sorted) : f = g := by
  have hmember := member_eq_of_sorted (by simp) (by simp) h
  have htype : f.typeName = g.typeName := by simpa [get?, List.lookup_cons] using hmember "type"
  have hname : f.name = g.name := by simpa [get?, List.lookup_cons] using hmember "name"
  have hmodifiers : f.modifiers = g.modifiers :=
    Modifier.view_injective (by simpa [get?, List.lookup_cons] using hmember "modifiers")
  have hinitializer : f.initializer = g.initializer :=
    optionalText_injective (by simpa [get?, List.lookup_cons] using hmember "initializer")
  cases f
  cases g
  exact mk.injEq .. ▸ ⟨htype, hname, hmodifiers, hinitializer⟩

end Field

namespace Method

/-- The `view` of a method is `Readable`. -/
theorem view_readable (m : Method) : m.view.Readable := by
  refine .object (by simp) ?_
  simp [Modifier.view_readable, readable_texts, Readable.text]

/-- The `view` of a method determines the method. -/
theorem eq_of_sorted_view {m n : Method} (h : m.view.sorted = n.view.sorted) : m = n := by
  have hmember := member_eq_of_sorted (by simp) (by simp) h
  have hname : m.name = n.name := by simpa [get?, List.lookup_cons] using hmember "name"
  have hreturnType : m.returnType = n.returnType := by
    simpa [get?, List.lookup_cons] using hmember "return_type"
  have hmodifiers : m.modifiers = n.modifiers :=
    Modifier.view_injective (by simpa [get?, List.lookup_cons] using hmember "modifiers")
  have hcode : m.code.statements = n.code.statements :=
    texts_injective (by simpa [get?, List.lookup_cons] using hmember "code")
  have hdoc : m.doc = n.doc := by simpa [get?, List.lookup_cons] using hmember "doc"
  obtain ⟨_, _, _, ⟨_⟩, _⟩ := m
  obtain ⟨_, _, _, ⟨_⟩, _⟩ := n
  exact mk.injEq .. ▸ ⟨hname, hreturnType, hmodifiers, congrArg Block.mk hcode, hdoc⟩

end Method

/-! ## Classes and source files -/

/-- A static block as data: `null` where there is none. -/
def staticBlockView (b : Option Block) : Json :=
  match b with
  | some b => .texts b.statements
  | none => .null

/-- `staticBlockView` is `Readable`. -/
theorem staticBlockView_readable (b : Option Block) : (staticBlockView b).Readable := by
  cases b with
  | none => exact .null
  | some b => exact readable_texts b.statements

/-- `staticBlockView` tells a missing static block from an empty one. -/
theorem eq_of_sorted_staticBlockView {b c : Option Block}
    (h : (staticBlockView b).sorted = (staticBlockView c).sorted) : b = c := by
  cases b with
  | none =>
    cases c with
    | none => rfl
    | some c => cases h
  | some b =>
    cases c with
    | none => cases h
    | some c =>
      rw [staticBlockView, staticBlockView, sorted_texts, sorted_texts] at h
      exact congrArg (fun statements => some (Block.mk statements)) (texts_injective h)

namespace TypeDescription

/-- The `view` of a class, with `staticBlockView` under the name of the static block. -/
theorem view_eq (t : TypeDescription) : t.view = .object [
    ("name", .text t.name),
    ("modifiers", Modifier.view t.modifiers),
    ("fields", .array (t.fields.map Field.view)),
    ("methods", .array (t.methods.map Method.view)),
    ("static_block", staticBlockView t.staticBlock),
    ("doc", .text t.doc)] :=
  rfl

/-- The `view` of a class is `Readable`. -/
theorem view_readable (t : TypeDescription) : t.view.Readable := by
  rw [view_eq]
  refine .object (by simp) ?_
  simp [Modifier.view_readable, readable_array_map Field.view_readable,
    readable_array_map Method.view_readable, staticBlockView_readable, Readable.text]

/-- The `view` of a class determines the class. -/
theorem eq_of_sorted_view {t u : TypeDescription} (h : t.view.sorted = u.view.sorted) : t = u := by
  rw [view_eq, view_eq] at h
  have hmember := member_eq_of_sorted (by simp) (by simp) h
  have hname : t.name = u.name := by simpa [get?, List.lookup_cons] using hmember "name"
  have hmodifiers : t.modifiers = u.modifiers :=
    Modifier.view_injective (by simpa [get?, List.lookup_cons] using hmember "modifiers")
  have hfields : t.fields = u.fields := eq_of_sorted_array_map Field.eq_of_sorted_view
    (by simpa [get?, List.lookup_cons] using hmember "fields")
  have hmethods : t.methods = u.methods := eq_of_sorted_array_map Method.eq_of_sorted_view
    (by simpa [get?, List.lookup_cons] using hmember "methods")
  have hstaticBlock : t.staticBlock = u.staticBlock := eq_of_sorted_staticBlockView
    (by simpa [get?, List.lookup_cons] using hmember "static_block")
  have hdoc : t.doc = u.doc := by simpa [get?, List.lookup_cons] using hmember "doc"
  cases t
  cases u
  exact mk.injEq .. ▸ ⟨hname, hmodifiers, hfields, hmethods, hstaticBlock, hdoc⟩

end TypeDescription

namespace SourceFile

/-- The `view` of a file is `Readable`. -/
theorem view_readable (f : SourceFile) : f.view.Readable := by
  refine .object (by simp) ?_
  simp [f.type.view_readable, Readable.text]

/-- The `view` of a file determines the file. -/
theorem eq_of_sorted_view {f g : SourceFile} (h : f.view.sorted = g.view.sorted) : f = g := by
  have hmember := member_eq_of_sorted (by simp) (by simp) h
  have hpackage : f.package = g.package := by simpa [get?, List.lookup_cons] using hmember "package"
  have htype : f.type = g.type :=
    TypeDescription.eq_of_sorted_view (by simpa [get?, List.lookup_cons] using hmember "type")
  cases f
  cases g
  exact mk.injEq .. ▸ ⟨hpackage, htype⟩

end SourceFile

end FactoryRegistry
