import Mathlib.Data.List.Basic
import FactoryRegistry.Config.Section

/-!
# The values of a type

`FieldType.Admits` tells which values a type has, one rule for each form of type;
`FieldType.accepts` decides it (`accepts_iff`). The type of truth values and the type of all values
are the only ones with a truth value, besides the unions that have one of the two as an arm
(`admits_bool_iff`).
-/

namespace FactoryRegistry.Config

open Value

namespace FieldType

/-- A type has a value among its own. -/
inductive Admits (v : Value) : FieldType → Prop where
  /-- Every value is one of any kind. -/
  | any : Admits v any
  /-- The values of a kind. -/
  | kind {k : Kind} (h : v.kind = k) : Admits v (kind k)
  /-- A moment is a date. -/
  | moment (h : v.kind = .moment) : Admits v (kind .date)
  /-- The instances of a class. A truth value is never one. -/
  | instance {kinds : List Kind} (h : v.kind ∈ kinds) (hbool : v.kind ≠ .bool) :
      Admits v (instances kinds)
  /-- The container, whatever it holds. -/
  | container {c : Container} (h : v.kind = c.kind) : Admits v (container c)
  /-- The values of an arm. -/
  | union {arms : List FieldType} {arm : FieldType} (hmem : arm ∈ arms) (h : Admits v arm) :
      Admits v (union arms)

/-- A type is another one or, however deep, one of its arms. -/
inductive ArmOf (t : FieldType) : FieldType → Prop where
  /-- The type itself. -/
  | self : ArmOf t t
  /-- An arm of an arm. -/
  | arm {arms : List FieldType} {a : FieldType} (hmem : a ∈ arms) (h : ArmOf t a) :
      ArmOf t (union arms)

variable {v : Value} {t u : FieldType}

/-- The check `passes` of a kind accepts what the kind `Admits`. -/
theorem passes_iff {k : Kind} : passes v.kind k = true ↔ Admits v (kind k) := by
  rw [passes, Bool.or_eq_true, Bool.and_eq_true, decide_eq_true_eq, decide_eq_true_eq,
    decide_eq_true_eq]
  constructor
  · rintro (h | ⟨hmoment, rfl⟩)
    · exact .kind h
    · exact .moment hmoment
  · rintro (_ | h | h)
    · exact Or.inl h
    · exact Or.inr ⟨h, rfl⟩

mutual

/-- The check `accepts` of a type accepts what the type `Admits`. The induction is on the type,
together with that on the arms of a union. -/
theorem accepts_iff (v : Value) : ∀ t : FieldType, accepts v t = true ↔ Admits v t
  | .any => iff_of_true (by rw [accepts]) .any
  | .kind k => by rw [accepts, passes_iff]
  | .instances kinds => by
    rw [accepts, Bool.and_eq_true, decide_eq_true_eq, List.contains_iff_mem]
    exact ⟨fun h => .instance h.2 h.1, fun | .instance h hbool => ⟨hbool, h⟩⟩
  | .container c => by
    rw [accepts, decide_eq_true_eq]
    exact ⟨.container, fun | .container h => h⟩
  | .union arms => by
    rw [accepts, anyAccepts_iff v arms]
    exact ⟨fun ⟨_, hmem, h⟩ => .union hmem h, fun | .union hmem h => ⟨_, hmem, h⟩⟩

/-- The check `anyAccepts` of the arms of a union accepts what one of them `Admits`. -/
theorem anyAccepts_iff (v : Value) :
    ∀ arms : List FieldType, anyAccepts v arms = true ↔ ∃ arm ∈ arms, Admits v arm
  | [] => iff_of_false (by rw [anyAccepts]; exact Bool.false_ne_true) fun ⟨_, h, _⟩ => nomatch h
  | arm :: arms => by
    rw [anyAccepts, Bool.or_eq_true, accepts_iff v arm, anyAccepts_iff v arms,
      List.exists_mem_cons_iff]

end

mutual

/-- Whether a type `accepts` a value is a matter of the `kind` of the value. -/
theorem accepts_congr {w : Value} (h : v.kind = w.kind) :
    ∀ t : FieldType, accepts v t = accepts w t
  | .any => by rw [accepts, accepts]
  | .kind _ | .instances _ | .container _ => by rw [accepts, accepts, h]
  | .union arms => by rw [accepts, accepts, anyAccepts_congr h arms]

theorem anyAccepts_congr {w : Value} (h : v.kind = w.kind) :
    ∀ arms : List FieldType, anyAccepts v arms = anyAccepts w arms
  | [] => by rw [anyAccepts, anyAccepts]
  | arm :: arms => by rw [anyAccepts, anyAccepts, accepts_congr h arm, anyAccepts_congr h arms]

end

theorem ArmOf.admits (h : ArmOf u t) (hv : Admits v u) : Admits v t := by
  induction h with
  | self => exact hv
  | arm hmem _ ih => exact .union hmem ih

/-- A truth value belongs to the type of truth values, to `any` and to the unions that have one of
these as an `ArmOf`. -/
theorem admits_bool_iff (b : Bool) :
    Admits (.scalar (.bool b)) t ↔ ArmOf .any t ∨ ArmOf (.kind .bool) t := by
  constructor
  · intro h
    induction h with
    | any => exact Or.inl .self
    | kind h => exact Or.inr (h ▸ .self)
    | moment h => cases h
    | «instance» _ hbool => exact absurd rfl hbool
    | @container c h => cases c <;> cases h
    | union hmem _ ih => exact ih.imp (.arm hmem) (.arm hmem)
  · rintro (h | h)
    · exact h.admits .any
    · exact h.admits (.kind rfl)

/-- The type of no value has nothing but `null`. -/
theorem admits_null_iff : Admits v (.kind .null) ↔ v = .null := by
  constructor
  · rintro (_ | h | _)
    cases v with
    | scalar s =>
      cases s with
      | null => rfl
      | _ => cases h
    | loop c l => cases c <;> cases h
    | _ => cases h
  · rintro rfl
    exact .kind rfl

end FieldType

end FactoryRegistry.Config
