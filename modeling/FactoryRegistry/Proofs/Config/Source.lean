import FactoryRegistry.Proofs.Config.Assignment

/-!
# What a source says about a path

A document decides the paths at which it has a value and those that one of its values stands in the
way of. A variable decides the paths to its own and the ones that go on from it, since it makes
mappings on the way and takes the place of everything at its end. `lastHolding` is what the last
source that decides a path holds there.

Setting a path among entries makes them hold what the variable does, and changes nothing on the
paths that it does not decide (`holding_setEntries`).
-/

namespace FactoryRegistry.Config

open Value

/-- What a configuration is changed by in one step. -/
inductive Source where
  /-- A document or the overrides, merged as a whole. -/
  | document (v : Value)
  /-- A variable, by its path and the value that its text stands for. -/
  | setting (path : List String) (j : Json)

namespace Source

/-- A source has the say about a path. -/
def Decides : Source → List Scalar → Prop
  | document v, path => v.Decides path
  | setting own _, path => path <+: own.map .text ∨ own.map .text <+: path

instance (s : Source) (path : List Scalar) : Decidable (s.Decides path) :=
  match s with
  | document v => inferInstanceAs (Decidable (v.Decides path))
  | setting own _ => inferInstanceAs (Decidable (path <+: own.map .text ∨ own.map .text <+: path))

/-- What a source holds on a path that it decides. -/
def holding : Source → List Scalar → Holding
  | document v, path => .of (v.at? path)
  | setting own j, path =>
    if path.length < own.length then .mapping
    else .of ((ofJson 0 j).1.at? (path.drop own.length))

end Source

/-- What the last source that decides a path holds there, and nothing where none decides it. -/
def lastHolding (sources : List Source) (path : List Scalar) : Holding :=
  match (sources.filter (·.Decides path)).getLast? with
  | some s => s.holding path
  | none => .nothing

/-- The `lastHolding` of more sources is that of the last one where it `Decides` the path. -/
theorem lastHolding_append (sources : List Source) (s : Source) (path : List Scalar) :
    lastHolding (sources ++ [s]) path =
      if s.Decides path then s.holding path else lastHolding sources path := by
  rw [lastHolding, List.filter_append, List.filter_singleton]
  by_cases h : s.Decides path
  · rw [decide_eq_true h, if_pos h, Bool.cond_true, List.getLast?_concat]
  · rw [decide_eq_false h, if_neg h, Bool.cond_false, List.append_nil, lastHolding]

/-- The labels of a document do not matter to what it says. -/
theorem lastHolding_document_relabel {φ : Nat → Nat} (hφ : Function.Injective φ) (v : Value)
    (sources : List Source) (path : List Scalar) :
    lastHolding (sources ++ [.document (v.relabel φ)]) path =
      lastHolding (sources ++ [.document v]) path := by
  have hholding : (Source.document (v.relabel φ)).holding path = (Source.document v).holding path :=
    holding_relabel hφ v path
  rw [lastHolding_append, lastHolding_append, hholding]
  exact if_congr (decides_relabel hφ v path) rfl rfl

section Setting

variable {j : Json} {name : String} {own : List String} {next l : Nat} {c : Scalar}
  {path : List Scalar} {es : List (Scalar × Value)} {old : Option Value}

/-- A setting `Decides` a longer path if its own path begins alike and goes on to decide the
rest. -/
theorem setting_decides_cons :
    (Source.setting (name :: own) j).Decides (c :: path) ↔
      c = .text name ∧ (Source.setting own j).Decides path := by
  rw [Source.Decides, Source.Decides, List.map_cons, List.cons_prefix_cons, List.cons_prefix_cons]
  constructor
  · rintro (⟨rfl, h⟩ | ⟨rfl, h⟩)
    · exact ⟨rfl, Or.inl h⟩
    · exact ⟨rfl, Or.inr h⟩
  · rintro ⟨rfl, h⟩
    exact h.imp (⟨rfl, ·⟩) (⟨rfl, ·⟩)

/-- What a setting holds on a path is a matter of the rest of its own path. -/
theorem setting_holding_cons :
    (Source.setting (name :: own) j).holding (c :: path) = (Source.setting own j).holding path := by
  rw [Source.holding, Source.holding, List.length_cons, List.length_cons, List.drop_succ_cons]
  simp only [Nat.succ_lt_succ_iff]

/-- What `settled` puts under the first key of a path is the value at its end, and before that a
mapping, the old one or else a new one, in which the rest of the path is set. -/
theorem settled_cases (j : Json) (own : List String) (next : Nat)
    (hold : ∀ w ∈ old, w.labels.Nodup ∧ ∀ i ∈ w.labels, i < next) :
    own = [] ∧ settled j own next old = (ofJson next j).1 ∨
      own ≠ [] ∧ ∃ i n is, settled j own next old = .map i (setEntries j own n is).1 ∧
        Configuration.Separate { root := .map i is, next := n } ∧
        ∀ path ≠ [], (old.bind fun w => w.at? path) = (Value.map i is).at? path := by
  by_cases hown : own = []
  · subst hown
    exact Or.inl ⟨rfl, settled_nil j next old⟩
  · refine Or.inr ⟨hown, ?_⟩
    rcases map_or_not_map old with ⟨i, is, rfl⟩ | hmap
    · exact ⟨i, next, is, settled_of_map hown j next i is, hold _ rfl, fun path _ => rfl⟩
    · refine ⟨next, next + 1, [], settled_of_not_map hown hmap j next, ?_, fun path hpath => ?_⟩
      · exact ⟨Multiset.nodup_singleton next, fun i hi =>
          Multiset.mem_singleton.1 hi ▸ Nat.lt_succ_self next⟩
      · obtain ⟨d, path, rfl⟩ := List.exists_cons_of_ne_nil hpath
        exact bind_at?_cons_of_not_map hmap d path

/-- After `setEntries` the entries hold what the variable does on the paths that it decides, and on
all others what they held before. The induction is on the path of the variable. -/
theorem holding_setEntries (hown : own ≠ []) (hpath : path ≠ []) (j : Json)
    (hes : Configuration.Separate { root := .map l es, next }) :
    Holding.of ((Value.map l (setEntries j own next es).1).at? path) =
      if (Source.setting own j).Decides path then (Source.setting own j).holding path
      else Holding.of ((Value.map l es).at? path) := by
  -- the induction is on the path of the variable, along which the mappings change
  induction own generalizing path next l es with
  | nil => exact absurd rfl hown
  | cons name own ih =>
    obtain ⟨c, path, rfl⟩ := List.exists_cons_of_ne_nil hpath
    have hset := Configuration.separate_setEntries hes rfl j (name :: own)
    rw [at?_map_cons (Multiset.nodup_cons.1 hset.1).1, at?_map_cons (Multiset.nodup_cons.1 hes.1).1,
      setEntries_cons, lookup_putEntry, setting_holding_cons]
    simp only [setting_decides_cons]
    by_cases hc : c = .text name
    · subst hc
      rw [if_pos (by simp), Option.bind_some]
      have hold : ∀ w ∈ lookup (.text name) es, w.labels.Nodup ∧ ∀ i ∈ w.labels, i < next := by
        intro w hw
        have hle := (labels_le_of_lookup hw).trans (Multiset.le_cons_self _ l)
        exact ⟨Multiset.nodup_of_le hle hes.1, fun i hi => hes.2 i (Multiset.mem_of_le hle hi)⟩
      rcases settled_cases j own next hold with ⟨rfl, hv⟩ | ⟨hown, i, n, is, hv, hinner, hbefore⟩
      · rw [hv, if_pos ⟨rfl, Or.inr List.nil_prefix⟩, holding_ofJson j next]
        rfl
      · rw [hv]
        by_cases hpath : path = []
        · -- the path ends at a mapping on the way
          subst hpath
          have hshort : ([] : List Scalar).length < own.length := List.length_pos_of_ne_nil hown
          rw [if_pos ⟨rfl, Or.inl List.nil_prefix⟩, Source.holding, if_pos hshort]
          rfl
        · rw [ih hown hpath hinner, hbefore path hpath]
          by_cases hdecides : (Source.setting own j).Decides path
          · rw [if_pos hdecides, if_pos ⟨rfl, hdecides⟩]
          · rw [if_neg hdecides, if_neg fun h => hdecides h.2]
    · -- another first key is not touched
      have hne : ¬ (Scalar.text name).sameKey c = true := fun h =>
        hc (Scalar.sameKey_text_iff.1 (Scalar.sameKey_symm h))
      rw [if_neg hne, if_neg fun h => hc h.1]

end Setting

end FactoryRegistry.Config
