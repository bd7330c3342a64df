import FactoryRegistry.Proofs.Number.Magnitude
import FactoryRegistry.Value.Basic

/-!
# Keys of mappings

Two scalars are the same key when they have the same `Scalar.key?`, which identifies numbers of all
kinds by their values (`sameKey_iff`). A scalar without one, a not-a-number other than the literal
one, is the same key as nothing. So being the same key is symmetric and transitive, and from that
the laws of looking up and putting entries follow:

* `lookup_congr`, `lookup_putEntry`: lookups respect keys, and a put changes the value of its key
  alone;
* `exists_entry_of_lookup`: where an entry stands that a lookup finds, and what a put makes of it;
* `DistinctKeys`: no key comes twice, which puts preserve (`putEntry_distinctKeys`).
-/

namespace FactoryRegistry

open Number

/-- What a key of a mapping is told by. -/
inductive Key where
  /-- The key `null`. -/
  | null
  /-- A finite number, in the units of `Binary64.scaled`. -/
  | number (n : Int)
  /-- An infinity. -/
  | infinite (negative : Bool)
  /-- The not-a-number that documents write. -/
  | literalNaN
  /-- A text. -/
  | text (s : String)
  /-- A sequence of bytes. -/
  | bytes (bs : List UInt8)
  /-- A date. -/
  | date (d : Date)
  /-- A moment, by its instant and by whether it relates to universal time. -/
  | moment (universal : Bool) (instant : Int)

namespace Key

/-- A key that a real number can be told by. -/
def isReal : Key → Bool
  | number _ | infinite _ | literalNaN => true
  | _ => false

/-- What a double is told by as a key. -/
def ofReal? (x : Binary64) : Option Key :=
  if x.exponentField ≠ 2047 then some (number x.scaled)
  else if x.fractionField = 0 then some (infinite x.isNegative)
  else if x = Scalar.literalNaN then some literalNaN
  else none

/-- `ofReal?` gives doubles keys of their own kind. -/
theorem ofReal?_ne {x : Binary64} {k : Key} (hk : k.isReal = false) : ofReal? x ≠ some k := by
  rw [ofReal?]
  split_ifs <;> rintro ⟨⟩ <;> cases hk

/-- Integers have different keys. -/
theorem number_eq_iff (m n : Int) :
    number (m * Binary64.scaledOne) = number (n * Binary64.scaledOne) ↔ m = n := by
  rw [number.injEq, mul_left_inj' Binary64.scaledOne_pos.ne']

/-- A double has the key of an integer exactly if it `equalsInt` the integer. -/
theorem ofReal?_eq_number_iff (x : Binary64) (n : Int) :
    ofReal? x = some (number (n * Binary64.scaledOne)) ↔ x.equalsInt n = true := by
  rw [Binary64.equalsInt_iff_scaled, ofReal?]
  split_ifs with hfinite hinfinite hnan <;> simp_all

/-- The `literalNaN` is not a number. -/
theorem literalNaN_fields :
    Scalar.literalNaN.exponentField = 2047 ∧ Scalar.literalNaN.fractionField ≠ 0 := by
  decide

/-- Two doubles have one key if they are equal as numbers or are both the `literalNaN`. -/
theorem exists_ofReal?_iff (x y : Binary64) :
    (∃ k, ofReal? x = some k ∧ ofReal? y = some k) ↔
      (x.equals y || (x == Scalar.literalNaN && y == Scalar.literalNaN)) = true := by
  have hliteral : ∀ z : Binary64, z = Scalar.literalNaN →
      z.exponentField = 2047 ∧ z.fractionField ≠ 0 := fun z h => h ▸ literalNaN_fields
  by_cases hx : x.exponentField = 2047
  · by_cases hy : y.exponentField = 2047
    · by_cases hfx : x.fractionField = 0 <;> by_cases hfy : y.fractionField = 0
      · -- infinities are told by their signs
        have hsign : x.isNegative = y.isNegative ↔ x = y :=
          ⟨fun h => Binary64.eq_of_fields h (hx.trans hy.symm) (hfx.trans hfy.symm),
            fun h => h ▸ rfl⟩
        have hne : x ≠ Scalar.literalNaN := fun h => (hliteral x h).2 hfx
        simp only [ofReal?, hx, hy, hfx, hfy, ne_eq, not_true, if_false, if_true, Option.some.injEq,
          exists_eq_left', infinite.injEq, eq_comm (a := y.isNegative), hsign]
        simp [Binary64.equals, Binary64.isNaN, hfx, hfy, hx, hne]
      · have hne : x ≠ Scalar.literalNaN := fun h => (hliteral x h).2 hfx
        simp [ofReal?, hx, hy, hfx, hfy, Binary64.equals, Binary64.isNaN, hne]
      · have hne : y ≠ Scalar.literalNaN := fun h => (hliteral y h).2 hfy
        simp [ofReal?, hx, hy, hfx, hfy, Binary64.equals, Binary64.isNaN, hne]
      · -- of what is no number only the literal one is a key
        simp [ofReal?, hx, hy, hfx, hfy, Binary64.equals, Binary64.isNaN]
    · -- only one of the two is finite
      have hne : x ≠ y := fun h => hy (h ▸ hx)
      have hne' : y ≠ Scalar.literalNaN := fun h => hy (hliteral y h).1
      rw [ofReal?, ofReal?]
      split_ifs <;> simp_all [Binary64.equals]
  · by_cases hy : y.exponentField = 2047
    · -- the other one of the two is finite
      have hne : x ≠ y := fun h => hx (h ▸ hy)
      have hne' : x ≠ Scalar.literalNaN := fun h => hx (hliteral x h).1
      rw [ofReal?, ofReal?]
      split_ifs <;> simp_all [Binary64.equals]
    · -- both are finite, so their keys are their places on the number line
      have hne : x ≠ Scalar.literalNaN := fun h => hx (hliteral x h).1
      have hequals := Binary64.equals_iff_scaled hx hy
      simp only [ofReal?, hx, hy, ne_eq, not_false_eq_true, if_true, Option.some.injEq,
        exists_eq_left', number.injEq, eq_comm (a := y.scaled), ← hequals]
      simp [hne]

end Key

namespace Scalar

/-- What a scalar is told by as a key. -/
def key? : Scalar → Option Key
  | null => some .null
  | bool b => some (.number ((if b then 1 else 0) * Binary64.scaledOne))
  | int n => some (.number (n * Binary64.scaledOne))
  | real x => Key.ofReal? x
  | text s => some (.text s)
  | bytes bs => some (.bytes bs)
  | date d => some (.date d)
  | moment m => some (.moment m.offset.isSome m.instant)

/-- What counts as an integer has the key of the integer. -/
theorem key?_of_int? {a : Scalar} {m : Int} (ha : a.int? = some m) :
    a.key? = some (.number (m * Binary64.scaledOne)) := by
  cases a <;> cases ha <;> rfl

/-- Two scalars are the `sameKey` exactly if they have one `key?`. -/
theorem sameKey_iff {a b : Scalar} :
    a.sameKey b = true ↔ ∃ k, a.key? = some k ∧ b.key? = some k := by
  -- integers and truth values are compared as integers, and every other kind only with itself or,
  -- being a double, with these
  cases ha : a.int? with
  | some m =>
    rw [key?_of_int? ha]
    cases hb : b.int? with
    | some n =>
      rw [key?_of_int? hb]
      simp only [sameKey, ha, hb, beq_iff_eq, Option.some.injEq, exists_eq_left', Key.number_eq_iff]
      exact eq_comm
    | none =>
      cases b with
      | bool | int => cases hb
      | real y => simp [sameKey, ha, hb, key?, Key.ofReal?_eq_number_iff]
      | _ => simp [sameKey, ha, hb, key?]
  | none =>
    cases hb : b.int? with
    | some n =>
      rw [key?_of_int? hb]
      cases a with
      | bool | int => cases ha
      | real y => simp [sameKey, ha, hb, key?, Key.ofReal?_eq_number_iff]
      | _ => simp [sameKey, ha, hb, key?]
    | none =>
      cases a with
      | bool | int => cases ha
      | real x =>
        cases b with
        | bool | int => cases hb
        | real y => exact (Key.exists_ofReal?_iff x y).symm
        | _ =>
          simp only [sameKey, int?, key?, Option.some.injEq, exists_eq_right', Bool.false_eq_true,
            false_iff]
          exact Key.ofReal?_ne rfl
      | _ =>
        cases b with
        | bool | int => cases hb
        | real y =>
          simp only [sameKey, int?, key?, Option.some.injEq, exists_eq_left', Bool.false_eq_true,
            false_iff]
          exact Key.ofReal?_ne rfl
        | _ => simp [sameKey, int?, key?, Moment.same] <;> tauto

theorem sameKey_symm {a b : Scalar} (h : a.sameKey b = true) : b.sameKey a = true := by
  obtain ⟨k, ha, hb⟩ := sameKey_iff.1 h
  exact sameKey_iff.2 ⟨k, hb, ha⟩

theorem sameKey_trans {a b c : Scalar} (hab : a.sameKey b = true) (hbc : b.sameKey c = true) :
    a.sameKey c = true := by
  obtain ⟨k, ha, hb⟩ := sameKey_iff.1 hab
  obtain ⟨l, hb', hc⟩ := sameKey_iff.1 hbc
  obtain rfl : k = l := Option.some.inj (hb.symm.trans hb')
  exact sameKey_iff.2 ⟨k, ha, hc⟩

/-- Two spellings of a key are the `sameKey` as the same keys. -/
theorem sameKey_congr {a b : Scalar} (h : a.sameKey b = true) (c : Scalar) :
    c.sameKey a = c.sameKey b :=
  Bool.eq_iff_iff.2 ⟨fun hca => sameKey_trans hca h, fun hcb => sameKey_trans hcb (sameKey_symm h)⟩

/-- A text is the `sameKey` as itself and as nothing else. -/
theorem sameKey_text_iff {k : Scalar} {s : String} : k.sameKey (text s) = true ↔ k = text s := by
  rw [sameKey_iff]
  cases k with
  | real x =>
    simp only [key?, Option.some.injEq, exists_eq_right', reduceCtorEq, iff_false]
    exact Key.ofReal?_ne rfl
  | _ => simp [key?, eq_comm]

end Scalar

namespace Value

variable {k c : Scalar} {v w : Value} {es : List (Scalar × Value)}

/-! ## Looking up and putting entries -/

/-- `lookup` does not depend on the spelling of its key. -/
theorem lookup_congr (h : k.sameKey c = true) (es : List (Scalar × Value)) :
    lookup k es = lookup c es := by
  induction es with
  | nil => rfl
  | cons e es ih => rw [lookup, lookup, Scalar.sameKey_congr h, ih]

/-- A key that `lookup` does not find is that of no entry. -/
theorem lookup_eq_none_iff : lookup k es = none ↔ ∀ l ∈ es.map Prod.fst, l.sameKey k = false := by
  induction es with
  | nil => simp [lookup]
  | cons e es ih =>
    rw [lookup, List.map_cons, List.forall_mem_cons, ← ih]
    cases e.1.sameKey k <;> simp

/-- An entry that `lookup` finds stands somewhere, and `putEntry` changes the value there. -/
theorem exists_entry_of_lookup (h : lookup k es = some w) :
    ∃ before l after, es = before ++ (l, w) :: after ∧ l.sameKey k = true ∧
      ∀ v, putEntry k v es = before ++ (l, v) :: after := by
  induction es with
  | nil => cases h
  | cons e es ih =>
    obtain ⟨n, x⟩ := e
    rw [lookup] at h
    -- it is the first entry, or stands behind it
    by_cases hn : n.sameKey k = true
    · rw [if_pos hn] at h
      obtain rfl := Option.some.inj h
      exact ⟨[], n, es, rfl, hn, fun v => by rw [putEntry, if_pos hn, List.nil_append]⟩
    · rw [if_neg hn] at h
      obtain ⟨before, l, after, rfl, hl, hput⟩ := ih h
      exact ⟨(n, x) :: before, l, after, rfl, hl,
        fun v => by rw [putEntry, if_neg hn, hput, List.cons_append]⟩

/-- What `lookup` finds is the value of an entry. -/
theorem exists_mem_of_lookup (h : lookup k es = some w) : ∃ c, (c, w) ∈ es := by
  obtain ⟨before, l, after, rfl, -, -⟩ := exists_entry_of_lookup h
  exact ⟨l, by simp⟩

/-- `putEntry` of what is there changes nothing. -/
theorem putEntry_self (h : lookup k es = some v) : putEntry k v es = es := by
  obtain ⟨before, l, after, rfl, -, hput⟩ := exists_entry_of_lookup h
  exact hput v

/-- `putEntry` under a key that is not found adds an entry at the end. -/
theorem putEntry_of_lookup_eq_none (h : lookup k es = none) (v : Value) :
    putEntry k v es = es ++ [(k, v)] := by
  induction es with
  | nil => rfl
  | cons e es ih =>
    obtain ⟨n, x⟩ := e
    rw [lookup] at h
    split at h
    next => cases h
    next hn => rw [putEntry, if_neg hn, ih h, List.cons_append]

/-- `putEntry` changes what `lookup` finds under its key, and nothing else. -/
theorem lookup_putEntry (k : Scalar) (v : Value) (es : List (Scalar × Value)) (c : Scalar) :
    lookup c (putEntry k v es) = if k.sameKey c then some v else lookup c es := by
  induction es with
  | nil => simp [putEntry, lookup]
  | cons e es ih =>
    obtain ⟨n, x⟩ := e
    rw [putEntry]
    by_cases hn : n.sameKey k = true
    · -- the entry is replaced, and it counts for the same lookups as the new key
      have hnc : n.sameKey c = k.sameKey c := Bool.eq_iff_iff.2
        ⟨fun h => Scalar.sameKey_trans (Scalar.sameKey_symm hn) h,
          fun h => Scalar.sameKey_trans hn h⟩
      rw [if_pos hn, lookup, lookup, hnc]
      split <;> rfl
    · -- another entry stays, so the rest decides
      rw [if_neg hn, lookup, lookup, ih]
      by_cases hnc : n.sameKey c = true
      · -- an entry before the new one is found first, and it is another key
        have hkc : ¬ k.sameKey c = true := fun h =>
          hn (Scalar.sameKey_trans hnc (Scalar.sameKey_symm h))
        rw [if_pos hnc, if_neg hkc, if_pos hnc]
      · rw [if_neg hnc, if_neg hnc]

/-- Of two times `putEntry` under a text the second one counts. -/
theorem putEntry_putEntry_text (name : String) (v w : Value) (es : List (Scalar × Value)) :
    putEntry (.text name) v (putEntry (.text name) w es) = putEntry (.text name) v es := by
  induction es with
  | nil => simp [putEntry]
  | cons e es ih =>
    obtain ⟨n, x⟩ := e
    rw [putEntry, putEntry]
    split
    next h => rw [putEntry, if_pos h]
    next h => rw [putEntry, if_neg h, ih]

/-- `putEntry` brings in its key and no other. -/
theorem fst_mem_putEntry {c : Scalar} (h : c ∈ (putEntry k v es).map Prod.fst) :
    c ∈ es.map Prod.fst ∨ c = k := by
  cases hfound : lookup k es with
  | none =>
    rw [putEntry_of_lookup_eq_none hfound] at h
    simpa using h
  | some w =>
    obtain ⟨before, d, after, rfl, -, hput⟩ := exists_entry_of_lookup hfound
    rw [hput] at h
    exact Or.inl (by simpa using h)

/-- `putEntry` brings in its value and no other. -/
theorem mem_putEntry {e : Scalar × Value} (h : e ∈ putEntry k v es) : e ∈ es ∨ e.2 = v := by
  cases hfound : lookup k es with
  | none =>
    rw [putEntry_of_lookup_eq_none hfound, List.mem_append, List.mem_singleton] at h
    exact h.imp_right fun h => by rw [h]
  | some w =>
    obtain ⟨before, c, after, rfl, -, hput⟩ := exists_entry_of_lookup hfound
    rw [hput, List.mem_append, List.mem_cons] at h
    rcases h with h | rfl | h
    · exact Or.inl (List.mem_append_left _ h)
    · exact Or.inr rfl
    · exact Or.inl (List.mem_append_right _ (List.mem_cons_of_mem _ h))

/-- The values of `entriesOf pairs` are values of the pairs. -/
theorem mem_entriesOf {pairs : List (Scalar × Value)} {e : Scalar × Value} :
    e ∈ entriesOf pairs → ∃ p ∈ pairs, e.2 = p.2 := by
  have hfold : ∀ es : List (Scalar × Value),
      e ∈ pairs.foldl (fun entries p => putEntry p.1 p.2 entries) es →
        e ∈ es ∨ ∃ p ∈ pairs, e.2 = p.2 := by
    induction pairs with
    | nil => exact fun es h => Or.inl h
    | cons p pairs ih =>
      intro es h
      rcases ih _ h with hput | ⟨q, hq, he⟩
      · exact (mem_putEntry hput).imp_right fun he => ⟨p, List.mem_cons_self, he⟩
      · exact Or.inr ⟨q, List.mem_cons_of_mem p hq, he⟩
  exact fun h => (hfold [] h).resolve_left List.not_mem_nil

/-! ## Distinct keys -/

/-- No key comes twice. -/
def DistinctKeys (es : List (Scalar × Value)) : Prop :=
  (es.map Prod.fst).Pairwise fun a b => a.sameKey b = false

/-- The key of the first entry is that of no other entry. -/
theorem DistinctKeys.lookup_tail {e : Scalar × Value} (h : DistinctKeys (e :: es))
    (hk : e.1.sameKey k = true) : lookup k es = none := by
  refine lookup_eq_none_iff.2 fun c hc => ?_
  rw [← Bool.not_eq_true]
  intro hck
  have hfirst := (List.pairwise_cons.1 h).1 c hc
  rw [Scalar.sameKey_trans hk (Scalar.sameKey_symm hck)] at hfirst
  cases hfirst

/-- `putEntry` leaves keys distinct. -/
theorem putEntry_distinctKeys (h : DistinctKeys es) (k : Scalar) (v : Value) :
    DistinctKeys (putEntry k v es) := by
  cases hfound : lookup k es with
  | none =>
    rw [putEntry_of_lookup_eq_none hfound, DistinctKeys, List.map_append]
    refine List.pairwise_append.2 ⟨h, List.pairwise_singleton _ _, fun a ha b hb => ?_⟩
    obtain rfl := List.mem_singleton.1 hb
    exact lookup_eq_none_iff.1 hfound a ha
  | some w =>
    obtain ⟨before, l, after, rfl, -, hput⟩ := exists_entry_of_lookup hfound
    rw [hput]
    simpa only [DistinctKeys, List.map_append, List.map_cons] using h

/-- The keys of `entriesOf pairs` are distinct. -/
theorem entriesOf_distinctKeys (pairs : List (Scalar × Value)) :
    DistinctKeys (entriesOf pairs) := by
  have hfold : ∀ es : List (Scalar × Value), DistinctKeys es →
      DistinctKeys (pairs.foldl (fun entries p => putEntry p.1 p.2 entries) es) := by
    induction pairs with
    | nil => exact fun es h => h
    | cons p pairs ih => exact fun es h => ih _ (putEntry_distinctKeys h p.1 p.2)
  exact hfold [] List.Pairwise.nil

end Value

end FactoryRegistry
