/-!
# Association lists

A list of pairs as a finite map whose keys keep the order in which they first came. `alter` is the
one way in which such a list grows or changes: the value of a key is computed from the one it had,
in place where the key occurs and at the end otherwise.
-/

namespace FactoryRegistry.Association

variable {K V : Type} [DecidableEq K]

/-- The list with the value of one key computed from its old value. -/
def alter (key : K) (f : Option V → V) : List (K × V) → List (K × V)
  | [] => [(key, f none)]
  | (k, v) :: entries =>
    if k = key then (k, f (some v)) :: entries else (k, v) :: alter key f entries

/-- The list with the value of one key set. -/
def put (key : K) (value : V) : List (K × V) → List (K × V) := alter key fun _ => value

/-- Altering one key changes what is found under that key alone. -/
theorem lookup_alter (key : K) (f : Option V → V) (entries : List (K × V)) (k : K) :
    (alter key f entries).lookup k =
      if k = key then some (f (entries.lookup key)) else entries.lookup k := by
  induction entries with
  | nil =>
    by_cases hk : k = key
    · simp [alter, hk]
    · have : (k == key) = false := by simpa using hk
      simp [alter, List.lookup_cons, hk, this]
  | cons e entries ih =>
    obtain ⟨n, v⟩ := e
    by_cases hn : n = key
    · subst hn
      by_cases hk : k = n
      · simp [alter, hk]
      · have : (k == n) = false := by simpa using hk
        simp [alter, List.lookup_cons, hk, this]
    · have hn' : (key == n) = false := by simpa using fun h => hn h.symm
      by_cases hk : k = n
      · subst hk
        simp [alter, hn]
      · have : (k == n) = false := by simpa using hk
        simp [alter, List.lookup_cons, hn, hn', this, ih]

/-- Altering a key keeps the order of the keys and puts a new one at the end. -/
theorem map_fst_alter (key : K) (f : Option V → V) (entries : List (K × V)) :
    (alter key f entries).map Prod.fst =
      if key ∈ entries.map Prod.fst then entries.map Prod.fst
      else entries.map Prod.fst ++ [key] := by
  induction entries with
  | nil => simp [alter]
  | cons e entries ih =>
    obtain ⟨n, v⟩ := e
    by_cases hn : n = key
    · simp [alter, hn]
    · have hk : key ≠ n := fun h => hn h.symm
      rw [alter, if_neg hn, List.map_cons, ih, List.map_cons]
      by_cases hm : key ∈ entries.map Prod.fst
      · rw [if_pos hm, if_pos (List.mem_cons_of_mem _ hm)]
      · rw [if_neg hm, if_neg (by simpa [hk] using hm), List.cons_append]

/-- What is put under a key is found there, and nothing else changes. -/
theorem lookup_put (key : K) (value : V) (entries : List (K × V)) (k : K) :
    (put key value entries).lookup k = if k = key then some value else entries.lookup k :=
  lookup_alter key (fun _ => value) entries k

/-- Putting a value keeps the order of the keys and puts a new one at the end. -/
theorem map_fst_put (key : K) (value : V) (entries : List (K × V)) :
    (put key value entries).map Prod.fst =
      if key ∈ entries.map Prod.fst then entries.map Prod.fst
      else entries.map Prod.fst ++ [key] :=
  map_fst_alter key (fun _ => value) entries

end FactoryRegistry.Association
