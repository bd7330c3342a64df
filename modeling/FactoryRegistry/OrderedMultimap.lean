import FactoryRegistry.Association

/-!
# Ordered multimaps

A multimap assigns to each key a list of values. Keys stand in the order in which they were first
added and the values of a key in the order in which they were added. A multimap is determined by
the sequence of additions, which `ofList` starts from and `toPairs` gives back grouped by key.
-/

namespace FactoryRegistry

/-- A multimap, as its keys in order with the values of each. -/
structure OrderedMultimap (K V : Type) where
  /-- The keys, each once, with their values. -/
  entries : List (K × List V) := []

namespace OrderedMultimap

variable {K V : Type} [DecidableEq K]

/-- The multimap without keys. -/
def empty : OrderedMultimap K V := ⟨[]⟩

/-- Adds a value at the end of a key's list. -/
def add (m : OrderedMultimap K V) (key : K) (value : V) : OrderedMultimap K V :=
  ⟨Association.alter key (fun values => values.getD [] ++ [value]) m.entries⟩

/-- The multimap of a sequence of additions. -/
def ofList (pairs : List (K × V)) : OrderedMultimap K V :=
  pairs.foldl (fun m (k, v) => m.add k v) empty

/-- The keys, in the order of their first addition. -/
def keys (m : OrderedMultimap K V) : List K := m.entries.map Prod.fst

/-- The number of keys. -/
def size (m : OrderedMultimap K V) : Nat := m.entries.length

/-- The values of a key, if the multimap has it. -/
def get? (m : OrderedMultimap K V) (key : K) : Option (List V) := m.entries.lookup key

/-- The values of a key, none when the multimap does not have it. -/
def getAll (m : OrderedMultimap K V) (key : K) : List V := (m.get? key).getD []

/-- The first value of a key, or the default where there is none. -/
def getFirst (m : OrderedMultimap K V) (key : K) (default : V) : V :=
  (m.getAll key).headD default

/-- The multimap has a key. -/
def contains (m : OrderedMultimap K V) (key : K) : Bool := (m.get? key).isSome

/-- All pairs of a key and a value, grouped by key. -/
def toPairs (m : OrderedMultimap K V) : List (K × V) :=
  m.entries.flatMap fun (k, vs) => vs.map (k, ·)

/-- The number of values under all keys together. -/
def valueCount (m : OrderedMultimap K V) : Nat :=
  m.entries.foldr (fun e n => e.2.length + n) 0

/-- Two lists agree item by item under a relation. -/
def listsAgree (same : V → V → Bool) : List V → List V → Bool
  | [], [] => true
  | v :: vs, w :: ws => same v w && listsAgree same vs ws
  | _, _ => false

/-- Two multimaps have the same keys, in any order, with the same values in the same order. -/
def agrees (same : V → V → Bool) (m n : OrderedMultimap K V) : Bool :=
  m.size == n.size && m.entries.all fun (k, vs) =>
    match n.get? k with
    | some ws => listsAgree same vs ws
    | none => false

/-- A multimap shown as the mapping of its keys to the lists of their values. -/
def shown (key : K → String) (value : V → String) (m : OrderedMultimap K V) : String :=
  let joined (parts : List String) := ", ".intercalate parts
  let entry := fun (k, vs) => key k ++ ": [" ++ joined (List.map value vs) ++ "]"
  "OrderedMultiMap(\x7b" ++ joined (m.entries.map entry) ++ "\x7d)"

/-- Adding a value changes the list of its own key alone. -/
theorem get?_add (m : OrderedMultimap K V) (key : K) (value : V) (k : K) :
    (m.add key value).get? k = if k = key then some (m.getAll key ++ [value]) else m.get? k :=
  Association.lookup_alter key _ m.entries k

/-- Adding a value keeps the order of the keys and puts a new key at the end. -/
theorem keys_add (m : OrderedMultimap K V) (key : K) (value : V) :
    (m.add key value).keys = if key ∈ m.keys then m.keys else m.keys ++ [key] :=
  Association.map_fst_alter key _ m.entries

/-- Adding a value adds one to the number of values. -/
theorem valueCount_add (m : OrderedMultimap K V) (key : K) (value : V) :
    (m.add key value).valueCount = m.valueCount + 1 := by
  obtain ⟨entries⟩ := m
  simp only [valueCount, add]
  induction entries with
  | nil => simp [Association.alter]
  | cons e entries ih =>
    obtain ⟨k, vs⟩ := e
    rw [Association.alter]
    split
    next =>
      simp only [List.foldr_cons, Option.getD_some, List.length_append, List.length_singleton]
      omega
    next =>
      rw [List.foldr_cons, List.foldr_cons, ih]
      omega

/-- One more addition comes after those of a sequence. -/
theorem ofList_concat (pairs : List (K × V)) (key : K) (value : V) :
    ofList (pairs ++ [(key, value)]) = (ofList pairs).add key value := by
  rw [ofList, List.foldl_append, ofList, List.foldl_cons, List.foldl_nil]

/-- A sequence of additions puts as many values in as it is long. -/
theorem valueCount_ofList (pairs : List (K × V)) : (ofList pairs).valueCount = pairs.length := by
  have hfold : ∀ m : OrderedMultimap K V,
      (pairs.foldl (fun m (k, v) => m.add k v) m).valueCount = m.valueCount + pairs.length := by
    induction pairs with
    | nil => intro m; rfl
    | cons p pairs ih =>
      intro m
      rw [List.foldl_cons, ih, valueCount_add, List.length_cons]
      omega
  rw [ofList, hfold]
  exact Nat.zero_add _

end OrderedMultimap

end FactoryRegistry
