import FactoryRegistry.Value.Basic

/-!
# The order of keys

Keys of mappings have an order only within a class: numbers among themselves, texts among
themselves, and so on. Sorting keys of different classes is impossible.
-/

namespace FactoryRegistry

open Number

namespace Scalar

/-- The classes of keys that have a common order. -/
inductive OrderClass where
  /-- The value `null`. -/
  | null
  /-- Truth values and numbers. -/
  | number
  /-- Texts. -/
  | text
  /-- Sequences of bytes. -/
  | bytes
  /-- Dates. -/
  | date
  /-- Moments that do not relate to universal time. -/
  | localMoment
  /-- Moments that do. -/
  | universalMoment
  deriving DecidableEq, Repr

/-- The class of a key. -/
def orderClass : Scalar → OrderClass
  | null => .null
  | bool _ | int _ | real _ => .number
  | text _ => .text
  | bytes _ => .bytes
  | date _ => .date
  | moment m => if m.offset.isSome then .universalMoment else .localMoment

/-- The first of two numbers is the smaller one. Integers and reals are compared exactly. -/
def lessNumber (a b : Scalar) : Bool :=
  match a.int?, b.int?, a, b with
  | some m, some n, _, _ => m < n
  | some m, none, _, real y => match y.toRatio? with
    | some (num, den) => m * den < num
    | none => y.isInfinite && !y.isNegative
  | none, some n, real x, _ => match x.toRatio? with
    | some (num, den) => num < n * den
    | none => x.isInfinite && x.isNegative
  | _, _, real x, real y => x.less y
  | _, _, _, _ => false

/-- The first of two keys of one class comes before the second. -/
def less (a b : Scalar) : Bool :=
  match a, b with
  | text s, text t => s < t
  | bytes bs, bytes cs => bs < cs
  | date d, date e => d.before e
  | moment m, moment n => m.instant < n.instant
  | a, b => lessNumber a b

/-- Some keys in order, if they have a common one. -/
def sorted? (keys : List Scalar) : Option (List Scalar) :=
  match keys with
  | [] => some []
  | k :: ks =>
    if ks.all (·.orderClass = k.orderClass) then
      some ((k :: ks).mergeSort fun a b => !b.less a)
    else none

end Scalar

end FactoryRegistry
