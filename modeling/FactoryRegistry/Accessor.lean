import FactoryRegistry.Binding
import FactoryRegistry.Description.Builder

/-!
# Accessors

An accessor is a static method of a holder that makes an instance of a class. Its name is the first
candidate that is free in the holder or taken by a method that makes the very same instance. The
candidates are the uncapitalized class name, that name with the contract, and then the latter with
the numbers from two on. They are pairwise different, so a holder of `n` methods is searched after
at most `n` taken candidates.
-/

namespace FactoryRegistry

open Number

/-- The candidate names of an accessor, in order. -/
def accessorCandidate (b : Binding) : Nat → String
  | 0 => Text.uncapitalize b.simpleName
  | 1 => s!"{Text.uncapitalize b.simpleName}For{b.contractSimpleName}"
  | n + 2 => s!"{Text.uncapitalize b.simpleName}For{b.contractSimpleName}{natText (n + 2)}"

/-- The body of an accessor. -/
def accessorBody (b : Binding) : Block := ⟨[s!"return new {b.implementation}()"]⟩

/-- The accessor of a binding under a name. -/
def accessorMethod (b : Binding) (name : String) : Method :=
  .of name b.contract [.public, .static] (accessorBody b) ""

/-- A method makes the instance that a binding asks for. -/
def servesBinding (b : Binding) (m : Method) : Bool :=
  m.returnType == b.contract && m.code == accessorBody b

/-- Where the accessor of a binding stands. -/
inductive AccessorSlot where
  /-- A method of the holder serves the binding. -/
  | taken (name : String)
  /-- The name is free. -/
  | free (name : String)
  deriving DecidableEq, Repr

/-- The name of a slot. -/
def AccessorSlot.name : AccessorSlot → String
  | taken name => name
  | free name => name

/-- The slot of a binding from the candidate of an index on, where at most `fuel` more candidates
are taken by methods that do not serve the binding. -/
def findAccessorFrom (holder : TypeDescription) (b : Binding) : (fuel index : Nat) → AccessorSlot
  | 0, index => .free (accessorCandidate b index)
  | fuel + 1, index =>
    match holder.method? (accessorCandidate b index) with
    | none => .free (accessorCandidate b index)
    | some m =>
      if servesBinding b m then .taken (accessorCandidate b index)
      else findAccessorFrom holder b fuel (index + 1)

/-- The slot of a binding in a holder. -/
def findAccessor (holder : TypeDescription) (b : Binding) : AccessorSlot :=
  findAccessorFrom holder b holder.methods.length 0

end FactoryRegistry
