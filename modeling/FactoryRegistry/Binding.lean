import FactoryRegistry.Json.Value
import FactoryRegistry.Text.Case

/-!
# Bindings

A binding declares that a contract is implemented by a class. An implementation without a dot is
qualified with the package of the binding, and a binding without a package takes the one of its
implementation (`Binding.of`). A `Registration` records what a binding contributed.
-/

namespace FactoryRegistry

/-- Splits a name at its last dot; without a dot the first part is empty. -/
def splitLastDot (name : List Char) : List Char × List Char :=
  let simple := (name.reverse.takeWhile (· != '.')).reverse
  (name.take (name.length - simple.length - 1), simple)

/-- The part of a name after its last dot. -/
def simpleName (name : String) : String := String.ofList (splitLastDot name.toList).2

/-- The part of a name before its last dot. -/
def packageOf (name : String) : String := String.ofList (splitLastDot name.toList).1

/-- A declared pair of a contract and an implementation. -/
structure Binding where
  /-- The contract. -/
  contract : String
  /-- The implementing class. -/
  implementation : String
  /-- The package whose holder may make instances. -/
  package : String
  /-- The registry can call the constructor itself. -/
  accessible : Bool
  deriving DecidableEq, Repr

namespace Binding

/-- A binding in its normal form. -/
def of (contract implementation package : String) (accessible : Bool) : Binding :=
  if !implementation.toList.contains '.' && !package.isEmpty then
    ⟨contract, s!"{package}.{implementation}", package, accessible⟩
  else if package.isEmpty then ⟨contract, implementation, packageOf implementation, accessible⟩
  else ⟨contract, implementation, package, accessible⟩

/-- The implementing class without its package. -/
def simpleName (b : Binding) : String := FactoryRegistry.simpleName b.implementation

/-- The contract without its package. -/
def contractSimpleName (b : Binding) : String := FactoryRegistry.simpleName b.contract

/-- A binding as data. -/
def view (b : Binding) : Json := .object [
  ("contract", .text b.contract),
  ("implementation", .text b.implementation),
  ("package", .text b.package),
  ("accessible", .bool b.accessible)]

end Binding

/-- What one binding contributed to the generated output. -/
structure Registration where
  /-- The contract. -/
  contract : String
  /-- The implementing class. -/
  implementation : String
  /-- The expression that makes an instance. -/
  supplier : String
  /-- The holder method that the expression calls, if it calls one. -/
  accessor : Option String
  deriving DecidableEq, Repr

/-- A registration as data. -/
def Registration.view (r : Registration) : Json := .object [
  ("contract", .text r.contract),
  ("implementation", .text r.implementation),
  ("supplier", .text r.supplier),
  ("accessor", .optionalText r.accessor)]

end FactoryRegistry
