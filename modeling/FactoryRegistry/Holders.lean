import FactoryRegistry.Association
import FactoryRegistry.Description.Builder

/-!
# Provider holders

Each package may have one holder, a class whose static methods make instances of classes that are
not accessible from elsewhere. Looking a package up registers nothing: a package without a holder
shows the default one. A holder changes by running a program on it, and nothing changes when the
program fails.
-/

namespace FactoryRegistry

/-- The holders of the packages that have one. -/
structure Holders where
  /-- The name of every holder class. -/
  className : String
  /-- The holders, in the order in which their packages were first updated. -/
  entries : List (String × TypeDescription) := []

namespace Holders

/-- The name of holder classes where none is configured. -/
def defaultClassName : String := "_FactoryProvider"

/-- A holder without members. -/
def defaultHolder (className : String) : TypeDescription :=
  { name := className
    modifiers := [.public, .abstract]
    fields := []
    methods := []
    staticBlock := none
    doc := "" }

/-- The packages that have a holder. -/
def packages (h : Holders) : List String := h.entries.map Prod.fst

/-- A package has a holder. -/
def contains (h : Holders) (package : String) : Bool := (h.entries.lookup package).isSome

/-- The holder of a package, or the default one. -/
def get (h : Holders) (package : String) : TypeDescription :=
  (h.entries.lookup package).getD (defaultHolder h.className)

/-- The holders with the holder of a package replaced, or added at the end. -/
def put (h : Holders) (package : String) (holder : TypeDescription) : Holders :=
  { h with entries := Association.put package holder h.entries }

/-- Runs a program on the holder of a package. -/
def update (h : Holders) (package : String) (program : Program) :
    Except Failure (TypeDescription × Holders) :=
  (program.run (.ofType (h.get package))).map fun b => (b.build, h.put package b.build)

/-- The holder of a package after one was put. -/
theorem get_put (h : Holders) (package : String) (holder : TypeDescription) (p : String) :
    (h.put package holder).get p = if p = package then holder else h.get p := by
  simp only [put, get, Association.lookup_put]
  split <;> rfl

/-- Putting a holder keeps the order of the packages and adds a new package at the end. -/
theorem packages_put (h : Holders) (package : String) (holder : TypeDescription) :
    (h.put package holder).packages =
      if package ∈ h.packages then h.packages else h.packages ++ [package] :=
  Association.map_fst_put package holder h.entries

end Holders

end FactoryRegistry
