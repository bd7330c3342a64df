import FactoryRegistry.Description.Member

/-!
# The static block

The statements of a static initializer are collected in order and handed out exactly once. Until
then statements can be appended; after that every operation is refused.
-/

namespace FactoryRegistry

/-- Statements being collected for a static initializer. -/
structure StaticBlock where
  /-- The statements so far. -/
  block : Block := .empty
  /-- The statements have been handed out. -/
  finalized : Bool := false
  deriving DecidableEq, Repr

/-- What a caller does with the block it is handed: it adds statements, and it may fail after
that. -/
structure Writing where
  /-- The statements added. -/
  statements : List String
  /-- The failure of the caller, if it fails. -/
  failure : Option Failure := none

namespace StaticBlock

/-- The number of statements so far. -/
def size (b : StaticBlock) : Nat := b.block.size

/-- An operation goes on only while the block is open. -/
def checkOpen (b : StaticBlock) (operation : String) : Except Fault Unit :=
  if b.finalized then .error (.blockFinalized operation) else .ok ()

/-- The block with a further statement. -/
def append (b : StaticBlock) (statement : String) : Except Fault StaticBlock :=
  (b.checkOpen "append").map fun _ => { b with block := b.block.add statement }

/-- The block with further statements, one after another. -/
def extend (b : StaticBlock) : List String → Except Fault StaticBlock
  | [] => .ok b
  | s :: ss =>
    match b.append s with
    | .ok b => b.extend ss
    | .error fault => .error fault

/-- Hands the block to a caller. The statements that a caller added before it failed stay. -/
def write (b : StaticBlock) (w : Writing) : Except Failure Unit × StaticBlock :=
  match b.checkOpen "write" with
  | .error fault => (.error (.fault fault), b)
  | .ok () =>
    let written := { b with block := ⟨b.block.statements ++ w.statements⟩ }
    match w.failure with
    | some failure => (.error failure, written)
    | none => (.ok (), written)

/-- Hands out the statements and closes the block. -/
def finalize (b : StaticBlock) : Except Fault (Block × StaticBlock) :=
  (b.checkOpen "finalize").map fun _ => (b.block, { b with finalized := true })

end StaticBlock

end FactoryRegistry
