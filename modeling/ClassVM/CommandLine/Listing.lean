import ClassVM.Code.MethodCode

/-! # Listing a class

A listing shows the class with its flags, its constants, and the instructions of one method. -/

namespace ClassVM

/-- Lines of text, each with its end. -/
def joinLines (lines : List String) : String :=
  String.join (lines.map (· ++ "\n"))

/-- The line that introduces a class. -/
def ClassFile.headline (classFile : ClassFile) : Except Pool.LookupError String := do
  let name ← classFile.name
  let parent ← classFile.superName
  .ok ("class " ++ name ++ " extends " ++ parent ++ " (flags " ++
    Text.hex 4 classFile.access.toNat ++ ", " ++ toString classFile.interfaces.length ++
    " interfaces)")

/-- The constants, a line each. -/
def Pool.listing (pool : Pool) : List String :=
  pool.indexed.map fun (index, entry) =>
    Text.alignRight 6 index.display ++ " = " ++ entry.describe

/-- Instructions, a line each. -/
def instructionListing (instructions : List (Instruction Nat)) : List String :=
  instructions.zipIdx.map fun (instruction, index) =>
    Text.alignRight 4 (toString index) ++ ": " ++ instruction.display

end ClassVM
