import FrontEnd.Ir.Build

/-!
A small module that shows every kind of code.
-/

namespace FrontEnd.Ir.Build

/-- A product and a sum, a remainder computed from a quotient, a function that does nothing and
one that is only declared. -/
def sample (m : ModuleId) : Build Unit := do
  let i32 : TypeRef := .own (.integer 32)
  let i64 : TypeRef := .own (.integer 64)
  let double : TypeRef := .own (.primitive .double)
  let binary (op l r b : Nat) := createBinary m op (.own l) (.own r) (.own b)

  let madd ← createFunction m i64 "madd"
  let a ← createArgument m i64 (.own madd) "a"
  let b ← createArgument m i64 (.own madd) "b"
  let c ← createArgument m i64 (.own madd) "c"
  let entry ← createBlock m (.own ()) "entry" (.own madd)
  let prod ← binary 2 a b entry
  setName prod "prod"
  let sum ← binary 0 prod c entry
  discard (createReturn m (.own sum) (.own entry))

  let rem ← createFunction m i32 "rem"
  let x ← createArgument m i32 (.own rem) "x"
  let y ← createArgument m i32 (.own rem) []
  let body ← createBlock m (.own ()) [] (.own rem)
  let quotient ← binary 3 x y body
  let back ← binary 2 quotient y body
  let rest ← binary 1 x back body
  discard (createReturn m (.own rest) (.own body))

  let noop ← createFunction m (.own .void) "noop"
  let entry ← createBlock m (.own ()) "entry" (.own noop)
  discard (createReturn m .missing (.own entry))

  let sqrt ← createFunction m double "sqrt"
  discard (createArgument m double (.own sqrt) "v")

/-- A fresh context whose one module, for the file at `path`, holds the sample. -/
def sampleContext (path : Option Bytes) : Context :=
  let go : Build Unit := do sample (← newModule path)
  match go {} with
  | .ok _ c => c
  | .error _ c => c

end FrontEnd.Ir.Build
