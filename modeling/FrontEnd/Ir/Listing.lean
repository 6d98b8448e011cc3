import FrontEnd.Ir.Context

/-!
Code as text. Inside a function, values without a name go by number: arguments first, then the
block, then the instructions that have a result, counted from zero. Functions without a name go by
their place in the module.
-/

namespace FrontEnd.Ir.Context

/-- The values a function defines, in order. -/
def definitions (c : Context) (f : ValueId) : List ValueId :=
  c.params f ++ match c.body? f with
    | none => []
    | some b => b :: (c.instructions b).filter fun i => !((c.form? i).map Form.isReturn).getD true

/-- Hands out numbers from `n` on: each value that has no name takes the next one. -/
def numberFrom (c : Context) (n : Nat) : List ValueId → List (ValueId × Nat)
  | [] => []
  | v :: vs => if c.isNamed v then c.numberFrom n vs else (v, n) :: c.numberFrom (n + 1) vs

/-- The values of a function that go by number, each with its own. -/
def slots (c : Context) (f : ValueId) : List (ValueId × Nat) := c.numberFrom 0 (c.definitions f)

/-- The functions of a module that go by number, which is the place of each among all of them. -/
def places (c : Context) (m : ModuleId) : List (ValueId × Nat) :=
  (c.module m).functions.zipIdx.filter fun (f, _) => !c.isNamed f

def isFunction (c : Context) (v : ValueId) : Bool := (c.form? v).map Form.kind = some .function

/-- The number that stands for an unnamed value inside function `f` of module `m`. -/
def slot? (c : Context) (m : ModuleId) (f v : ValueId) : Option Nat :=
  (if c.isFunction v then c.places m else c.slots f).lookup v

/-- How a value is spelled inside function `f` of module `m`. -/
def spell (c : Context) (m : ModuleId) (f v : ValueId) : Bytes :=
  (if c.isFunction v then "@" else "%" : Bytes) ++
    if c.isNamed v then c.name v
    else match c.slot? m f v with
      | some n => Bytes.decimal n
      | none => "?"

/-- A value behind its type. -/
def typed? (c : Context) (m : ModuleId) (f v : ValueId) : Option Bytes := do
  let t ← c.type? v
  return (← c.typeText? t) ++ " " ++ c.spell m f v

def instructionText? (c : Context) (m : ModuleId) (f i : ValueId) : Option Bytes := do
  match ← c.form? i with
  | .binary op _ l r _ =>
    return c.spell m f i ++ " = " ++ op.name ++ " " ++ (← c.typed? m f l) ++ ", " ++ c.spell m f r
  | .ret none _ => return "ret void"
  | .ret (some v) _ => return Bytes.ofString "ret " ++ (← c.typed? m f v)
  | _ => none

/-- A function with its body, or its declaration alone when it has none. -/
def functionText? (c : Context) (m : ModuleId) (f : ValueId) : Option Bytes := do
  let sig ← c.signatureOf? f
  let result ← c.typeText? sig.result
  let params ← sig.params.mapM (c.typed? m f)
  let head (keyword : Bytes) : Bytes :=
    keyword ++ " " ++ result ++ " " ++ c.spell m f f ++ "(" ++ Bytes.join ", " params ++ ")"
  match c.body? f with
  | none => return head "declare" ++ "\n"
  | some b =>
    let lines ← (c.instructions b).mapM (c.instructionText? m f)
    return head "define" ++ " \x7b\n" ++ (c.spell m f b).drop 1 ++ ":\n"
      ++ (lines.map fun l => Bytes.ofString "  " ++ l ++ "\n").flatten ++ "\x7d\n"

/-- All functions of a module, a blank line between them. There is no text when a type contains
itself. -/
def listing? (c : Context) (m : ModuleId) : Option Bytes := do
  let fs ← (c.module m).functions.mapM (c.functionText? m)
  return Bytes.join "\n" fs

end FrontEnd.Ir.Context
