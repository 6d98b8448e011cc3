import FrontEnd.Bytes.Basic

/-!
The kinds of types, values and instructions, and the binary operators, each with its number and
its name. A number without a kind is shown in parentheses behind the word for the numbering.
-/

namespace FrontEnd.Ir

/-- A number in the numbering called `label`, when it names nothing. -/
def unnamedCode (label : String) (n : Nat) : Bytes :=
  Bytes.ofString label ++ "(" ++ Bytes.decimal n ++ ")"

inductive Primitive where
  | void | half | float | double | label | metadata | token
  deriving DecidableEq, Repr

/-- The kinds of types; of the last three no type is ever made. -/
inductive TypeKind where
  | primitive (p : Primitive)
  | integer | function | aggregate | array | pointer
  deriving DecidableEq, Repr

inductive ValueKind where
  | function | argument | block | instruction | constInt | constFloat
  deriving DecidableEq, Repr

inductive InstKind where
  | none | binary | ret
  deriving DecidableEq, Repr

inductive BinaryOp where
  | add | sub | mul | div | rem
  deriving DecidableEq, Repr

def Primitive.name : Primitive → Bytes
  | .void => "void"
  | .half => "f16"
  | .float => "f32"
  | .double => "f64"
  | .label => "label"
  | .metadata => "metadata"
  | .token => "token"

/-- Only floating-point kinds take part in arithmetic. -/
def Primitive.isNumber : Primitive → Bool
  | .half | .float | .double => true
  | _ => false

namespace TypeKind

def name : TypeKind → Bytes
  | .primitive p => p.name
  | .integer => "integer"
  | .function => "function"
  | .aggregate => "struct"
  | .array => "array"
  | .pointer => "pointer"

def ofCode? : Nat → Option TypeKind
  | 0 => some (.primitive .void)
  | 1 => some (.primitive .half)
  | 2 => some (.primitive .float)
  | 3 => some (.primitive .double)
  | 4 => some (.primitive .label)
  | 5 => some (.primitive .metadata)
  | 6 => some (.primitive .token)
  | 7 => some .integer
  | 8 => some .function
  | 9 => some .aggregate
  | 10 => some .array
  | 11 => some .pointer
  | _ => none

def nameOfCode (n : Nat) : Bytes := ((ofCode? n).map name).getD (unnamedCode "TypeKind" n)

def primitiveOfCode? (n : Nat) : Option Primitive :=
  match ofCode? n with
  | some (.primitive p) => some p
  | _ => none

end TypeKind

namespace ValueKind

def name : ValueKind → Bytes
  | .function => "function"
  | .argument => "argument"
  | .block => "block"
  | .instruction => "instruction"
  | .constInt => "const-int"
  | .constFloat => "const-fp"

def ofCode? : Nat → Option ValueKind
  | 0 => some .function
  | 1 => some .argument
  | 2 => some .block
  | 3 => some .instruction
  | 4 => some .constInt
  | 5 => some .constFloat
  | _ => none

def nameOfCode (n : Nat) : Bytes := ((ofCode? n).map name).getD (unnamedCode "ValueKind" n)

end ValueKind

namespace InstKind

def name : InstKind → Bytes
  | .none => "none"
  | .binary => "binop"
  | .ret => "ret"

def ofCode? : Nat → Option InstKind
  | 0 => some .none
  | 1 => some .binary
  | 2 => some .ret
  | _ => Option.none

def nameOfCode (n : Nat) : Bytes := ((ofCode? n).map name).getD (unnamedCode "InstKind" n)

end InstKind

namespace BinaryOp

def name : BinaryOp → Bytes
  | .add => "add"
  | .sub => "sub"
  | .mul => "mul"
  | .div => "div"
  | .rem => "rem"

def ofCode? : Nat → Option BinaryOp
  | 0 => some .add
  | 1 => some .sub
  | 2 => some .mul
  | 3 => some .div
  | 4 => some .rem
  | _ => none

def nameOfCode (n : Nat) : Bytes := ((ofCode? n).map name).getD (unnamedCode "BinaryOp" n)

end BinaryOp

end FrontEnd.Ir
