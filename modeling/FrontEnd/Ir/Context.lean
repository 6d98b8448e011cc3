import FrontEnd.Ir.Kind
import FrontEnd.Table

/-!
A context holds everything that code is made of: signatures, values and the modules that own them.
Values are addressed by number, from one on in the order of their making, across all modules of a
context. Primitive and integer types are equal when they look equal; every signature is a type of
its own, however many look alike.
-/

namespace FrontEnd.Ir

abbrev ValueId := Nat

/-- The place of a module in its context. -/
abbrev ModuleId := Nat

inductive Ty where
  | primitive (p : Primitive)
  | integer (width : Nat)
  /-- The type of functions with the given signature of the context. -/
  | function (signature : Nat)
  deriving DecidableEq, Repr

namespace Ty

def void : Ty := .primitive .void

def label : Ty := .primitive .label

def kind : Ty → TypeKind
  | .primitive p => .primitive p
  | .integer _ => .integer
  | .function _ => .function

/-- Arithmetic is done on integers and on floating-point numbers. -/
def isNumber : Ty → Bool
  | .primitive p => p.isNumber
  | .integer _ => true
  | .function _ => false

/-- The widths of integers that every context has from the start. -/
def standardWidths : List Nat := [1, 8, 16, 32, 64, 128]

end Ty

/-- A result and the arguments taken; arguments are added as they are made. -/
structure Signature where
  result : Ty
  params : List ValueId := []
  deriving DecidableEq, Repr

/-- What a value is, with what only such a value has. -/
inductive Form where
  | function (home : ModuleId) (signature : Nat) (body : Option ValueId)
  | argument (type : Ty) (parent : Option ValueId) (index : Nat)
  | block (parent : ValueId) (instructions : List ValueId)
  | binary (op : BinaryOp) (type : Ty) (lhs rhs : ValueId) (parent : ValueId)
  | ret (value : Option ValueId) (parent : ValueId)
  deriving DecidableEq, Repr

namespace Form

def kind : Form → ValueKind
  | .function .. => .function
  | .argument .. => .argument
  | .block .. => .block
  | .binary .. | .ret .. => .instruction

def instKind : Form → InstKind
  | .binary .. => .binary
  | .ret .. => .ret
  | _ => .none

def type : Form → Ty
  | .function _ s _ => .function s
  | .argument t _ _ => t
  | .block .. => .label
  | .binary _ t _ _ _ => t
  | .ret .. => .void

/-- The values an instruction uses, in order. -/
def operands : Form → List ValueId
  | .binary _ _ l r _ => [l, r]
  | .ret v _ => v.toList
  | _ => []

/-- Every instruction but a return has a result that others may use. -/
def isReturn : Form → Bool
  | .ret .. => true
  | _ => false

end Form

/-- A value; its name, if it has one, is in the context's table. -/
structure Value where
  form : Form
  hasName : Bool := false
  deriving DecidableEq, Repr

/-- A module owns values, lists its functions in the order of their making, and binds names to
functions. -/
structure Module where
  /-- The path of the file it was made for. -/
  path : Option Bytes := none
  values : List ValueId := []
  functions : List ValueId := []
  symbols : Table Bytes ValueId := {}
  deriving DecidableEq, Repr

structure Context where
  /-- The widths of integers that were asked for, beside those that are always there. -/
  widths : List Nat := []
  signatures : Array Signature := #[]
  values : Array Value := #[]
  names : Table ValueId Bytes := {}
  modules : Array Module := #[]
  deriving DecidableEq, Repr

namespace Context

/-- Numbers start at one. -/
def value? (c : Context) (v : ValueId) : Option Value :=
  if v = 0 then none else c.values[v - 1]?

def form? (c : Context) (v : ValueId) : Option Form := (c.value? v).map Value.form

def type? (c : Context) (v : ValueId) : Option Ty := (c.form? v).map Form.type

/-- The module at a place; one that was never made owns nothing. -/
def module (c : Context) (m : ModuleId) : Module := c.modules[m]?.getD {}

def isNamed (c : Context) (v : ValueId) : Bool := ((c.value? v).map Value.hasName).getD false

/-- The name of a value, empty when it has none; nothing when it counts as named and the table has
no name for it. -/
def name? (c : Context) (v : ValueId) : Option Bytes :=
  if c.isNamed v then c.names.get? v else some []

/-- The name of a value, empty when it has none. -/
def name (c : Context) (v : ValueId) : Bytes := (c.name? v).getD []

def signatureOf? (c : Context) (f : ValueId) : Option Signature :=
  match c.form? f with
  | some (.function _ s _) => c.signatures[s]?
  | _ => none

/-- The arguments of a function, in order. -/
def params (c : Context) (f : ValueId) : List ValueId :=
  ((c.signatureOf? f).map Signature.params).getD []

/-- The block of a function that has a body. -/
def body? (c : Context) (f : ValueId) : Option ValueId :=
  match c.form? f with
  | some (.function _ _ b) => b
  | _ => none

/-- The instructions of a block, in order. -/
def instructions (c : Context) (b : ValueId) : List ValueId :=
  match c.form? b with
  | some (.block _ is) => is
  | _ => []

/-- A block is complete when a return ends it. -/
def isTerminated (c : Context) (b : ValueId) : Bool :=
  match (c.instructions b).getLast? with
  | some i => ((c.form? i).map Form.isReturn).getD false
  | none => false

/-- The text of a type in which signatures nest less than `depth` deep. -/
def typeTextDeep (c : Context) : Nat → Ty → Option Bytes
  | _, .primitive p => some p.name
  | _, .integer w => some ("i" ++ Bytes.decimal w)
  | 0, .function _ => none
  | depth + 1, .function s => do
    let sig ← c.signatures[s]?
    let result ← c.typeTextDeep depth sig.result
    let params ← sig.params.mapM fun a => (c.type? a).bind (c.typeTextDeep depth)
    return result ++ " (" ++ Bytes.join ", " params ++ ")"

/-- The text of a type: a signature is its result and, in parentheses, the types of its arguments.
A type that contains itself has no text; in any other, signatures nest no deeper than there are
signatures. -/
def typeText? (c : Context) (t : Ty) : Option Bytes := c.typeTextDeep c.signatures.size t

end Context

end FrontEnd.Ir
