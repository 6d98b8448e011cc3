import FrontEnd.Ir.Context

/-!
Classes of values and of types. Whether something belongs to a class is a rule on its tags, kept in
a registry; a value is narrowed to a class when it belongs to it and has a form that the class
covers. The two are independent, so a rule that takes in too much is found out when narrowing.
-/

namespace FrontEnd.Ir

/-- What a handle of a value points at, known even when it denotes nothing. -/
inductive ValueForm where
  | function | argument | block | binary | ret
  deriving DecidableEq, Repr

inductive TypeForm where
  | primitive | integer | function
  deriving DecidableEq, Repr

def ValueForm.all : List ValueForm := [.function, .argument, .block, .binary, .ret]

def TypeForm.all : List TypeForm := [.primitive, .integer, .function]

def ValueForm.name : ValueForm → Bytes
  | .function => "*ir.Function"
  | .argument => "*ir.Argument"
  | .block => "*ir.BasicBlock"
  | .binary => "*ir.BinaryOperator"
  | .ret => "*ir.ReturnInst"

def TypeForm.name : TypeForm → Bytes
  | .primitive => "*ir.PrimitiveType"
  | .integer => "*ir.IntegerType"
  | .function => "*ir.FunctionType"

def Form.outline : Form → ValueForm
  | .function .. => .function
  | .argument .. => .argument
  | .block .. => .block
  | .binary .. => .binary
  | .ret .. => .ret

def Ty.outline : Ty → TypeForm
  | .primitive _ => .primitive
  | .integer _ => .integer
  | .function _ => .function

/-- A class: its name and the forms it covers. -/
structure Class (φ : Type) where
  name : Bytes
  covers : φ → Bool

inductive ClassError where
  | registeredTwice (name : Bytes)
  | notRegistered (name : Bytes)
  /-- Something of kind `kind` belongs to the class by its tags, but has another form. -/
  | misclassified (kind sort name form : Bytes)
  deriving DecidableEq, Repr

def ClassError.message : ClassError → Bytes
  | .registeredTwice n => Bytes.ofString "ir: class " ++ n ++ " registered twice"
  | .notRegistered n => Bytes.ofString "ir: no class registered for " ++ n
  | .misclassified kind sort n form =>
    Bytes.ofString "ir: " ++ kind ++ " " ++ sort ++ " classified as " ++ n ++ " but is " ++ form

/-- The rules of the classes known by name. -/
structure Registry (α : Type) where
  rules : List (Bytes × (α → Bool)) := []

namespace Registry

variable {α : Type}

def rule? (r : Registry α) (name : Bytes) : Option (α → Bool) :=
  (r.rules.find? (·.1 = name)).map Prod.snd

/-- A class is registered once. -/
def register (r : Registry α) (name : Bytes) (rule : α → Bool) : Except ClassError (Registry α) :=
  if (r.rule? name).isSome then .error (.registeredTwice name)
  else .ok ⟨(name, rule) :: r.rules⟩

/-- Membership of what is there; what is not there belongs to no class, registered or not. -/
def isa (r : Registry α) (name : Bytes) : Option α → Except ClassError Bool
  | none => .ok false
  | some a => match r.rule? name with
    | some rule => .ok (rule a)
    | none => .error (.notRegistered name)

/-- Narrowing: true when `a` belongs to the class and can be taken as one of it. -/
def narrow {φ : Type} (r : Registry α) (k : Class φ) (outline : α → φ)
    (misfit : α → ClassError) (a : Option α) : Except ClassError Bool := do
  match a, ← r.isa k.name a with
  | some a, true => if k.covers (outline a) then return true else throw (misfit a)
  | _, _ => return false

end Registry

namespace Class

def value : Class ValueForm := ⟨"ir.Value", fun _ => true⟩
def function : Class ValueForm := ⟨ValueForm.function.name, (· = .function)⟩
def argument : Class ValueForm := ⟨ValueForm.argument.name, (· = .argument)⟩
def block : Class ValueForm := ⟨ValueForm.block.name, (· = .block)⟩
def instruction : Class ValueForm := ⟨"ir.Instruction", fun f => f = .binary || f = .ret⟩
def binary : Class ValueForm := ⟨ValueForm.binary.name, (· = .binary)⟩
def ret : Class ValueForm := ⟨ValueForm.ret.name, (· = .ret)⟩

def type : Class TypeForm := ⟨"ir.Type", fun _ => true⟩
def primitiveType : Class TypeForm := ⟨TypeForm.primitive.name, (· = .primitive)⟩
def integerType : Class TypeForm := ⟨TypeForm.integer.name, (· = .integer)⟩
def functionType : Class TypeForm := ⟨TypeForm.function.name, (· = .function)⟩

/-- The classes of values. -/
def values : List (Class ValueForm) := [value, function, argument, block, instruction, binary, ret]

/-- The classes of types. -/
def types : List (Class TypeForm) := [type, primitiveType, integerType, functionType]

end Class

/-- The classes of values, by the tags of their forms. -/
def Registry.values : Registry Form where
  rules := [
    (Class.value.name, fun _ => true),
    (Class.function.name, fun f => f.kind = .function),
    (Class.argument.name, fun f => f.kind = .argument),
    (Class.block.name, fun f => f.kind = .block),
    (Class.instruction.name, fun f => f.kind = .instruction),
    (Class.binary.name, fun f => f.instKind = .binary),
    (Class.ret.name, fun f => f.instKind = .ret)]

/-- The classes of types, by their kinds. -/
def Registry.types : Registry Ty where
  rules := [
    (Class.type.name, fun _ => true),
    (Class.primitiveType.name, fun t => match t.kind with | .primitive _ => true | _ => false),
    (Class.integerType.name, fun t => t.kind = .integer),
    (Class.functionType.name, fun t => t.kind = .function)]

/-- Narrowing of a value to a class. -/
def Registry.narrowValue (r : Registry Form) (k : Class ValueForm) :
    Option Form → Except ClassError Bool :=
  r.narrow k Form.outline fun f => .misclassified f.kind.name "value" k.name f.outline.name

/-- Narrowing of a type to a class. -/
def Registry.narrowType (r : Registry Ty) (k : Class TypeForm) :
    Option Ty → Except ClassError Bool :=
  r.narrow k Ty.outline fun t => .misclassified t.kind.name "type" k.name t.outline.name

end FrontEnd.Ir
