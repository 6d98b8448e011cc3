import FrontEnd.Ir.Context
import FrontEnd.Ir.Misuse

/-!
The operations that make code in a context. Each checks what it is given before it changes
anything and then makes its value, so that misuse shows as an error and leaves the context as it
was. Arguments come as references, since a caller may hold no handle, a handle that denotes
nothing, or one from another context.
-/

namespace FrontEnd.Ir

/-- What a caller hands over: nothing, a handle that denotes nothing, something of this context,
or something of another context, of which `φ` tells enough for a message. -/
inductive Ref (α φ : Type) where
  | missing
  | dangling
  | own (a : α)
  | foreign (f : φ)
  deriving DecidableEq, Repr

/-- Nothing is denoted. Where only handles of one form can be handed over, a handle that denotes
nothing is no better than none. -/
def Ref.isNone {α φ : Type} : Ref α φ → Bool
  | .missing | .dangling => true
  | .own _ | .foreign _ => false

/-- A reference to a type; a type of another context is known by its text. -/
abbrev TypeRef := Ref Ty (Option Bytes)

/-- A reference to a value; a value of another context is known by its kind and number. -/
abbrev ValueRef := Ref ValueId (ValueKind × ValueId)

/-- A reference to a context, seen from one. -/
abbrev ContextRef := Ref Unit Unit

/-- A step on a context. A step that fails still says what it leaves behind. -/
abbrev Build := EStateM Misuse Context

namespace Build

/-- What is there, or the misuse of asking for it. -/
def given {α : Type} (o : Option α) (e : Misuse) : Build α :=
  match o with
  | some a => pure a
  | none => throw e

/-- The number of the value, once it is known to be of this context. -/
def own (v : ValueRef) : Build ValueId :=
  match v with
  | .own a => pure a
  | .foreign (k, id) => throw (.foreignValue k id)
  | .missing | .dangling => throw .dangling

/-- All values that are given are of this context. -/
def requireOwn (vs : List ValueRef) : Build Unit :=
  vs.forM fun
    | .missing => pure ()
    | v => discard (own v)

/-- The type, once it is known to be of this context. -/
def ownType (t : TypeRef) : Build Ty :=
  match t with
  | .missing => throw .noType
  | .dangling => throw .dangling
  | .own t => pure t
  | .foreign (some shown) => throw (.foreignType shown)
  | .foreign none => throw .endlessType

def primitive (kind : Nat) : Build Ty :=
  (given (TypeKind.primitiveOfCode? kind) (.notPrimitive kind)).map Ty.primitive

/-- Integers are one to 255 bits wide. A width that is not standard is made when it is first asked
for. -/
def integer (width : Nat) : Build Ty := do
  if ¬ (1 ≤ width ∧ width ≤ 255) then throw (.invalidWidth width)
  if width ∉ Ty.standardWidths then modify fun c => { c with widths := c.widths.insert width }
  return .integer width

/-- A new signature that takes no argument yet. -/
def signature (result : TypeRef) : Build Nat := do
  let result ← match result with
    | .missing => throw .noResultType
    | r => ownType r
  let c ← get
  set { c with signatures := c.signatures.push { result } }
  return c.signatures.size

def modifyValue (v : ValueId) (f : Value → Value) : Build Unit :=
  modify fun c => { c with values := c.values.modify (v - 1) f }

def modifyModule (m : ModuleId) (f : Module → Module) : Build Unit :=
  modify fun c => { c with modules := c.modules.modify m f }

/-- Adds a value without a name; numbers have 32 bits. -/
def allocate (form : Form) : Build ValueId := do
  let c ← get
  if c.values.size ≥ 4294967295 then throw .exhausted
  set { c with values := c.values.push { form } }
  return c.values.size + 1

/-- The name of a value, empty when it has none. -/
def nameOf (v : ValueId) : Build Bytes := do
  given ((← get).name? v) (.nameLost v)

/-- Gives a value its name. A value is named once until its name is cleared; the empty name gives
none. A function is also bound in the module it was made in, in place of any other of that
name. -/
def setName (v : ValueId) (name : Bytes) : Build Unit := do
  let c ← get
  let some value := c.value? v | throw .dangling
  if value.hasName then throw (.alreadyNamed value.form.kind v (← nameOf v))
  if name.isEmpty then return
  modifyValue v fun x => { x with hasName := true }
  modify fun c => { c with names := c.names.insert v name }
  if let .function home _ _ := value.form then
    modifyModule home fun m => { m with symbols := m.symbols.insert name v }

/-- The last of the functions that goes by a name. -/
def lastNamed? (name : Bytes) (fs : List ValueId) : Build (Option ValueId) :=
  fs.reverse.findM? fun f => do return (← nameOf f) = name

/-- Takes a value out of the table of names. -/
def dropName (v : ValueId) : Build Unit := do
  modifyValue v fun x => { x with hasName := false }
  modify fun c => { c with names := c.names.erase v }

/-- Takes a value's name away, if it has one. If it was a function bound by that name, the function
of the module made last among the others of that name is bound instead. -/
def clearName (v : ValueId) : Build Unit := do
  let c ← get
  let some value := c.value? v | throw .dangling
  if !value.hasName then return
  let .function home _ _ := value.form | dropName v
  let old ← nameOf v
  if !old.isEmpty && (c.module home).symbols.get? old = some v then
    let heir ← lastNamed? old ((c.module home).functions.filter (· ≠ v))
    dropName v
    modifyModule home fun m => { m with
      symbols := match heir with
        | some f => m.symbols.insert old f
        | none => m.symbols.erase old }
  else dropName v

/-- A new module, for a file when it has a path. -/
def newModule (path : Option Bytes) : Build ModuleId := do
  let c ← get
  set { c with modules := c.modules.push { path } }
  return c.modules.size

/-- Records a value as one of the module's. -/
def adopt (m : ModuleId) (v : ValueId) : Build Unit :=
  modifyModule m fun x => { x with values := x.values ++ [v] }

/-- A new function with a signature of its own. -/
def createFunction (m : ModuleId) (result : TypeRef) (name : Bytes) : Build ValueId := do
  let sig ← signature result
  let f ← allocate (.function m sig none)
  adopt m f
  modifyModule m fun x => { x with functions := x.functions ++ [f] }
  setName f name
  return f

/-- A further argument of a function. -/
def createArgument (m : ModuleId) (type : TypeRef) (fn : ValueRef) (name : Bytes) :
    Build ValueId := do
  if fn.isNone then throw .argumentWithoutFunction
  let f ← own fn
  let type ← ownType type
  let .function _ s _ ← given ((← get).form? f) .dangling | throw .dangling
  let a ← allocate (.argument type (some f) ((← get).params f).length)
  setName a name
  modify fun c => { c with
    signatures := c.signatures.modify s fun x => { x with params := x.params ++ [a] } }
  adopt m a
  return a

/-- The body of a function, which has one at most. The context it is asked from has to be this
one. -/
def createBlock (m : ModuleId) (context : ContextRef) (name : Bytes) (fn : ValueRef) :
    Build ValueId := do
  match context with
  | .missing | .dangling => throw .noContext
  | .foreign _ => throw .blockOfOtherContext
  | .own _ => pure ()
  if fn.isNone then throw .blockWithoutFunction
  let f ← own fn
  let c ← get
  let .function home s body ← given (c.form? f) .dangling | throw .dangling
  if body.isSome then throw (.secondBody (← nameOf f))
  let b ← allocate (.block f [])
  setName b name
  modifyValue f fun x => { x with form := .function home s (some b) }
  adopt m b
  return b

/-- Puts an instruction at the end of its block. -/
def append (m : ModuleId) (block : ValueId) (form : Form) : Build ValueId := do
  let i ← allocate form
  modifyValue block fun x => match x.form with
    | .block p is => { x with form := .block p (is ++ [i]) }
    | _ => x
  adopt m i
  return i

/-- An operator on two values of one type, which is also the type of its result. -/
def createBinary (m : ModuleId) (code : Nat) (lhs rhs block : ValueRef) : Build ValueId := do
  if lhs = .missing ∨ rhs = .missing then throw (.missingOperand code)
  if block.isNone then throw .instructionWithoutBlock
  let op ← given (BinaryOp.ofCode? code) (.unknownOperator code)
  let l ← own lhs
  let r ← own rhs
  let b ← own block
  let c ← get
  let .block .. ← given (c.form? b) .dangling | throw .dangling
  let lt ← given (c.type? l) .dangling
  let rt ← given (c.type? r) .dangling
  if lt ≠ rt then
    throw (.operandTypes op (← given (c.typeText? lt) .endlessType)
      (← given (c.typeText? rt) .endlessType))
  append m b (.binary op lt l r b)

/-- A return, of a value or of none. -/
def createReturn (m : ModuleId) (value block : ValueRef) : Build ValueId := do
  if block.isNone then throw .instructionWithoutBlock
  let v ← match value with
    | .missing => pure none
    | v => (own v).map some
  let b ← own block
  let .block .. ← given ((← get).form? b) .dangling | throw .dangling
  append m b (.ret v b)

end Build

/-- The function a name is bound to in a module. -/
def Context.lookup? (c : Context) (m : ModuleId) (name : Bytes) : Option ValueId :=
  (c.module m).symbols.get? name

/-- The position of an argument among those of its function. -/
def Form.argumentIndex (f : Form) : Except Misuse Nat :=
  match f with
  | .argument _ (some _) i => .ok i
  | .argument _ none _ => .error .argumentWithoutParent
  | _ => .error .dangling

end FrontEnd.Ir
