import FrontEnd.Encoding.Json
import FrontEnd.Encoding.MessagePack
import FrontEnd.Ir.Listing

/-!
Snapshots: a module as plain data, with values spelled as in the listing, to be written as a JSON
or a MessagePack document. A list that was never there differs from an empty one only in how it is
written.
-/

namespace FrontEnd.Ir

structure ArgSnapshot where
  index : Int := 0
  name : Bytes := []
  type : Bytes := []
  deriving DecidableEq, Repr

structure InstSnapshot where
  /-- Empty when the instruction has no result. -/
  result : Bytes := []
  op : Bytes := []
  type : Bytes := []
  operands : List Bytes := []
  deriving DecidableEq, Repr

structure BlockSnapshot where
  label : Bytes := []
  instructions : Option (List InstSnapshot) := none
  deriving DecidableEq, Repr

structure FunctionSnapshot where
  name : Bytes := []
  signature : Bytes := []
  args : List ArgSnapshot := []
  body : Option BlockSnapshot := none
  deriving DecidableEq, Repr

structure Snapshot where
  path : Bytes := []
  functions : Option (List FunctionSnapshot) := none
  deriving DecidableEq, Repr

namespace Context

def instructionSnapshot? (c : Context) (m : ModuleId) (f i : ValueId) : Option InstSnapshot := do
  let form ← c.form? i
  let type ← c.typeText? form.type
  let op ← match form with
    | .binary op .. => some op.name
    | .ret .. => some InstKind.ret.name
    | _ => none
  return { type, op
           result := if form.isReturn then [] else c.spell m f i
           operands := form.operands.map (c.spell m f) }

def blockSnapshot? (c : Context) (m : ModuleId) (f b : ValueId) : Option BlockSnapshot := do
  let is ← (c.instructions b).mapM (c.instructionSnapshot? m f)
  return { label := c.spell m f b, instructions := some is }

def functionSnapshot? (c : Context) (m : ModuleId) (f : ValueId) : Option FunctionSnapshot := do
  let signature ← c.typeText? (← c.type? f)
  let args ← (c.params f).zipIdx.mapM fun (a, i) => do
    let type ← c.typeText? (← c.type? a)
    return { index := i, name := c.spell m f a, type }
  let body ← (c.body? f).mapM (c.blockSnapshot? m f)
  return { name := c.spell m f f, signature, args, body }

/-- A module as plain data; nothing when a type contains itself. -/
def snapshot? (c : Context) (m : ModuleId) : Option Snapshot := do
  let fs ← (c.module m).functions.mapM (c.functionSnapshot? m)
  return { path := (c.module m).path.getD [], functions := some fs }

end Context

namespace Snapshot

/-- A list, or null when it was never there. -/
def listJson {α : Type} (f : α → Json) : Option (List α) → Json
  | none => .null
  | some xs => .arr (xs.map f)

def instJson (i : InstSnapshot) : Json :=
  .obj (Json.textField? "result" i.result ++ Json.field "op" (.str i.op)
    ++ Json.field "type" (.str i.type) ++ Json.listField? "operands" (i.operands.map .str))

def blockJson (b : BlockSnapshot) : Json :=
  .obj (Json.field "label" (.str b.label) ++ Json.field "instrs" (listJson instJson b.instructions))

def argJson (a : ArgSnapshot) : Json :=
  .obj (Json.field "index" (.int a.index) ++ Json.field "name" (.str a.name)
    ++ Json.field "type" (.str a.type))

def functionJson (f : FunctionSnapshot) : Json :=
  .obj (Json.field "name" (.str f.name) ++ Json.field "signature" (.str f.signature)
    ++ Json.listField? "args" (f.args.map argJson)
    ++ f.body.elim [] fun b => Json.field "body" (blockJson b))

def toJson (s : Snapshot) : Json :=
  .obj (Json.textField? "path" s.path ++ Json.field "functions" (listJson functionJson s.functions))

/-- The indented JSON document. -/
def json (s : Snapshot) : Bytes := s.toJson.document

/-- A list, or nil when it was never there. -/
def listPack {α : Type} (f : α → Pack) : Option (List α) → Pack
  | none => .nil
  | some xs => .arr (xs.map f)

def instPack (i : InstSnapshot) : Pack :=
  .map (Pack.textField? "result" i.result ++ Pack.field "op" (.str i.op)
    ++ Pack.field "type" (.str i.type) ++ Pack.listField? "operands" (i.operands.map .str))

def blockPack (b : BlockSnapshot) : Pack :=
  .map (Pack.field "label" (.str b.label) ++ Pack.field "instrs" (listPack instPack b.instructions))

def argPack (a : ArgSnapshot) : Pack :=
  .map (Pack.field "index" (.int a.index) ++ Pack.field "name" (.str a.name)
    ++ Pack.field "type" (.str a.type))

def functionPack (f : FunctionSnapshot) : Pack :=
  .map (Pack.field "name" (.str f.name) ++ Pack.field "signature" (.str f.signature)
    ++ Pack.listField? "args" (f.args.map argPack)
    ++ f.body.elim [] fun b => Pack.field "body" (blockPack b))

def toPack (s : Snapshot) : Pack :=
  .map (Pack.textField? "path" s.path ++ Pack.field "functions" (listPack functionPack s.functions))

/-- The MessagePack document. -/
def pack (s : Snapshot) : Bytes := s.toPack.encode

end Snapshot

end FrontEnd.Ir
