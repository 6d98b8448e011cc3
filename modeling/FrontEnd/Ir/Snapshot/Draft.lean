import FrontEnd.Ir.Snapshot

/-!
Drafts: snapshots while they are read from a MessagePack document. The fields of a record come in
any order and any number of times, and a field that comes again goes on from what it held. So the
items of a list are read onto the items at their places, also onto those that a shorter list has
hidden since.
-/

namespace FrontEnd.Ir

open Pack (readRecord?)

/-- The places of a list. Those behind the list itself are hidden, and show in a longer one. -/
structure Slots (α : Type) where
  shown : Option (List α) := none
  hidden : List α := []
  deriving DecidableEq, Repr

namespace Slots

variable {α : Type}

/-- Reads items onto what the places hold, and gives them with the places left over. -/
def fill (blank : α) (f : α → Pack → Option α) (held : List α) :
    List Pack → Option (List α × List α)
  | [] => some ([], held)
  | p :: ps => do
    let a ← f (held.head?.getD blank) p
    let (shown, hidden) ← fill blank f held.tail ps
    return (a :: shown, hidden)

/-- Reads a list; nil clears all places. -/
def read? (blank : α) (f : α → Pack → Option α) (s : Slots α) (p : Pack) : Option (Slots α) := do
  match ← p.asList? with
  | none => return {}
  | some items =>
    let (shown, hidden) ← fill blank f (s.shown.getD [] ++ s.hidden) items
    return { shown := some shown, hidden }

end Slots

structure BlockDraft where
  label : Bytes := []
  instructions : Slots InstSnapshot := {}
  deriving DecidableEq, Repr

structure FunctionDraft where
  name : Bytes := []
  signature : Bytes := []
  args : Slots ArgSnapshot := {}
  body : Option BlockDraft := none
  deriving DecidableEq, Repr

structure Draft where
  path : Bytes := []
  functions : Slots FunctionDraft := {}
  deriving DecidableEq, Repr

/-- An instruction. Its operands come as a whole, and nil leaves them as they are. -/
def InstSnapshot.read? : InstSnapshot → Pack → Option InstSnapshot :=
  readRecord? ["result", "op", "type", "operands"] (fun i k v => do
    if k = "result" then return { i with result := ← v.asText? }
    else if k = "op" then return { i with op := ← v.asText? }
    else if k = "type" then return { i with type := ← v.asText? }
    else match ← v.asList? with
      | none => return i
      | some items => return { i with operands := ← items.mapM Pack.asText? }) {}

/-- An argument. Its index has 64 bits. -/
def ArgSnapshot.read? : ArgSnapshot → Pack → Option ArgSnapshot :=
  readRecord? ["index", "name", "type"] (fun a k v => do
    if k = "index" then return { a with index := (← v.asInt?).bmod 18446744073709551616 }
    else if k = "name" then return { a with name := ← v.asText? }
    else return { a with type := ← v.asText? }) {}

namespace BlockDraft

def read? : BlockDraft → Pack → Option BlockDraft :=
  readRecord? ["label", "instrs"] (fun b k v => do
    if k = "label" then return { b with label := ← v.asText? }
    else return { b with instructions := ← b.instructions.read? {} InstSnapshot.read? v }) {}

def done (b : BlockDraft) : BlockSnapshot where
  label := b.label
  instructions := b.instructions.shown

end BlockDraft

namespace FunctionDraft

def read? : FunctionDraft → Pack → Option FunctionDraft :=
  readRecord? ["name", "signature", "args", "body"] (fun f k v => do
    if k = "name" then return { f with name := ← v.asText? }
    else if k = "signature" then return { f with signature := ← v.asText? }
    else if k = "args" then return { f with args := ← f.args.read? {} ArgSnapshot.read? v }
    else match v with
      | .nil => return { f with body := none }
      | v => return { f with body := some (← (f.body.getD {}).read? v) }) {}

def done (f : FunctionDraft) : FunctionSnapshot where
  name := f.name
  signature := f.signature
  args := f.args.shown.getD []
  body := f.body.map BlockDraft.done

end FunctionDraft

namespace Draft

def read? : Draft → Pack → Option Draft :=
  readRecord? ["path", "functions"] (fun d k v => do
    if k = "path" then return { d with path := ← v.asText? }
    else return { d with functions := ← d.functions.read? {} FunctionDraft.read? v }) {}

def done (d : Draft) : Snapshot where
  path := d.path
  functions := d.functions.shown.map (·.map FunctionDraft.done)

end Draft

namespace Snapshot

def ofPack? (p : Pack) : Option Snapshot := (Draft.read? {} p).map Draft.done

/-- Reads a MessagePack document; what follows it is ignored. -/
def read? (s : Bytes) : Option Snapshot := (Pack.decode? s).bind fun (p, _) => ofPack? p

end Snapshot

end FrontEnd.Ir
