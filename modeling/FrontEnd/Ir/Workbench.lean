import FrontEnd.Ir.Build
import FrontEnd.Ir.Class

/-!
Several contexts side by side. A handle says which context it is from, so that what belongs to one
context and is used in another is noticed.
-/

namespace FrontEnd.Ir

structure Handle (α : Type) where
  context : Nat
  item : α
  deriving DecidableEq, Repr

/-- What someone may hold: nothing, a handle that denotes nothing but tells what it would point at,
or a handle. -/
inductive Held (α φ : Type) where
  | nothing
  | null (form : φ)
  | handle (h : Handle α)
  deriving DecidableEq, Repr

abbrev HeldType := Held Ty TypeForm

abbrev HeldValue := Held ValueId ValueForm

structure Workbench where
  contexts : Array Context := #[]
  deriving DecidableEq, Repr

namespace Workbench

def context (w : Workbench) (k : Nat) : Context := w.contexts[k]?.getD {}

/-- Takes a step on one context. -/
def run {α : Type} (w : Workbench) (k : Nat) (b : Build α) : Except Misuse α × Workbench :=
  match b (w.context k) with
  | .ok a c => (.ok a, ⟨w.contexts.setIfInBounds k c⟩)
  | .error e c => (.error e, ⟨w.contexts.setIfInBounds k c⟩)

/-- Takes a step on the context that someone has, who has to have one. -/
def runOn {α : Type} (w : Workbench) (k : Option Nat) (b : Build α) : Except Misuse α × Workbench :=
  match k with
  | none => (.error .noContext, w)
  | some k => w.run k b

/-- A type as seen from context `k`. -/
def typeRef (w : Workbench) (k : Nat) : HeldType → TypeRef
  | .nothing => .missing
  | .null _ => .dangling
  | .handle h => if h.context = k then .own h.item
      else .foreign ((w.context h.context).typeText? h.item)

/-- A value as seen from context `k`. -/
def valueRef (w : Workbench) (k : Nat) : HeldValue → ValueRef
  | .nothing => .missing
  | .null _ => .dangling
  | .handle h => if h.context = k then .own h.item
      else match (w.context h.context).form? h.item with
        | some f => .foreign (f.kind, h.item)
        | none => .dangling

/-- The form of a value that is there. -/
def form? (w : Workbench) : HeldValue → Option Form
  | .handle h => (w.context h.context).form? h.item
  | _ => none

/-- What a handle of a value points at, or would. -/
def outline? (w : Workbench) : HeldValue → Option ValueForm
  | .null f => some f
  | v => (w.form? v).map Form.outline

/-- What a handle of a type points at, or would. -/
def typeOutline? : HeldType → Option TypeForm
  | .nothing => none
  | .null f => some f
  | .handle h => some h.item.outline

end Workbench

/-- A context as seen from context `k`. -/
def ContextRef.seenFrom (k : Nat) : Option Nat → ContextRef
  | none => .missing
  | some j => if j = k then .own () else .foreign ()

end FrontEnd.Ir
