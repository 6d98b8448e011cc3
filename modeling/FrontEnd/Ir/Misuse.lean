import FrontEnd.Ir.Kind
import FrontEnd.Text.Quoted

/-!
Misuse of the operations that make code, by cause.
-/

namespace FrontEnd.Ir

inductive Misuse where
  | noContext
  | notPrimitive (kind : Nat)
  | invalidWidth (width : Nat)
  | noResultType
  | noType
  | foreignType (shown : Bytes)
  | foreignValue (kind : ValueKind) (id : Nat)
  | alreadyNamed (kind : ValueKind) (id : Nat) (name : Bytes)
  /-- A value counts as named, but the table has no name for it. -/
  | nameLost (id : Nat)
  | argumentWithoutFunction
  | blockOfOtherContext
  | blockWithoutFunction
  | secondBody (function : Bytes)
  | missingOperand (op : Nat)
  | instructionWithoutBlock
  | unknownOperator (op : Nat)
  | operandTypes (op : BinaryOp) (lhs rhs : Bytes)
  | argumentWithoutParent
  | exhausted
  /-- A handle was used that denotes nothing, or nothing of the sort asked for. -/
  | dangling
  /-- The text of a type that contains itself was asked for. -/
  | endlessType
  deriving DecidableEq, Repr

def Misuse.message : Misuse → Bytes
  | .noContext => "ir: nil Context"
  | .notPrimitive k =>
    Bytes.ofString "ir: " ++ TypeKind.nameOfCode k ++ " is not a primitive type kind"
  | .invalidWidth w => Bytes.ofString "ir: invalid integer width " ++ Bytes.decimal w
  | .noResultType => "ir: function result type must not be nil"
  | .noType => "ir: nil type"
  | .foreignType t => Bytes.ofString "ir: type " ++ t ++ " belongs to another Context"
  | .foreignValue k id =>
    Bytes.ofString "ir: " ++ k.name ++ " value " ++ Bytes.decimal id ++
      " belongs to another Context"
  | .alreadyNamed k id n =>
    Bytes.ofString "ir: " ++ k.name ++ " value " ++ Bytes.decimal id ++ " is already named "
      ++ Quoted.quote n
  | .nameLost id => Bytes.ofString "ir: hasName out of sync for value " ++ Bytes.decimal id
  | .argumentWithoutFunction => "ir: argument needs a function"
  | .blockOfOtherContext => "ir: block requested from another Context"
  | .blockWithoutFunction => "ir: block needs a function"
  | .secondBody f => Bytes.ofString "ir: function " ++ Quoted.quote f ++ " already has a body"
  | .missingOperand op => Bytes.ofString "ir: " ++ BinaryOp.nameOfCode op ++ " needs two operands"
  | .instructionWithoutBlock => "ir: instruction needs a block"
  | .unknownOperator op => Bytes.ofString "ir: unknown binary operator " ++ Bytes.decimal op
  | .operandTypes op l r =>
    Bytes.ofString "ir: " ++ op.name ++ " operands differ in type: " ++ l ++ " and " ++ r
  | .argumentWithoutParent => "ir: can't get number of unparented argument"
  | .exhausted => "ir: value id space exhausted"
  | .dangling => "ir: dangling handle"
  | .endlessType => "ir: type contains itself"

end FrontEnd.Ir
