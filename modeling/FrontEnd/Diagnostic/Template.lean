import FrontEnd.Text.Quoted

/-!
Message templates. A per cent sign and a digit stand for the argument with that number; the text
of an argument is put in as it is and never read as a template. A per cent sign before anything
else, and a number without an argument, are mistakes of whoever wrote the template.
-/

namespace FrontEnd

inductive Arg where
  | int (v : Int)
  | uint (v : Nat)
  | char (b : UInt8)
  | text (s : Bytes)
  | empty
  deriving DecidableEq, Repr

/-- An octet outside printable ASCII is shown as `\x` and two digits. -/
def Arg.render : Arg → Bytes
  | .int v => Bytes.decimalInt v
  | .uint v => Bytes.decimal v
  | .char b => if 0x20 ≤ b ∧ b < 0x7F then [b] else [92, 120] ++ Bytes.hexPadded 2 b.toNat
  | .text s => s
  | .empty => []

namespace Template

inductive Error where
  | notANumber (template : Bytes)
  | noSuchArgument (index count : Nat) (template : Bytes)
  deriving DecidableEq, Repr

def Error.message : Error → Bytes
  | .notANumber t => "diag: argument index is not a number in " ++ Quoted.quote t
  | .noSuchArgument i n t =>
    "diag: argument %" ++ Bytes.decimal i ++ " out of range (" ++ Bytes.decimal n ++ " args) in "
      ++ Quoted.quote t

def percent : UInt8 := 37

/-- Expands what is left of a template onto the reversed `acc`. -/
def expandOnto (template : Bytes) (args : List Arg) (acc : Bytes) : Bytes → Except Error Bytes
  | [] => .ok acc.reverse
  | b :: r =>
    if b ≠ percent then expandOnto template args (b :: acc) r
    else match r with
      | [] => .error (.notANumber template)
      | d :: r' =>
        if 48 ≤ d ∧ d ≤ 57 then
          match args[d.toNat - 48]? with
          | some a => expandOnto template args (a.render.reverse ++ acc) r'
          | none => .error (.noSuchArgument (d.toNat - 48) args.length template)
        else .error (.notANumber template)

def expand (template : Bytes) (args : List Arg) : Except Error Bytes :=
  expandOnto template args [] template

end Template

end FrontEnd
