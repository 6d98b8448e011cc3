import FrontEnd.Diagnostic.Code
import FrontEnd.Diagnostic.Template
import FrontEnd.Source.Span

/-!
Diagnostics: what is wrong, how bad it is, where, and notes on other places.
-/

namespace FrontEnd

structure Note where
  span : Span
  message : Bytes
  deriving DecidableEq, Repr

structure Diagnostic where
  severity : Severity
  code : Code
  message : Bytes
  primary : Span
  args : List Arg := []
  notes : List Note := []
  deriving DecidableEq, Repr

/-- A diagnostic whose message is the template of its code. -/
def Diagnostic.make (severity : Severity) (code : Code) (primary : Span) (args : List Arg) :
    Except Template.Error Diagnostic :=
  (Template.expand code.template args).map fun message =>
    { severity, code, message, primary, args }

end FrontEnd
