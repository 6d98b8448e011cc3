import FrontEnd.Text.Quoted
import FrontEnd.Text.Trim
import FrontEnd.Unicode.Lower

/-!
Whether progress is shown live while files are worked on.
-/

namespace FrontEnd.Progress

inductive LiveView where
  /-- Shown for several files on a terminal that nothing else writes to. -/
  | auto
  | on
  | off
  deriving DecidableEq, Repr

/-- A setting that is none of the three. -/
structure LiveViewError where
  value : Bytes
  deriving DecidableEq, Repr

def LiveViewError.message (e : LiveViewError) : Bytes :=
  Bytes.ofString "invalid --ui value " ++ Quoted.quote e.value ++ " (expected auto|on|off)"

namespace LiveView

/-- Case and white space around the word do not matter. -/
def ofSetting (s : Bytes) : Except LiveViewError LiveView :=
  let w := s.trimSpace.lowerText
  if w = [] ∨ w = "auto" then .ok .auto
  else if w = "on" then .ok .on
  else if w = "off" then .ok .off
  else .error ⟨s⟩

/-- Whether a batch of so many files is shown. -/
def shows (v : LiveView) (files : Nat) (traceOnConsole terminal : Bool) : Bool :=
  match v with
  | .on => true
  | .off => false
  | .auto => 2 ≤ files && !traceOnConsole && terminal

end LiveView

end FrontEnd.Progress
