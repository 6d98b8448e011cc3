import FrontEnd.Bytes.Basic

/-!
Progress of work on files, told step by step.
-/

namespace FrontEnd.Progress

/-- A step of the work on one file. -/
inductive Stage where
  | load | lex | ir
  | other (name : Bytes)
  deriving DecidableEq, Repr

inductive Status where
  | queued | working | done | error
  | other (name : Bytes)
  deriving DecidableEq, Repr

def Stage.name : Stage → Bytes
  | .load => "load"
  | .lex => "lex"
  | .ir => "ir"
  | .other n => n

def Stage.ofName (n : Bytes) : Stage :=
  if n = "load" then .load else if n = "lex" then .lex else if n = "ir" then .ir else .other n

def Status.name : Status → Bytes
  | .queued => "queued"
  | .working => "working"
  | .done => "done"
  | .error => "error"
  | .other n => n

def Status.ofName (n : Bytes) : Status :=
  if n = "queued" then .queued else if n = "working" then .working
  else if n = "done" then .done else if n = "error" then .error else .other n

structure Event where
  file : Bytes
  stage : Stage
  status : Status
  /-- What went wrong. -/
  failure : Option Bytes := none
  deriving DecidableEq, Repr

end FrontEnd.Progress
