import FrontEnd.Bytes.Search
import FrontEnd.Encoding.Json
import FrontEnd.Text.Ink
import FrontEnd.Text.Trim

/-!
The version of the tool, as text, in colour and as a document.
-/

namespace FrontEnd

structure Version where
  number : Bytes := "0.1.0-dev"
  /-- The commit it was built from, if known. -/
  commit : Bytes := []
  /-- The day it was built on, if known. -/
  date : Bytes := []
  deriving DecidableEq, Repr

namespace Version

open Attributes

/-- Major, minor and patch number each in a colour of its own; what follows a dash or a plus sign
stays plain, and so does anything that is not three numbers. -/
def colored (ink : Ink) (v : Bytes) : Bytes :=
  let core := v.takeWhile fun b => b ≠ 45 && b ≠ 43
  match core.splitOn 46 with
  | [major, minor, patch] =>
    ink.wrap [yellow, bold] major ++ "." ++ ink.wrap [green, bold] minor ++ "."
      ++ ink.wrap [blue, bold] patch ++ v.drop core.length
  | _ => v

/-- The version in one line, coloured or plain. -/
def line (ink : Ink) (inColor : Bool) (v : Version) : Bytes :=
  let number := if inColor then colored ink v.number else v.number
  let extra := [v.commit, v.date].filter (!·.isEmpty)
  let tail : Bytes :=
    if extra.isEmpty then [] else Bytes.ofString " (" ++ Bytes.join ", " extra ++ ")"
  Bytes.ofString "kaiju " ++ number ++ tail

def json (v : Version) : Bytes :=
  (Json.obj (Json.field "tool" (.str "kaiju") ++ Json.field "version" (.str v.number.trimSpace)
    ++ Json.textField? "git_commit" v.commit.trimSpace
    ++ Json.textField? "build_date" v.date.trimSpace)).document

end Version

end FrontEnd
