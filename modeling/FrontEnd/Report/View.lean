import FrontEnd.Diagnostic.Bag
import FrontEnd.Source.FileSet
import FrontEnd.Text.Ink

/-!
How reports show paths and severities.
-/

namespace FrontEnd

/-- The style named by a setting; anything unknown is `auto`. -/
def PathStyle.ofSetting (s : Bytes) : PathStyle :=
  match PathStyle.ofName s with
  | .plain => .auto
  | style => style

/-- The style of paths, and the directory that they are seen from. -/
structure PathView where
  style : PathStyle
  cwd : Bytes

/-- A file's path; relative paths are shown from the base directory of the set. -/
def FileSet.showPath (fs : FileSet) (view : PathView) (f : File) : Bytes :=
  f.showPath view.style view.cwd (fs.shownFrom view.cwd)

namespace Palette

open Attributes

def path : Attributes := [bold]
def gutter : Attributes := [blue]
def note : Attributes := [green]

def severity (s : Severity) : Attributes :=
  if s = Severity.error then [brightRed, bold]
  else if s = Severity.warning then [yellow, bold]
  else [cyan, bold]

end Palette

end FrontEnd
