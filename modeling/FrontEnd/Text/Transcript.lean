import FrontEnd.Bytes.Basic

/-!
Texts that only grow. What is written last is kept in front, so that writing costs no more than
what is written.
-/

namespace FrontEnd

structure Transcript where
  chunks : List Bytes := []
  deriving DecidableEq, Repr

namespace Transcript

def write (t : Transcript) (s : Bytes) : Transcript := ⟨s :: t.chunks⟩

def text (t : Transcript) : Bytes := t.chunks.reverse.flatten

@[simp] theorem text_write (t : Transcript) (s : Bytes) : (t.write s).text = t.text ++ s := by
  simp [text, write]

end Transcript

end FrontEnd
