import FrontEnd.Proofs.Lexeme

/-!
What is wrong with a lexeme, item by item. Inside a literal these are unknown escapes, each at a
backslash of its own; besides them at most one thing is wrong, and that concerns all of the lexeme.
So no two findings agree in code and place, and none leaves the lexeme.
-/
namespace FrontEnd.Lexeme

/-- Unknown escapes in a text that stands at `off` of a lexeme, in order and apart. -/
inductive Escapes : Nat → Bytes → List Finding → Prop
  | none (off : Nat) (s : Bytes) : Escapes off s []
  | skip {off : Nat} (b : UInt8) {s : Bytes} {found : List Finding}
    (h : Escapes (off + 1) s found) : Escapes off (b :: s) found
  | escape {off : Nat} {c : UInt8} {s : Bytes} {found : List Finding} {f : Finding}
      (hf : escapeFinding? off c = some f) (h : Escapes (off + 2) s found) :
      Escapes off (92 :: c :: s) (f :: found)

namespace Escapes

variable {off : Nat} {s : Bytes} {found : List Finding}

/-- Every escape is a backslash of the text and the octet behind it. -/
theorem mem (h : Escapes off s found) {f : Finding} (hf : f ∈ found) :
    ∃ k c, f = ⟨Code.unknownEscape, off + k, 2, [.text [92, c]]⟩ ∧ s[k]? = some 92 ∧
      s[k + 1]? = some c := by
  induction h with
  | none => cases hf
  | @skip off b s found h ih =>
    obtain ⟨k, c, rfl, hback, hnext⟩ := ih hf
    exact ⟨k + 1, c, by rw [Nat.add_assoc, Nat.add_comm 1], hback, hnext⟩
  | @escape off c s found g hg h ih =>
    rcases List.mem_cons.mp hf with rfl | hf
    · exact ⟨0, c, escapeFinding?_eq_some hg, rfl, rfl⟩
    · obtain ⟨k, c', rfl, hback, hnext⟩ := ih hf
      exact ⟨k + 2, c', by rw [Nat.add_assoc, Nat.add_comm 2], hback, hnext⟩

theorem le_start (h : Escapes off s found) {f : Finding} (hf : f ∈ found) : off ≤ f.start := by
  obtain ⟨k, c, rfl, -⟩ := h.mem hf
  exact Nat.le_add_right off k

theorem ordered (h : Escapes off s found) : found.Pairwise fun f g => f.start < g.start := by
  induction h with
  | none => exact .nil
  | skip b h ih => exact ih
  | @escape off c s found f hf h ih =>
    refine List.pairwise_cons.mpr ⟨?_, ih⟩
    intro g hg
    have hbehind := h.le_start hg
    rw [escapeFinding?_eq_some hf]
    dsimp only
    omega

/-- More text changes nothing about the escapes in front of it. -/
theorem longer {t : Bytes} (h : Escapes off s found) (ht : s <+: t) : Escapes off t found := by
  obtain ⟨u, rfl⟩ := ht
  induction h with
  | none => exact .none _ _
  | skip b h ih => exact .skip b ih
  | escape hf h ih => exact .escape hf ih

end Escapes

/-- How a string goes on behind its inside, by its ending. -/
def Ending.Follows : Ending → Option UInt8 → Prop
  | .closed, next => next = some 34
  | .boundary, next => ∃ b, next = some b ∧ isBoundary b = true
  | .endOfInput, next => next = none

/-- The inside of a string is so many octets, before what the ending tells, and what is found in it
are unknown escapes, behind what was found before. -/
theorem stringBody_escapes (n : Nat) (found : List Finding) (s : Bytes) :
    ∃ k more, (stringBody n found s).size = n + k ∧ k ≤ s.length ∧
      (stringBody n found s).ending.Follows s[k]? ∧
      (stringBody n found s).findings = found.reverse ++ more ∧
        Escapes (n + 1) (s.take k) more := by
  induction s using inside_induction generalizing n found with
  | nil => exact ⟨0, [], rfl, Nat.le_refl _, rfl, by simp [stringBody_nil], .none _ _⟩
  | quote r =>
    rw [stringBody_quote]
    exact ⟨0, [], rfl, Nat.zero_le _, rfl, by simp, .none _ _⟩
  | boundary b r hb =>
    rw [stringBody_boundary _ _ _ hb]
    exact ⟨0, [], rfl, Nat.zero_le _, ⟨b, rfl, hb⟩, by simp, .none _ _⟩
  | dangling => exact ⟨1, [], rfl, Nat.le_refl _, rfl, by simp [stringBody_dangling], .none _ _⟩
  | dangling_boundary c r hc =>
    rw [stringBody_dangling_boundary _ _ _ hc]
    exact ⟨1, [], rfl, by simp, ⟨c, rfl, hc⟩, by simp, .none _ _⟩
  | escape c r hc ih =>
    obtain ⟨k, more, hsize, hle, hnext, hmore, hescapes⟩ :=
      ih (n + 2) ((escapeFinding? (n + 1) c).toList ++ found)
    rw [stringBody_escape _ _ _ hc, hsize, hmore]
    have hlen : k + 2 ≤ (92 :: c :: r).length := Nat.add_le_add_right hle 2
    cases hf : escapeFinding? (n + 1) c with
    | none => exact ⟨k + 2, more, by omega, hlen, hf ▸ hnext, rfl, .skip 92 (.skip c hescapes)⟩
    | some f =>
      exact ⟨k + 2, f :: more, by omega, hlen, hf ▸ hnext, by simp, .escape hf hescapes⟩
  | plain b r hq hb he ih =>
    obtain ⟨k, more, hsize, hle, hnext, hmore, hescapes⟩ := ih (n + 1) found
    rw [stringBody_plain _ _ _ hq hb he, hsize, hmore]
    exact ⟨k + 1, more, by omega, Nat.add_le_add_right hle 1, hnext, rfl, .skip b hescapes⟩

theorem charBody_escapes {s : Bytes} {n : Nat} {found : List Finding}
    (h : charBody s = (n, found)) : Escapes 1 (s.take n) found := by
  unfold charBody at h
  split at h
  · rename_i c r
    split at h
    · cases h
      exact .none _ _
    · cases h
      cases hf : escapeFinding? 1 c with
      | none => exact .none _ _
      | some f => exact .escape hf (.none _ _)
  · cases h
    exact .none _ _
  · cases h
    exact .none _ _

/-- What is wrong with a lexeme at the front of a text: unknown escapes behind its first octet, and
at most one thing more, which concerns all of it. The only text that is cited then is the lexeme. -/
def Itemised (s : Bytes) (m : Lexeme) : Prop :=
  ∃ escapes last, m.findings = escapes ++ Option.toList last ∧
    Escapes 1 (s.take m.size).tail escapes ∧
    ∀ f ∈ last, ∃ code args, f = whole code m.size args ∧ code ≠ Code.unknownEscape ∧
      ∀ t, Arg.text t ∈ args → t = s.take m.size

namespace Itemised

variable {s : Bytes} {m : Lexeme}

theorem of_escapes (h : Escapes 1 (s.take m.size).tail m.findings) : Itemised s m :=
  ⟨m.findings, none, (List.append_nil _).symm, h, nofun⟩

theorem of_silent (h : m.findings = []) : Itemised s m := of_escapes (h ▸ .none _ _)

theorem of_last {escapes : List Finding} (h : Escapes 1 (s.take m.size).tail escapes) {code : Code}
    {args : List Arg} (hm : m.findings = escapes ++ [whole code m.size args])
    (hcode : code ≠ Code.unknownEscape) (hargs : ∀ t, Arg.text t ∈ args → t = s.take m.size) :
    Itemised s m :=
  ⟨escapes, some (whole code m.size args), hm, h, by
    rintro f ⟨⟩
    exact ⟨code, args, rfl, hcode, hargs⟩⟩

theorem of_whole {code : Code} {args : List Arg} (hm : m.findings = [whole code m.size args])
    (hcode : code ≠ Code.unknownEscape) (hargs : ∀ t, Arg.text t ∈ args → t = s.take m.size) :
    Itemised s m := of_last (.none _ _) hm hcode hargs

end Itemised

theorem malformed_itemised (s : Bytes) : Itemised s (malformed s) := by
  refine .of_whole rfl (by decide) ?_
  intro t ht
  have harg := List.mem_singleton.mp ht
  change t = s.take (Utf8.itemSize s)
  split at harg
  · cases harg
  · exact Arg.text.inj harg

theorem string_itemised (r : Bytes) : Itemised (34 :: r) (string (34 :: r)) := by
  obtain ⟨k, more, hsize, -, -, hmore, hescapes⟩ := stringBody_escapes 0 [] r
  rw [Nat.zero_add] at hsize
  unfold string
  simp only [List.drop_succ_cons, List.drop_zero, hsize, hmore, List.reverse_nil, List.nil_append]
  cases (stringBody 0 [] r).ending with
  | closed => exact .of_escapes (hescapes.longer (List.take_prefix_take_left (Nat.le_succ k)))
  | boundary => exact .of_last hescapes rfl (by decide) (by simp)
  | endOfInput => exact .of_last hescapes rfl (by decide) (by simp)

theorem char_itemised (r : Bytes) : Itemised (39 :: r) (char (39 :: r)) := by
  have hreads := char_reads r
  generalize char (39 :: r) = m at hreads ⊢
  cases hreads with
  | cut | empty => exact .of_whole rfl (by decide) nofun
  | single hbody =>
    exact .of_escapes ((charBody_escapes hbody).longer (List.take_prefix_take_left (by omega)))
  | several hbody =>
    exact .of_last ((charBody_escapes hbody).longer (List.take_prefix_take_left (by omega))) rfl
      (by decide) nofun
  | unclosed _ hbody =>
    exact .of_last ((charBody_escapes hbody).longer (List.take_prefix_take_left (by omega))) rfl
      (by decide) nofun

theorem number_itemised (s : Bytes) : Itemised s (number s) := by
  have htext : s.takeWhile isIdentByte = s.take (number s).size :=
    List.prefix_iff_eq_take.mp (List.takeWhile_prefix _)
  cases hf : numberFinding? (s.takeWhile isIdentByte) with
  | none => exact .of_silent (by rw [number, hf]; rfl)
  | some f =>
    have hfound : (number s).findings = [f] := by
      rw [number, hf]
      rfl
    rcases numberFinding?_eq_some hf with rfl | rfl
    · exact .of_whole hfound (by decide) (by simpa using htext)
    · exact .of_whole hfound (by decide) (by simpa using htext)

/-- Whatever stands at the front of a text, what is wrong with it is one item each. -/
theorem front?_itemised {s : Bytes} {m : Lexeme} (h : front? s = some m) : Itemised s m := by
  cases front?_reads h with
  | string r => exact string_itemised r
  | char r => exact char_itemised r
  | number hb r => exact number_itemised _
  | malformed hs => exact malformed_itemised _
  | newLine | asciiWord | letterWord | arrow | mark => exact .of_silent rfl

namespace Itemised

variable {s : Bytes} {m : Lexeme} (h : Itemised s m)

include h

/-- One thing at most is wrong with a lexeme besides its escapes. -/
theorem single :
    m.findings.Pairwise fun f g => f.code = Code.unknownEscape ∨ g.code = Code.unknownEscape := by
  obtain ⟨escapes, last, hm, hescapes, hlast⟩ := h
  have hcode : ∀ f ∈ escapes, f.code = Code.unknownEscape := by
    intro f hf
    obtain ⟨k, c, rfl, -⟩ := hescapes.mem hf
    rfl
  rw [hm]
  refine List.pairwise_append.mpr ⟨?_, ?_, fun f hf g hg => .inl (hcode f hf)⟩
  · exact List.pairwise_iff_forall_sublist.mpr fun hsub => .inl (hcode _ (hsub.subset (by simp)))
  · cases last <;> simp

/-- No two findings on a lexeme agree in code and place. -/
theorem distinct : m.findings.Pairwise fun f g => ¬ (f.code = g.code ∧ f.start = g.start) := by
  obtain ⟨escapes, last, hm, hescapes, hlast⟩ := h
  rw [hm]
  refine List.pairwise_append.mpr ⟨?_, by cases last <;> simp, ?_⟩
  · refine hescapes.ordered.imp ?_
    rintro f g hlt ⟨-, hsame⟩
    omega
  · rintro f hf g hg ⟨hsame, -⟩
    obtain ⟨k, c, rfl, -⟩ := hescapes.mem hf
    obtain ⟨code, args, rfl, hcode, -⟩ := hlast g (Option.mem_toList.mp hg)
    exact hcode hsame.symm

variable {f : Finding} (hf : f ∈ m.findings)

include hf

/-- An unknown escape is a backslash of the lexeme and the octet behind it. -/
theorem escape (hcode : f.code = Code.unknownEscape) :
    ∃ c, f = ⟨Code.unknownEscape, f.start, 2, [.text [92, c]]⟩ ∧ s[f.start]? = some 92 ∧
      s[f.start + 1]? = some c ∧ f.start + 2 ≤ m.size := by
  obtain ⟨escapes, last, hm, hescapes, hlast⟩ := h
  have hwithin : ∀ {i b}, (s.take m.size)[i]? = some b → s[i]? = some b ∧ i < m.size := by
    intro i b hb
    rw [List.getElem?_take] at hb
    split at hb
    · exact ⟨hb, ‹_›⟩
    · cases hb
  rw [hm] at hf
  rcases List.mem_append.mp hf with hf | hf
  · obtain ⟨k, c, rfl, hback, hnext⟩ := hescapes.mem hf
    rw [List.getElem?_tail, Nat.add_comm k 1] at hback hnext
    exact ⟨c, rfl, (hwithin hback).1, hwithin hnext⟩
  · obtain ⟨code, args, rfl, hne, -⟩ := hlast f (Option.mem_toList.mp hf)
    exact absurd hcode hne

/-- What is no unknown escape concerns all of the lexeme and cites nothing else. -/
theorem whole (hcode : f.code ≠ Code.unknownEscape) :
    f.start = 0 ∧ f.size = m.size ∧ ∀ t, Arg.text t ∈ f.args → t = s.take m.size := by
  obtain ⟨escapes, last, hm, hescapes, hlast⟩ := h
  rw [hm] at hf
  rcases List.mem_append.mp hf with hf | hf
  · obtain ⟨k, c, rfl, -⟩ := hescapes.mem hf
    exact absurd rfl hcode
  · obtain ⟨code, args, rfl, -, hargs⟩ := hlast f (Option.mem_toList.mp hf)
    exact ⟨rfl, rfl, hargs⟩

/-- A finding lies inside of its lexeme and is not empty. -/
theorem inside (hpos : 0 < m.size) : 0 < f.size ∧ f.start + f.size ≤ m.size := by
  by_cases hcode : f.code = Code.unknownEscape
  · obtain ⟨c, hfinding, -, -, hle⟩ := h.escape hf hcode
    have hsize : f.size = 2 := by rw [hfinding]
    omega
  · obtain ⟨hstart, hsize, -⟩ := h.whole hf hcode
    omega

end Itemised

end FrontEnd.Lexeme
