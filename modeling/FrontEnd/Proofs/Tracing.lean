import FrontEnd.Proofs.Disk
import FrontEnd.Proofs.Outcomes
import FrontEnd.Trace.Timer

/-!
What tracing does to the hub. Events are numbered, kept in rings and written to streams; of the disk
only the files that streams are written to can change. Spans, points and phases are events, so that
the same holds of whatever is told by them.
-/
namespace FrontEnd

namespace Trace

theorem OpenFile.take_path (f : OpenFile) (s : Bytes) : (f.take s).2.path = f.path := by
  unfold take
  dsimp only
  repeat' split
  all_goals rfl

namespace Hub

/-- A stream of the hub is written to the file at a path. -/
def WritesTo (h : Hub) (p : Bytes) : Prop :=
  ∃ (i : Nat) (st : Stream) (f : OpenFile), h.streams[i]? = some st ∧
    st.output = .file f ∧ f.path = p

theorem not_writesTo {h : Hub} (hnone : h.streams.size = 0) (p : Bytes) : ¬ h.WritesTo p := by
  rintro ⟨i, st, f, hst, -⟩
  rw [Array.getElem?_eq_none (by omega)] at hst
  cases hst

/-- All that tracing changes of the disk is in the files of streams, and these stay the same
ones. -/
structure Traced (h h' : Hub) : Prop where
  targets : ∀ p, h'.WritesTo p → h.WritesTo p
  cwd : h'.disk.cwd = h.disk.cwd
  old : ∀ ns b, h'.disk.root.find? ns = some (.file b) →
    h.disk.root.find? ns = some (.file b) ∨ ∃ p, h.WritesTo p ∧ ns = h.disk.place p
  still : (∀ p, ¬ h.WritesTo p) → h'.disk = h.disk

theorem traced_of_eq {h h' : Hub} (hdisk : h'.disk = h.disk) (hstreams : h'.streams = h.streams) :
    h.Traced h' where
  targets := by unfold WritesTo; rw [hstreams]; exact fun _ hp => hp
  cwd := by rw [hdisk]
  old := by rw [hdisk]; exact fun _ _ hb => .inl hb
  still _ := hdisk

theorem Traced.refl (h : Hub) : h.Traced h := traced_of_eq rfl rfl

/-- Where no stream goes to a file, it stays so, and the disk stays as it is. -/
theorem Traced.unwritten {h h' : Hub} (ht : h.Traced h') (hnone : ∀ p, ¬ h.WritesTo p) :
    h'.disk = h.disk ∧ ∀ p, ¬ h'.WritesTo p :=
  ⟨ht.still hnone, fun p hp => hnone p (ht.targets p hp)⟩

theorem Traced.trans {h₁ h₂ h₃ : Hub} (h : h₁.Traced h₂) (h' : h₂.Traced h₃) : h₁.Traced h₃ where
  targets p hp := h.targets p (h'.targets p hp)
  cwd := h'.cwd.trans h.cwd
  old ns b hb := by
    rcases h'.old ns b hb with hold | ⟨p, hp, hns⟩
    · exact h.old ns b hold
    · exact .inr ⟨p, h.targets p hp, hns.trans (Disk.place_congr h.cwd p)⟩
  still hnone := by
    obtain ⟨hdisk, hnone'⟩ := h.unwritten hnone
    exact (h'.still hnone').trans hdisk

variable (h : Hub)

theorem writeAt_eq {d d' : Disk} {path s : Bytes} {place : Nat}
    (h : writeAt d path place s = .ok d') :
    d' = d ∨ ∃ b, d' = { d with root := d.root.put (d.place path) (.file b) } := by
  unfold writeAt at h
  split at h
  · exact (Disk.writeFile_eq h).imp_right fun hd => ⟨_, hd⟩
  · exact (Disk.writeFile_eq h).imp_right fun hd => ⟨_, hd⟩
  · exact .inl (Except.ok.inj h).symm
  · exact .inl (Except.ok.inj h).symm

/-- A file that text is written to keeps its path. Of the hub nothing changes but the disk, in that
file. -/
theorem writeFile_cases (f : OpenFile) (s : Bytes) : (h.writeFile f s).1.path = f.path ∧
    ((h.writeFile f s).2 = h ∨ ∃ b, (h.writeFile f s).2 =
      { h with
        disk := { h.disk with root := h.disk.root.put (h.disk.place f.path) (.file b) } }) := by
  unfold writeFile
  split
  · exact ⟨rfl, .inl rfl⟩
  split
  · exact ⟨rfl, .inl rfl⟩
  split
  · rename_i d' hwrite
    rcases writeAt_eq hwrite with rfl | ⟨b, rfl⟩
    · exact ⟨rfl, .inl rfl⟩
    · exact ⟨rfl, .inr ⟨b, rfl⟩⟩
  · exact ⟨rfl, .inl rfl⟩

/-- A hub with another disk, in which only the file of a stream is another one. -/
theorem traced_put {p : Bytes} (hp : h.WritesTo p) (b : Bytes) :
    h.Traced { h with
      disk := { h.disk with root := h.disk.root.put (h.disk.place p) (.file b) } } where
  targets _ hq := hq
  cwd := rfl
  old ns c hc := by
    rcases Tree.find?_put_file hc with ⟨r, hns, hr⟩ | hold
    · cases r with
      | nil => exact .inr ⟨p, hp, by rw [hns, List.append_nil]⟩
      | cons n r => cases hr
    · exact .inl hold
  still hnone := absurd hp (hnone p)

theorem writeFile_traced {f : OpenFile} (hf : h.WritesTo f.path) (s : Bytes) :
    h.Traced (h.writeFile f s).2 := by
  rcases (h.writeFile_cases f s).2 with heq | ⟨b, heq⟩
  · rw [heq]
    exact .refl h
  · rw [heq]
    exact h.traced_put hf b

/-- Writing to an output of the hub: the output stays where it is. -/
theorem write_traced {o : Output} (ho : ∀ f, o = .file f → h.WritesTo f.path) (s : Bytes) :
    h.Traced (h.write o s).2 ∧
      ∀ f', (h.write o s).1 = .file f' → ∃ f, o = .file f ∧ f'.path = f.path := by
  cases o with
  | memory w => exact ⟨.refl h, fun _ he => by cases he⟩
  | broken => exact ⟨.refl h, fun _ he => by cases he⟩
  | console => exact ⟨traced_of_eq rfl rfl, fun _ he => by cases he⟩
  | file f =>
    have hpath : (f.take s).2.path = f.path := f.take_path s
    have hfile : h.WritesTo (f.take s).2.path := by rw [hpath]; exact ho f rfl
    refine ⟨h.writeFile_traced hfile _, ?_⟩
    intro f' he
    obtain rfl : (h.writeFile (f.take s).2 (f.take s).1).1 = f' := Output.file.inj he
    exact ⟨f, rfl, (h.writeFile_cases _ _).1.trans hpath⟩

/-- A stream may get another output if that is no file of another path. -/
theorem setOutput_traced {i : Nat} {o : Output} (ho : ∀ f, o = .file f → h.WritesTo f.path) :
    h.Traced (h.setOutput i o) where
  targets p := by
    rintro ⟨j, st, f, hst, hf, rfl⟩
    simp only [setOutput, Array.getElem?_modify] at hst
    split at hst
    · obtain ⟨st', -, rfl⟩ := Option.map_eq_some_iff.mp hst
      exact ho f hf
    · exact ⟨j, st, f, hst, hf, rfl⟩
  cwd := rfl
  old _ _ hb := .inl hb
  still _ := rfl

theorem write_streams (o : Output) (s : Bytes) : (h.write o s).2.streams = h.streams := by
  cases o with
  | file f =>
    change (h.writeFile (f.take s).2 (f.take s).1).2.streams = h.streams
    rcases (h.writeFile_cases (f.take s).2 (f.take s).1).2 with heq | ⟨b, heq⟩ <;> rw [heq]
  | _ => rfl

/-- Text written to the output that a stream has, which it keeps. -/
theorem writeStream_traced {i : Nat} {st : Stream} (hst : h.streams[i]? = some st) (s : Bytes) :
    h.Traced ((h.write st.output s).2.setOutput i (h.write st.output s).1) := by
  obtain ⟨hwrite, hstays⟩ :=
    h.write_traced (fun f hf => ⟨i, st, f, hst, hf, rfl⟩ : ∀ f, st.output = .file f → _) s
  refine hwrite.trans (setOutput_traced _ ?_)
  intro f' hf'
  obtain ⟨f, hf, hpath⟩ := hstays f' hf'
  exact ⟨i, st, f, by rw [write_streams, hst], hf, hpath.symm⟩

theorem give_traced (e : Event) (s : Sink) : h.Traced (h.give e s).2 := by
  have hseq : h.Traced h.nextSeq.2 := traced_of_eq rfl rfl
  unfold give
  split
  · cases s with
    | ring i => exact traced_of_eq rfl rfl
    | stream i =>
      dsimp only
      split
      · exact hseq
      · rename_i st hst
        exact hseq.trans (writeStream_traced _ hst _)
  · exact .refl h

theorem emit_traced (t : Tracer) (e : Event) : h.Traced (h.emit t e) := by
  unfold emit
  induction t.sinks generalizing h with
  | nil => exact .refl h
  | cons s ss ih => exact (h.give_traced e s).trans (ih _)

theorem beginSpan_traced (t : Tracer) (scope : Scope) (name : Bytes) (parent : UInt64) :
    h.Traced (h.beginSpan t scope name parent).2 := by
  have hspan : h.Traced h.nextSpan.2 := traced_of_eq rfl rfl
  unfold beginSpan
  split
  · exact hspan.trans (emit_traced _ t _)
  · exact .refl h

theorem endSpan_traced (s : Option Span) (detail : Bytes) : h.Traced (h.endSpan s detail).2 := by
  cases s with
  | none => exact .refl h
  | some s => exact h.emit_traced s.tracer _

theorem note_traced (s : Option Span) (key value : Bytes) : h.Traced (h.note s key value) := by
  cases s with
  | none => exact .refl h
  | some s => exact traced_of_eq rfl rfl

theorem point_traced (t : Tracer) (scope : Scope) (name detail : Bytes) (parent : UInt64) :
    h.Traced (h.point t scope name detail parent) := by
  have hspan : h.Traced h.nextSpan.2 := traced_of_eq rfl rfl
  unfold point
  split
  · exact hspan.trans (emit_traced _ t _)
  · exact .refl h

theorem start_traced (c : Context) (scope : Scope) (name : Bytes) :
    h.Traced (h.start c scope name).2 :=
  h.beginSpan_traced c.tracer scope name c.current

theorem addStream_traced {st : Stream} (hst : ∀ f, st.output ≠ .file f) :
    h.Traced (h.addStream st).2 where
  targets := by
    rintro p ⟨i, st', f, hi, hf, hp⟩
    change (h.streams.push st)[i]? = some st' at hi
    rw [Array.getElem?_push] at hi
    split at hi
    · cases hi
      exact absurd hf (hst f)
    · exact ⟨i, st', f, hi, hf, hp⟩
  cwd := rfl
  old _ _ hb := .inl hb
  still _ := rfl

theorem addRing_traced (r : Ring) : h.Traced (h.addRing r).2 := traced_of_eq rfl rfl

variable {h} {h' : Hub} {s : Settings} {t : Tracer}

theorem openStream_traced (hs : s.path = [] ∨ s.path = "-") (hopen : h.openStream s = .ok (t, h')) :
    h.Traced h' := by
  unfold openStream at hopen
  dsimp only at hopen
  rw [if_pos hs] at hopen
  split at hopen
  · cases hopen
    exact h.addStream_traced nofun
  · cases hopen
    exact h.addStream_traced nofun

theorem openRing_traced {size : Int} {level : Level} (hopen : h.openRing size level = .ok (t, h')) :
    h.Traced h' := by
  unfold openRing at hopen
  split at hopen
  · cases hopen
  · cases hopen
    exact h.addRing_traced _

/-- Opening a tracer leaves the disk alone, unless the trace goes to a file. -/
theorem openTracer_traced (hs : s.level = .off ∨ s.path = [] ∨ s.path = "-")
    (hopen : h.openTracer s = .ok (t, h')) : h.Traced h' := by
  unfold openTracer at hopen
  split at hopen
  · cases hopen
    exact .refl h
  · rename_i hlevel
    have hpath := hs.resolve_left hlevel
    dsimp only at hopen
    generalize (if s.storage = ⟨0⟩ then Storage.stream else s.storage) = storage at hopen
    split at hopen
    · exact openStream_traced hpath hopen
    · split at hopen
      · exact openRing_traced hopen
      · split at hopen
        · obtain ⟨x, hstream, hrest⟩ := bind_eq_ok_iff.mp hopen
          obtain ⟨y, hring, hlast⟩ := bind_eq_ok_iff.mp hrest
          cases hlast
          exact (openStream_traced hpath hstream).trans (openRing_traced hring)
        · cases hopen

end Hub

namespace Timer

theorem begin_traced (t : Timer) (h : Hub) (name : Bytes) : h.Traced (t.begin h name).2.2 :=
  h.beginSpan_traced _ _ _ _

theorem finish_traced (t : Timer) (h : Hub) (i : Int) (note : Bytes) :
    h.Traced (t.finish h i note).2 := by
  unfold finish
  split
  · exact .refl h
  · split
    · exact .refl h
    · exact h.endSpan_traced _ _

end Timer

end Trace

end FrontEnd
