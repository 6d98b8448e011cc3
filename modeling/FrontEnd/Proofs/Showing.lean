import FrontEnd.Proofs.Drawing
import FrontEnd.Proofs.Findings
import FrontEnd.Proofs.Tokenize
import FrontEnd.Proofs.TokenStream
import FrontEnd.Report.Document
import FrontEnd.Report.Tokens

/-!
What is found in a file can be shown. Every finding lies inside its lexeme, so every fault of a file
lies inside the file, and a report on some of them fails nowhere when the file is in the set;
neither does a listing of its tokens.
-/
namespace FrontEnd

/-- A mistake in a file, with no notes on other places. -/
structure Diagnostic.On (f : File) (d : Diagnostic) : Prop where
  severity : d.severity = Severity.error
  file : d.primary.file = f.id
  start_le : d.primary.start ≤ f.size
  notes : d.notes = []

theorem File.faults_on (f : File) : ∀ d ∈ f.faults, d.On f := by
  intro d hd
  obtain ⟨p, hp, hd⟩ := List.mem_flatMap.mp hd
  obtain ⟨finding, hfinding, rfl⟩ := List.mem_map.mp hd
  refine ⟨rfl, rfl, ?_, rfl⟩
  have hinside := (Lexeme.front?_itemised (f.front?_of_mem hp)).inside hfinding
    (f.reading_within.fronts p hp).size_pos
  have hstop : p.off + p.lexeme.size ≤ f.content.length :=
    Nat.le_trans (f.reading_within.before p hp) f.reading_within.stop_le
  exact f.offset_le (by omega) (Nat.le_refl _)

namespace Bag

theorem mem_addAll {b : Bag} {ds : List Diagnostic} {d : Diagnostic} (h : d ∈ (b.addAll ds).items) :
    d ∈ b.items ∨ d ∈ ds := by
  have hmem := (addAll_sublist b ds).subset (Array.mem_toList_iff.mpr h)
  rw [List.mem_append, Array.mem_toList_iff] at hmem
  exact hmem

theorem Fresh.not_mem {b : Bag} (h : b.Fresh) (d : Diagnostic) : d ∉ b.items := by
  rw [Array.eq_empty_of_size_eq_zero h.empty]
  exact Array.not_mem_empty d

theorem Fresh.mem_addAll {b : Bag} (h : b.Fresh) {ds : List Diagnostic} {d : Diagnostic}
    (hd : d ∈ (b.addAll ds).items) : d ∈ ds :=
  (Bag.mem_addAll hd).resolve_left (h.not_mem d)

theorem mem_sort {b : Bag} {d : Diagnostic} : d ∈ b.sort.items ↔ d ∈ b.items := by
  simp [sort, List.mem_mergeSort]

/-- A bag that was given some mistakes keeps one of them. -/
theorem Fresh.hasErrors_addAll {b : Bag} (h : b.Fresh) {ds : List Diagnostic}
    (hds : ∀ d ∈ ds, d.severity = Severity.error) : (b.addAll ds).hasErrors = true ↔ ds ≠ [] := by
  have hitems : ∀ d ∈ (b.addAll ds).items, d.severity = Severity.error :=
    fun d hd => hds d (h.mem_addAll hd)
  unfold hasErrors hasAtLeast
  rw [Array.any_eq_true']
  constructor
  · rintro ⟨d, hd, -⟩ rfl
    exact h.not_mem d hd
  · intro hne
    have hsize : (b.addAll ds).items.size ≠ 0 := fun hzero => hne (h.addAll_size hzero)
    have hmem := Array.getElem_mem (Nat.pos_of_ne_zero hsize)
    refine ⟨_, hmem, ?_⟩
    rw [hitems _ hmem]
    rfl

end Bag

/-- A listing leaves tokens out and adds none. -/
theorem Token.mem_of_mem_listed {t : Token} {ts : List Token} (h : t ∈ listed ts) : t ∈ ts := by
  induction ts with
  | nil => exact h
  | cons u ts ih =>
    unfold listed at h
    split at h
    · rw [List.mem_singleton.mp h]
      exact List.mem_cons_self
    · rcases List.mem_cons.mp h with rfl | h
      · exact List.mem_cons_self
      · exact List.mem_cons_of_mem u (ih h)

section Shown

variable {fs : FileSet} {f : File} (hget : fs.get f.id = .ok f)

include hget

theorem Pretty.render_ok (o : Options) {bag : Bag} (h : ∀ d ∈ bag.items, d.On f) :
    ∃ t, render o fs bag = .ok t := by
  refine exists_render_iff.mpr fun d hd => not_undrawable_iff.mpr ⟨⟨f, ?_, ?_⟩, ?_⟩
  · rw [(h d hd).file, hget]
  · rw [← f.toNat_size, ← UInt32.le_iff_toNat_le]
    exact (h d hd).start_le
  · intro _ n hn
    rw [(h d hd).notes] at hn
    cases hn

theorem Report.build_ok (o : Options) {bag : Bag} (h : ∀ d ∈ bag.items, d.On f) :
    ∃ r, build o fs bag = .ok r := by
  have hentries :
      ∃ es, (bag.items.toList.take (keep o.max bag.size)).mapM (entry o fs) = .ok es := by
    apply mapM_ok
    intro d hd
    have hon := h d (Array.mem_toList_iff.mp (List.mem_of_mem_take hd))
    have hlocation : ∃ l, locate o fs d.primary = .ok l := by
      unfold locate
      rw [hon.file, hget]
      exact ⟨_, rfl⟩
    obtain ⟨l, hl⟩ := hlocation
    unfold entry
    rw [hl, hon.notes]
    split <;> exact ⟨_, rfl⟩
  obtain ⟨es, hes⟩ := hentries
  unfold build
  dsimp only
  rw [hes]
  exact ⟨_, rfl⟩

namespace Token

theorem resolve_ok {t : Token} (ht : t.span.file = f.id) :
    fs.resolve t.span = .ok (f.locate t.span.start, f.locate t.span.stop) := by
  unfold FileSet.resolve
  rw [ht, hget]
  rfl

theorem records_ok {ts : List Token} (h : ∀ t ∈ ts, t.span.file = f.id) :
    ∃ rs, records (some fs) ts = .ok rs := by
  apply mapM_ok
  intro t ht
  unfold record
  dsimp only
  rw [resolve_ok hget (h t (mem_of_mem_listed ht))]
  exact ⟨_, rfl⟩

theorem pretty_ok {ts : List Token} (h : ∀ t ∈ ts, t.span.file = f.id) :
    ∃ s, pretty fs ts = .ok s := by
  have hlines : ∃ ls, ((listed ts).zipIdx.mapM fun (t, i) => prettyLine fs (i + 1) t) = .ok ls := by
    apply mapM_ok
    rintro ⟨t, i⟩ hti
    have ht := mem_of_mem_listed (List.mem_of_getElem? (List.mem_zipIdx_iff_getElem?.mp hti))
    unfold prettyLine
    dsimp only
    rw [resolve_ok hget (h t ht)]
    exact ⟨_, rfl⟩
  obtain ⟨ls, hls⟩ := hlines
  unfold pretty
  rw [hls]
  exact ⟨_, rfl⟩

end Token

end Shown

/-- A bag that a scan fills holds mistakes in the file. -/
theorem File.tokens_bag (f : File) (limit : UInt16) :
    ∃ b : Builder Bag, f.tokens (some { report := Reporter.bag, sink := { limit } }) =
      .ok (f.stream, some b) ∧ ∀ d ∈ b.sink.items, d.On f := by
  let b : Builder Bag := { report := Reporter.bag, sink := { limit } }
  have hsink : (f.faults.foldl Builder.handOn b).sink = Bag.addAll { limit } f.faults :=
    Builder.foldl_handOn_sink f.faults b
  refine ⟨f.faults.foldl Builder.handOn b, f.tokens_eq (by simp), fun d hd => f.faults_on d ?_⟩
  rw [hsink] at hd
  exact (Bag.mem_addAll hd).resolve_left (Array.not_mem_empty d)

/-- A bag is drawn unless it holds a diagnostic that cannot be, and each one drawn has its caret; in
the short form every bag is shown, with a set of files or without. Whatever a file holds, what a
scan finds in it is shown in both forms, in any order and with any of it left out. -/
theorem renders_unless_undrawable :
    (∀ (o : Pretty.Options) (fs : FileSet) (bag : Bag),
      ((∃ e, Pretty.render o fs bag = .error e) ↔ ∃ d ∈ bag.items, Pretty.Undrawable o fs d) ∧
        ∀ d t, Pretty.renderOne o fs d = .ok t → Pretty.Underlined o fs d t) ∧
    (∀ (view : PathView) (notes : Bool) (fs : Option FileSet) (bag : Bag),
      ∃ t, Short.render view notes fs bag = .ok t) ∧
    ∀ (fs : FileSet) (path content : Bytes) (flags : FileFlags), fs.Admits content →
      ∃ fs' id f, fs.add path content flags = .ok (fs', id) ∧ fs'.get id = .ok f ∧
        f.content = content ∧ ∀ limit, ∃ ts, ∃ b : Builder Bag,
          f.tokens (some { report := Reporter.bag, sink := { limit } }) = .ok (ts, some b) ∧
          ∀ (o : Pretty.Options) (view : PathView) (notes : Bool) (bag : Bag),
            (∀ d ∈ bag.items, d ∈ b.sink.items) →
            (∃ t, Pretty.render o fs' bag = .ok t) ∧
              ∃ t, Short.render view notes (some fs') bag = .ok t := by
  refine ⟨?_, Short.render_ok, ?_⟩
  · intro o fs bag
    refine ⟨?_, fun d t => Pretty.underlined_of_renderOne⟩
    rw [exists_error_iff, Pretty.exists_render_iff]
    simp only [not_forall, not_not, exists_prop]
  · intro fs path content flags room
    obtain ⟨⟨fs', id⟩, hadd⟩ : ∃ x, fs.add path content flags = .ok x := by
      obtain ⟨hfull, -⟩ | ⟨_, hadd⟩ := fs.add_stores path content flags
      · exact absurd room hfull
      · exact ⟨_, hadd⟩
    obtain ⟨f, hget, rfl, hcontent⟩ := FileSet.get_of_add hadd
    refine ⟨fs', f.id, f, hadd, hget, hcontent, fun limit => ?_⟩
    obtain ⟨b, htokens, hon⟩ := f.tokens_bag limit
    refine ⟨f.stream, b, htokens, fun o view notes bag hbag => ?_⟩
    exact ⟨Pretty.render_ok hget o fun d hd => hon d (hbag d hd),
      Short.render_ok view notes (some fs') bag⟩

/-- What is found in a text that no quote closes is drawn in order. -/
theorem renders_unless_undrawable_unclosed :
    FileSet.Admits {} [34, 97] ∧ ∃ fs' id f, FileSet.add {} "a.kj" [34, 97] 0 = .ok (fs', id) ∧
      fs'.get id = .ok f ∧ ∃ ts, ∃ b : Builder Bag,
        f.tokens (some { report := Reporter.bag, sink := { limit := 1 } }) = .ok (ts, some b) ∧
        ∃ t, Pretty.render ⟨⟨false, false⟩, ⟨.baseName, []⟩, true⟩ fs' b.sink.sort = .ok t := by
  have room : FileSet.Admits {} [34, 97] := ⟨by decide, by decide⟩
  obtain ⟨fs', id, f, hadd, hget, -, hscan⟩ :=
    renders_unless_undrawable.2.2 {} "a.kj" [34, 97] 0 room
  obtain ⟨ts, b, htokens, hshown⟩ := hscan 1
  refine ⟨room, fs', id, f, hadd, hget, ts, b, htokens, ?_⟩
  exact (hshown _ ⟨.baseName, []⟩ false b.sink.sort fun d => Bag.mem_sort.mp).1

end FrontEnd
