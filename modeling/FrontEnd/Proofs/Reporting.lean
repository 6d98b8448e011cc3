import FrontEnd.Diagnostic.Builder

/-!
Reporting without a mistake of the reporter. A template that only names arguments that are there
expands, and a builder with nothing in flight that is given such a diagnostic hands it on and has
nothing in flight again.
-/
namespace FrontEnd

namespace Template

/-- Every per cent sign stands before a digit below `count`. -/
def names (count : Nat) : Bytes → Bool
  | [] => true
  | b :: r =>
    if b ≠ percent then names count r
    else match r with
      | [] => false
      | d :: r' => decide (48 ≤ d ∧ d ≤ 57) && decide (d.toNat - 48 < count) && names count r'

theorem expandOnto_names (template : Bytes) (args : List Arg) (acc s : Bytes)
    (h : names args.length s = true) : ∃ m, expandOnto template args acc s = .ok m := by
  induction s using names.induct generalizing acc with
  | case1 => exact ⟨acc.reverse, by simp [expandOnto]⟩
  | case2 b r hb ih =>
    rw [names.eq_def] at h
    simp only [hb, ne_eq, not_false_eq_true, if_true] at h
    rw [expandOnto.eq_def]
    simpa only [hb, ne_eq, not_false_eq_true, if_true] using ih (b :: acc) h
  | case3 b hb => simp [names, hb] at h
  | case4 b hb d r' ih =>
    simp only [ne_eq, Decidable.not_not] at hb
    subst hb
    simp only [names, ne_eq, not_true_eq_false, if_false, Bool.and_eq_true, decide_eq_true_eq] at h
    obtain ⟨⟨hd, hlt⟩, hr⟩ := h
    rw [expandOnto.eq_def]
    simp only [ne_eq, not_true_eq_false, if_false, hd, and_self, if_true,
      List.getElem?_eq_getElem hlt]
    exact ih _ hr

theorem expand_names {template : Bytes} {args : List Arg}
    (h : names args.length template = true) : ∃ m, expand template args = .ok m :=
  expandOnto_names template args [] template h

end Template

namespace Builder

variable {σ : Type}

/-- A builder that handed on one more diagnostic. -/
def handOn (b : Builder σ) (d : Diagnostic) : Builder σ :=
  { b with pending := none, flushed := b.flushed + 1, sink := b.report b.sink d }

/-- Creating and flushing at once succeeds when nothing is in flight and the arguments suffice. -/
theorem emit_eq {b : Builder σ} (hidle : b.pending = none) {code : Code} {args : List Arg}
    {message : Bytes} (he : Template.expand code.template args = .ok message) (primary : Span) :
    b.emit code primary args =
      .ok (b.handOn { severity := Severity.error, code, message, primary, args }) := by
  simp only [emit, create, createWith, hidle, flush, he]
  rfl

@[simp] theorem handOn_pending (b : Builder σ) (d : Diagnostic) : (b.handOn d).pending = none := rfl
@[simp] theorem handOn_report (b : Builder σ) (d : Diagnostic) :
    (b.handOn d).report = b.report := rfl
@[simp] theorem handOn_sink (b : Builder σ) (d : Diagnostic) :
    (b.handOn d).sink = b.report b.sink d := rfl

/-- The diagnostics handed on one after the other reach the sink in order. -/
theorem foldl_handOn_sink (ds : List Diagnostic) (b : Builder σ) :
    (ds.foldl handOn b).sink = ds.foldl b.report b.sink := by
  induction ds generalizing b with
  | nil => rfl
  | cons d ds ih => simpa using ih (b.handOn d)

theorem foldl_handOn_report (ds : List Diagnostic) (b : Builder σ) :
    (ds.foldl handOn b).report = b.report := by
  induction ds generalizing b with
  | nil => rfl
  | cons d ds ih => simpa using ih (b.handOn d)

theorem foldl_handOn_pending (ds : List Diagnostic) {b : Builder σ} (h : b.pending = none) :
    (ds.foldl handOn b).pending = none := by
  induction ds generalizing b with
  | nil => exact h
  | cons d ds ih => exact ih (handOn_pending b d)

end Builder

end FrontEnd
