import FrontEnd.Ir.Workbench
import FrontEnd.Proofs.Ir.Run

/-!
Refused calls. A call that finds fault with what it is given has changed nothing: neither the
context it is made on nor any other, be it types, values, names, modules or symbols. Only for want
of a number, which is no fault of the caller, does a call stop halfway, and then a signature is left
over.
-/
namespace FrontEnd.Ir

namespace Call

variable {c c' : Context} {call : Call} {e : Misuse}

theorem Effect.eq_of_error (h : Effect c call (.error e c')) (he : e ≠ .exhausted) : c' = c := by
  cases h with
  | refused => rfl
  | exhausted => exact absurd rfl he

theorem Effect.signatures_of_error (h : Effect c call (.error e c')) :
    { c' with signatures := c.signatures } = c := by
  cases h <;> rfl

end Call

namespace Workbench

variable (w : Workbench)

/-- One context of the workbench is replaced. -/
def put (k : Nat) (c : Context) : Workbench := ⟨w.contexts.setIfInBounds k c⟩

theorem put_self (k : Nat) : w.put k (w.context k) = w := by
  obtain ⟨contexts⟩ := w
  rw [put, mk.injEq]
  apply Array.ext_getElem?
  intro j
  rw [Array.getElem?_setIfInBounds]
  split
  · rename_i hk
    subst hk
    by_cases hlt : k < contexts.size
    · simp [context, hlt]
    · simp [hlt]
  · rfl

theorem context_put (k : Nat) (c : Context) (j : Nat) :
    (w.put k c).context j = if k = j ∧ k < w.contexts.size then c else w.context j := by
  simp only [context, put, Array.getElem?_setIfInBounds]
  by_cases hk : k = j
  · by_cases hlt : j < w.contexts.size
    · simp [hk, hlt]
    · simp [hk, hlt]
  · simp [hk]

theorem run_of_error {α : Type} {k : Nat} {b : Build α} {e : Misuse}
    (h : (w.run k b).1 = .error e) :
    ∃ c, b (w.context k) = .error e c ∧ (w.run k b).2 = w.put k c := by
  unfold run at h ⊢
  cases hb : b (w.context k) with
  | ok a c => simp [hb] at h
  | error e' c =>
    simp only [hb, Except.error.injEq] at h
    exact ⟨c, by rw [h], rfl⟩

/-- A call that finds fault leaves the workbench as it was, and even one that runs out of numbers
changes nothing but signatures. -/
theorem runOn_refused (k : Option Nat) (call : Call) {e : Misuse}
    (h : (w.runOn k call.perform).1 = .error e) :
    (e ≠ .exhausted → (w.runOn k call.perform).2 = w) ∧
      ∀ j, { (w.runOn k call.perform).2.context j with
        signatures := (w.context j).signatures } = w.context j := by
  cases k with
  | none => exact ⟨fun _ => rfl, fun _ => rfl⟩
  | some k =>
    obtain ⟨c, hc, hput⟩ := w.run_of_error h
    have hleft : (w.runOn (some k) call.perform).2 = w.put k c := hput
    have heffect := Call.perform_effect (w.context k) call
    rw [hc] at heffect
    rw [hleft]
    constructor
    · intro he
      rw [heffect.eq_of_error he, put_self]
    · intro j
      rw [context_put]
      split
      · rename_i hj
        exact hj.1 ▸ heffect.signatures_of_error
      · rfl

/-- One module with one function, which has an argument and a body. -/
def small : Workbench :=
  ⟨#[Call.run {} [.module none, .function 0 (.own (.integer 32)) "f",
    .argument 0 (.own (.primitive .float)) (.own 1) "x", .block 0 (.own ()) "entry" (.own 1)], {}]⟩

/-- Calls with which something is wrong, and what it is. -/
def misuses : List (Option Nat × Call × Misuse) :=
  [(none, .integer 8, .noContext), (some 0, .primitive 99, .notPrimitive 99),
    (some 0, .integer 256, .invalidWidth 256), (some 0, .signature .missing, .noResultType),
    (some 0, .function 0 (.foreign (some "i8")) "g", .foreignType "i8"),
    (some 0, .argument 0 (.own (.integer 8)) .missing "y", .argumentWithoutFunction),
    (some 0, .argument 0 .missing (.own 1) "y", .noType),
    (some 0, .block 0 (.foreign ()) "again" (.own 1), .blockOfOtherContext),
    (some 0, .block 0 (.own ()) "again" (.own 1), .secondBody "f"),
    (some 0, .binary 0 99 (.own 2) (.own 2) (.own 3), .unknownOperator 99),
    (some 0, .binary 0 0 (.own 2) (.foreign (.argument, 7)) (.own 3), .foreignValue .argument 7),
    (some 0, .binary 0 0 (.own 2) (.own 3) (.own 3), .operandTypes .add "f32" "label"),
    (some 0, .ret 0 (.own 2) .missing, .instructionWithoutBlock),
    (some 0, .setName 2 "z", .alreadyNamed .argument 2 "x")]

theorem runOn_refused_misuses :
    misuses.map (fun (k, call, _) => small.runOn k call.perform) =
      misuses.map fun (_, _, e) => (.error e, small) := by
  have herror : ∀ u ∈ misuses, (small.runOn u.1 u.2.1.perform).1 = .error u.2.2 :=
    List.map_inj_left.mp rfl
  have hfault : ∀ u ∈ misuses, u.2.2 ≠ .exhausted := by decide
  apply List.map_congr_left
  intro u hu
  exact Prod.ext (herror u hu) ((runOn_refused small u.1 u.2.1 (herror u hu)).1 (hfault u hu))

end Workbench

end FrontEnd.Ir
