import FrontEnd.Proofs.Reporting
import Mathlib.Data.List.Induction

/-!
A builder through a whole script of calls, refused ones included. A refused call leaves the builder
as it was, so the diagnostic in flight is always that of the last accepted creation with the notes
taken since, and what has reached the reporter is what the accepted flushes gave back.
-/
namespace FrontEnd

namespace Template

/-- Somewhere in the template the argument with this number is to be put in. -/
def AsksFor (template : Bytes) (i : Nat) : Prop :=
  ∃ d : UInt8, (48 ≤ d ∧ d ≤ 57) ∧ [percent, d] <:+: template ∧ i = d.toNat - 48

theorem names_of_expandOnto {template : Bytes} {args : List Arg} {acc s m : Bytes}
    (h : expandOnto template args acc s = .ok m) : names args.length s = true := by
  induction s using names.induct generalizing acc with
  | case1 => rfl
  | case2 b r hb ih =>
    rw [expandOnto.eq_def] at h
    simp only [hb, ne_eq, not_false_eq_true, if_true] at h
    rw [names.eq_def]
    simpa only [hb, ne_eq, not_false_eq_true, if_true] using ih h
  | case3 b hb => simp [expandOnto, hb] at h
  | case4 b hb d r' ih =>
    simp only [ne_eq, Decidable.not_not] at hb
    subst hb
    rw [expandOnto.eq_def] at h
    simp only [ne_eq, not_true_eq_false, if_false] at h
    by_cases hd : 48 ≤ d ∧ d ≤ 57
    · cases ha : args[d.toNat - 48]? with
      | none => simp [hd, ha] at h
      | some a =>
        simp only [hd, and_self, if_true, ha] at h
        have hlt : d.toNat - 48 < args.length := (List.getElem?_eq_some_iff.mp ha).1
        simp [names, hd, hlt, ih h]
    · simp [hd] at h

theorem expand_ok_iff (template : Bytes) (args : List Arg) :
    (∃ m, expand template args = .ok m) ↔ names args.length template = true :=
  ⟨fun ⟨_, h⟩ => names_of_expandOnto h, expand_names⟩

theorem asksFor_cons {b : UInt8} (hb : b ≠ percent) (r : Bytes) (i : Nat) :
    AsksFor (b :: r) i ↔ AsksFor r i := by
  simp only [AsksFor, List.infix_cons_iff, List.cons_prefix_cons, Ne.symm hb, false_and, false_or]

/-- The digit is no per cent sign, so nothing is asked for from there on but behind it. -/
theorem asksFor_percent {d : UInt8} (hd : 48 ≤ d ∧ d ≤ 57) (r : Bytes) (i : Nat) :
    AsksFor (percent :: d :: r) i ↔ i = d.toNat - 48 ∨ AsksFor r i := by
  have hne : d ≠ percent := by
    rintro rfl
    exact absurd hd.1 (by decide)
  rw [← asksFor_cons hne r i]
  constructor
  · rintro ⟨e, he, hin, hi⟩
    rcases List.infix_cons_iff.mp hin with hfirst | hin
    · obtain ⟨rfl, -⟩ := List.cons_prefix_cons.mp (List.cons_prefix_cons.mp hfirst).2
      exact .inl hi
    · exact .inr ⟨e, he, hin, hi⟩
  · rintro (hi | ⟨e, he, hin, hi⟩)
    · exact ⟨d, hd, ⟨[], r, rfl⟩, hi⟩
    · exact ⟨e, he, List.infix_cons hin, hi⟩

/-- In a template without stray per cent signs, all that counts is which arguments are asked for. -/
theorem names_iff_asksFor {template : Bytes} {n : Nat} (h : names 10 template = true) :
    names n template = true ↔ ∀ i, AsksFor template i → i < n := by
  induction template using names.induct with
  | case1 => simp [names, AsksFor]
  | case2 b r hb ih =>
    rw [names.eq_def] at h ⊢
    simp only [hb, ne_eq, not_false_eq_true, if_true] at h ⊢
    simp only [ih h, asksFor_cons hb]
  | case3 b hb => simp [names, hb] at h
  | case4 b hb d r' ih =>
    simp only [ne_eq, Decidable.not_not] at hb
    subst hb
    simp only [names, ne_eq, not_true_eq_false, if_false, Bool.and_eq_true,
      decide_eq_true_eq] at h ⊢
    obtain ⟨⟨hd, -⟩, hr⟩ := h
    simp only [hd, and_self, true_and, ih hr, asksFor_percent hd, forall_eq_or_imp]

end Template

/-- No message has a stray per cent sign. -/
theorem Code.names_template (c : Code) : Template.names 10 c.template = true := by
  unfold Code.template Code.info?
  split <;> decide

/-- A message fails to expand for want of an argument only. -/
theorem Code.expand_error_iff (c : Code) (args : List Arg) :
    (∃ e, Template.expand c.template args = .error e) ↔
      ∃ i, Template.AsksFor c.template i ∧ args.length ≤ i := by
  have hok := (Template.expand_ok_iff c.template args).trans
    (Template.names_iff_asksFor c.names_template)
  cases he : Template.expand c.template args with
  | ok m =>
    have hall := hok.mp ⟨m, he⟩
    simp only [reduceCtorEq, exists_false, false_iff, not_exists, not_and, Nat.not_le]
    exact hall
  | error e =>
    simp only [Except.error.injEq, exists_eq', true_iff]
    by_contra hnone
    obtain ⟨m, hm⟩ := hok.mpr fun i hi => by
      by_contra hle
      exact hnone ⟨i, hi, Nat.le_of_not_lt hle⟩
    simp [he] at hm

namespace Reporting

variable {σ : Type}

/-- What is refused or gives a new builder, done in place: a refusal leaves the builder alone. -/
def outcome {α : Type} (b : Builder σ) :
    Except BuilderError (Builder σ × α) → EStateM.Result BuilderError (Builder σ) α
  | .ok (b', a) => .ok a b'
  | .error e => .error e b

theorem createWith_apply (severity : Severity) (code : Code) (primary : Span) (args : List Arg)
    (b : Builder σ) : createWith severity code primary args b =
      outcome b ((b.createWith severity code primary args).map (·, ())) := by
  obtain ⟨report, sink, _ | d, flushed⟩ := b <;> rfl

theorem note_apply (span : Span) (message : Bytes) (b : Builder σ) :
    note span message b = outcome b ((b.note span message).map (·, ())) := by
  obtain ⟨report, sink, _ | d, flushed⟩ := b <;> rfl

theorem flush_apply (b : Builder σ) : flush b = outcome b b.flush := by
  obtain ⟨report, sink, _ | d, flushed⟩ := b
  · rfl
  · -- nothing is written before the message is known, so a failure has nothing to undo
    change flush.run _ = _
    cases he : Template.expand d.code.template d.args with
    | error e =>
      simp [flush, Builder.flush, he]
      rfl
    | ok message =>
      simp [flush, Builder.flush, he]
      rfl

theorem return_apply {α β : Type} {x : Reporting σ α} {b : Builder σ}
    {r : Except BuilderError (Builder σ × α)} (h : x b = outcome b r) (g : α → β) :
    (do return g (← x) : Reporting σ β) b = outcome b (r.map fun (b', a) => (b', g a)) := by
  change EStateM.bind x _ b = _
  rw [EStateM.bind, h]
  cases r <;> rfl

/-- What is asked of a builder. -/
inductive Call where
  | create (code : Code) (primary : Span) (args : List Arg)
  | createWith (severity : Severity) (code : Code) (primary : Span) (args : List Arg)
  | note (span : Span) (message : Bytes)
  | flush

namespace Call

/-- Only a flush gives something back. -/
def perform : Call → Reporting σ (Option Diagnostic)
  | .create code primary args => do Reporting.create code primary args; return none
  | .createWith severity code primary args => do
    Reporting.createWith severity code primary args
    return none
  | .note span message => do Reporting.note span message; return none
  | .flush => do return some (← Reporting.flush)

/-- The diagnostic that a call is to put in flight. -/
def draft? : Call → Option Diagnostic
  | .create code primary args =>
    some { severity := Severity.error, code, message := [], primary, args }
  | .createWith severity code primary args => some { severity, code, message := [], primary, args }
  | _ => none

def note? : Call → Option Note
  | .note span message => some ⟨span, message⟩
  | _ => none

/-- All that a call can do. -/
inductive Effect (b : Builder σ) :
    Call → EStateM.Result BuilderError (Builder σ) (Option Diagnostic) → Prop
  | created {call : Call} {draft : Diagnostic} (hd : call.draft? = some draft)
      (hp : b.pending = none) : Effect b call (.ok none { b with pending := some draft })
  | taken {call : Call} {draft d : Diagnostic} (hd : call.draft? = some draft)
      (hp : b.pending = some d) : Effect b call (.error (.stillInFlight draft.code d.code) b)
  | noted {span : Span} {message : Bytes} {d : Diagnostic} (hp : b.pending = some d) :
      Effect b (.note span message)
        (.ok none { b with pending := some { d with notes := d.notes ++ [⟨span, message⟩] } })
  | unnoted {span : Span} {message : Bytes} (hp : b.pending = none) :
      Effect b (.note span message) (.error .nothingInFlight b)
  | flushed {d : Diagnostic} {message : Bytes} (hp : b.pending = some d)
      (he : Template.expand d.code.template d.args = .ok message) :
      Effect b .flush (.ok (some { d with message }) (b.handOn { d with message }))
  | unexpanded {d : Diagnostic} {e : Template.Error} (hp : b.pending = some d)
      (he : Template.expand d.code.template d.args = .error e) :
      Effect b .flush (.error (.template e) b)
  | idle (hp : b.pending = none) : Effect b .flush (.error .nothingInFlight b)

theorem effect_of_draft {call : Call} {severity : Severity} {code : Code} {primary : Span}
    {args : List Arg} {b : Builder σ}
    (hd : call.draft? = some { severity, code, message := [], primary, args })
    (h : call.perform b = (do Reporting.createWith severity code primary args; return none) b) :
    Effect b call (call.perform b) := by
  rw [h, return_apply (createWith_apply severity code primary args b) fun _ => none,
    Builder.createWith]
  cases hp : b.pending with
  | none => exact .created hd hp
  | some d => exact .taken hd hp

theorem effect (call : Call) (b : Builder σ) : Effect b call (call.perform b) := by
  cases call with
  | create code primary args => exact effect_of_draft rfl rfl
  | createWith severity code primary args => exact effect_of_draft rfl rfl
  | note span message =>
    rw [perform, return_apply (note_apply span message b) fun _ => none, Builder.note]
    cases hp : b.pending with
    | none => exact .unnoted hp
    | some d => exact .noted hp
  | flush =>
    rw [perform, return_apply (flush_apply b) some, Builder.flush]
    cases hp : b.pending with
    | none => exact .idle hp
    | some d =>
      cases he : Template.expand d.code.template d.args with
      | error e =>
        simp only [he]
        exact .unexpanded hp he
      | ok message =>
        simp only [he]
        exact .flushed hp he

/-- When a call is out of place: a creation while a diagnostic is in flight, a note while none is,
and a flush while none is or with too few arguments for the message. -/
def Misplaced (b : Builder σ) : Call → Prop
  | .create _ _ _ | .createWith _ _ _ _ => b.isInFlight = true
  | .note _ _ => b.isInFlight = false
  | .flush => b.isInFlight = false ∨
      ∃ d i, b.pending = some d ∧ Template.AsksFor d.code.template i ∧ d.args.length ≤ i

theorem misplaced_of_draft {call : Call} {draft : Diagnostic} (hd : call.draft? = some draft)
    (b : Builder σ) : call.Misplaced b ↔ b.isInFlight = true := by
  cases call <;> first | exact Iff.rfl | simp [draft?] at hd

theorem refused_iff (call : Call) (b : Builder σ) :
    (∃ e b', call.perform b = .error e b') ↔ call.Misplaced b := by
  have he := effect call b
  generalize call.perform b = r at he
  cases he with
  | created hd hp => simp [misplaced_of_draft hd, Builder.isInFlight, hp]
  | taken hd hp => simp [misplaced_of_draft hd, Builder.isInFlight, hp]
  | noted hp => simp [Misplaced, Builder.isInFlight, hp]
  | unnoted hp => simp [Misplaced, Builder.isInFlight, hp]
  | idle hp => simp [Misplaced, Builder.isInFlight, hp]
  | @flushed d message hp he =>
    have hasks := (Code.expand_error_iff d.code d.args).not.mp (by simp [he])
    simpa [Misplaced, Builder.isInFlight, hp] using hasks
  | @unexpanded d e hp he =>
    have hasks := (Code.expand_error_iff d.code d.args).mp ⟨e, he⟩
    simpa [Misplaced, Builder.isInFlight, hp] using hasks

theorem unchanged_of_refused {call : Call} {b b' : Builder σ} {e : BuilderError}
    (h : call.perform b = .error e b') : b' = b := by
  have he := effect call b
  rw [h] at he
  cases he <;> rfl

/-- The builder after a call, refused or not. -/
def left : EStateM.Result BuilderError (Builder σ) (Option Diagnostic) → Builder σ
  | .ok _ b | .error _ b => b

/-- The diagnostic that a flush gave back. -/
def returned? : EStateM.Result BuilderError (Builder σ) (Option Diagnostic) → Option Diagnostic
  | .ok d? _ => d?
  | .error _ _ => none

end Call

open Call (left returned?)

/-- The builder after all the calls, made one after the other. -/
def run (b : Builder σ) : List Call → Builder σ
  | [] => b
  | call :: calls => run (left (call.perform b)) calls

/-- What the flushes that went through gave back, in order. -/
def flushes (b : Builder σ) : List Call → List Diagnostic
  | [] => []
  | call :: calls =>
    (returned? (call.perform b)).toList ++ flushes (left (call.perform b)) calls

theorem run_concat (b : Builder σ) (calls : List Call) (call : Call) :
    run b (calls ++ [call]) = left (call.perform (run b calls)) := by
  induction calls generalizing b with
  | nil => rfl
  | cons first calls ih => exact ih (left (first.perform b))

/-- The second builder is the first with these diagnostics handed to the reporter and counted. -/
structure Handed (b c : Builder σ) (ds : List Diagnostic) : Prop where
  report : c.report = b.report
  sink : c.sink = ds.foldl b.report b.sink
  flushed : c.flushed = b.flushed + ds.length

theorem Handed.trans {b c d : Builder σ} {ds es : List Diagnostic} (h : Handed b c ds)
    (h' : Handed c d es) : Handed b d (ds ++ es) where
  report := h'.report.trans h.report
  sink := by rw [h'.sink, h.sink, h.report, List.foldl_append]
  flushed := by rw [h'.flushed, h.flushed, List.length_append, Nat.add_assoc]

theorem Call.Effect.handed {b : Builder σ} {call : Call}
    {r : EStateM.Result BuilderError (Builder σ) (Option Diagnostic)} (h : Effect b call r) :
    Handed b (left r) (returned? r).toList := by
  cases h <;> exact ⟨rfl, rfl, rfl⟩

theorem run_handed (b : Builder σ) (calls : List Call) :
    Handed b (run b calls) (flushes b calls) := by
  induction calls generalizing b with
  | nil => exact ⟨rfl, rfl, rfl⟩
  | cons call calls ih => exact (Call.effect call b).handed.trans (ih _)

/-- The diagnostic `d` comes from the call `create`: nothing was in flight then, one has been
ever since, and the notes are those taken since. -/
structure Drafted (b : Builder σ) (before : List Call) (create : Call) (since : List Call)
    (d : Diagnostic) : Prop where
  idle : (run b before).pending = none
  inFlight : ∀ part, part <+: since → (run b (before ++ create :: part)).isInFlight = true
  draft : create.draft? = some { d with message := [], notes := [] }
  notes : d.notes = since.filterMap Call.note?

theorem Call.blank_draft {call : Call} {d : Diagnostic} (h : call.draft? = some d) :
    { d with message := [], notes := [] } = d := by
  cases call <;> simp only [draft?, Option.some.injEq, reduceCtorEq] at h <;> exact h ▸ rfl

/-- What is in flight after a call has just been created, or was in flight before it and has its
note as well, if the call is one. -/
theorem Call.Effect.pending_cases {b : Builder σ} {call : Call} {d' : Diagnostic}
    {r : EStateM.Result BuilderError (Builder σ) (Option Diagnostic)} (h : Effect b call r)
    (hp' : (left r).pending = some d') :
    b.pending = none ∧ call.draft? = some d' ∨
      ∃ d, b.pending = some d ∧ d' = { d with notes := d.notes ++ call.note?.toList } := by
  cases h with
  | created hd hp => exact .inl ⟨hp, hd.trans hp'⟩
  | @taken _ draft d hd hp =>
    have hnote : call.note? = none := by cases call <;> first | rfl | simp [draft?] at hd
    exact .inr ⟨d', hp', by simp [hnote]⟩
  | @noted _ _ d hp => exact .inr ⟨d, hp, (Option.some.inj hp').symm⟩
  | unexpanded hp he => exact .inr ⟨d', hp', by simp [note?]⟩
  | unnoted hp => exact absurd (hp.symm.trans hp') (by simp)
  | idle hp => exact absurd (hp.symm.trans hp') (by simp)
  | flushed hp he => simp [left] at hp'

/-- Whatever is in flight comes from the last creation that was accepted. -/
theorem run_drafted {b : Builder σ} (hb : b.pending = none) (calls : List Call) {d : Diagnostic}
    (hp : (run b calls).pending = some d) :
    ∃ before create since, calls = before ++ create :: since ∧
      Drafted b before create since d := by
  induction calls using List.reverseRecOn generalizing d with
  | nil => exact absurd (hb.symm.trans hp) (by simp)
  | append_singleton calls call ih =>
    have hleft := hp
    rw [run_concat] at hp
    rcases (Call.effect call (run b calls)).pending_cases hp with ⟨hidle, hd⟩ | ⟨d₀, hp₀, rfl⟩
    · -- the last call created it, and there are none since
      refine ⟨calls, call, [], rfl, hidle, ?_, ?_, ?_⟩
      · intro part hpart
        rw [List.prefix_nil.mp hpart, Builder.isInFlight, hleft]
        rfl
      · rw [hd, Call.blank_draft hd]
      · exact congrArg Diagnostic.notes (Call.blank_draft hd).symm
    · -- it was in flight before, and the last call goes to those since its creation
      obtain ⟨before, create, since, rfl, h⟩ := ih hp₀
      refine ⟨before, create, since ++ [call], by simp, h.idle, ?_, h.draft, ?_⟩
      · intro part hpart
        rcases List.prefix_concat_iff.mp hpart with rfl | hpart
        · rw [← List.cons_append, ← List.append_assoc, run_concat, Builder.isInFlight, hp]
          rfl
        · exact h.inFlight part hpart
      · cases hc : call.note? <;> simp [h.notes, hc]

/-- A flush gives back what was in flight, with its message. -/
theorem drafted_of_flush {b c' : Builder σ} (hb : b.pending = none) {calls : List Call}
    {d : Diagnostic} (h : Call.flush.perform (run b calls) = .ok (some d) c') :
    Template.expand d.code.template d.args = .ok d.message ∧
      ∃ before create since, calls = before ++ create :: since ∧
        Drafted b before create since d := by
  have he := Call.effect .flush (run b calls)
  rw [h] at he
  cases he with
  | flushed hp he =>
    obtain ⟨before, create, since, hcalls, hd⟩ := run_drafted hb calls hp
    exact ⟨he, before, create, since, hcalls, hd.idle, hd.inFlight, hd.draft, hd.notes⟩

/-- Any script, from a fresh builder on. A refused call changes nothing, and calls are refused when
they are out of place and only then. What has been handed to the reporter, and counted, is what the
flushes gave back, and each of these diagnostics is as its creation and the notes since say. -/
theorem run_reports_flushes (report : Reporter σ) (sink : σ) (calls : List Call) :
    let b : Builder σ := { report, sink }
    let c := run b calls
    (∀ (call : Call) e c', call.perform c = .error e c' → c' = c) ∧
      (∀ call : Call, (∃ e c', call.perform c = .error e c') ↔ call.Misplaced c) ∧
      c.sink = (flushes b calls).foldl report sink ∧
      c.flushed = (flushes b calls).length ∧
      ∀ earlier later d c', calls = earlier ++ .flush :: later →
        Call.flush.perform (run b earlier) = .ok (some d) c' →
          Template.expand d.code.template d.args = .ok d.message ∧
            ∃ before create since, earlier = before ++ create :: since ∧
              Drafted b before create since d := by
  intro b c
  have hhanded := run_handed b calls
  refine ⟨fun call e c' h => Call.unchanged_of_refused h, fun call => Call.refused_iff call c,
    hhanded.sink, ?_, ?_⟩
  · exact hhanded.flushed.trans (Nat.zero_add _)
  · intro earlier later d c' _ hflush
    exact drafted_of_flush rfl hflush

/-- Out of turn at first, then a warning with two notes and a creation in between, and at last an
error whose message lacks an argument. -/
def stumbling : List Call :=
  [.flush, .createWith Severity.warning .multiCharLiteral ⟨0, 1, 5⟩ [], .note ⟨0, 0, 1⟩ "here",
    .create .emptyChar ⟨0, 7, 9⟩ [], .note ⟨0, 5, 6⟩ "and here", .flush, .note ⟨0, 0, 1⟩ "late",
    .create .numberOverflow ⟨0, 10, 13⟩ [.text "300"], .flush]

theorem run_reports_flushes_stumbling :
    let b : Builder (List Diagnostic) := { report := fun ds d => ds ++ [d], sink := [] }
    let c := run b stumbling
    c.sink.map Diagnostic.notes = [[⟨⟨0, 0, 1⟩, "here"⟩, ⟨⟨0, 5, 6⟩, "and here"⟩]] ∧
      c.flushed = 1 ∧ c.isInFlight = true ∧
      (∃ e c', Call.flush.perform c = .error e c') ∧
      ∀ e c', Call.flush.perform c = .error e c' → c' = c := by
  intro b c
  obtain ⟨hkept, hrefused, hsink, hflushed, -⟩ :=
    run_reports_flushes (fun ds d => ds ++ [d]) ([] : List Diagnostic) stumbling
  refine ⟨?_, hflushed.trans (by decide), by decide, (hrefused .flush).mpr (.inr ?_), hkept .flush⟩
  · exact (congrArg (List.map Diagnostic.notes) hsink).trans (by decide)
  · exact ⟨_, 1, rfl, ⟨49, by decide, by decide, rfl⟩, by decide⟩

end Reporting

end FrontEnd
