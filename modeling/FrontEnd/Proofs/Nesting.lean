import FrontEnd.Proofs.Ring
import FrontEnd.Proofs.Tracing

/-!
How spans nest in a trace. Work is outlined as a tree of spans, each with the work inside it and the
work after it. All moments at which spans are opened and ended follow from the outline alone; those
of the scopes that the level admits are what is told, and a span is told to be under the nearest
span around it that is told as well.
-/
namespace FrontEnd.Trace

/-- A piece of work that is done in a span, with what the clock shows when it begins and ends. -/
structure Job where
  scope : Scope
  name : Bytes
  detail : Bytes
  opened : Int
  ended : Int
  deriving DecidableEq, Repr

/-- Work in spans that are opened one after the other and one inside the other. -/
inductive Outline where
  | done
  /-- A span with the work inside it, then the work after it. -/
  | span (job : Job) (inside after : Outline)
  deriving DecidableEq, Repr

/-- The hub when its clock shows another time. -/
def Hub.atTime (h : Hub) (time : Int) : Hub := { h with time }

/-- Does the work: a span is started under the current one, and is current for the work inside. -/
def Hub.perform (h : Hub) (c : Context) : Outline → Hub
  | .done => h
  | .span job inside after =>
    let begun := (h.atTime job.opened).start c job.scope job.name
    let worked := begun.2.perform begun.1.1 inside
    ((worked.atTime job.ended).endSpan begun.1.2 job.detail).2.perform c after

/-- A span of an outline. Its place, counted in the order in which spans are opened, tells it from
all others. -/
structure Node where
  place : Nat
  job : Job
  deriving DecidableEq, Repr

/-- A moment at which a span is opened or ended. -/
structure Moment where
  ends : Bool
  node : Node
  /-- The spans around it, the nearest first. -/
  above : List Node
  deriving DecidableEq, Repr

namespace Outline

/-- The work of all spans, in the order in which they are opened. -/
def jobs : Outline → List Job
  | .done => []
  | .span job inside after => job :: (inside.jobs ++ after.jobs)

/-- All moments in order, for an outline whose first span is opened at a place, under some spans. -/
def momentsFrom (above : List Node) (place : Nat) : Outline → List Moment
  | .done => []
  | .span job inside after =>
    ⟨false, ⟨place, job⟩, above⟩ :: (inside.momentsFrom (⟨place, job⟩ :: above) (place + 1) ++
      ⟨true, ⟨place, job⟩, above⟩ :: after.momentsFrom above (place + 1 + inside.jobs.length))

def moments (w : Outline) : List Moment := w.momentsFrom [] 0

end Outline

/-- The number of the nearest admitted one of some spans, or zero. -/
def nearest (admits : Scope → Bool) (id : Nat → UInt64) (above : List Node) : UInt64 :=
  ((above.find? (admits ·.job.scope)).map (id ·.place)).getD 0

/-- What is told at a moment, with `id` the numbers of spans and `noted` those that have notes. -/
def Moment.event (admits : Scope → Bool) (id : Nat → UInt64) (noted : UInt64 → Bool) (m : Moment) :
    Event :=
  let job := m.node.job
  let span := id m.node.place
  let opening : Event := {
    time := job.opened, kind := .beginSpan, scope := job.scope, span
    parent := nearest admits id m.above, name := job.name }
  if m.ends then
    { opening with
      time := job.ended, kind := .endSpan, detail := job.detail, elapsed := job.ended - job.opened
      notesOf := if noted span then some span else none }
  else opening

/-- Events of spans that are ended in the reverse order in which they were begun. -/
inductive Nested : List Event → Prop
  | nil : Nested []
  | span {b e : Event} {inside after : List Event} (opens : b.kind = .beginSpan)
      (ends : e.kind = .endSpan) (same : e.span = b.span) (sameParent : e.parent = b.parent)
      (hinside : Nested inside) (hafter : Nested after) : Nested (b :: (inside ++ e :: after))

theorem Nested.append {es fs : List Event} (he : Nested es) (hf : Nested fs) :
    Nested (es ++ fs) := by
  induction he with
  | nil => exact hf
  | span opens ends same sameParent hinside _ _ hrest =>
    rw [List.cons_append, List.append_assoc, List.cons_append]
    exact .span opens ends same sameParent hinside hrest

namespace Hub

/-- The hub with another time and another number of spans. -/
def clocked (h : Hub) (time : Int) (span : UInt64) : Hub := { h with time, span }

section Emission

variable (h : Hub) (time : Int) (span : UInt64)

theorem writeFile_clocked (f : OpenFile) (s : Bytes) : (h.clocked time span).writeFile f s =
    ((h.writeFile f s).1, (h.writeFile f s).2.clocked time span) := by
  unfold writeFile
  split
  · rfl
  split
  · rfl
  have hdisk : (h.clocked time span).disk = h.disk := rfl
  rw [hdisk]
  cases writeAt h.disk f.path f.place s <;> rfl

theorem write_clocked (o : Output) (s : Bytes) : (h.clocked time span).write o s =
    ((h.write o s).1, (h.write o s).2.clocked time span) := by
  cases o with
  | file f =>
    simp only [write]
    rw [writeFile_clocked]
  | _ => rfl

theorem give_clocked (e : Event) (s : Sink) : (h.clocked time span).give e s =
    ((h.give e s).1, (h.give e s).2.clocked time span) := by
  have hlevel : Sink.level (h.clocked time span) s = Sink.level h s := by cases s <;> rfl
  rw [give, give, hlevel]
  split
  · cases s with
    | ring i => rfl
    | stream i =>
      have hstreams : (h.clocked time span).streams = h.streams := rfl
      simp only [nextSeq]
      rw [hstreams]
      cases h.streams[i]? with
      | none => rfl
      | some st =>
        exact congrArg (fun r : Output × Hub => (_, r.2.setOutput i r.1))
          (write_clocked { h with seq := h.seq + 1 } time span st.output _)
  · rfl

theorem emit_clocked (t : Tracer) (e : Event) :
    (h.clocked time span).emit t e = (h.emit t e).clocked time span := by
  unfold emit
  induction t.sinks generalizing h with
  | nil => rfl
  | cons s ss ih =>
    rw [List.foldl_cons, List.foldl_cons, give_clocked]
    exact ih _

theorem emitAll_clocked (t : Tracer) (es : List Event) :
    (h.clocked time span).emitAll t es = (h.emitAll t es).clocked time span := by
  induction es generalizing h with
  | nil => rfl
  | cons e es ih =>
    rw [emitAll, List.foldl_cons, emit_clocked]
    exact ih _

theorem emitAll_append (t : Tracer) (es fs : List Event) :
    h.emitAll t (es ++ fs) = (h.emitAll t es).emitAll t fs :=
  List.foldl_append

theorem write_cases (o : Output) (s : Bytes) :
    ∃ d c, (h.write o s).2 = { h with disk := d, console := c } := by
  cases o with
  | memory w => exact ⟨_, _, rfl⟩
  | broken => exact ⟨_, _, rfl⟩
  | console => exact ⟨_, _, rfl⟩
  | file f =>
    rcases (h.writeFile_cases (f.take s).2 (f.take s).1).2 with heq | ⟨b, heq⟩
    · exact ⟨_, _, heq⟩
    · exact ⟨_, _, heq⟩

/-- All sinks have the levels, and all spans the notes, that they had before. -/
structure Alike (h h' : Hub) : Prop where
  levels : ∀ s, Sink.level h' s = Sink.level h s
  notes : h'.notes = h.notes

theorem Alike.trans {h₁ h₂ h₃ : Hub} (h : h₁.Alike h₂) (h' : h₂.Alike h₃) : h₁.Alike h₃ :=
  ⟨fun s => (h'.levels s).trans (h.levels s), h'.notes.trans h.notes⟩

theorem push_alike (i : Nat) (e : Event) (seq : UInt64) :
    h.Alike { h with seq, rings := h.rings.modify i (·.push e) } where
  notes := rfl
  levels s := by
    cases s with
    | stream j => rfl
    | ring j =>
      simp only [Sink.level, Array.getElem?_modify]
      split
      · cases h.rings[j]? with
        | none => rfl
        | some r => exact r.push_level e
      · rfl

theorem setOutput_alike (i : Nat) (o : Output) : h.Alike (h.setOutput i o) where
  notes := rfl
  levels s := by
    cases s with
    | ring j => rfl
    | stream j =>
      simp only [Sink.level, setOutput, Array.getElem?_modify]
      split
      · cases h.streams[j]? <;> rfl
      · rfl

theorem give_alike (e : Event) (s : Sink) : h.Alike (h.give e s).2 := by
  have hseq : h.Alike h.nextSeq.2 := ⟨fun s => by cases s <;> rfl, rfl⟩
  unfold give
  split
  · cases s with
    | ring i => exact h.push_alike i _ _
    | stream i =>
      dsimp only
      split
      · exact hseq
      · rename_i st _
        have hwrite : h.nextSeq.2.Alike (h.nextSeq.2.write st.output
            ((h.nextSeq.2.shown { e with seq := h.nextSeq.1 }).line st.format)).2 := by
          obtain ⟨d, c, heq⟩ := h.nextSeq.2.write_cases st.output
            ((h.nextSeq.2.shown { e with seq := h.nextSeq.1 }).line st.format)
          rw [heq]
          exact ⟨fun s => by cases s <;> rfl, rfl⟩
        exact (hseq.trans hwrite).trans (setOutput_alike _ i _)
  · exact ⟨fun _ => rfl, rfl⟩

theorem emit_alike (t : Tracer) (e : Event) : h.Alike (h.emit t e) := by
  unfold emit
  induction t.sinks generalizing h with
  | nil => exact ⟨fun _ => rfl, rfl⟩
  | cons s ss ih => exact (h.give_alike e s).trans (ih _)

end Emission

/-- The second hub is the first after the tracer was given these events; only the time and the
number of spans may have changed besides. -/
def Emitted (t : Tracer) (h : Hub) (es : List Event) (h' : Hub) : Prop :=
  h' = (h.emitAll t es).clocked h'.time h'.span

section

variable {t : Tracer} {h h' h'' : Hub} {es fs : List Event}

theorem Emitted.trans (he : Emitted t h es h') (hf : Emitted t h' fs h'') :
    Emitted t h (es ++ fs) h'' := by
  unfold Emitted at *
  rw [he, emitAll_clocked] at hf
  rw [emitAll_append]
  exact hf

theorem Emitted.alike (he : Emitted t h es h') : h.Alike h' := by
  have hall : h.Alike (h.emitAll t es) := by
    clear he
    induction es generalizing h with
    | nil => exact ⟨fun _ => rfl, rfl⟩
    | cons e es ih => exact (h.emit_alike t e).trans ih
  have hclock : (h.emitAll t es).Alike ((h.emitAll t es).clocked h'.time h'.span) :=
    ⟨fun s => by cases s <;> rfl, rfl⟩
  rw [he]
  exact hall.trans hclock

theorem emit_span (h : Hub) (t : Tracer) (e : Event) : (h.emit t e).span = h.span := by
  change ((h.clocked h.time h.span).emit t e).span = h.span
  rw [emit_clocked]
  rfl

end

end Hub

theorem add_toUInt64 (x : UInt64) (m n : Nat) :
    x + (m + n).toUInt64 = x + m.toUInt64 + n.toUInt64 := by
  rw [UInt64.add_assoc]
  exact congrArg (x + ·) (UInt64.ofNat_add m n)

/-- The numbers of the spans that are opened from a place on: those that are admitted are counted on
from `last`. -/
def Numbers (admits : Scope → Bool) (id : Nat → UInt64) : Nat → UInt64 → List Job → Prop
  | _, _, [] => True
  | place, last, job :: jobs =>
    if admits job.scope then id place = last + 1 ∧ Numbers admits id (place + 1) (last + 1) jobs
    else Numbers admits id (place + 1) last jobs

/-- How many of some spans are admitted. -/
def admitted (admits : Scope → Bool) (jobs : List Job) : Nat := jobs.countP (admits ·.scope)

section

variable {admits : Scope → Bool} {id : Nat → UInt64} {noted : UInt64 → Bool}

theorem admitted_cons (job : Job) (jobs : List Job) : admitted admits (job :: jobs) =
    (if admits job.scope then 1 else 0) + admitted admits jobs := by
  rw [admitted, List.countP_cons, Nat.add_comm]
  rfl

theorem admitted_shown {job : Job} (h : admits job.scope) : admitted admits [job] = 1 := by
  simp [admitted, h]

theorem admitted_hidden {job : Job} (h : ¬ admits job.scope) : admitted admits [job] = 0 := by
  simp [admitted, h]

theorem admitted_append (js ks : List Job) :
    admitted admits (js ++ ks) = admitted admits js + admitted admits ks :=
  List.countP_append

theorem numbers_append {place : Nat} {last : UInt64} {js ks : List Job} :
    Numbers admits id place last (js ++ ks) ↔ Numbers admits id place last js ∧
      Numbers admits id (place + js.length) (last + (admitted admits js).toUInt64) ks := by
  induction js generalizing place last with
  | nil => simp [Numbers, admitted]
  | cons j js ih =>
    have hplace : place + (js.length + 1) = place + 1 + js.length := by omega
    rw [List.cons_append, Numbers, Numbers, List.length_cons, hplace, admitted_cons]
    by_cases hj : admits j.scope = true
    · rw [if_pos hj, if_pos hj, if_pos hj, ih, and_assoc, add_toUInt64]
      rfl
    · rw [if_neg hj, if_neg hj, if_neg hj, ih, Nat.zero_add]

theorem admitted_span (job : Job) (inside after : Outline) :
    admitted admits (Outline.span job inside after).jobs =
      admitted admits [job] + admitted admits inside.jobs + admitted admits after.jobs := by
  rw [Outline.jobs, ← List.singleton_append, admitted_append, admitted_append, Nat.add_assoc]

theorem numbers_span {place : Nat} {last : UInt64} {job : Job} {inside after : Outline} :
    Numbers admits id place last (Outline.span job inside after).jobs ↔
      Numbers admits id place last [job] ∧
        Numbers admits id (place + 1) (last + (admitted admits [job]).toUInt64) inside.jobs ∧
        Numbers admits id (place + 1 + inside.jobs.length)
          (last + (admitted admits [job]).toUInt64 + (admitted admits inside.jobs).toUInt64)
          after.jobs := by
  rw [Outline.jobs, ← List.singleton_append, numbers_append, numbers_append]
  rfl

/-- What is told of some moments. -/
def told (admits : Scope → Bool) (id : Nat → UInt64) (noted : UInt64 → Bool) (ms : List Moment) :
    List Event :=
  (ms.filter (admits ·.node.job.scope)).map (Moment.event admits id noted)

theorem told_append (ms ns : List Moment) :
    told admits id noted (ms ++ ns) = told admits id noted ms ++ told admits id noted ns := by
  rw [told, List.filter_append, List.map_append]
  rfl

theorem told_shown {m : Moment} (h : admits m.node.job.scope) :
    told admits id noted [m] = [m.event admits id noted] := by
  simp [told, h]

theorem told_hidden {m : Moment} (h : ¬ admits m.node.job.scope) :
    told admits id noted [m] = [] := by
  simp [told, h]

theorem admits_of_mem_told {ms : List Moment} {e : Event} (he : e ∈ told admits id noted ms) :
    admits e.scope = true := by
  obtain ⟨⟨ends, node, above⟩, hm, rfl⟩ := List.mem_map.mp he
  cases ends <;> exact (List.mem_filter.mp hm).2

theorem told_span (job : Job) (inside after : Outline) (above : List Node) (place : Nat) :
    told admits id noted ((Outline.span job inside after).momentsFrom above place) =
      told admits id noted [⟨false, ⟨place, job⟩, above⟩] ++
        told admits id noted (inside.momentsFrom (⟨place, job⟩ :: above) (place + 1)) ++
        told admits id noted [⟨true, ⟨place, job⟩, above⟩] ++
        told admits id noted (after.momentsFrom above (place + 1 + inside.jobs.length)) := by
  rw [← told_append, ← told_append, ← told_append]
  simp [Outline.momentsFrom]

/-- Under an admitted span, that is the nearest; any other is looked through. -/
theorem nearest_cons (node : Node) (above : List Node) : nearest admits id (node :: above) =
    if admits node.job.scope then id node.place else nearest admits id above := by
  rw [nearest, List.find?_cons]
  split <;> simp_all [nearest]

end

namespace Hub

/-- These are the scopes that the tracer admits, and these the spans with notes. -/
structure Fits (h : Hub) (t : Tracer) (admits : Scope → Bool) (noted : UInt64 → Bool) : Prop where
  scopes : ∀ s, t.admits h s = admits s
  notes : ∀ span, (h.notes.get? span).isSome = noted span

section

variable {t : Tracer} {admits : Scope → Bool} {id : Nat → UInt64} {noted : UInt64 → Bool}

theorem Alike.scopes {h h' : Hub} (hh : h.Alike h') (t : Tracer) (s : Scope) :
    t.admits h' s = t.admits h s := by
  cases t with
  | nop => rfl
  | single k => simp only [Tracer.admits, Tracer.isEnabled, Tracer.level, hh.levels]
  | multi l ks => rfl

theorem Fits.emitted {h h' : Hub} {es : List Event} (hfits : h.Fits t admits noted)
    (he : Emitted t h es h') : h'.Fits t admits noted where
  scopes s := (he.alike.scopes t s).trans (hfits.scopes s)
  notes span := by
    rw [he.alike.notes]
    exact hfits.notes span

theorem start_hidden {h : Hub} {c : Context} {scope : Scope} (hadmits : ¬ c.tracer.admits h scope)
    (name : Bytes) : h.start c scope name = ((c, none), h) := by
  rw [start, beginSpan, if_neg hadmits]
  rfl

theorem start_shown {h : Hub} {c : Context} {scope : Scope} (hadmits : c.tracer.admits h scope)
    (hid : h.span + 1 ≠ 0) (name : Bytes) :
    let opening : Event := { time := h.time, kind := .beginSpan, scope, span := h.span + 1
                             parent := c.current, name }
    h.start c scope name = (({ c with current := h.span + 1 }, some ⟨c.tracer, opening⟩),
      (h.clocked h.time (h.span + 1)).emit c.tracer opening) := by
  intro opening
  rw [start, beginSpan, if_pos hadmits]
  exact congrArg (fun inner => ((inner, some (⟨c.tracer, opening⟩ : Span)),
    (h.clocked h.time (h.span + 1)).emit c.tracer opening)) (if_neg hid)

/-- What doing the work comes to: the tracer is given what is told of its moments, and as many
spans more are counted as are admitted. -/
structure Performed (t : Tracer) (h : Hub) (es : List Event) (count : Nat) (h' : Hub) : Prop where
  emitted : Emitted t h es h'
  span : h'.span = h.span + count.toUInt64

theorem Performed.trans {h h' h'' : Hub} {es fs : List Event} {m n : Nat}
    (he : Performed t h es m h') (hf : Performed t h' fs n h'') :
    Performed t h (es ++ fs) (m + n) h'' where
  emitted := he.emitted.trans hf.emitted
  span := by
    rw [hf.span, he.span, add_toUInt64]

/-- Only the clock went on. -/
theorem performed_time (t : Tracer) (h : Hub) (time : Int) :
    Performed t h [] 0 (h.atTime time) where
  emitted := rfl
  span := (UInt64.add_zero _).symm

theorem performed_emit (t : Tracer) (h : Hub) (e : Event) : Performed t h [e] 0 (h.emit t e) where
  emitted := rfl
  span := (emit_span h t e).trans (UInt64.add_zero _).symm

theorem performed_next (t : Tracer) (h : Hub) (time : Int) :
    Performed t h [] 1 (h.clocked time (h.span + 1)) :=
  ⟨rfl, rfl⟩

theorem Performed.fits {h h' : Hub} {es : List Event} {n : Nat} (hp : Performed t h es n h')
    (hfits : h.Fits t admits noted) : h'.Fits t admits noted :=
  hfits.emitted hp.emitted

theorem Performed.toNat_span {h h' : Hub} {es : List Event} {n : Nat} (hp : Performed t h es n h')
    (hroom : h.span.toNat + n < UInt64.size) : h'.span.toNat = h.span.toNat + n := by
  have hn : n.toUInt64.toNat = n := UInt64.toNat_ofNat_of_lt' (by omega)
  rw [hp.span, UInt64.toNat_add, hn, Nat.mod_eq_of_lt hroom]

variable {h : Hub} {c : Context} {above : List Node} {place : Nat}

/-- One span, shown or not. When it is opened it is told if it is admitted, and is then the nearest
one for the work inside; when it is ended it is told again. -/
structure Spanned (t : Tracer) (admits : Scope → Bool) (id : Nat → UInt64) (noted : UInt64 → Bool)
    (h : Hub) (place : Nat) (job : Job) (above : List Node)
    (begun : (Context × Option Span) × Hub) :
    Prop where
  tracer : begun.1.1.tracer = t
  current : begun.1.1.current = nearest admits id (⟨place, job⟩ :: above)
  opening : Performed t h (told admits id noted [⟨false, ⟨place, job⟩, above⟩])
    (admitted admits [job]) begun.2
  ending : ∀ h' : Hub, h'.Fits t admits noted →
    Performed t h' (told admits id noted [⟨true, ⟨place, job⟩, above⟩]) 0
      ((h'.atTime job.ended).endSpan begun.1.2 job.detail).2

theorem start_spanned_hidden {job : Job} (hfits : h.Fits t admits noted) (htracer : c.tracer = t)
    (hcurrent : c.current = nearest admits id above) (hjob : ¬ admits job.scope) :
    Spanned t admits id noted h place job above
      ((h.atTime job.opened).start c job.scope job.name) := by
  have hadmits : ¬ c.tracer.admits (h.atTime job.opened) job.scope := by
    rw [htracer, ((performed_time t h job.opened).fits hfits).scopes]
    exact hjob
  rw [start_hidden hadmits]
  refine ⟨htracer, ?_, ?_, fun h' _ => ?_⟩
  · rw [nearest_cons, if_neg hjob]
    exact hcurrent
  · rw [told_hidden hjob, admitted_hidden hjob]
    exact performed_time t h job.opened
  · rw [told_hidden hjob]
    exact performed_time t h' job.ended

theorem start_spanned_shown {job : Job} (hfits : h.Fits t admits noted) (htracer : c.tracer = t)
    (hcurrent : c.current = nearest admits id above) (hjob : admits job.scope)
    (hid : id place = h.span + 1) (hnonzero : h.span + 1 ≠ 0) :
    Spanned t admits id noted h place job above
      ((h.atTime job.opened).start c job.scope job.name) := by
  have hadmits : c.tracer.admits (h.atTime job.opened) job.scope := by
    rw [htracer, ((performed_time t h job.opened).fits hfits).scopes]
    exact hjob
  have hopening : Moment.event admits id noted ⟨false, ⟨place, job⟩, above⟩ =
      { time := job.opened, kind := .beginSpan, scope := job.scope, span := h.span + 1
        parent := c.current, name := job.name } := by
    rw [hcurrent, ← hid]
    rfl
  rw [start_shown hadmits hnonzero]
  refine ⟨htracer, ?_, ?_, fun h' hfits' => ?_⟩
  · rw [nearest_cons, if_pos hjob]
    exact hid.symm
  · rw [told_shown hjob, admitted_shown hjob, hopening, htracer]
    exact (performed_next t h job.opened).trans (performed_emit t _ _)
  · have hclosing : Moment.event admits id noted ⟨true, ⟨place, job⟩, above⟩ =
        { time := job.ended, kind := .endSpan, scope := job.scope, span := h.span + 1
          parent := c.current, name := job.name, detail := job.detail
          elapsed := job.ended - job.opened
          notesOf := if (h'.notes.get? (h.span + 1)).isSome then some (h.span + 1) else none } := by
      rw [hcurrent, ← hid, hfits'.notes]
      rfl
    rw [told_shown hjob, hclosing, htracer]
    exact (performed_time t h' job.ended).trans (performed_emit t _ _)

theorem start_spanned (job : Job) (hfits : h.Fits t admits noted) (htracer : c.tracer = t)
    (hcurrent : c.current = nearest admits id above) (hid : Numbers admits id place h.span [job])
    (hroom : h.span.toNat + admitted admits [job] < UInt64.size) :
    Spanned t admits id noted h place job above
      ((h.atTime job.opened).start c job.scope job.name) := by
  by_cases hjob : admits job.scope = true
  · rw [Numbers, if_pos hjob] at hid
    rw [admitted_shown hjob] at hroom
    have hnonzero : h.span + 1 ≠ 0 := by
      intro hzero
      have hnat := congrArg UInt64.toNat hzero
      rw [UInt64.toNat_add, UInt64.toNat_one, Nat.mod_eq_of_lt hroom] at hnat
      exact Nat.succ_ne_zero _ hnat
    exact start_spanned_shown hfits htracer hcurrent hjob hid.1 hnonzero
  · exact start_spanned_hidden hfits htracer hcurrent hjob

/-- Work under some spans, of which the nearest admitted one is current. -/
theorem perform_told (w : Outline) (hfits : h.Fits t admits noted) (htracer : c.tracer = t)
    (hcurrent : c.current = nearest admits id above) (hids : Numbers admits id place h.span w.jobs)
    (hroom : h.span.toNat + admitted admits w.jobs < UInt64.size) :
    Performed t h (told admits id noted (w.momentsFrom above place)) (admitted admits w.jobs)
      (h.perform c w) := by
  induction w generalizing h c above place with
  | done => exact ⟨rfl, (UInt64.add_zero _).symm⟩
  | span job inside after ihInside ihAfter =>
    -- what is current is always the nearest span told: the new context says so for the work inside,
    -- and the old one still does for the work after
    obtain ⟨hid, hidsInside, hidsAfter⟩ := numbers_span.mp hids
    rw [admitted_span] at hroom ⊢
    have hspan := start_spanned job hfits htracer hcurrent hid (by omega)
    have hinside := ihInside (hspan.opening.fits hfits) hspan.tracer hspan.current
      (by rw [hspan.opening.span]; exact hidsInside)
      (by rw [hspan.opening.toNat_span (by omega)]; omega)
    have hworked := hspan.opening.trans hinside
    have hended : Performed t h _ (admitted admits [job] + admitted admits inside.jobs) _ :=
      hworked.trans (hspan.ending _ (hworked.fits hfits))
    have hafter := ihAfter (hended.fits hfits) htracer hcurrent
      (by rw [hended.span, add_toUInt64]; exact hidsAfter)
      (by rw [hended.toNat_span (by omega)]; omega)
    rw [told_span]
    exact hended.trans hafter

end

end Hub

section

variable {admits : Scope → Bool} {id : Nat → UInt64} {noted : UInt64 → Bool}

theorem Numbers.congr {id' : Nat → UInt64} {place : Nat} {last : UInt64} {jobs : List Job}
    (h : Numbers admits id place last jobs) (hsame : ∀ k, place ≤ k → id' k = id k) :
    Numbers admits id' place last jobs := by
  induction jobs generalizing place last with
  | nil => trivial
  | cons job jobs ih =>
    have hrest : ∀ k, place + 1 ≤ k → id' k = id k := fun k hk => hsame k (by omega)
    rw [Numbers] at h ⊢
    by_cases hjob : admits job.scope = true
    · rw [if_pos hjob] at h ⊢
      exact ⟨(hsame place (Nat.le_refl _)).trans h.1, ih h.2 hrest⟩
    · rw [if_neg hjob] at h ⊢
      exact ih h hrest

theorem exists_numbers (admits : Scope → Bool) (place : Nat) (last : UInt64) (jobs : List Job) :
    ∃ id, Numbers admits id place last jobs := by
  induction jobs generalizing place last with
  | nil => exact ⟨fun _ => 0, trivial⟩
  | cons job jobs ih =>
    by_cases hjob : admits job.scope = true
    · obtain ⟨id, hid⟩ := ih (place + 1) (last + 1)
      refine ⟨fun k => if k = place then last + 1 else id k, ?_⟩
      rw [Numbers, if_pos hjob]
      exact ⟨if_pos rfl, hid.congr fun k hk => if_neg (by omega)⟩
    · obtain ⟨id, hid⟩ := ih (place + 1) last
      refine ⟨id, ?_⟩
      rw [Numbers, if_neg hjob]
      exact hid

/-- The numbers of the spans that are begun. -/
def begun (es : List Event) : List UInt64 := (es.filter (·.kind = .beginSpan)).map Event.span

theorem begun_append (es fs : List Event) : begun (es ++ fs) = begun es ++ begun fs := by
  rw [begun, List.filter_append, List.map_append]
  rfl

/-- Whatever is told of a span, it was begun. -/
theorem Nested.span_mem {es : List Event} (h : Nested es) {e : Event} (he : e ∈ es) :
    e.span ∈ begun es := by
  induction h with
  | nil => cases he
  | @span b f inside after opens _ same _ _ _ ihInside ihAfter =>
    have hbegun : begun (b :: (inside ++ f :: after)) =
        b.span :: (begun inside ++ begun (f :: after)) := by
      rw [← begun_append]
      simp [begun, opens]
    have hrest : begun after ⊆ begun (f :: after) := by
      intro x hx
      rw [← List.singleton_append, begun_append]
      exact List.mem_append_right _ hx
    rw [hbegun]
    rcases List.mem_cons.mp he with rfl | he
    · exact List.mem_cons_self
    · refine List.mem_cons.mpr ?_
      rcases List.mem_append.mp he with he | he
      · exact .inr (List.mem_append_left _ (ihInside he))
      · rcases List.mem_cons.mp he with rfl | he
        · exact .inl same
        · exact .inr (List.mem_append_right _ (hrest (ihAfter he)))

theorem told_nested (w : Outline) (above : List Node) (place : Nat) :
    Nested (told admits id noted (w.momentsFrom above place)) := by
  induction w generalizing above place with
  | done => exact .nil
  | span job inside after ihInside ihAfter =>
    rw [told_span]
    by_cases hjob : admits job.scope = true
    · rw [told_shown hjob, told_shown hjob, List.append_assoc, List.append_assoc]
      exact .span rfl rfl rfl rfl (ihInside _ _) (ihAfter _ _)
    · rw [told_hidden hjob, told_hidden hjob, List.append_nil, List.nil_append]
      exact (ihInside _ _).append (ihAfter _ _)

/-- So many numbers, counted on from the last. -/
def successors (last : UInt64) (n : Nat) : List UInt64 :=
  (List.range n).map fun k => last + (k + 1).toUInt64

theorem successors_add (last : UInt64) (m n : Nat) :
    successors last (m + n) = successors last m ++ successors (last + m.toUInt64) n := by
  rw [successors, List.range_add, List.map_append, List.map_map]
  congr 1
  refine List.map_congr_left fun k _ => ?_
  rw [Function.comp_apply, ← add_toUInt64, Nat.add_assoc]

theorem begun_told {w : Outline} {above : List Node} {place : Nat} {last : UInt64}
    (hids : Numbers admits id place last w.jobs) :
    begun (told admits id noted (w.momentsFrom above place)) =
      successors last (admitted admits w.jobs) := by
  induction w generalizing above place last with
  | done => rfl
  | span job inside after ihInside ihAfter =>
    obtain ⟨hid, hidsInside, hidsAfter⟩ := numbers_span.mp hids
    have hopens : begun (told admits id noted [⟨false, ⟨place, job⟩, above⟩]) =
        successors last (admitted admits [job]) := by
      by_cases hjob : admits job.scope = true
      · rw [Numbers, if_pos hjob] at hid
        rw [told_shown hjob, admitted_shown hjob]
        exact congrArg (fun span => [span]) hid.1
      · rw [told_hidden hjob, admitted_hidden hjob]
        rfl
    have hends : begun (told admits id noted [⟨true, ⟨place, job⟩, above⟩]) = [] := by
      by_cases hjob : admits job.scope = true
      · rw [told_shown hjob]
        rfl
      · rw [told_hidden hjob]
        rfl
    rw [told_span, begun_append, begun_append, begun_append, hopens, hends, List.append_nil,
      ihInside hidsInside, ihAfter hidsAfter, admitted_span, successors_add, successors_add,
      add_toUInt64]

/-- As long as the counter does not run over, the numbers it gives are distinct and not zero. -/
theorem successors_distinct {last : UInt64} {n : Nat} (hroom : last.toNat + n < UInt64.size) :
    (successors last n).Nodup ∧ 0 ∉ successors last n := by
  have htoNat : ∀ k < n, (last + (k + 1).toUInt64).toNat = last.toNat + (k + 1) := by
    intro k hk
    have hk' : (k + 1).toUInt64.toNat = k + 1 := UInt64.toNat_ofNat_of_lt' (by omega)
    rw [UInt64.toNat_add, hk', Nat.mod_eq_of_lt (by change _ < UInt64.size; omega)]
  constructor
  · refine List.pairwise_map.mpr (List.Pairwise.imp_of_mem ?_ List.nodup_range)
    intro k l hk hl hne hsame
    have hnat := congrArg UInt64.toNat hsame
    rw [htoNat k (List.mem_range.mp hk), htoNat l (List.mem_range.mp hl)] at hnat
    omega
  · intro hzero
    obtain ⟨k, hk, hsum⟩ := List.mem_map.mp hzero
    have hnat := htoNat k (List.mem_range.mp hk)
    rw [hsum] at hnat
    exact absurd hnat (by simp)

end

theorem Level.off_admits (s : Scope) : Level.off.admits s = false := by
  have hfloor : Level.off.floor = 0 := by decide
  rw [admits, hfloor, Bool.and_eq_false_imp]
  intro hrank
  simpa [UInt8.le_iff_toNat_le, ← UInt8.toNat_inj] using hrank

/-- A level that admits any scope is on. -/
theorem Level.isOn_of_admits {l : Level} {s : Scope} (h : l.admits s) : l.isOn := by
  cases hon : l.isOn with
  | true => rfl
  | false =>
    have hl : l = .off := by
      obtain ⟨rank⟩ := l
      simpa [isOn, UInt8.le_iff_toNat_le, ← UInt8.toNat_inj, off] using hon
    rw [hl, off_admits] at h
    exact absurd h Bool.false_ne_true

/-- A tracer that hands events to some sink, or that is none, admits what its level admits. -/
theorem Tracer.admits_eq_level (h : Hub) {t : Tracer} (ht : ∀ l, t ≠ .multi l []) (s : Scope) :
    t.admits h s = (t.level h).admits s := by
  have hon : ∀ l : Level, (l.isOn && l.admits s) = l.admits s := by
    intro l
    cases hadmits : l.admits s with
    | false => exact Bool.and_false _
    | true => simp [Level.isOn_of_admits hadmits]
  cases t with
  | nop => exact (Level.off_admits s).symm
  | single k => exact hon _
  | multi l ks =>
    cases ks with
    | nil => exact absurd rfl (ht l)
    | cons k ks => simpa [Tracer.admits, Tracer.isEnabled, Tracer.level] using hon l

/-- What a trace shows of work in spans, with `id` the numbers of the spans by their places. -/
structure Outline.Shown (w : Outline) (t : Tracer) (h : Hub) (id : Nat → UInt64) (es : List Event)
    (h' : Hub) : Prop where
  /-- Admitted are the scopes that the level admits, by all tracers but a combination of none. -/
  level : (∀ l, t ≠ .multi l []) → ∀ s, t.admits h s = (t.level h).admits s
  /-- The events are those of the moments of admitted spans, in order. -/
  told : es = told (t.admits h) id (fun span => (h.notes.get? span).isSome) w.moments
  /-- The tracer was given these events and no others. -/
  emitted : Hub.Emitted t h es h'
  nested : Nested es
  distinct : (begun es).Nodup
  nonzero : ∀ e ∈ es, e.span ≠ 0

/-- A ring that the work is traced in is given all of it: after the work it has the newest
events. -/
theorem Outline.Shown.ring {w : Outline} {h h' : Hub} {id : Nat → UInt64} {es before : List Event}
    {i places : Nat} {r : Ring} (hs : w.Shown (.single (.ring i)) h id es h')
    (hr : h.rings[i]? = some r) (hgiven : r.Given places before) :
    ∃ r', h'.rings[i]? = some r' ∧ r'.Given places (before ++ Event.numbered h.seq es) := by
  have hlevel : Tracer.level h (.single (.ring i)) = r.level := by
    simp [Tracer.level, Sink.level, hr]
  have hall : es.filter (r.level.admits ·.scope) = es := by
    refine List.filter_eq_self.mpr fun e he => ?_
    rw [hs.told] at he
    have hsingle (l : Level) : Tracer.single (.ring i) ≠ .multi l [] := by
      intro hmulti
      cases hmulti
    rw [← hlevel, ← hs.level hsingle]
    exact admits_of_mem_told he
  obtain ⟨r', hr', hgiven', -⟩ := Hub.emitAll_ring hr hgiven es
  rw [hall] at hgiven'
  refine ⟨r', ?_, hgiven'⟩
  rw [hs.emitted]
  exact hr'

/-- Nesting survives filtering. Work is done on a fresh context of a tracer, and the counter of
spans does not run over. Then the tracer is given, for exactly the spans of the scopes that its
level admits, an event when the span is opened and one when it is ended, properly nested; the
numbers of spans are distinct and not zero; and each of these spans is told to be under the nearest
admitted one around it, or under none when there is no such span. -/
theorem Hub.perform_nested (h : Hub) (t : Tracer) (w : Outline)
    (hroom : h.span.toNat + admitted (t.admits h) w.jobs < UInt64.size) :
    ∃ id es, w.Shown t h id es (h.perform { tracer := t } w) := by
  obtain ⟨id, hids⟩ := exists_numbers (t.admits h) 0 h.span w.jobs
  let noted (span : UInt64) : Bool := (h.notes.get? span).isSome
  have hfits : h.Fits t (t.admits h) noted := ⟨fun _ => rfl, fun _ => rfl⟩
  have hroot : (0 : UInt64) = nearest (t.admits h) id [] := rfl
  have hdone := perform_told w hfits (c := { tracer := t }) rfl hroot hids hroom
  have hnested : Nested (told (t.admits h) id noted w.moments) := told_nested w [] 0
  have hbegun : begun (told (t.admits h) id noted w.moments) = _ := begun_told hids
  obtain ⟨hdistinct, hzero⟩ := successors_distinct hroom
  rw [← hbegun] at hdistinct hzero
  refine ⟨id, _, Tracer.admits_eq_level h, rfl, hdone.emitted, hnested, hdistinct, ?_⟩
  intro e he heq
  exact hzero (heq ▸ hnested.span_mem he)

/-- A command with two steps on a file, each in a span of its own. -/
def Outline.sample : Outline :=
  .span ⟨.driver, "run", [], 10, 90⟩
    (.span ⟨.file, "a.kj", [], 20, 80⟩
      (.span ⟨.pass, "load", [], 30, 40⟩ .done
        (.span ⟨.pass, "lex", "ok", 50, 70⟩ .done .done)) .done)
    .done

/-- On the level of phases the file does not show, and its steps are told under the command. The
ring has all that was told, in order. -/
theorem Hub.perform_nested_sample :
    let h : Hub := { disk := ⟨.dir [], []⟩, rings := #[.new 8 .phase] }
    let t : Tracer := .single (.ring 0)
    let h' := h.perform { tracer := t } Outline.sample
    h.span.toNat + admitted (t.admits h) Outline.sample.jobs < UInt64.size ∧
      ∃ id es, Outline.sample.Shown t h id es h' ∧
        es.map (fun e => (e.kind, e.span, e.parent)) =
          [(.beginSpan, id 0, 0), (.beginSpan, id 2, id 0), (.endSpan, id 2, id 0),
            (.beginSpan, id 3, id 0), (.endSpan, id 3, id 0), (.endSpan, id 0, 0)] ∧
        (t.ring? h').map (fun r => r.events.map fun e => (e.seq, e.kind, e.span)) =
          some [(1, .beginSpan, id 0), (2, .beginSpan, id 2), (3, .endSpan, id 2),
            (4, .beginSpan, id 3), (5, .endSpan, id 3), (6, .endSpan, id 0)] := by
  intro h t h'
  have hroom : h.span.toNat + admitted (t.admits h) Outline.sample.jobs < UInt64.size := by decide
  obtain ⟨id, es, hshown⟩ := Hub.perform_nested h t Outline.sample hroom
  obtain ⟨r, hr, hgiven⟩ := hshown.ring rfl (Ring.new_given 8 .phase)
  refine ⟨hroom, id, es, hshown, ?_, ?_⟩
  · rw [hshown.told]
    rfl
  · rw [Tracer.ring?_single, hr, Option.map_some, hgiven.events, hshown.told]
    rfl

end FrontEnd.Trace
