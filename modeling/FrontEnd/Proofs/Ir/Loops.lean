import FrontEnd.Proofs.Ir.TypeText

/-!
How a type comes to hold itself. Of all calls only a new argument adds to a signature that is there
already, and it takes any type of the context, also one in which the signature of its function is
met. Such a call closes a loop, which no later call opens again; a script without one leaves every
type with a text, and so every listing and every snapshot.
-/
namespace FrontEnd.Ir

open Relation

section Edges

variable {r r' : Nat → Nat → Prop} {a b x y : Nat}

/-- A path over one edge more is a path as before, or it goes over that edge. -/
theorem transGen_of_added (h : ∀ x y, r' x y → r x y ∨ x = a ∧ y = b) (hxy : TransGen r' x y) :
    TransGen r x y ∨ ReflTransGen r x a ∧ ReflTransGen r b y := by
  induction hxy with
  | single hstep =>
    rcases h _ _ hstep with hold | ⟨rfl, rfl⟩
    · exact .inl (.single hold)
    · exact .inr ⟨.refl, .refl⟩
  | tail _ hstep ih =>
    rcases h _ _ hstep with hold | ⟨rfl, rfl⟩
    · rcases ih with hpath | ⟨hto, hfrom⟩
      · exact .inl (hpath.tail hold)
      · exact .inr ⟨hto, hfrom.tail hold⟩
    · rcases ih with hpath | ⟨hto, -⟩
      · exact .inr ⟨hpath.to_reflTransGen, .refl⟩
      · exact .inr ⟨hto, .refl⟩

/-- One edge more closes a loop when there is a way back. -/
theorem exists_loop_iff (h : ∀ x y, r' x y ↔ r x y ∨ x = a ∧ y = b) :
    (∃ s, TransGen r' s s) ↔ (∃ s, TransGen r s s) ∨ ReflTransGen r b a := by
  have hmono : ∀ x y, r x y → r' x y := fun x y hold => (h x y).mpr (.inl hold)
  constructor
  · rintro ⟨s, hs⟩
    rcases transGen_of_added (fun x y => (h x y).mp) hs with hold | ⟨hto, hfrom⟩
    · exact .inl ⟨s, hold⟩
    · exact .inr (hfrom.trans hto)
  · rintro (⟨s, hs⟩ | hback)
    · exact ⟨s, TransGen.mono hmono _ _ hs⟩
    · have hnew : r' a b := (h a b).mpr (.inr ⟨rfl, rfl⟩)
      exact ⟨a, .head' hnew (ReflTransGen.mono hmono _ _ hback)⟩

end Edges

namespace Context

/-- Some signature is met inside itself. -/
def Looped (c : Context) : Prop := ∃ s, c.Loops s

variable {c c' : Context} {t : Ty} {s : Nat}

theorem Loops.lt_size (h : c.Loops s) : s < c.signatures.size := by
  obtain ⟨_, ⟨sig, hs, -⟩, -⟩ := TransGen.head'_iff.mp h
  exact (Array.getElem?_eq_some_iff.mp hs).1

theorem not_looped_empty : ¬ Looped {} := by
  rintro ⟨s, hs⟩
  exact Nat.not_lt_zero s hs.lt_size

/-- A type that is put into a signature closes a loop when that is met in it. -/
theorem looped_of_added (h : ∀ x y, c'.Holds x y ↔ c.Holds x y ∨ x = s ∧ t = .function y) :
    c'.Looped ↔ c.Looped ∨ c.Reaches t s := by
  cases t with
  | function s' =>
    have hedge : ∀ x y, c'.Holds x y ↔ c.Holds x y ∨ x = s ∧ y = s' := by
      intro x y
      rw [h, Ty.function.injEq, eq_comm (b := y)]
    have hreach : c.Reaches (.function s') s ↔ ReflTransGen c.Holds s' s := by
      constructor
      · rintro ⟨_, ⟨⟩, hpath⟩
        exact hpath
      · exact fun hpath => ⟨s', rfl, hpath⟩
    rw [hreach]
    exact exists_loop_iff hedge
  | _ =>
    -- a type without a signature adds no edge
    have hsame : c'.Holds = c.Holds := by
      funext x y
      simp [h]
    simp [Looped, Loops, hsame, Reaches]

theorem addSignature_holds (x y : Nat) :
    (c.addSignature t).Holds x y ↔ c.Holds x y ∨ x = c.signatures.size ∧ t = .function y := by
  have htype : ∀ a, (c.addSignature t).type? a = c.type? a := fun _ => rfl
  simp only [Holds, htype]
  simp only [addSignature, Array.getElem?_push]
  by_cases hx : x = c.signatures.size
  · simp [hx]
  · simp [hx]

theorem addParam_holds {a : ValueId} (ha : c.type? a = some t) (hs : s < c.signatures.size)
    (x y : Nat) : (c.addParam s a).Holds x y ↔ c.Holds x y ∨ x = s ∧ t = .function y := by
  have htype : ∀ b, (c.addParam s a).type? b = c.type? b := fun _ => rfl
  simp only [Holds, htype]
  simp only [addParam, Array.getElem?_modify]
  by_cases hx : x = s
  · subst hx
    simp only [if_true, Array.getElem?_eq_getElem hs, Option.map_some, Option.some.injEq,
      exists_eq_left', List.mem_append, List.mem_singleton, or_and_right, exists_or,
      exists_eq_left, ha, true_and, or_assoc]
  · simp [hx, Ne.symm hx]

theorem Grows.holds (h : Grows c c') {x y : Nat} (hxy : c.Holds x y) : c'.Holds x y := by
  obtain ⟨sig, hs, hin⟩ := hxy
  obtain ⟨sig', hs', hresult, hparams⟩ := h.signatures x sig hs
  rcases hin with hr | ⟨a, ha, hta⟩
  · exact ⟨sig', hs', .inl (hresult.trans hr)⟩
  · exact ⟨sig', hs', .inr ⟨a, hparams a ha, h.type? a _ hta⟩⟩

/-- Once closed, a loop stays. -/
theorem Grows.loops (h : Grows c c') (hs : c.Loops s) : c'.Loops s :=
  TransGen.mono (fun _ _ => h.holds) _ _ hs

/-- A function whose signature is met inside itself. -/
def TakesItself (c : Context) (f : ValueId) : Prop :=
  c.kind? f = some .function ∧ ∃ s, c.type? f = some (.function s) ∧ c.Loops s

theorem Grows.takesItself (h : Grows c c') {f : ValueId} (hf : c.TakesItself f) :
    c'.TakesItself f := by
  obtain ⟨hkind, s, htype, hloop⟩ := hf
  exact ⟨h.kind? f _ hkind, s, h.type? f _ htype, h.loops hloop⟩

theorem TakesItself.exists_form {f : ValueId} (hf : c.TakesItself f) :
    ∃ home s body, c.form? f = some (.function home s body) ∧ c.Loops s := by
  obtain ⟨hkind, s, htype, hloop⟩ := hf
  obtain ⟨form, hform, hfunction⟩ := Option.map_eq_some_iff.mp hkind
  cases form with
  | function home s' body =>
    simp only [type?, hform, Option.map_some, Form.type, Option.some.injEq,
      Ty.function.injEq] at htype
    exact ⟨home, s', body, hform, htype ▸ hloop⟩
  | _ => cases hfunction

/-- Signatures and the types of their arguments are as before. -/
structure SameTypes (c c' : Context) : Prop where
  signatures : c'.signatures = c.signatures
  type? : ∀ (s : Nat) sig, c.signatures[s]? = some sig → ∀ a ∈ sig.params, c'.type? a = c.type? a

theorem SameTypes.holds_eq (h : SameTypes c c') : c'.Holds = c.Holds := by
  funext x y
  unfold Holds
  rw [h.signatures]
  refine propext (exists_congr fun sig => and_congr_right fun hs => ?_)
  refine or_congr_right (exists_congr fun a => and_congr_right fun ha => ?_)
  rw [h.type? x sig hs a ha]

theorem SameTypes.looped_iff (h : SameTypes c c') : c'.Looped ↔ c.Looped := by
  simp only [Looped, Loops, h.holds_eq]

theorem SameTypes.trans {c₁ c₂ c₃ : Context} (h : SameTypes c₁ c₂) (h' : SameTypes c₂ c₃) :
    SameTypes c₁ c₃ where
  signatures := h'.signatures.trans h.signatures
  type? s sig hs a ha := (h'.type? s sig (h.signatures ▸ hs) a ha).trans (h.type? s sig hs a ha)

theorem Keeps.sameTypes (h : Keeps c c') : SameTypes c c' where
  signatures := h.signatures
  type? _ _ _ a _ := h.type? a

theorem mapForm_sameTypes {v : ValueId} {form : Form} (hv : c.form? v = some form)
    {g : Form → Form} (htype : (g form).type = form.type) : SameTypes c (c.mapForm v g) where
  signatures := rfl
  type? _ _ _ a _ := type?_mapForm c hv htype a

theorem addToModule_sameTypes (c : Context) (m : ModuleId) (f : ValueId) :
    SameTypes c (c.addToModule m f) where
  signatures := rfl
  type? _ _ _ _ _ := rfl

namespace Sound

variable (h : c.Sound)

include h

/-- A value that is made is no argument yet. -/
theorem addValue_sameTypes (form : Form) : SameTypes c (c.addValue form) where
  signatures := rfl
  type? s sig hs a ha := by
    have hne : a ≠ c.nextValue := by
      rintro rfl
      have hhas := (h.signatures s sig hs).params _ ha
      simp [Has, kind?, form?_nextValue] at hhas
    simp only [Context.type?, form?_addValue, if_neg hne]

theorem addSignature_looped_iff (ht : t.In c) : (c.addSignature t).Looped ↔ c.Looped := by
  have hfresh : ¬ c.Reaches t c.signatures.size := by
    intro hreach
    exact Nat.lt_irrefl _ (h.reaches_lt ht hreach)
  rw [looped_of_added addSignature_holds, or_iff_left hfresh]

theorem addFunction_looped_iff (ht : t.In c) (m : ModuleId) (name : Bytes) :
    (c.addFunction m t name).Looped ↔ c.Looped := by
  have hmade := (h.addSignature ht).addValue_sameTypes (.function m c.signatures.size none)
  have hadopted := hmade.trans (adopt_keeps _ m c.nextValue).sameTypes
  have hlisted := hadopted.trans (addToModule_sameTypes _ m c.nextValue)
  exact (hlisted.trans (named_keeps _ _ name).sameTypes).looped_iff.trans
    (h.addSignature_looped_iff ht)

/-- A new argument puts its type into the signature of its function. -/
theorem addArgument_holds (m : ModuleId) {f : ValueId} {home : ModuleId} {body : Option ValueId}
    (hf : c.form? f = some (.function home s body)) (name : Bytes) (x y : Nat) :
    (c.addArgument m t f s name).Holds x y ↔ c.Holds x y ∨ x = s ∧ t = .function y := by
  have hs : s < c.signatures.size := (h.forms f _ hf).type
  let form : Form := .argument t (some f) (c.params f).length
  have hkeeps := (c.addValue form).named_keeps c.nextValue name
  have hsame := (h.addValue_sameTypes form).trans hkeeps.sameTypes
  have htype : ((c.addValue form).named c.nextValue name).type? c.nextValue = some t := by
    rw [hkeeps.type?, Context.type?, form?_addValue, if_pos rfl]
    rfl
  rw [Context.addArgument, (adopt_keeps ..).sameTypes.holds_eq,
    addParam_holds htype (hsame.signatures ▸ hs), hsame.holds_eq]

theorem addBlock_looped_iff (m : ModuleId) {f : ValueId} {home : ModuleId}
    (hf : c.form? f = some (.function home s none)) (name : Bytes) :
    (c.addBlock m f home s name).Looped ↔ c.Looped := by
  have hnamed := (h.addValue_sameTypes (.block f [])).trans
    (named_keeps _ c.nextValue name).sameTypes
  have hfilled :=
    hnamed.trans (mapForm_sameTypes (g := fun _ => .function home s (some c.nextValue))
      (c.form?_named_addValue hf _ name) rfl)
  exact (hfilled.trans (adopt_keeps _ m c.nextValue).sameTypes).looped_iff

theorem addInstruction_looped_iff (m : ModuleId) {b p : ValueId} {is : List ValueId}
    (hb : c.form? b = some (.block p is)) (form : Form) :
    (c.addInstruction m b form).Looped ↔ c.Looped := by
  have hfilled := (h.addValue_sameTypes form).trans
    (mapForm_sameTypes (g := addToBlock c.nextValue) (c.form?_addValue_of_some hb form) rfl)
  exact (hfilled.trans (adopt_keeps _ m c.nextValue).sameTypes).looped_iff

end Sound

end Context

namespace Call

/-- The call is accepted, and what it does closes a loop: it gives a function an argument, and the
signature of that function is met in the type of the argument. -/
def Closes (c : Context) (call : Call) : Prop :=
  ∃ m t f name home s body, call = .argument m (.own t) (.own f) name ∧
    c.form? f = some (.function home s body) ∧ c.Reaches t s ∧ ∃ c', call.perform c = .ok () c'

/-- Some call of a script closes a loop when it is made. -/
def ClosesIn (c : Context) : List Call → Prop
  | [] => False
  | call :: calls => call.Closes c ∨ ClosesIn (call.after c) calls

variable {c : Context}

theorem not_closes {call : Call} (h : ∀ m t f name, call ≠ .argument m (.own t) (.own f) name) :
    ¬ call.Closes c := by
  rintro ⟨m, t, f, name, -, -, -, hcall, -⟩
  exact h m t f name hcall

/-- A loop comes in with a call that closes it, and none goes away. -/
theorem after_looped_iff (h : c.Sound) {call : Call} (hlegal : call.Legal c) :
    (call.after c).Looped ↔ c.Looped ∨ call.Closes c := by
  have hunchanged : ∀ {c' : Context}, (c'.Looped ↔ c.Looped) → ¬ call.Closes c →
      (c'.Looped ↔ c.Looped ∨ call.Closes c) := by
    intro c' hsame hopen
    rw [hsame, or_iff_left hopen]
  have heffect := perform_effect c call
  unfold after
  generalize hr : call.perform c = r at heffect
  cases heffect with
  | refused _ e =>
    apply hunchanged Iff.rfl
    rintro ⟨-, -, -, -, -, -, -, -, -, -, c', hok⟩
    cases hr.symm.trans hok
  | primitive kind => exact hunchanged Iff.rfl (not_closes (by simp))
  | integer hwidth => exact hunchanged Iff.rfl (not_closes (by simp))
  | signature t => exact hunchanged (h.addSignature_looped_iff hlegal) (not_closes (by simp))
  | module path =>
    exact hunchanged (c.addModule_keeps path).sameTypes.looped_iff (not_closes (by simp))
  | exhausted m t name =>
    exact hunchanged (h.addSignature_looped_iff hlegal.2) (not_closes (by simp))
  | function m t name =>
    exact hunchanged (h.addFunction_looped_iff hlegal.2 m name) (not_closes (by simp))
  | @argument m t name f home s body hf =>
    refine (Context.looped_of_added (h.addArgument_holds m hf name)).trans (or_congr_right ?_)
    constructor
    · intro hreach
      exact ⟨m, t, f, name, home, s, body, rfl, hf, hreach, _, hr⟩
    · rintro ⟨_, _, _, _, _, s', _, ⟨⟩, hf', hreach, -⟩
      cases hf.symm.trans hf'
      exact hreach
  | block m name hf => exact hunchanged (h.addBlock_looped_iff m hf name) (not_closes (by simp))
  | binary m hop hl hr hb =>
    exact hunchanged (h.addInstruction_looped_iff m hb _) (not_closes (by simp))
  | ret m v hb => exact hunchanged (h.addInstruction_looped_iff m hb _) (not_closes (by simp))
  | setName name hv hfree =>
    exact hunchanged (c.named_keeps _ name).sameTypes.looped_iff (not_closes (by simp))
  | clearName hv =>
    exact hunchanged (c.unnamed_keeps _).sameTypes.looped_iff (not_closes (by simp))

theorem run_looped_iff (h : c.Sound) {calls : List Call} (hlegal : LegalAll c calls) :
    (run c calls).Looped ↔ c.Looped ∨ ClosesIn c calls := by
  induction calls generalizing c with
  | nil => simp [run, ClosesIn]
  | cons call calls ih =>
    have hsound : (call.after c).Sound := (perform_effect c call).sound h hlegal.1
    rw [run, ih hsound hlegal.2, after_looped_iff h hlegal.1, ClosesIn, or_assoc]

/-- A call that closes a loop leaves a function whose signature is met inside itself. -/
theorem Closes.exists_takesItself (h : c.Sound) {call : Call} (hclose : call.Closes c) :
    ∃ f, (call.after c).TakesItself f := by
  obtain ⟨m, t, f, name, home, s, body, rfl, hf, ⟨s', rfl, hpath⟩, c', hok⟩ := hclose
  have heffect := perform_effect c (.argument m (.own (.function s')) (.own f) name)
  have hgrows := heffect.grows
  unfold after
  generalize perform (.argument m (.own (.function s')) (.own f) name) c = r at heffect hgrows hok
  cases heffect with
  | refused => cases hok
  | argument _ _ _ hf' =>
    cases hf.symm.trans hf'
    refine ⟨f, hgrows.kind? f _ ?_, s, hgrows.type? f _ ?_, ?_⟩
    · simp [Context.kind?, hf, Form.kind]
    · simp [Context.type?, hf, Form.type]
    · have hedge : (c.addArgument m (.function s') f s name).Holds s s' :=
        (h.addArgument_holds m hf name s s').mpr (.inr ⟨rfl, rfl⟩)
      exact .head' hedge (ReflTransGen.mono (fun _ _ => hgrows.holds) _ _ hpath)

theorem ClosesIn.exists_takesItself (h : c.Sound) {calls : List Call} (hlegal : LegalAll c calls)
    (hclose : ClosesIn c calls) : ∃ f, (run c calls).TakesItself f := by
  induction calls generalizing c with
  | nil => cases hclose
  | cons call calls ih =>
    rcases hclose with hnow | hlater
    · obtain ⟨f, hf⟩ := hnow.exists_takesItself h
      exact ⟨f, (run_grows (call.after c) calls).takesItself hf⟩
    · exact ih ((perform_effect c call).sound h hlegal.1) hlegal.2 hlater

/-- A loop that was closed keeps the module of its function from being written. -/
theorem ClosesIn.exists_none (h : c.Sound) (hlisted : c.Listed) {calls : List Call}
    (hlegal : LegalAll c calls) (hclose : ClosesIn c calls) :
    ∃ m, (run c calls).listing? m = none ∧ (run c calls).snapshot? m = none := by
  obtain ⟨f, hf⟩ := hclose.exists_takesItself h hlegal
  obtain ⟨m, hm⟩ := run_listed hlisted hlegal f hf.1
  obtain ⟨home, s, body, hform, hloop⟩ := hf.exists_form
  exact ⟨m, Context.listing?_eq_none hform hloop hm, Context.snapshot?_eq_none hform hloop hm⟩

/-- Texts of types are what writing them out comes to, and that ends exactly where no signature is
met inside itself; all listings and all snapshots end if and only if no call has closed a loop. -/
theorem run_texts_iff (calls : List Call) (hlegal : LegalAll {} calls) :
    let c := run {} calls
    ((∀ s, ¬ c.Loops s) ↔ ¬ ClosesIn {} calls) ∧
      (∀ t b, c.typeText? t = some b ↔ c.Printed t b) ∧
      (∀ t : Ty, t.In c → ((∃ b, c.Printed t b) ↔ ∀ s, c.Reaches t s → ¬ c.Loops s)) ∧
      ((∀ m, (c.listing? m).isSome = true) ↔ ¬ ClosesIn {} calls) ∧
      ((∀ m, (c.snapshot? m).isSome = true) ↔ ¬ ClosesIn {} calls) := by
  intro c
  have hsound : c.Sound := run_sound Context.sound_empty hlegal
  have hloops : (∀ s, ¬ c.Loops s) ↔ ¬ ClosesIn {} calls := by
    rw [← not_exists]
    refine not_congr ((run_looped_iff Context.sound_empty hlegal).trans (or_iff_right ?_))
    exact Context.not_looped_empty
  have htext : ¬ ClosesIn {} calls → ∀ t : Ty, t.In c → (c.typeText? t).isSome = true := by
    intro hopen t ht
    exact (hsound.typeText?_isSome_iff ht).mpr fun s _ => hloops.mpr hopen s
  have hstuck : ClosesIn {} calls → ∃ m, c.listing? m = none ∧ c.snapshot? m = none :=
    ClosesIn.exists_none Context.sound_empty Context.listed_empty hlegal
  refine ⟨hloops, fun t b => Context.typeText?_eq_some_iff, ?_, ?_, ?_⟩
  · intro t ht
    rw [← hsound.typeText?_isSome_iff ht, Option.isSome_iff_exists]
    simp only [Context.typeText?_eq_some_iff]
  · constructor
    · intro hall hclose
      obtain ⟨m, hm, -⟩ := hstuck hclose
      exact absurd (hall m) (by simp [hm])
    · intro hopen m
      exact Context.listing?_isSome hsound (htext hopen) m
  · constructor
    · intro hall hclose
      obtain ⟨m, -, hm⟩ := hstuck hclose
      exact absurd (hall m) (by simp [hm])
    · intro hopen m
      exact Context.snapshot?_isSome hsound (htext hopen) m

/-- `g` takes a function of the type of `f` and returns it. -/
def higherOrder : List Call :=
  [.module none, .function 0 (.own (.integer 32)) "f", .argument 0 (.own (.integer 8)) (.own 1) "x",
    .function 0 (.own (.function 0)) "g", .argument 0 (.own (.function 0)) (.own 3) "h",
    .block 0 (.own ()) "entry" (.own 3), .ret 0 (.own 4) (.own 5)]

theorem run_texts_iff_higherOrder :
    LegalAll {} higherOrder ∧ ¬ ClosesIn {} higherOrder ∧
      ∀ m, ((run {} higherOrder).listing? m).isSome = true := by
  have hlegal : LegalAll {} higherOrder := by decide
  obtain ⟨hloops, -, -, hlisting, -⟩ := run_texts_iff higherOrder hlegal
  have htexts : ∀ s < 2, (run {} higherOrder).typeText? (.function s) ≠ none := by decide
  have hopen : ¬ ClosesIn {} higherOrder := by
    apply hloops.mp
    intro s hs
    exact htexts s hs.lt_size (Context.typeText?_eq_none hs)
  exact ⟨hlegal, hopen, hlisting.mpr hopen⟩

/-- `f` takes a function of its own type. -/
def selfTaking : List Call :=
  [.module none, .function 0 (.own (.integer 32)) "f",
    .argument 0 (.own (.function 0)) (.own 1) "x"]

/-- Such an argument is accepted, and then neither the type nor the module can be written. -/
theorem selfTaking_endless :
    LegalAll {} selfTaking ∧ (run {} selfTaking).Loops 0 ∧
      (¬ ∃ b, (run {} selfTaking).Printed (.function 0) b) ∧
      (run {} selfTaking).listing? 0 = none ∧ (run {} selfTaking).snapshot? 0 = none := by
  have hloop : (run {} selfTaking).Loops 0 := .single ⟨_, rfl, .inr ⟨2, by decide, rfl⟩⟩
  refine ⟨by decide, hloop, ?_, by decide, by decide⟩
  rintro ⟨b, hb⟩
  exact Context.not_loops_of_reaches hb ⟨0, rfl, .refl⟩ hloop

end Call

end FrontEnd.Ir
