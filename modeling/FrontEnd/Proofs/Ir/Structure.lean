import FrontEnd.Proofs.Ir.Making
import Mathlib.Data.List.Perm.Subperm
import Mathlib.Logic.Relation

/-!
The structure of code. A caller that holds only handles which the context has given out cannot build
anything crooked, on however many modules it works: every number is owned once, arguments, bodies
and instructions stand where they say they do, instructions use what was there before them, and all
that is mentioned anywhere is of the context.
-/
namespace FrontEnd.Ir

/-- A type that the context has given out. -/
def Ty.Issued (c : Context) : Ty → Prop
  | .primitive _ => True
  | .integer width => width ∈ standardWidths ∨ width ∈ c.widths
  | .function s => s < c.signatures.size

instance decidableIssued (c : Context) : (t : Ty) → Decidable (t.Issued c)
  | .primitive _ => .isTrue trivial
  | .integer width =>
    decidable_of_iff (Ty.standardWidths.elem width = true ∨ c.widths.elem width = true)
      (or_congr List.elem_iff List.elem_iff)
  | .function s => Nat.decLt s c.signatures.size

theorem Ty.Issued.mono {c c' : Context} (hwidths : ∀ w ∈ c.widths, w ∈ c'.widths)
    (hgrows : c.Grows c') {t : Ty} (ht : t.Issued c) : t.Issued c' := by
  cases t with
  | primitive p => trivial
  | integer w => exact ht.imp_right (hwidths w)
  | function s => exact hgrows.lt_size ht

/-- A value is fit to be made in `c`, where `c'` is what comes of it. -/
structure Form.New (c c' : Context) (form : Form) : Prop where
  type : form.type.Issued c'
  operands : ∀ o ∈ form.operands, c.Has o
  binary : ∀ op t l r b, form = .binary op t l r b → c.type? l = some t ∧ c.type? r = some t
  index : ∀ t f i, form = .argument t (some f) i → i = (c.params f).length
  signature : ∀ s, form.signature? = some s → ∀ f, c.signature? f ≠ some s
  room : c.values.size < 4294967295

/-- A value has a type of the context and uses what was made before it; both sides of an operator
are of its type. -/
structure Form.Fits (c : Context) (v : ValueId) (form : Form) : Prop where
  type : form.type.Issued c
  operands : ∀ o ∈ form.operands, o < v
  binary : ∀ op t l r b, form = .binary op t l r b → c.type? l = some t ∧ c.type? r = some t

theorem Form.Fits.mono {c c' : Context} (hwidths : ∀ w ∈ c.widths, w ∈ c'.widths)
    (hgrows : c.Grows c') {v : ValueId} {form : Form} (h : form.Fits c v) : form.Fits c' v where
  type := h.type.mono hwidths hgrows
  operands := h.operands
  binary op t l r b hform := by
    obtain ⟨hl, hr⟩ := h.binary op t l r b hform
    exact ⟨hgrows.type? l t hl, hgrows.type? r t hr⟩

theorem Form.row?_eq_params_iff {form : Form} {f : ValueId} :
    form.row? = some (.params f) ↔ ∃ t i, form = .argument t (some f) i := by
  cases form <;> simp [Form.row?]

theorem Form.row?_eq_body_iff {form : Form} {f : ValueId} :
    form.row? = some (.body f) ↔ ∃ is, form = .block f is := by
  cases form <;> simp [Form.row?]

theorem Form.row?_eq_members_iff {form : Form} {b : ValueId} :
    form.row? = some (.members b) ↔
      (∃ op t l r, form = .binary op t l r b) ∨ ∃ v, form = .ret v b := by
  cases form <;> simp [Form.row?]

/-- All values that a value refers to. -/
def Form.mentions : Form → List ValueId
  | .function _ _ body => body.toList
  | .argument _ parent _ => parent.toList
  | .block p is => p :: is
  | .binary _ _ l r b => [l, r, b]
  | .ret v b => v.toList ++ [b]

namespace Context

/-- Numbers are owned once each, and values are where they say they are. -/
structure Wired (c : Context) : Prop where
  owned : c.owned.Perm (List.range' 1 c.values.size)
  listed : ∀ k v, v ∈ c.children k ↔ c.row? v = some k
  once : ∀ k, (c.children k).Nodup
  index : ∀ f i a, (c.params f)[i]? = some a → ∃ t, c.fixed? a = some (.argument t (some f) i)
  signature : ∀ f g s, c.signature? f = some s → c.signature? g = some s → f = g

theorem wired_empty : Wired {} where
  owned := by simp [Context.owned]
  listed k v := by simp [children_eq, row?, form?, value?, Row.read_none]
  once k := by simp [children_eq, form?, value?, Row.read_none]
  index f i a h := by simp [params_eq, Context.signature?, form?, value?] at h
  signature f g s h := by simp [Context.signature?, form?, value?] at h

namespace Wired

variable {c c' : Context} (h : c.Wired)

include h

theorem still (hstill : Still c c') : c'.Wired where
  owned := by
    rw [hstill.owned, hstill.values]
    exact h.owned
  listed k v := by
    rw [hstill.children, hstill.row?]
    exact h.listed k v
  once k := hstill.children k ▸ h.once k
  index f i a ha := by
    rw [show c'.params f = c.params f from hstill.children (.params f)] at ha
    rw [hstill.fixed?]
    exact h.index f i a ha
  signature f g s hf hg :=
    h.signature f g s (hstill.signature? f ▸ hf) (hstill.signature? g ▸ hg)

theorem nextValue_notMem (k : Row) : c.nextValue ∉ c.children k := by
  rw [h.listed, row?, form?_nextValue]
  simp

theorem makes {form : Form} (hmakes : Makes c c' form) (hnew : form.New c c') : c'.Wired where
  owned := by
    rw [hmakes.values, List.range'_1_concat]
    have hlast := (h.owned.cons c.nextValue).trans (List.perm_append_singleton _ _).symm
    rw [nextValue, Nat.add_comm] at hlast
    exact hmakes.owned.trans (Nat.add_comm c.values.size 1 ▸ hlast)
  listed k v := by
    have hnext := h.nextValue_notMem k
    rw [hmakes.children, hmakes.row?]
    by_cases hv : v = c.nextValue
    · by_cases hk : form.row? = some k
      · simp [hv, hk]
      · simp [hv, hk, hnext]
    · rw [if_neg hv, ← h.listed]
      split
      · simp [hv]
      · rfl
  once k := by
    rw [hmakes.children]
    split
    · refine List.nodup_append.mpr ⟨h.once k, by simp, ?_⟩
      intro v hv w hw heq
      rw [heq, List.mem_singleton.mp hw] at hv
      exact h.nextValue_notMem k hv
    · exact h.once k
  index f i a ha := by
    have hkept : (c.params f)[i]? = some a → ∃ t, c'.fixed? a = some (.argument t (some f) i) := by
      intro hold
      obtain ⟨t, ht⟩ := h.index f i a hold
      have hne : a ≠ c.nextValue := by
        rintro rfl
        exact h.nextValue_notMem (.params f) (List.mem_of_getElem? hold)
      exact ⟨t, by rw [hmakes.fixed?, if_neg hne, ht]⟩
    rw [show c'.params f = _ from hmakes.children (.params f)] at ha
    split at ha
    · rename_i hrow
      obtain ⟨t, j, rfl⟩ := Form.row?_eq_params_iff.mp hrow
      rw [children, List.getElem?_append] at ha
      split at ha
      · exact hkept ha
      · -- the new argument is the last, and says so
        have hj := hnew.index t f j rfl
        rw [List.getElem?_singleton] at ha
        split at ha
        · rename_i hi hlast
          cases ha
          have hi' : i = j := by omega
          refine ⟨t, ?_⟩
          rw [hmakes.fixed?, if_pos rfl, hi']
          rfl
        · cases ha
    · exact hkept ha
  signature f g s hf hg := by
    rw [hmakes.signature?] at hf hg
    split at hf <;> split at hg
    · rename_i hf' hg'
      rw [hf', hg']
    · exact absurd hg (hnew.signature s hf g)
    · exact absurd hf (hnew.signature s hg f)
    · exact h.signature f g s hf hg

end Wired

section Places

variable {c : Context}

theorem row?_eq_some_iff {v : ValueId} {k : Row} :
    c.row? v = some k ↔ ∃ form, c.form? v = some form ∧ form.row? = some k :=
  Option.bind_eq_some_iff

theorem form?_of_argument {a : ValueId} {t : Ty} {parent : Option ValueId} {i : Nat}
    (h : c.fixed? a = some (.argument t parent i)) : c.form? a = some (.argument t parent i) := by
  obtain ⟨form, hform, hfixed⟩ := Option.map_eq_some_iff.mp h
  cases form <;> simp_all [Form.fixed]

theorem has_keeper {k : Row} {v : ValueId} (h : v ∈ c.children k) : c.Has k.keeper := by
  rw [children_eq] at h
  cases hform : c.form? k.keeper with
  | none => simp [hform, Row.read_none] at h
  | some form => simp [Has, kind?, hform]

namespace Wired

variable (h : c.Wired)

include h

theorem has_child {k : Row} {v : ValueId} (hv : v ∈ c.children k) : c.Has v := by
  obtain ⟨form, hform, -⟩ := row?_eq_some_iff.mp ((h.listed k v).mp hv)
  simp [Has, kind?, hform]

theorem params_iff (f : ValueId) (i : Nat) (a : ValueId) :
    (c.params f)[i]? = some a ↔ ∃ t, c.form? a = some (.argument t (some f) i) := by
  constructor
  · intro ha
    obtain ⟨t, ht⟩ := h.index f i a ha
    exact ⟨t, form?_of_argument ht⟩
  · rintro ⟨t, ht⟩
    have hmem : a ∈ c.children (.params f) :=
      (h.listed _ a).mpr (row?_eq_some_iff.mpr ⟨_, ht, rfl⟩)
    -- it is among the arguments, and only at its own index
    obtain ⟨j, hj⟩ := List.mem_iff_getElem?.mp hmem
    obtain ⟨t', ht'⟩ := h.index f j a hj
    cases ht.symm.trans (form?_of_argument ht')
    exact hj

theorem body_iff (f b : ValueId) :
    c.body? f = some b ↔ ∃ is, c.form? b = some (.block f is) := by
  have hlisted := h.listed (.body f) b
  rw [children, Option.mem_toList] at hlisted
  rw [hlisted, row?_eq_some_iff]
  simp only [Form.row?_eq_body_iff]
  constructor
  · rintro ⟨form, hform, is, rfl⟩
    exact ⟨is, hform⟩
  · rintro ⟨is, hform⟩
    exact ⟨_, hform, is, rfl⟩

theorem members_iff (b i : ValueId) :
    i ∈ c.instructions b ↔ (∃ op t l r, c.form? i = some (.binary op t l r b)) ∨
      ∃ v, c.form? i = some (.ret v b) := by
  have hlisted := h.listed (.members b) i
  rw [children] at hlisted
  rw [hlisted, row?_eq_some_iff]
  simp only [Form.row?_eq_members_iff]
  constructor
  · rintro ⟨form, hform, ⟨op, t, l, r, rfl⟩ | ⟨v, rfl⟩⟩
    · exact .inl ⟨op, t, l, r, hform⟩
    · exact .inr ⟨v, hform⟩
  · rintro (⟨op, t, l, r, hform⟩ | ⟨v, hform⟩)
    · exact ⟨_, hform, .inl ⟨op, t, l, r, rfl⟩⟩
    · exact ⟨_, hform, .inr ⟨v, rfl⟩⟩

/-- A value stands in a row of one that is there. -/
theorem has_parent {v : ValueId} {form : Form} (hv : c.form? v = some form) {k : Row}
    (hk : form.row? = some k) : c.Has k.keeper :=
  has_keeper ((h.listed k v).mpr (row?_eq_some_iff.mpr ⟨form, hv, hk⟩))

theorem has_mentioned (hs : c.Sound) {v : ValueId} {form : Form} (hv : c.form? v = some form) :
    ∀ o ∈ form.mentions, c.Has o := by
  intro o ho
  have hoperands := (hs.forms v form hv).operands
  cases form with
  | function home s body =>
    apply h.has_child (k := .body v)
    simpa [children_eq, Row.keeper, hv, Row.read, Form.body?, Form.mentions] using ho
  | argument t parent i =>
    cases parent with
    | none => cases ho
    | some p =>
      rw [List.mem_singleton.mp ho]
      exact h.has_parent hv rfl
  | block p is =>
    rcases List.mem_cons.mp ho with rfl | ho
    · exact h.has_parent hv rfl
    · apply h.has_child (k := .members v)
      simpa [children_eq, Row.keeper, hv, Row.read, Form.members] using ho
  | binary op t l r b =>
    simp only [Form.mentions, List.mem_cons, List.not_mem_nil, or_false] at ho
    rcases ho with rfl | rfl | rfl
    · exact hoperands _ (by simp [Form.operands])
    · exact hoperands _ (by simp [Form.operands])
    · exact h.has_parent hv rfl
  | ret value b =>
    rcases List.mem_append.mp ho with ho | ho
    · exact hoperands o ho
    · rw [List.mem_singleton.mp ho]
      exact h.has_parent hv rfl

end Wired

end Places

/-- Every value fits, and so do the results of signatures. -/
structure Typed (c : Context) : Prop where
  values : ∀ v form, c.fixed? v = some form → form.Fits c v
  results : ∀ (s : Nat) sig, c.signatures[s]? = some sig → sig.result.Issued c

theorem typed_empty : Typed {} where
  values v form h := by simp [fixed?, form?, value?] at h
  results s sig h := by simp at h

theorem lt_nextValue {c : Context} {v : Nat} (hv : c.Has v) : v < c.nextValue := by
  unfold Has kind? form? value? at hv
  by_cases hzero : v = 0
  · simp [hzero, nextValue]
  · rw [if_neg hzero] at hv
    by_cases hlt : v - 1 < c.values.size
    · unfold nextValue
      omega
    · simp [hlt] at hv

theorem Typed.issued {c : Context} (h : c.Typed) {v : ValueId} {t : Ty} (hv : c.type? v = some t) :
    t.Issued c := by
  obtain ⟨form, hform, rfl⟩ := Option.map_eq_some_iff.mp hv
  have hfits := h.values v form.fixed (by rw [fixed?, hform, Option.map_some])
  exact form.type_fixed ▸ hfits.type

/-- All that is kept while code is built. -/
structure Built (c : Context) : Prop where
  sound : c.Sound
  wired : c.Wired
  typed : c.Typed

theorem built_empty : Built {} := ⟨sound_empty, wired_empty, typed_empty⟩

/-- There are no more values than numbers, and a module lists each of its functions once. -/
structure Numbered (c : Context) : Prop where
  size : c.values.size ≤ 4294967295
  functions : ∀ m, (c.module m).functions.Nodup

theorem numbered_empty : Numbered {} where
  size := by simp
  functions m := by simp [module]

/-- Values that are listed once each are no more than were made. -/
theorem length_le_size {c : Context} {vs : List ValueId} (hnodup : vs.Nodup)
    (hhas : ∀ v ∈ vs, c.Has v) : vs.length ≤ c.values.size := by
  have hrange : vs ⊆ List.range' 1 c.values.size := by
    intro v hv
    have hlt : v < c.values.size + 1 := lt_nextValue (hhas v hv)
    have hpos : 0 < v := by
      rcases Nat.eq_zero_or_pos v with rfl | hpos
      · simpa [Has, kind?, form?, value?] using hhas 0 hv
      · exact hpos
    exact List.mem_range'_1.mpr ⟨hpos, Nat.add_comm _ 1 ▸ hlt⟩
  simpa using (List.Nodup.subperm hnodup hrange).length_le

/-- A value has another as an operand. -/
def Uses (c : Context) (v o : ValueId) : Prop := ∃ form, c.form? v = some form ∧ o ∈ form.operands

/-- How code in a context hangs together. -/
structure WellFormed (c : Context) : Prop where
  /-- The modules own the numbers from one on, and each of them once. -/
  ids : (c.modules.toList.flatMap Module.values).Perm (List.range' 1 c.values.size)
  params : ∀ f i a, (c.params f)[i]? = some a ↔ ∃ t, c.form? a = some (.argument t (some f) i)
  body : ∀ f b, c.body? f = some b ↔ ∃ is, c.form? b = some (.block f is)
  members : ∀ b i, i ∈ c.instructions b ↔
    (∃ op t l r, c.form? i = some (.binary op t l r b)) ∨ ∃ v, c.form? i = some (.ret v b)
  once : ∀ b, (c.instructions b).Nodup
  operands : ∀ v o, c.Uses v o → o < v
  acyclic : ∀ v, ¬ Relation.TransGen c.Uses v v
  binary : ∀ v op t l r b, c.form? v = some (.binary op t l r b) →
    c.type? v = some t ∧ c.type? l = some t ∧ c.type? r = some t
  types : ∀ v t, c.type? v = some t → t.Issued c
  values : ∀ v form, c.form? v = some form → ∀ o ∈ form.mentions, c.Has o
  signatures : ∀ (s : Nat) sig, c.signatures[s]? = some sig →
    sig.result.Issued c ∧ ∀ a ∈ sig.params, c.Has a
  functions : ∀ m, ∀ f ∈ (c.module m).functions, c.kind? f = some .function

theorem Built.lt_of_uses {c : Context} (h : c.Built) {v o : ValueId} (huses : c.Uses v o) :
    o < v := by
  obtain ⟨form, hform, ho⟩ := huses
  have hfits := h.typed.values v form.fixed (by rw [fixed?, hform, Option.map_some])
  exact hfits.operands o (form.operands_fixed.symm ▸ ho)

theorem Built.lt_of_transGen {c : Context} (h : c.Built) {v o : ValueId}
    (huses : Relation.TransGen c.Uses v o) : o < v := by
  induction huses with
  | single huses => exact h.lt_of_uses huses
  | tail _ huses ih => exact Nat.lt_trans (h.lt_of_uses huses) ih

theorem Built.type?_of_binary {c : Context} (h : c.Built) {v l r b : ValueId} {op : BinaryOp}
    {t : Ty} (hv : c.form? v = some (.binary op t l r b)) :
    c.type? v = some t ∧ c.type? l = some t ∧ c.type? r = some t := by
  have hfixed : c.fixed? v = some (.binary op t l r b) := by
    rw [fixed?, hv]
    rfl
  refine ⟨?_, (h.typed.values v _ hfixed).binary op t l r b rfl⟩
  rw [type?, hv]
  rfl

theorem widths_named (c : Context) (v : ValueId) (name : Bytes) :
    (c.named v name).widths = c.widths := by
  unfold named
  split
  · rfl
  · split <;> rfl

theorem widths_unnamed (c : Context) (v : ValueId) : (c.unnamed v).widths = c.widths := by
  unfold unnamed
  split
  · rfl
  split
  · split <;> rfl
  · rfl

end Context

namespace Call

/-- The module that a call is made on. -/
def module? : Call → Option ModuleId
  | .function m .. | .argument m .. | .block m .. | .binary m .. | .ret m .. => some m
  | _ => none

/-- The type that a call is given. -/
def type : Call → TypeRef
  | .signature t | .function _ t _ | .argument _ t _ _ => t
  | _ => .missing

/-- All handles that the caller hands over were given out by the context, of modules and types as
well. -/
def Granted (c : Context) (call : Call) : Prop :=
  call.Legal c ∧ (∀ m ∈ call.module?, m < c.modules.size) ∧ call.type.Denotes (Ty.Issued c)

instance (c : Context) (call : Call) : Decidable (call.Granted c) :=
  inferInstanceAs (Decidable (_ ∧ _))

/-- Every call of a script is granted when it is made. -/
def GrantedAll (c : Context) : List Call → Prop
  | [] => True
  | call :: calls => call.Granted c ∧ GrantedAll (call.after c) calls

instance decidableGrantedAll (c : Context) : (calls : List Call) → Decidable (GrantedAll c calls)
  | [] => .isTrue trivial
  | call :: calls =>
    have := decidableGrantedAll (call.after c) calls
    inferInstanceAs (Decidable (_ ∧ _))

open Context

variable {c : Context} {call : Call} {r : EStateM.Result Misuse Context Unit}

theorem Effect.widths (he : Effect c call r) : ∀ w ∈ c.widths, w ∈ (left r).widths := by
  intro w hw
  cases he with
  | integer hwidth =>
    change w ∈ (c.addWidth _).widths
    unfold addWidth
    split
    · exact hw
    · exact List.mem_insert_of_mem hw
  | function m t name => exact (widths_named _ _ name).symm ▸ hw
  | argument m t name hf => exact (widths_named _ _ name).symm ▸ hw
  | block m name hf => exact (widths_named _ _ name).symm ▸ hw
  | setName name hv hfree => exact (widths_named _ _ name).symm ▸ hw
  | clearName hv => exact (widths_unnamed _ _).symm ▸ hw
  | _ => exact hw

/-- A signature has the result that it had, or it is new and has the type that was given. -/
theorem Effect.result (he : Effect c call r) {s : Nat} {sig : Signature}
    (hsig : (left r).signatures[s]? = some sig) :
    (∃ old, c.signatures[s]? = some old ∧ sig.result = old.result) ∨
      call.type = .own sig.result := by
  have hpush : ∀ t : Ty, (c.signatures.push { result := t })[s]? = some sig →
      (∃ old, c.signatures[s]? = some old ∧ sig.result = old.result) ∨
        (.own t : TypeRef) = .own sig.result := by
    intro t hsig
    rw [Array.getElem?_push] at hsig
    split at hsig
    · cases hsig
      exact .inr rfl
    · exact .inl ⟨sig, hsig, rfl⟩
  have hkeeps : (left r).signatures = c.signatures →
      ∃ old, c.signatures[s]? = some old ∧ sig.result = old.result := by
    intro hsame
    exact ⟨sig, hsame ▸ hsig, rfl⟩
  cases he with
  | signature t => exact hpush t hsig
  | exhausted m t name => exact hpush t hsig
  | function m t name => exact hpush t (c.signatures_addFunction m t name ▸ hsig)
  | argument m t name hf =>
    left
    rw [left, signatures_addArgument, Array.getElem?_modify] at hsig
    split at hsig
    · obtain ⟨old, hold, rfl⟩ := Option.map_eq_some_iff.mp hsig
      exact ⟨old, hold, rfl⟩
    · exact ⟨sig, hsig, rfl⟩
  | block m name hf => exact .inl (hkeeps (signatures_addBlock ..))
  | setName name hv hfree => exact .inl (hkeeps (c.named_keeps _ name).signatures)
  | clearName hv => exact .inl (hkeeps (c.unnamed_keeps _).signatures)
  | _ => exact .inl (hkeeps rfl)

theorem Effect.makes (h : c.Built) (hg : call.Granted c) (he : Effect c call r) :
    Still c (left r) ∨ ∃ form, Makes c (left r) form ∧ form.New c (left r) := by
  have hlater : ∀ t : Ty, t.Issued c → t.Issued (left r) := by
    intro t ht
    exact ht.mono he.widths he.grows
  have hhas : ∀ v t, c.type? v = some t → c.Has v := by
    intro v t ht
    obtain ⟨form, hform, -⟩ := Option.map_eq_some_iff.mp ht
    simp [Has, kind?, hform]
  obtain ⟨hlegal, hmodule, htype⟩ := hg
  cases he with
  | refused => exact .inl ⟨fun _ => rfl, fun _ => rfl, rfl, rfl⟩
  | primitive => exact .inl ⟨fun _ => rfl, fun _ => rfl, rfl, rfl⟩
  | integer hwidth => exact .inl ((c.addWidth_keeps _).still rfl rfl)
  | signature t => exact .inl (addSignature_still h.sound t)
  | module path => exact .inl ((c.addModule_keeps path).still rfl (c.owned_addModule path))
  | exhausted m t name => exact .inl (addSignature_still h.sound t)
  | function m t name hroom =>
    refine .inr ⟨_, addFunction_makes h.sound (hmodule m rfl) t name, ?_, ?_, ?_, ?_, ?_, hroom⟩
    · change c.signatures.size < (c.addFunction m t name).signatures.size
      rw [signatures_addFunction, Array.size_push]
      exact Nat.lt_succ_self _
    · simp [Form.operands]
    · simp
    · simp
    · rintro s ⟨⟩ f hf
      exact Nat.lt_irrefl _ (h.sound.signature?_lt hf)
  | @argument m t name f home s body hf hroom =>
    have hown : ∀ g, c.signature? g = some s → g = f := by
      intro g hg
      exact h.wired.signature g f s hg (by simp [signature?, hf, Form.signature?])
    refine .inr ⟨_, addArgument_makes h.sound hf hown (hmodule m rfl) t name, hlater t htype,
      ?_, ?_, ?_, ?_, hroom⟩
    · simp [Form.operands]
    · simp
    · rintro _ _ _ ⟨⟩
      rfl
    · simp [Form.signature?]
  | block m name hf hroom =>
    exact .inr ⟨_, addBlock_makes hf (hmodule m rfl) name, trivial, by simp [Form.operands],
      by simp, by simp, by simp [Form.signature?], hroom⟩
  | @binary m code op t l r b p is hop hl hr hb hroom =>
    refine .inr ⟨_, addInstruction_makes hb rfl rfl (hmodule m rfl), hlater t (h.typed.issued hl),
      ?_, ?_, by simp, by simp [Form.signature?], hroom⟩
    · intro o ho
      simp only [Form.operands, List.mem_cons, List.not_mem_nil, or_false] at ho
      rcases ho with rfl | rfl
      · exact hhas _ _ hl
      · exact hhas _ _ hr
    · rintro _ _ _ _ _ ⟨⟩
      exact ⟨hl, hr⟩
  | ret m v hb hroom =>
    refine .inr ⟨_, addInstruction_makes hb rfl rfl (hmodule m rfl), trivial, ?_, by simp, by simp,
      by simp [Form.signature?], hroom⟩
    intro o ho
    cases v with
    | none => cases ho
    | some v =>
      rw [List.mem_singleton.mp ho]
      exact hlegal.1
  | @setName name v x hv hfree =>
    have howners := c.named_sameOwners v name
    exact .inl ((c.named_keeps _ name).still howners.values howners.owned)
  | @clearName v x hv =>
    have howners := c.unnamed_sameOwners v
    exact .inl ((c.unnamed_keeps _).still howners.values howners.owned)

theorem Effect.typed (h : c.Built) (hg : call.Granted c) (he : Effect c call r) :
    (left r).Typed := by
  have hgrows := he.grows
  have hwidths := he.widths
  constructor
  · intro v form hv
    have hkept : c.fixed? v = some form → form.Fits (left r) v := by
      intro hold
      exact (h.typed.values v form hold).mono hwidths hgrows
    rcases he.makes h hg with hstill | ⟨made, hmakes, hnew⟩
    · exact hkept (hstill.fixed? v ▸ hv)
    rw [hmakes.fixed?] at hv
    split at hv
    · rename_i hv'
      cases hv
      refine ⟨made.type_fixed ▸ hnew.type, ?_, ?_⟩
      · intro o ho
        rw [made.operands_fixed] at ho
        exact hv' ▸ lt_nextValue (hnew.operands o ho)
      · intro op t l r' b hbinary
        have hmade : made = .binary op t l r' b := by
          cases made <;> simp_all [Form.fixed]
        obtain ⟨hl, hr⟩ := hnew.binary op t l r' b hmade
        exact ⟨hgrows.type? l t hl, hgrows.type? r' t hr⟩
    · exact hkept hv
  · intro s sig hsig
    rcases he.result hsig with ⟨old, hold, hresult⟩ | hown
    · rw [hresult]
      exact (h.typed.results s old hold).mono hwidths hgrows
    · have hissued := hg.2.2
      rw [hown] at hissued
      exact hissued.mono hwidths hgrows

theorem Effect.built (h : c.Built) (hg : call.Granted c) (he : Effect c call r) :
    (left r).Built := by
  refine ⟨he.sound h.sound hg.1, ?_, he.typed h hg⟩
  rcases he.makes h hg with hstill | ⟨made, hmakes, hnew⟩
  · exact h.wired.still hstill
  · exact h.wired.makes hmakes hnew

theorem run_built (h : c.Built) {calls : List Call} (hg : GrantedAll c calls) :
    (run c calls).Built := by
  induction calls generalizing c with
  | nil => exact h
  | cons call calls ih => exact ih ((perform_effect c call).built h hg.1) hg.2

/-- Only a function that is made comes into a list of functions, at its end. -/
theorem Effect.functions (he : Effect c call r) (k : ModuleId) :
    ((left r).module k).functions = (c.module k).functions ∨
      ((left r).module k).functions = (c.module k).functions ++ [c.nextValue] := by
  cases he with
  | module path => exact .inl ((c.addModule_keeps path).functions k)
  | function m t name hroom =>
    change ((c.addFunction m t name).module k).functions = _ ∨
      ((c.addFunction m t name).module k).functions = _
    rw [addFunction, (named_keeps ..).functions]
    exact functions_addListed c m k t
  | argument m t name hf hroom =>
    exact .inl (((adopt_keeps ..).functions k).trans ((named_keeps ..).functions k))
  | block m name hf hroom =>
    exact .inl (((adopt_keeps ..).functions k).trans ((named_keeps ..).functions k))
  | binary m hop hl hr hb hroom => exact .inl ((adopt_keeps ..).functions k)
  | ret m v hb hroom => exact .inl ((adopt_keeps ..).functions k)
  | setName name hv hfree => exact .inl ((c.named_keeps _ name).functions k)
  | clearName hv => exact .inl ((c.unnamed_keeps _).functions k)
  | _ => exact .inl rfl

theorem Effect.numbered (h : c.Built) (hn : c.Numbered) (hg : call.Granted c)
    (he : Effect c call r) : (left r).Numbered where
  size := by
    rcases he.makes h hg with hstill | ⟨made, hmakes, hnew⟩
    · exact hstill.values ▸ hn.size
    · rw [hmakes.values]
      exact hnew.room
  functions k := by
    rcases he.functions k with hsame | hmore
    · exact hsame ▸ hn.functions k
    · rw [hmore, List.nodup_append]
      refine ⟨hn.functions k, by simp, ?_⟩
      intro f hf v hv heq
      have hkind := h.sound.functions k f hf
      rw [heq, List.mem_singleton.mp hv, kind?, form?_nextValue] at hkind
      cases hkind

theorem run_numbered (h : c.Built) (hn : c.Numbered) {calls : List Call} (hg : GrantedAll c calls) :
    (run c calls).Numbered := by
  induction calls generalizing c with
  | nil => exact hn
  | cons call calls ih =>
    have heffect := perform_effect c call
    exact ih (heffect.built h hg.1) (heffect.numbered h hn hg.1) hg.2

/-- Whatever is made on whatever modules of a context, its code is well formed. -/
theorem run_wellFormed (calls : List Call) (hg : GrantedAll {} calls) :
    (run {} calls).WellFormed := by
  have hbuilt : (run {} calls).Built := run_built built_empty hg
  exact {
    ids := hbuilt.wired.owned
    params := hbuilt.wired.params_iff
    body := hbuilt.wired.body_iff
    members := hbuilt.wired.members_iff
    once := fun b => hbuilt.wired.once (.members b)
    operands := fun _ _ huses => hbuilt.lt_of_uses huses
    acyclic := fun v huses => Nat.lt_irrefl v (hbuilt.lt_of_transGen huses)
    binary := fun _ _ _ _ _ _ hv => hbuilt.type?_of_binary hv
    types := fun _ _ ht => hbuilt.typed.issued ht
    values := fun _ _ hv => hbuilt.wired.has_mentioned hbuilt.sound hv
    signatures := fun s sig hs =>
      ⟨hbuilt.typed.results s sig hs, (hbuilt.sound.signatures s sig hs).params⟩
    functions := hbuilt.sound.functions }

/-- The second module adds an argument to a function of the first after it has a body, and
instructions to that body. -/
def acrossModules : List Call :=
  [.integer 7, .module none, .module none, .function 0 (.own (.integer 7)) "f",
    .argument 0 (.own (.integer 7)) (.own 1) "x", .block 0 (.own ()) "entry" (.own 1),
    .argument 1 (.own (.integer 7)) (.own 1) "y", .binary 1 0 (.own 2) (.own 4) (.own 3),
    .block 1 (.own ()) "again" (.own 1), .ret 1 (.own 5) (.own 3)]

theorem run_wellFormed_acrossModules :
    GrantedAll {} acrossModules ∧ (run {} acrossModules).values.size = 6 ∧
      (run {} acrossModules).params 1 = [2, 4] ∧ (run {} acrossModules).instructions 3 = [5, 6] ∧
      (run {} acrossModules).WellFormed :=
  ⟨by decide, by decide, by decide, by decide, run_wellFormed acrossModules (by decide)⟩

end Call

end FrontEnd.Ir
