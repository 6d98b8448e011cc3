import FrontEnd.Proofs.Ir.Step

/-!
Scripts of calls on one context. A caller holds only handles that the context has given out, so what
it hands over is there. Then everything that code refers to is there as well, after any script:
types, arguments, operands, instructions and functions. Nothing is ever taken away.
-/
namespace FrontEnd.Ir

/-- A type of a context: its signature, if it has one, was made there. -/
def Ty.In (c : Context) : Ty → Prop
  | .function s => s < c.signatures.size
  | _ => True

instance (c : Context) (t : Ty) : Decidable (t.In c) := by
  unfold Ty.In
  split <;> infer_instance

namespace Context

def kind? (c : Context) (v : ValueId) : Option ValueKind := (c.form? v).map Form.kind

/-- A value was made in the context. -/
def Has (c : Context) (v : ValueId) : Prop := (c.kind? v).isSome = true

instance (c : Context) (v : ValueId) : Decidable (c.Has v) := inferInstanceAs (Decidable (_ = _))

section Frame

variable (c : Context)

theorem form?_addValue (form : Form) (v : Nat) :
    (c.addValue form).form? v = if v = c.nextValue then some form else c.form? v := by
  simp only [form?, value?, addValue, nextValue, Array.getElem?_push]
  by_cases hzero : v = 0
  · simp [hzero]
  · by_cases hnext : v = c.values.size + 1
    · simp [hnext]
    · have hne : v - 1 ≠ c.values.size := by omega
      simp [hzero, hnext, hne]

theorem form?_nextValue : c.form? c.nextValue = none := by
  simp [form?, value?, nextValue]

theorem form?_addValue_of_some {v : Nat} {old : Form} (h : c.form? v = some old) (form : Form) :
    (c.addValue form).form? v = some old := by
  have hne : v ≠ c.nextValue := by
    rintro rfl
    simp [form?_nextValue] at h
  rw [form?_addValue, if_neg hne, h]

theorem form?_ne_zero {v : Nat} {form : Form} (h : c.form? v = some form) : v ≠ 0 := by
  rintro rfl
  simp [form?, value?] at h

theorem form?_mapForm {v : Nat} {form : Form} (h : c.form? v = some form) (g : Form → Form)
    (w : Nat) : (c.mapForm v g).form? w = if w = v then some (g form) else c.form? w := by
  have hv := c.form?_ne_zero h
  simp only [form?, value?, mapForm, Array.getElem?_modify] at h ⊢
  by_cases hzero : w = 0
  · simp [hzero, Ne.symm hv]
  · by_cases heq : w = v
    · subst heq
      simp only [hzero, if_false, if_true, Option.map_map] at h ⊢
      obtain ⟨x, hx, rfl⟩ := Option.map_eq_some_iff.mp h
      simp [hx]
    · have hne : v - 1 ≠ w - 1 := by omega
      simp [hzero, heq, hne]

theorem kind?_mapForm {v : Nat} {form : Form} (h : c.form? v = some form) {g : Form → Form}
    (hkind : (g form).kind = form.kind) (w : Nat) : (c.mapForm v g).kind? w = c.kind? w := by
  simp only [kind?, form?_mapForm c h]
  split
  · rename_i heq
    rw [heq, h, Option.map_some, Option.map_some, hkind]
  · rfl

theorem type?_mapForm {v : Nat} {form : Form} (h : c.form? v = some form) {g : Form → Form}
    (htype : (g form).type = form.type) (w : Nat) : (c.mapForm v g).type? w = c.type? w := by
  simp only [type?, form?_mapForm c h]
  split
  · rename_i heq
    rw [heq, h, Option.map_some, Option.map_some, htype]
  · rfl

/-- Only names, ownership and symbols differ. -/
structure Keeps (c c' : Context) : Prop where
  signatures : c'.signatures = c.signatures
  form? : ∀ v, c'.form? v = c.form? v
  functions : ∀ m, (c'.module m).functions = (c.module m).functions

theorem Keeps.trans {c₁ c₂ c₃ : Context} (h : Keeps c₁ c₂) (h' : Keeps c₂ c₃) : Keeps c₁ c₃ where
  signatures := h'.signatures.trans h.signatures
  form? v := (h'.form? v).trans (h.form? v)
  functions m := (h'.functions m).trans (h.functions m)

theorem Keeps.kind? {c c' : Context} (h : Keeps c c') (v : ValueId) : c'.kind? v = c.kind? v := by
  rw [Context.kind?, Context.kind?, h.form?]

theorem Keeps.type? {c c' : Context} (h : Keeps c c') (v : ValueId) : c'.type? v = c.type? v := by
  rw [Context.type?, Context.type?, h.form?]

theorem mapModule_keeps (m : ModuleId) (g : Module → Module)
    (hg : ∀ x, (g x).functions = x.functions) : Keeps c (c.mapModule m g) where
  signatures := rfl
  form? _ := rfl
  functions k := by
    simp only [module, mapModule, Array.getElem?_modify]
    split
    · cases c.modules[k]? with
      | none => rfl
      | some x => exact hg x
    · rfl

theorem adopt_keeps (m : ModuleId) (v : ValueId) : Keeps c (c.adopt m v) :=
  c.mapModule_keeps m _ fun _ => rfl

theorem addModule_keeps (path : Option Bytes) : Keeps c (c.addModule path) where
  signatures := rfl
  form? _ := rfl
  functions m := by
    simp only [module, addModule, Array.getElem?_push]
    split
    · rename_i hm
      simp [hm]
    · rfl

theorem addWidth_keeps (width : Nat) : Keeps c (c.addWidth width) :=
  ⟨rfl, fun _ => rfl, fun _ => rfl⟩

theorem rename_keeps {g : Value → Value} (hg : ∀ x, (g x).form = x.form) (i : Nat)
    (names : Table ValueId Bytes) :
    Keeps c { c with values := c.values.modify i g, names } where
  signatures := rfl
  form? v := by
    simp only [form?, value?, Array.getElem?_modify]
    split
    · rfl
    split
    · cases c.values[v - 1]? with
      | none => rfl
      | some x => simp [hg x]
    · rfl
  functions _ := rfl

theorem named_keeps (v : ValueId) (name : Bytes) : Keeps c (c.named v name) := by
  unfold named
  split
  · exact ⟨rfl, fun _ => rfl, fun _ => rfl⟩
  have hrename := c.rename_keeps (g := fun x => { x with hasName := true }) (fun _ => rfl) (v - 1)
    (c.names.insert v name)
  split
  · exact hrename.trans (mapModule_keeps _ _ _ fun _ => rfl)
  · exact hrename

theorem form?_named_addValue {v : Nat} {old : Form} (h : c.form? v = some old) (form : Form)
    (name : Bytes) : ((c.addValue form).named c.nextValue name).form? v = some old := by
  rw [(named_keeps ..).form?, c.form?_addValue_of_some h]

theorem unnamed_keeps (v : ValueId) : Keeps c (c.unnamed v) := by
  have hrename : Keeps c (c.withoutName v) :=
    c.rename_keeps (g := fun x => { x with hasName := false }) (fun _ => rfl) (v - 1) _
  unfold unnamed
  split
  · exact ⟨rfl, fun _ => rfl, fun _ => rfl⟩
  split
  · split
    · exact hrename.trans (mapModule_keeps _ _ _ fun _ => rfl)
    · exact hrename
  · exact hrename

end Frame

/-- Nothing is taken away: a signature may get arguments, a value stays of its kind and type, and a
function stays in its module. -/
structure Grows (c c' : Context) : Prop where
  signatures : ∀ (s : Nat) sig, c.signatures[s]? = some sig → ∃ sig',
    c'.signatures[s]? = some sig' ∧ sig'.result = sig.result ∧ ∀ a ∈ sig.params, a ∈ sig'.params
  kind? : ∀ v k, c.kind? v = some k → c'.kind? v = some k
  type? : ∀ v t, c.type? v = some t → c'.type? v = some t
  functions : ∀ m, ∀ f ∈ (c.module m).functions, f ∈ (c'.module m).functions

namespace Grows

variable {c c' : Context}

theorem refl (c : Context) : Grows c c where
  signatures _ sig hs := ⟨sig, hs, rfl, fun _ ha => ha⟩
  kind? _ _ hk := hk
  type? _ _ ht := ht
  functions _ _ hf := hf

theorem trans {c₁ c₂ c₃ : Context} (h : Grows c₁ c₂) (h' : Grows c₂ c₃) : Grows c₁ c₃ where
  signatures s sig hs := by
    obtain ⟨sig₂, hs₂, hresult₂, hparams₂⟩ := h.signatures s sig hs
    obtain ⟨sig₃, hs₃, hresult₃, hparams₃⟩ := h'.signatures s sig₂ hs₂
    exact ⟨sig₃, hs₃, hresult₃.trans hresult₂, fun a ha => hparams₃ a (hparams₂ a ha)⟩
  kind? v k hk := h'.kind? v k (h.kind? v k hk)
  type? v t ht := h'.type? v t (h.type? v t ht)
  functions m f hf := h'.functions m f (h.functions m f hf)

theorem has (h : Grows c c') {v : ValueId} (hv : c.Has v) : c'.Has v := by
  obtain ⟨k, hk⟩ := Option.isSome_iff_exists.mp hv
  exact Option.isSome_iff_exists.mpr ⟨k, h.kind? v k hk⟩

theorem lt_size (h : Grows c c') {s : Nat} (hs : s < c.signatures.size) :
    s < c'.signatures.size := by
  obtain ⟨sig', hs', -⟩ := h.signatures s _ (Array.getElem?_eq_getElem hs)
  exact (Array.getElem?_eq_some_iff.mp hs').1

end Grows

theorem Keeps.grows {c c' : Context} (h : Keeps c c') : Grows c c' where
  signatures _ sig hs := ⟨sig, h.signatures ▸ hs, rfl, fun _ ha => ha⟩
  kind? v k hk := by rwa [h.kind?]
  type? v t ht := by rwa [h.type?]
  functions m f hf := by rwa [h.functions]

theorem addSignature_grows (c : Context) (t : Ty) : Grows c (c.addSignature t) where
  signatures s sig hs := by
    have hne : s ≠ c.signatures.size := Nat.ne_of_lt (Array.getElem?_eq_some_iff.mp hs).1
    refine ⟨sig, ?_, rfl, fun _ ha => ha⟩
    rwa [addSignature, Array.getElem?_push, if_neg hne]
  kind? _ _ hk := hk
  type? _ _ ht := ht
  functions _ _ hf := hf

theorem addParam_grows (c : Context) (s : Nat) (a : ValueId) : Grows c (c.addParam s a) where
  signatures k sig hs := by
    rw [addParam, Array.getElem?_modify, hs]
    split
    · exact ⟨_, rfl, rfl, fun _ hb => List.mem_append_left _ hb⟩
    · exact ⟨sig, rfl, rfl, fun _ hb => hb⟩
  kind? _ _ hk := hk
  type? _ _ ht := ht
  functions _ _ hf := hf

theorem addValue_grows (c : Context) (form : Form) : Grows c (c.addValue form) where
  signatures _ sig hs := ⟨sig, hs, rfl, fun _ ha => ha⟩
  kind? v k hk := by
    obtain ⟨old, hold, rfl⟩ := Option.map_eq_some_iff.mp hk
    rw [kind?, c.form?_addValue_of_some hold, Option.map_some]
  type? v t ht := by
    obtain ⟨old, hold, rfl⟩ := Option.map_eq_some_iff.mp ht
    rw [type?, c.form?_addValue_of_some hold, Option.map_some]
  functions _ _ hf := hf

theorem mapForm_grows {c : Context} {v : ValueId} {form : Form} (hv : c.form? v = some form)
    {g : Form → Form} (hkind : (g form).kind = form.kind) (htype : (g form).type = form.type) :
    Grows c (c.mapForm v g) where
  signatures _ sig hs := ⟨sig, hs, rfl, fun _ ha => ha⟩
  kind? w k hk := by rwa [kind?_mapForm c hv hkind]
  type? w t ht := by rwa [type?_mapForm c hv htype]
  functions _ _ hf := hf

theorem mem_functions_addToModule {c : Context} {m k : ModuleId} {f f' : ValueId} :
    f' ∈ ((c.addToModule m f).module k).functions ↔
      f' ∈ (c.module k).functions ∨ m < c.modules.size ∧ k = m ∧ f' = f := by
  simp only [module, addToModule, mapModule, Array.getElem?_modify]
  by_cases hk : m = k
  · subst hk
    by_cases hm : m < c.modules.size
    · simp [hm]
    · simp [hm]
  · simp [hk, Ne.symm hk]

theorem functions_addToModule (c : Context) (m k : ModuleId) (f : ValueId) :
    ((c.addToModule m f).module k).functions = (c.module k).functions ∨
      ((c.addToModule m f).module k).functions = (c.module k).functions ++ [f] := by
  simp only [module, addToModule, mapModule, Array.getElem?_modify]
  split
  · cases c.modules[k]? with
    | none => exact .inl rfl
    | some x => exact .inr rfl
  · exact .inl rfl

theorem functions_addListed (c : Context) (m k : ModuleId) (t : Ty) :
    ((c.addListed m t).module k).functions = (c.module k).functions ∨
      ((c.addListed m t).module k).functions = (c.module k).functions ++ [c.nextValue] := by
  have hadopted := (adopt_keeps ((c.addSignature t).addValue (.function m c.signatures.size none))
    m c.nextValue).functions k
  have hlisted := functions_addToModule (((c.addSignature t).addValue
    (.function m c.signatures.size none)).adopt m c.nextValue) m k c.nextValue
  rw [hadopted] at hlisted
  exact hlisted

theorem mem_functions_addListed {c : Context} {m : ModuleId} (hm : m < c.modules.size) {t : Ty}
    {k : ModuleId} {f : ValueId} :
    f ∈ ((c.addListed m t).module k).functions ↔
      f ∈ (c.module k).functions ∨ k = m ∧ f = c.nextValue := by
  have hm' : m < (((c.addSignature t).addValue (.function m c.signatures.size none)).adopt m
      c.nextValue).modules.size := by
    simpa [adopt, mapModule, addValue, addSignature] using hm
  rw [addListed, mem_functions_addToModule, (adopt_keeps ..).functions]
  simp only [hm', true_and]
  rfl

theorem addToModule_grows (c : Context) (m : ModuleId) (f : ValueId) :
    Grows c (c.addToModule m f) where
  signatures _ sig hs := ⟨sig, hs, rfl, fun _ ha => ha⟩
  kind? _ _ hk := hk
  type? _ _ ht := ht
  functions _ _ hf := mem_functions_addToModule.mpr (.inl hf)

end Context

theorem Ty.In.grows {c c' : Context} (h : c.Grows c') {t : Ty} (ht : t.In c) : t.In c' := by
  cases t with
  | function s => exact h.lt_size ht
  | _ => trivial

/-- The instructions of a block. -/
def Form.members : Form → List ValueId
  | .block _ is => is
  | _ => []

/-- All that a value refers to is in the context. -/
structure Form.In (c : Context) (form : Form) : Prop where
  type : form.type.In c
  operands : ∀ o ∈ form.operands, c.Has o
  members : ∀ i ∈ form.members, c.kind? i = some .instruction

theorem Form.In.grows {c c' : Context} (h : c.Grows c') {form : Form} (hf : form.In c) :
    form.In c' where
  type := hf.type.grows h
  operands o ho := h.has (hf.operands o ho)
  members i hi := h.kind? i _ (hf.members i hi)

structure Signature.In (c : Context) (sig : Signature) : Prop where
  result : sig.result.In c
  params : ∀ a ∈ sig.params, c.Has a

theorem Signature.In.grows {c c' : Context} (h : c.Grows c') {sig : Signature} (hs : sig.In c) :
    sig.In c' where
  result := hs.result.grows h
  params a ha := h.has (hs.params a ha)

namespace Context

/-- All that code refers to is there. -/
structure Sound (c : Context) : Prop where
  forms : ∀ v form, c.form? v = some form → form.In c
  signatures : ∀ (s : Nat) sig, c.signatures[s]? = some sig → sig.In c
  functions : ∀ m, ∀ f ∈ (c.module m).functions, c.kind? f = some .function

theorem sound_empty : Sound {} := by
  constructor <;> simp [form?, value?, module]

namespace Sound

variable {c c' : Context} (h : Sound c)

include h

theorem keeps (hk : Keeps c c') : Sound c' where
  forms v form hf := (h.forms v form (hk.form? v ▸ hf)).grows hk.grows
  signatures s sig hs := (h.signatures s sig (hk.signatures ▸ hs)).grows hk.grows
  functions m f hf := hk.grows.kind? f _ (h.functions m f (hk.functions m ▸ hf))

theorem addSignature {t : Ty} (ht : t.In c) : Sound (c.addSignature t) := by
  have hgrows := c.addSignature_grows t
  constructor
  · intro v form hf
    exact (h.forms v form hf).grows hgrows
  · intro s sig hs
    rw [Context.addSignature, Array.getElem?_push] at hs
    split at hs
    · cases hs
      exact ⟨ht.grows hgrows, by simp⟩
    · exact (h.signatures s sig hs).grows hgrows
  · intro m f hf
    exact hgrows.kind? f _ (h.functions m f hf)

theorem addParam {a : ValueId} (ha : c.Has a) (s : Nat) : Sound (c.addParam s a) := by
  have hgrows := c.addParam_grows s a
  constructor
  · intro v form hf
    exact (h.forms v form hf).grows hgrows
  · intro k sig hs
    rw [Context.addParam, Array.getElem?_modify] at hs
    split at hs
    · obtain ⟨old, hold, rfl⟩ := Option.map_eq_some_iff.mp hs
      have hin := (h.signatures k old hold).grows hgrows
      refine ⟨hin.result, ?_⟩
      intro b hb
      rcases List.mem_append.mp hb with hb | hb
      · exact hin.params b hb
      · rw [List.mem_singleton.mp hb]
        exact hgrows.has ha
    · exact (h.signatures k sig hs).grows hgrows
  · intro m f hf
    exact hgrows.kind? f _ (h.functions m f hf)

theorem addValue {form : Form} (hform : form.In c) : Sound (c.addValue form) := by
  have hgrows := c.addValue_grows form
  constructor
  · intro v form' hf
    rw [form?_addValue] at hf
    split at hf
    · cases hf
      exact hform.grows hgrows
    · exact (h.forms v form' hf).grows hgrows
  · intro s sig hs
    exact (h.signatures s sig hs).grows hgrows
  · intro m f hf
    exact hgrows.kind? f _ (h.functions m f hf)

theorem mapForm {v : ValueId} {form : Form} (hv : c.form? v = some form) {g : Form → Form}
    (hkind : (g form).kind = form.kind) (htype : (g form).type = form.type) (hin : (g form).In c) :
    Sound (c.mapForm v g) := by
  have hgrows := mapForm_grows hv hkind htype
  constructor
  · intro w form' hf
    rw [form?_mapForm c hv] at hf
    split at hf
    · cases hf
      exact hin.grows hgrows
    · exact (h.forms w form' hf).grows hgrows
  · intro s sig hs
    exact (h.signatures s sig hs).grows hgrows
  · intro m f hf
    exact hgrows.kind? f _ (h.functions m f hf)

theorem addToModule {f : ValueId} (hf : c.kind? f = some .function) (m : ModuleId) :
    Sound (c.addToModule m f) := by
  have hgrows := c.addToModule_grows m f
  constructor
  · intro v form hv
    exact (h.forms v form hv).grows hgrows
  · intro s sig hs
    exact (h.signatures s sig hs).grows hgrows
  · intro k f' hf'
    rcases mem_functions_addToModule.mp hf' with hold | ⟨-, -, rfl⟩
    · exact h.functions k f' hold
    · exact hf

end Sound

/-- The kind of a value that was just made. -/
theorem kind?_addValue_next (c : Context) (form : Form) :
    (c.addValue form).kind? c.nextValue = some form.kind := by
  simp [kind?, form?_addValue]

namespace Sound

variable {c : Context} (h : Sound c)

include h

theorem addFunction {t : Ty} (ht : t.In c) (m : ModuleId) (name : Bytes) :
    Sound (c.addFunction m t name) := by
  have hsig := h.addSignature ht
  have hform : (Form.function m c.signatures.size none).In (c.addSignature t) := by
    refine ⟨?_, by simp [Form.operands], by simp [Form.members]⟩
    simp [Form.type, Ty.In, Context.addSignature]
  have hadopted := (hsig.addValue hform).keeps (adopt_keeps _ m c.nextValue)
  have hkind := kind?_addValue_next (c.addSignature t) (.function m c.signatures.size none)
  exact (hadopted.addToModule hkind m).keeps (named_keeps _ _ name)

theorem addArgument {t : Ty} (ht : t.In c) (m : ModuleId) (f : ValueId) (s : Nat) (name : Bytes) :
    Sound (c.addArgument m t f s name) := by
  have hform : (Form.argument t (some f) (c.params f).length).In c :=
    ⟨ht, by simp [Form.operands], by simp [Form.members]⟩
  have hkeeps :=
    (c.addValue (.argument t (some f) (c.params f).length)).named_keeps c.nextValue name
  have hhas : (c.addValue (.argument t (some f) (c.params f).length)).Has c.nextValue := by
    simp [Has, kind?_addValue_next]
  exact (((h.addValue hform).keeps hkeeps).addParam (hkeeps.grows.has hhas) s).keeps
    (adopt_keeps _ m _)

theorem addBlock {f : ValueId} {home : ModuleId} {s : Nat}
    (hf : c.form? f = some (.function home s none)) (m : ModuleId) (name : Bytes) :
    Sound (c.addBlock m f home s name) := by
  have hform : (Form.block f []).In c :=
    ⟨trivial, by simp [Form.operands], by simp [Form.members]⟩
  have hkeeps := (c.addValue (.block f [])).named_keeps c.nextValue name
  have hf' := c.form?_named_addValue hf (.block f []) name
  have hbody : (Form.function home s (some c.nextValue)).In
      ((c.addValue (.block f [])).named c.nextValue name) := by
    have hold := ((h.forms f _ hf).grows (c.addValue_grows (.block f []))).grows hkeeps.grows
    exact ⟨hold.type, by simp [Form.operands], by simp [Form.members]⟩
  exact (((h.addValue hform).keeps hkeeps).mapForm hf' rfl rfl hbody).keeps (adopt_keeps _ m _)

theorem addInstruction {b p : ValueId} {is : List ValueId} (hb : c.form? b = some (.block p is))
    {form : Form} (hform : form.In c) (hkind : form.kind = .instruction) (m : ModuleId) :
    Sound (c.addInstruction m b form) := by
  have hb' := c.form?_addValue_of_some hb form
  have hblock : (addToBlock c.nextValue (.block p is)).In (c.addValue form) := by
    have hold := (h.forms b _ hb).grows (c.addValue_grows form)
    refine ⟨trivial, by simp [addToBlock, Form.operands], ?_⟩
    intro i hi
    rcases List.mem_append.mp hi with hi | hi
    · exact hold.members i hi
    · rw [List.mem_singleton.mp hi, kind?_addValue_next, hkind]
  exact ((h.addValue hform).mapForm hb' rfl rfl hblock).keeps (adopt_keeps _ m _)

end Sound

section Growth

variable (c : Context)

theorem addListed_grows (m : ModuleId) (t : Ty) : Grows c (c.addListed m t) :=
  (((c.addSignature_grows t).trans (addValue_grows _ _)).trans (adopt_keeps _ m _).grows).trans
    (addToModule_grows _ m _)

theorem addFunction_grows (m : ModuleId) (t : Ty) (name : Bytes) :
    Grows c (c.addFunction m t name) :=
  (c.addListed_grows m t).trans (named_keeps _ _ name).grows

theorem addArgument_grows (m : ModuleId) (t : Ty) (f : ValueId) (s : Nat) (name : Bytes) :
    Grows c (c.addArgument m t f s name) :=
  (((c.addValue_grows _).trans (named_keeps _ _ name).grows).trans (addParam_grows _ s _)).trans
    (adopt_keeps _ m _).grows

variable {c}

theorem addBlock_grows {f : ValueId} {home : ModuleId} {s : Nat}
    (hf : c.form? f = some (.function home s none)) (m : ModuleId) (name : Bytes) :
    Grows c (c.addBlock m f home s name) :=
  (((c.addValue_grows _).trans (named_keeps _ _ name).grows).trans
    (mapForm_grows (c.form?_named_addValue hf _ name) rfl rfl)).trans (adopt_keeps _ m _).grows

theorem addInstruction_grows {b p : ValueId} {is : List ValueId}
    (hb : c.form? b = some (.block p is)) (form : Form) (m : ModuleId) :
    Grows c (c.addInstruction m b form) :=
  ((c.addValue_grows form).trans (mapForm_grows (c.form?_addValue_of_some hb form) rfl rfl)).trans
    (adopt_keeps _ m _).grows

end Growth

section Kinds

variable {c : Context} {v : ValueId}

theorem kind?_of_addValue {form : Form} (hform : form.kind ≠ .function)
    (h : (c.addValue form).kind? v = some .function) : c.kind? v = some .function := by
  rw [kind?, form?_addValue] at h
  split at h
  · exact absurd (Option.some.inj h) hform
  · exact h

theorem kind?_of_addFunction {m : ModuleId} {t : Ty} {name : Bytes}
    (h : (c.addFunction m t name).kind? v = some .function) :
    v = c.nextValue ∨ c.kind? v = some .function := by
  rw [addFunction, (named_keeps ..).kind?] at h
  change ((c.addSignature t).addValue _).kind? v = _ at h
  rw [kind?, form?_addValue] at h
  split at h
  · rename_i heq
    exact .inl heq
  · exact .inr h

theorem kind?_of_addArgument {m : ModuleId} {t : Ty} {f : ValueId} {s : Nat} {name : Bytes}
    (h : (c.addArgument m t f s name).kind? v = some .function) : c.kind? v = some .function := by
  rw [addArgument, (adopt_keeps ..).kind?] at h
  change ((c.addValue _).named _ name).kind? v = _ at h
  rw [(named_keeps ..).kind?] at h
  exact kind?_of_addValue (by simp [Form.kind]) h

theorem kind?_of_addBlock {m home : ModuleId} {f : ValueId} {s : Nat} {name : Bytes}
    (hf : c.form? f = some (.function home s none))
    (h : (c.addBlock m f home s name).kind? v = some .function) : c.kind? v = some .function := by
  rw [addBlock, (adopt_keeps ..).kind?, kind?_mapForm _ (c.form?_named_addValue hf _ name) rfl,
    (named_keeps ..).kind?] at h
  exact kind?_of_addValue (by simp [Form.kind]) h

theorem kind?_of_addInstruction {m : ModuleId} {b p : ValueId} {is : List ValueId}
    (hb : c.form? b = some (.block p is)) {form : Form} (hform : form.kind ≠ .function)
    (h : (c.addInstruction m b form).kind? v = some .function) : c.kind? v = some .function := by
  rw [addInstruction, (adopt_keeps ..).kind?,
    kind?_mapForm _ (c.form?_addValue_of_some hb form) rfl] at h
  exact kind?_of_addValue hform h

end Kinds

/-- Every function is in the list of a module. -/
def Listed (c : Context) : Prop :=
  ∀ f, c.kind? f = some .function → ∃ m, f ∈ (c.module m).functions

theorem listed_empty : Listed {} := by
  intro f hf
  simp [kind?, form?, value?] at hf

namespace Listed

variable {c c' : Context}

/-- Where no function is made, every function is in its list as before. -/
theorem grows (h : Listed c) (hgrows : Grows c c')
    (hold : ∀ f, c'.kind? f = some .function → c.kind? f = some .function) : Listed c' := by
  intro f hf
  obtain ⟨m, hm⟩ := h f (hold f hf)
  exact ⟨m, hgrows.functions m f hm⟩

theorem addFunction (h : Listed c) {m : ModuleId} (hm : m < c.modules.size) (t : Ty)
    (name : Bytes) : Listed (c.addFunction m t name) := by
  intro f hf
  rcases kind?_of_addFunction hf with rfl | hold
  · refine ⟨m, ?_⟩
    rw [Context.addFunction, (named_keeps ..).functions]
    exact (mem_functions_addListed hm).mpr (.inr ⟨rfl, rfl⟩)
  · obtain ⟨k, hk⟩ := h f hold
    exact ⟨k, (c.addFunction_grows m t name).functions k f hk⟩

end Listed

end Context

/-- What is handed over of this context is as demanded. -/
def Ref.Denotes {α φ : Type} (P : α → Prop) : Ref α φ → Prop
  | .own a => P a
  | _ => True

instance {α φ : Type} (P : α → Prop) [DecidablePred P] (r : Ref α φ) : Decidable (r.Denotes P) := by
  unfold Ref.Denotes
  split <;> infer_instance

namespace Call

/-- The caller holds the handles that it hands over: they denote something of the context, and the
module of a new function is there. -/
def Legal (c : Context) : Call → Prop
  | .signature result => result.Denotes (Ty.In c)
  | .function m result _ => m < c.modules.size ∧ result.Denotes (Ty.In c)
  | .argument _ type fn _ => type.Denotes (Ty.In c) ∧ fn.Denotes c.Has
  | .block _ _ _ fn => fn.Denotes c.Has
  | .binary _ _ lhs rhs into => lhs.Denotes c.Has ∧ rhs.Denotes c.Has ∧ into.Denotes c.Has
  | .ret _ value into => value.Denotes c.Has ∧ into.Denotes c.Has
  | .setName v _ => c.Has v
  | .clearName v => c.Has v
  | _ => True

instance (c : Context) (call : Call) : Decidable (call.Legal c) := by
  unfold Legal
  split <;> infer_instance

/-- The context that a result leaves behind, be it a refusal. -/
def left {α : Type} : EStateM.Result Misuse Context α → Context
  | .ok _ c => c
  | .error _ c => c

/-- The context after a call. -/
def after (call : Call) (c : Context) : Context := left (call.perform c)

theorem Effect.sound {c : Context} (h : c.Sound) {call : Call} (hlegal : call.Legal c)
    {r : EStateM.Result Misuse Context Unit} (he : Effect c call r) : (left r).Sound := by
  have hexists : ∀ v t, c.type? v = some t → c.Has v := by
    intro v t ht
    obtain ⟨form, hform, -⟩ := Option.map_eq_some_iff.mp ht
    simp [Context.Has, Context.kind?, hform]
  cases he with
  | refused _ e => exact h
  | primitive kind => exact h
  | integer hwidth => exact h.keeps (c.addWidth_keeps _)
  | signature t => exact h.addSignature hlegal
  | module path => exact h.keeps (c.addModule_keeps path)
  | exhausted m t name => exact h.addSignature hlegal.2
  | function m t name => exact h.addFunction hlegal.2 m name
  | argument m t name hf => exact h.addArgument hlegal.1 m _ _ name
  | block m name hf => exact h.addBlock hf m name
  | @binary m code op t l r b p is hop hl hr hb =>
    have hform : (Form.binary op t l r b).In c := by
      refine ⟨?_, ?_, by simp [Form.members]⟩
      · obtain ⟨form, hform, rfl⟩ := Option.map_eq_some_iff.mp hl
        exact (h.forms l form hform).type
      · intro o ho
        simp only [Form.operands, List.mem_cons, List.not_mem_nil, or_false] at ho
        rcases ho with rfl | rfl
        · exact hexists _ _ hl
        · exact hexists _ _ hr
    exact h.addInstruction hb hform rfl m
  | @ret m v b p is hb =>
    have hform : (Form.ret v b).In c := by
      refine ⟨trivial, ?_, by simp [Form.members]⟩
      intro o ho
      cases v with
      | none => cases ho
      | some v =>
        rw [List.mem_singleton.mp ho]
        exact hlegal.1
    exact h.addInstruction hb hform rfl m
  | setName name hv hfree => exact h.keeps (c.named_keeps _ name)
  | clearName hv => exact h.keeps (c.unnamed_keeps _)

/-- No call takes anything away. -/
theorem Effect.grows {c : Context} {call : Call} {r : EStateM.Result Misuse Context Unit}
    (he : Effect c call r) : c.Grows (left r) := by
  cases he with
  | refused _ e => exact .refl c
  | primitive kind => exact .refl c
  | integer hwidth => exact (c.addWidth_keeps _).grows
  | signature t => exact c.addSignature_grows t
  | module path => exact (c.addModule_keeps path).grows
  | exhausted m t name => exact c.addSignature_grows t
  | function m t name => exact c.addFunction_grows m t name
  | argument m t name hf => exact c.addArgument_grows m t _ _ name
  | block m name hf => exact Context.addBlock_grows hf m name
  | binary m hop hl hr hb => exact Context.addInstruction_grows hb _ m
  | ret m v hb => exact Context.addInstruction_grows hb _ m
  | setName name hv hfree => exact (c.named_keeps _ name).grows
  | clearName hv => exact (c.unnamed_keeps _).grows

theorem Effect.listed {c : Context} (h : c.Listed) {call : Call} (hlegal : call.Legal c)
    {r : EStateM.Result Misuse Context Unit} (he : Effect c call r) : (left r).Listed := by
  have hgrows := he.grows
  cases he with
  | refused _ e => exact h
  | primitive kind => exact h
  | integer hwidth => exact h
  | signature t => exact h
  | module path => exact h.grows hgrows fun f hf => (c.addModule_keeps path).kind? f ▸ hf
  | exhausted m t name => exact h
  | function m t name => exact h.addFunction hlegal.1 t name
  | argument m t name hf => exact h.grows hgrows fun _ => Context.kind?_of_addArgument
  | block m name hf => exact h.grows hgrows fun _ => Context.kind?_of_addBlock hf
  | binary m hop hl hr hb =>
    exact h.grows hgrows fun _ => Context.kind?_of_addInstruction hb (by simp [Form.kind])
  | ret m v hb =>
    exact h.grows hgrows fun _ => Context.kind?_of_addInstruction hb (by simp [Form.kind])
  | setName name hv hfree => exact h.grows hgrows fun f hf => (c.named_keeps _ name).kind? f ▸ hf
  | clearName hv => exact h.grows hgrows fun f hf => (c.unnamed_keeps _).kind? f ▸ hf

/-- Every call of a script is legal when it is made. -/
def LegalAll (c : Context) : List Call → Prop
  | [] => True
  | call :: calls => call.Legal c ∧ LegalAll (call.after c) calls

instance decidableLegalAll (c : Context) : (calls : List Call) → Decidable (LegalAll c calls)
  | [] => .isTrue trivial
  | call :: calls =>
    have := decidableLegalAll (call.after c) calls
    inferInstanceAs (Decidable (_ ∧ _))

/-- The context after a script. -/
def run (c : Context) : List Call → Context
  | [] => c
  | call :: calls => run (call.after c) calls

theorem run_grows (c : Context) (calls : List Call) : c.Grows (run c calls) := by
  induction calls generalizing c with
  | nil => exact .refl c
  | cons call calls ih => exact (perform_effect c call).grows.trans (ih _)

theorem run_sound {c : Context} (h : c.Sound) {calls : List Call} (hlegal : LegalAll c calls) :
    (run c calls).Sound := by
  induction calls generalizing c with
  | nil => exact h
  | cons call calls ih => exact ih ((perform_effect c call).sound h hlegal.1) hlegal.2

theorem run_listed {c : Context} (h : c.Listed) {calls : List Call} (hlegal : LegalAll c calls) :
    (run c calls).Listed := by
  induction calls generalizing c with
  | nil => exact h
  | cons call calls ih => exact ih ((perform_effect c call).listed h hlegal.1) hlegal.2

end Call

end FrontEnd.Ir
