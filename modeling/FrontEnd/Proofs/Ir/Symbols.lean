import FrontEnd.Proofs.Ir.Naming

/-!
The symbols of a module against the names of its functions. Several functions may go by one name,
and the one named last is bound by it; when that one loses the name, another that still has it takes
its place. So after any script a name is bound in a module exactly when a function of that module
goes by it, and it is bound to such a function.
-/
namespace FrontEnd.Ir

/-- The module that a function was made in. -/
def Form.home? : Form → Option ModuleId
  | .function home _ _ => some home
  | _ => none

namespace Context

def home? (c : Context) (f : ValueId) : Option ModuleId := (c.form? f).bind Form.home?

/-- Functions, their lists and the symbols are as before. -/
structure SameSymbols (c c' : Context) : Prop where
  home? : ∀ f, c'.home? f = c.home? f
  functions : ∀ m, (c'.module m).functions = (c.module m).functions
  symbols : ∀ m, (c'.module m).symbols = (c.module m).symbols

/-- One name of one module is bound anew, or is free from now on. -/
structure Rebinds (c c' : Context) (m : ModuleId) (name : Bytes) (f : Option ValueId) : Prop where
  home? : ∀ f, c'.home? f = c.home? f
  functions : ∀ k, (c'.module k).functions = (c.module k).functions
  get? : ∀ k n, (c'.module k).symbols.get? n =
    if k = m ∧ n = name then f else (c.module k).symbols.get? n

/-- Each function is in the list of its module, and each module binds the names that its functions
go by. -/
structure Resolved (c : Context) : Prop where
  home? : ∀ m f, f ∈ (c.module m).functions ↔ c.home? f = some m
  bound : ∀ m name f, (c.module m).symbols.get? name = some f →
    name ≠ [] ∧ c.home? f = some m ∧ c.name f = name
  found : ∀ m f, c.home? f = some m → c.name f ≠ [] →
    ((c.module m).symbols.get? (c.name f)).isSome = true

variable {c c' c₁ c₂ : Context}

theorem SameSymbols.trans (h : SameSymbols c c₁) (h' : SameSymbols c₁ c₂) : SameSymbols c c₂ where
  home? f := (h'.home? f).trans (h.home? f)
  functions m := (h'.functions m).trans (h.functions m)
  symbols m := (h'.symbols m).trans (h.symbols m)

theorem Keeps.home? (h : Keeps c c') (f : ValueId) : c'.home? f = c.home? f := by
  rw [Context.home?, Context.home?, h.form?]

section Frame

variable (c)

theorem module_mapModule {m : ModuleId} (hm : m < c.modules.size) (g : Module → Module)
    (k : ModuleId) :
    (c.mapModule m g).module k = if k = m then g (c.module k) else c.module k := by
  simp only [module, mapModule, Array.getElem?_modify]
  by_cases hk : k = m
  · simp [hk, hm]
  · simp [hk, Ne.symm hk]

theorem symbols_mapModule (m : ModuleId) {g : Module → Module}
    (hs : ∀ x, (g x).symbols = x.symbols) (k : ModuleId) :
    ((c.mapModule m g).module k).symbols = (c.module k).symbols := by
  simp only [module, mapModule, Array.getElem?_modify]
  split
  · cases c.modules[k]? with
    | none => rfl
    | some x => exact hs x
  · rfl

theorem adopt_sameSymbols (m : ModuleId) (v : ValueId) : SameSymbols c (c.adopt m v) where
  home? _ := rfl
  functions := (c.adopt_keeps m v).functions
  symbols := c.symbols_mapModule m fun _ => rfl

theorem addModule_sameSymbols (path : Option Bytes) : SameSymbols c (c.addModule path) where
  home? _ := rfl
  functions := (c.addModule_keeps path).functions
  symbols m := by
    simp only [module, addModule, Array.getElem?_push]
    split
    · rename_i hm
      simp [hm]
    · rfl

theorem addSignature_sameSymbols (t : Ty) : SameSymbols c (c.addSignature t) :=
  ⟨fun _ => rfl, fun _ => rfl, fun _ => rfl⟩

theorem addParam_sameSymbols (s : Nat) (a : ValueId) : SameSymbols c (c.addParam s a) :=
  ⟨fun _ => rfl, fun _ => rfl, fun _ => rfl⟩

theorem home?_nextValue : c.home? c.nextValue = none := by
  simp [home?, form?_nextValue]

theorem addValue_sameSymbols {form : Form} (hform : form.home? = none) :
    SameSymbols c (c.addValue form) where
  home? f := by
    rw [home?, form?_addValue]
    split
    · rename_i hf
      rw [hf, home?_nextValue]
      exact hform
    · rfl
  functions _ := rfl
  symbols _ := rfl

theorem mapForm_sameSymbols {v : ValueId} {form : Form} (hv : c.form? v = some form)
    {g : Form → Form} (hg : (g form).home? = form.home?) : SameSymbols c (c.mapForm v g) where
  home? f := by
    rw [home?, form?_mapForm c hv]
    split
    · rename_i hf
      rw [hf, home?, hv]
      exact hg
    · rfl
  functions _ := rfl
  symbols _ := rfl

theorem withoutName_sameSymbols (v : ValueId) : SameSymbols c (c.withoutName v) := by
  have hkeeps : Keeps c (c.withoutName v) :=
    c.rename_keeps (g := fun x => { x with hasName := false }) (fun _ => rfl) (v - 1) _
  exact ⟨hkeeps.home?, hkeeps.functions, fun _ => rfl⟩

end Frame

theorem home?_addListed (m : ModuleId) (t : Ty) (f : ValueId) :
    (c.addListed m t).home? f = if f = c.nextValue then some m else c.home? f := by
  change (((c.addSignature t).addValue (.function m c.signatures.size none)).form? f).bind _ = _
  rw [form?_addValue]
  change Option.bind (if f = c.nextValue then _ else _) _ = _
  split <;> rfl

theorem symbols_addListed (m : ModuleId) (t : Ty) (k : ModuleId) :
    ((c.addListed m t).module k).symbols = (c.module k).symbols := by
  have hlisted := symbols_mapModule
    (((c.addSignature t).addValue (.function m c.signatures.size none)).adopt m c.nextValue) m
    (g := fun x => { x with functions := x.functions ++ [c.nextValue] }) (fun _ => rfl) k
  exact hlisted.trans ((adopt_sameSymbols _ m c.nextValue).symbols k)

/-- Nothing is bound anew where the binding stays as it is. -/
theorem SameSymbols.rebinds (h : SameSymbols c c') (m : ModuleId) (name : Bytes) :
    Rebinds c c' m name ((c.module m).symbols.get? name) where
  home? := h.home?
  functions := h.functions
  get? k n := by
    rw [h.symbols]
    split
    · rename_i hsame
      rw [hsame.1, hsame.2]
    · rfl

theorem form?_of_home? {f : ValueId} {m : ModuleId} (h : c.home? f = some m) :
    ∃ s body, c.form? f = some (.function m s body) := by
  obtain ⟨form, hform, hhome⟩ := Option.bind_eq_some_iff.mp h
  cases form with
  | function home s body =>
    cases hhome
    exact ⟨s, body, hform⟩
  | _ => cases hhome

theorem named_nil (v : ValueId) : c.named v [] = c := by
  simp [named]

theorem named_sameSymbols {v : ValueId} (hv : c.home? v = none) (name : Bytes) :
    SameSymbols c (c.named v name) := by
  have hkeeps := c.named_keeps v name
  refine ⟨hkeeps.home?, hkeeps.functions, ?_⟩
  intro m
  unfold named
  split
  · rfl
  split
  · rename_i hform
    simp [home?, hform, Form.home?] at hv
  · rfl

theorem named_rebinds {v : ValueId} {m : ModuleId} (hv : c.home? v = some m)
    (hm : m < c.modules.size) {name : Bytes} (hne : name ≠ []) :
    Rebinds c (c.named v name) m name (some v) := by
  have hkeeps := c.named_keeps v name
  obtain ⟨s, body, hform⟩ := form?_of_home? hv
  refine ⟨hkeeps.home?, hkeeps.functions, ?_⟩
  intro k n
  simp only [named, List.isEmpty_iff, hne, hform, if_false]
  rw [module_mapModule]
  · by_cases hk : k = m
    · simp [hk, Table.get?_insert, eq_comm, module]
    · simp [hk, module]
  · exact hm

/-- The name is free, or it is bound to someone else. -/
theorem unnamed_of_not_bound {v : ValueId} (hnamed : c.isNamed v = true)
    (h : ∀ m, c.home? v = some m → c.name v ≠ [] →
      (c.module m).symbols.get? (c.name v) ≠ some v) : c.unnamed v = c.withoutName v := by
  unfold unnamed
  rw [if_neg (by simp [hnamed])]
  split
  · rename_i home s body hform
    have hhome : c.home? v = some home := by simp [home?, hform, Form.home?]
    rw [if_neg]
    simpa using h home hhome
  · rfl

theorem unnamed_rebinds {v : ValueId} {m : ModuleId} (hnamed : c.isNamed v = true)
    (hv : c.home? v = some m) (hm : m < c.modules.size) (hne : c.name v ≠ [])
    (hbound : (c.module m).symbols.get? (c.name v) = some v) :
    Rebinds c (c.unnamed v) m (c.name v) (c.heir? m v) := by
  have hkeeps := c.unnamed_keeps v
  obtain ⟨s, body, hform⟩ := form?_of_home? hv
  refine ⟨hkeeps.home?, hkeeps.functions, ?_⟩
  intro k n
  rw [unnamed, if_neg (by simp [hnamed])]
  simp only [hform]
  rw [if_pos (by simp [hne, hbound]), module_mapModule]
  · by_cases hk : k = m
    · cases c.heir? m v with
      | none => simp [hk, Table.get?_erase, eq_comm, module, withoutName]
      | some f => simp [hk, Table.get?_insert, eq_comm, module, withoutName]
    · simp [hk, module, withoutName]
  · exact hm

theorem addInstruction_sameSymbols {b p : ValueId} {is : List ValueId}
    (hb : c.form? b = some (.block p is)) {form : Form} (hform : form.home? = none)
    (m : ModuleId) : SameSymbols c (c.addInstruction m b form) :=
  ((c.addValue_sameSymbols hform).trans
    (mapForm_sameSymbols _ (c.form?_addValue_of_some hb form) rfl)).trans (adopt_sameSymbols _ m _)

/-- By names other than the one that a function is given, functions go as before. -/
theorem name_iff_of_given {v : ValueId} {m : ModuleId} {name : Bytes} (hv : c.home? v = some m)
    (hfree : c.name v = []) (hname : ∀ f, c'.name f = if f = v then name else c.name f) :
    ∀ k f n, c.home? f = some k → ¬ (k = m ∧ n = name) → n ≠ [] →
      (c'.name f = n ↔ c.name f = n) := by
  intro k f n hf hother hn
  rw [hname]
  split
  · rename_i hfv
    rw [hfv, hv] at hf
    cases hf
    rw [hfv, hfree]
    exact iff_of_false (fun heq => hother ⟨rfl, heq.symm⟩) (Ne.symm hn)
  · rfl

/-- By names other than the one that a function loses, functions go as before. -/
theorem name_iff_of_taken {v : ValueId} {m : ModuleId} (hv : c.home? v = some m)
    (hname : ∀ f, c'.name f = if f = v then [] else c.name f) :
    ∀ k f n, c.home? f = some k → ¬ (k = m ∧ n = c.name v) → n ≠ [] →
      (c'.name f = n ↔ c.name f = n) := by
  intro k f n hf hother hn
  rw [hname]
  split
  · rename_i hfv
    rw [hfv, hv] at hf
    cases hf
    rw [hfv]
    exact iff_of_false (Ne.symm hn) fun heq => hother ⟨rfl, heq.symm⟩
  · rfl

theorem resolved_empty : Resolved {} where
  home? m f := by simp [Context.home?, form?, value?, module]
  bound m name f h := by simp [module, Table.get?] at h
  found m f h := by simp [Context.home?, form?, value?] at h

namespace Resolved

variable (h : c.Resolved)

include h

theorem lt_size {m : ModuleId} {f : ValueId} (hf : c.home? f = some m) : m < c.modules.size := by
  have hmem := (h.home? m f).mpr hf
  rcases Nat.lt_or_ge m c.modules.size with hm | hm
  · exact hm
  · simp [module, hm] at hmem

/-- What leaves functions, names and symbols alone. -/
theorem same (hsame : SameSymbols c c') (hname : ∀ m f, c.home? f = some m → c'.name f = c.name f) :
    c'.Resolved := by
  constructor
  · intro m f
    rw [hsame.functions, hsame.home?]
    exact h.home? m f
  · intro m name f hf
    rw [hsame.symbols] at hf
    obtain ⟨hne, hhome, hf⟩ := h.bound m name f hf
    rw [hsame.home?, hname m f hhome]
    exact ⟨hne, hhome, hf⟩
  · intro m f hf hne
    rw [hsame.home?] at hf
    rw [hname m f hf] at hne ⊢
    rw [hsame.symbols]
    exact h.found m f hf hne

/-- A name is bound anew, and functions go by it as the binding says; by other names they go as
before. -/
theorem rebinds {m : ModuleId} {name : Bytes} {o : Option ValueId} (hr : Rebinds c c' m name o)
    (hnew : ∀ g, o = some g → name ≠ [] ∧ c.home? g = some m ∧ c'.name g = name)
    (hall : ∀ f, c.home? f = some m → c'.name f = name → name ≠ [] → o.isSome = true)
    (hkept : ∀ k f n, c.home? f = some k → ¬ (k = m ∧ n = name) → n ≠ [] →
      (c'.name f = n ↔ c.name f = n)) : c'.Resolved := by
  constructor
  · intro k f
    rw [hr.functions, hr.home?]
    exact h.home? k f
  · intro k n f hf
    rw [hr.get?] at hf
    rw [hr.home?]
    split at hf
    · rename_i hsame
      obtain ⟨rfl, rfl⟩ := hsame
      exact hnew f hf
    · rename_i hother
      obtain ⟨hn, hk, hold⟩ := h.bound k n f hf
      exact ⟨hn, hk, (hkept k f n hk hother hn).mpr hold⟩
  · intro k f hf hne
    rw [hr.home?] at hf
    rw [hr.get?]
    split
    · rename_i hsame
      obtain ⟨rfl, hn⟩ := hsame
      exact hall f hf hn (hn ▸ hne)
    · rename_i hother
      have hold := (hkept k f _ hf hother hne).mp rfl
      rw [← hold] at hne ⊢
      exact h.found k f hf hne

/-- A function that has no name is given one, and is bound by it. -/
theorem bind {v : ValueId} {m : ModuleId} {name : Bytes} (hv : c.home? v = some m)
    (hfree : c.name v = []) (hne : name ≠ []) (hr : Rebinds c c' m name (some v))
    (hname : ∀ f, c'.name f = if f = v then name else c.name f) : c'.Resolved := by
  refine h.rebinds hr ?_ (fun _ _ _ _ => rfl) ?_
  · rintro g ⟨⟩
    exact ⟨hne, hv, by rw [hname, if_pos rfl]⟩
  · exact name_iff_of_given hv hfree hname

/-- A function loses its name, which is left to another that goes by it, if there is one. -/
theorem unbind {v : ValueId} {m : ModuleId} {o : Option ValueId} (hv : c.home? v = some m)
    (hr : Rebinds c c' m (c.name v) o)
    (hname : ∀ f, c'.name f = if f = v then [] else c.name f)
    (hnew : ∀ g, o = some g → c.name v ≠ [] ∧ c.home? g = some m ∧ g ≠ v ∧ c.name g = c.name v)
    (hall : ∀ f, c.home? f = some m → f ≠ v → c.name f = c.name v → c.name v ≠ [] →
      o.isSome = true) : c'.Resolved := by
  refine h.rebinds hr ?_ ?_ ?_
  · intro g hg
    obtain ⟨hne, hhome, hgv, hgname⟩ := hnew g hg
    exact ⟨hne, hhome, by rw [hname, if_neg hgv, hgname]⟩
  · intro f hf hfname hne
    rw [hname] at hfname
    split at hfname
    · exact absurd hfname.symm hne
    · rename_i hfv
      exact hall f hf hfv hfname hne
  · exact name_iff_of_taken hv hname

theorem named {v : ValueId} {x : Value} (hv : c.value? v = some x) (hfree : x.hasName = false)
    (name : Bytes) : (c.named v name).Resolved := by
  have hunnamed : c.isNamed v = false := by simp [isNamed, hv, hfree]
  have hname := (named_gives (has_iff.mpr ⟨x, hv⟩) name).name hunnamed
  cases hhome : c.home? v with
  | none =>
    apply h.same (named_sameSymbols hhome name)
    intro m f hf
    rw [hname, if_neg]
    rintro rfl
    cases hhome.symm.trans hf
  | some m =>
    by_cases hne : name = []
    · rw [hne, named_nil]
      exact h
    · have hempty : c.name v = [] := by simp [Context.name, name?, hunnamed]
      exact h.bind hhome hempty hne (named_rebinds hhome (h.lt_size hhome) hne) hname

theorem unnamed (v : ValueId) : (c.unnamed v).Resolved := by
  cases hnamed : c.isNamed v with
  | false =>
    rw [unnamed_of_not_named hnamed]
    exact h
  | true =>
    have hname := (unnamed_renames hnamed).name
    cases hhome : c.home? v with
    | none =>
      have hnone : c.unnamed v = c.withoutName v :=
        unnamed_of_not_bound hnamed fun m hm => by cases hhome.symm.trans hm
      apply h.same (hnone ▸ c.withoutName_sameSymbols v)
      intro m f hf
      rw [hname, if_neg]
      rintro rfl
      cases hhome.symm.trans hf
    | some m =>
      by_cases hbound : c.name v ≠ [] ∧ (c.module m).symbols.get? (c.name v) = some v
      · have hr := unnamed_rebinds hnamed hhome (h.lt_size hhome) hbound.1 hbound.2
        refine h.unbind hhome hr hname ?_ ?_
        · intro g hg
          have hmem := List.mem_of_getLast? hg
          simp only [List.mem_filter, decide_eq_true_eq] at hmem
          exact ⟨hbound.1, (h.home? m g).mp hmem.1.1, hmem.1.2, hmem.2⟩
        · intro f hf hfv hfname _
          have hmem : f ∈ ((c.module m).functions.filter (· ≠ v)).filter (c.name · = c.name v) := by
            simp [(h.home? m f).mpr hf, hfv, hfname]
          exact List.getLast?_isSome.mpr (List.ne_nil_of_mem hmem)
      · -- the binding is another's, and it stays
        have hother : c.unnamed v = c.withoutName v := by
          apply unnamed_of_not_bound hnamed
          intro k hk hne hsym
          cases hhome.symm.trans hk
          exact hbound ⟨hne, hsym⟩
        have hr := (hother ▸ c.withoutName_sameSymbols v : SameSymbols c (c.unnamed v)).rebinds m
          (c.name v)
        refine h.unbind hhome hr hname ?_ ?_
        · intro g hg
          obtain ⟨hne, hghome, hgname⟩ := h.bound m _ g hg
          refine ⟨hne, hghome, ?_, hgname⟩
          rintro rfl
          exact hbound ⟨hne, hg⟩
        · intro f hf _ hfname hne
          exact hfname ▸ h.found m f hf (hfname ▸ hne)

theorem addListed {m : ModuleId} (hm : m < c.modules.size) (t : Ty) :
    (c.addListed m t).Resolved := by
  have hnames := addListed_sameNames (c := c) m t
  have hempty : c.name c.nextValue = [] := by simp [Context.name, name?, isNamed_nextValue]
  constructor
  · intro k f
    rw [mem_functions_addListed hm, home?_addListed, h.home?]
    by_cases hf : f = c.nextValue
    · simp [hf, home?_nextValue, eq_comm]
    · simp [hf]
  · intro k name f hf
    rw [symbols_addListed] at hf
    obtain ⟨hne, hhome, rfl⟩ := h.bound k name f hf
    have hold : f ≠ c.nextValue := by
      rintro rfl
      cases c.home?_nextValue.symm.trans hhome
    exact ⟨hne, by rw [home?_addListed, if_neg hold, hhome], hnames.name f⟩
  · intro k f hf hne
    rw [home?_addListed] at hf
    rw [hnames.name] at hne ⊢
    rw [symbols_addListed]
    split at hf
    · rename_i hnew
      exact absurd (hnew ▸ hempty) hne
    · exact h.found k f hf hne

/-- A value that is no function is made and named. -/
theorem addNamed {form : Form} (hform : form.home? = none) (name : Bytes) :
    ((c.addValue form).named c.nextValue name).Resolved := by
  have hnames := c.addValue_sameNames form
  have hmade := h.same (c.addValue_sameSymbols hform) fun _ f _ => hnames.name f
  exact hmade.named (value?_addValue_next c form) rfl name

theorem addFunction {m : ModuleId} (hm : m < c.modules.size) (t : Ty) (name : Bytes) :
    (c.addFunction m t name).Resolved :=
  (h.addListed hm t).named (value?_addValue_next (c.addSignature t) _) rfl name

theorem addArgument (m : ModuleId) (t : Ty) (f : ValueId) (s : Nat) (name : Bytes) :
    (c.addArgument m t f s name).Resolved :=
  (h.addNamed rfl name).same
    ((addParam_sameSymbols _ s c.nextValue).trans (adopt_sameSymbols _ m c.nextValue))
    fun _ _ _ => rfl

theorem addBlock {f : ValueId} {home : ModuleId} {s : Nat}
    (hf : c.form? f = some (.function home s none)) (m : ModuleId) (name : Bytes) :
    (c.addBlock m f home s name).Resolved := by
  have hnamed : ((c.addValue (.block f [])).named c.nextValue name).Resolved := h.addNamed rfl name
  have hf' := c.form?_named_addValue hf (.block f []) name
  have hbody := mapForm_sameSymbols _ hf' (g := fun _ => .function home s (some c.nextValue)) rfl
  have hnames := (mapForm_sameNames ((c.addValue (.block f [])).named c.nextValue name) f
    fun _ => .function home s (some c.nextValue)).trans (adopt_sameNames _ m c.nextValue)
  exact hnamed.same (hbody.trans (adopt_sameSymbols _ m c.nextValue)) fun _ v _ => hnames.name v

end Resolved

end Context

namespace Call

open Context

variable {c : Context}

theorem Effect.resolved (h : c.Resolved) {call : Call} (hlegal : call.Legal c)
    {r : EStateM.Result Misuse Context Unit} (he : Effect c call r) : (left r).Resolved := by
  cases he with
  | refused => exact h
  | primitive => exact h
  | integer => exact h.same ⟨fun _ => rfl, fun _ => rfl, fun _ => rfl⟩ fun _ _ _ => rfl
  | signature t => exact h.same (c.addSignature_sameSymbols t) fun _ _ _ => rfl
  | module path => exact h.same (c.addModule_sameSymbols path) fun _ _ _ => rfl
  | exhausted m t name => exact h.same (c.addSignature_sameSymbols t) fun _ _ _ => rfl
  | function m t name => exact h.addFunction hlegal.1 t name
  | argument m t name hf => exact h.addArgument m t _ _ name
  | block m name hf => exact h.addBlock hf m name
  | binary m hop hl hr hb =>
    exact h.same (addInstruction_sameSymbols hb rfl m)
      fun _ f _ => (addInstruction_sameNames m _ _).name f
  | ret m v hb =>
    exact h.same (addInstruction_sameSymbols hb rfl m)
      fun _ f _ => (addInstruction_sameNames m _ _).name f
  | setName name hv hfree => exact h.named hv hfree name
  | clearName hv => exact h.unnamed _

theorem run_resolved (h : c.Resolved) {calls : List Call} (hlegal : LegalAll c calls) :
    (run c calls).Resolved := by
  induction calls generalizing c with
  | nil => exact h
  | cons call calls ih => exact ih ((perform_effect c call).resolved h hlegal.1) hlegal.2

/-- After any script, a name is bound in a module exactly when it is not empty and some function of
the module goes by it, and the function it is bound to is one of these. -/
theorem run_lookup_iff (calls : List Call) (hlegal : LegalAll {} calls) (m : ModuleId)
    (name : Bytes) :
    let c := run {} calls
    ((∃ f, c.lookup? m name = some f) ↔
        name ≠ [] ∧ ∃ f ∈ (c.module m).functions, c.name? f = some name) ∧
      ∀ f, c.lookup? m name = some f →
        f ∈ (c.module m).functions ∧ c.name? f = some name := by
  intro c
  have hresolved : c.Resolved := run_resolved resolved_empty hlegal
  have hname : ∀ f, c.name? f = some (c.name f) := by
    intro f
    have hsome := (run_inSync inSync_empty calls).name?_ne_none f
    obtain ⟨n, hn⟩ := Option.ne_none_iff_exists'.mp hsome
    rw [Context.name, hn, Option.getD_some]
  simp only [hname, Option.some.injEq, hresolved.home?]
  have hsound : ∀ f, c.lookup? m name = some f →
      name ≠ [] ∧ c.home? f = some m ∧ c.name f = name := hresolved.bound m name
  refine ⟨⟨?_, ?_⟩, ?_⟩
  · rintro ⟨f, hf⟩
    obtain ⟨hne, hbound⟩ := hsound f hf
    exact ⟨hne, f, hbound⟩
  · rintro ⟨hne, f, hf, rfl⟩
    exact Option.isSome_iff_exists.mp (hresolved.found m f hf hne)
  · intro f hf
    exact (hsound f hf).2

/-- Two functions of the first module and one of the second are called `f`; a new name for the
second of them is refused, and then it loses the one it has. -/
def namesakes : List Call :=
  [.module none, .module none, .function 0 (.own (.integer 32)) "f",
    .function 0 (.own (.integer 32)) "f", .function 1 (.own (.integer 8)) "f", .setName 2 "g",
    .clearName 2]

theorem run_lookup_iff_namesakes :
    LegalAll {} namesakes ∧ (run {} namesakes).lookup? 0 "f" = some 1 ∧
      (1 ∈ ((run {} namesakes).module 0).functions ∧ (run {} namesakes).name? 1 = some "f") ∧
      ¬ ∃ f, (run {} namesakes).lookup? 0 "g" = some f := by
  have hlegal : LegalAll {} namesakes := by decide
  have hf : (run {} namesakes).lookup? 0 "f" = some 1 := by decide
  refine ⟨hlegal, hf, (run_lookup_iff namesakes hlegal 0 "f").2 1 hf, ?_⟩
  rw [(run_lookup_iff namesakes hlegal 0 "g").1]
  decide

end Call

end FrontEnd.Ir
