import FrontEnd.Proofs.Ir.Symbols
import Mathlib.Data.List.Induction

/-!
Which of several namesakes a name stands for. The function that was given a name last has it for as
long as it goes by it. Once that one has lost the name, nobody has been given it since, and it
stands for the function that was made last among those that still go by it, whenever they were
named. So the order of naming decides as long as the last one named holds on, and after that the
order of making.
-/
namespace FrontEnd.Ir

namespace Naming

/-- The value that is given a name or loses it. -/
def value : Naming → ValueId
  | .given v _ => v
  | .taken v => v

/-- What a naming makes of the value that was given `name` last, of those in `p`. -/
def passTo (p : ValueId → Bool) (name : Bytes) (old : Option ValueId) : Naming → Option ValueId
  | .given v n => if n = name ∧ p v = true then some v else old
  | .taken _ => old

/-- The value that was given `name` last, of those in `p`, whether it still has it or not. -/
def lastGiven? (p : ValueId → Bool) (name : Bytes) (told : List Naming) : Option ValueId :=
  told.foldl (passTo p name) none

variable {p q : ValueId → Bool} {name : Bytes} {told : List Naming}

theorem lastGiven?_append (n : Naming) :
    lastGiven? p name (told ++ [n]) = passTo p name (lastGiven? p name told) n := by
  simp [lastGiven?]

theorem lastGiven?_congr (h : ∀ n ∈ told, p n.value = q n.value) :
    lastGiven? p name told = lastGiven? q name told := by
  induction told using List.reverseRecOn with
  | nil => rfl
  | append_singleton told n ih =>
    rw [lastGiven?_append, lastGiven?_append, ih fun x hx => h x (List.mem_append_left _ hx)]
    cases n with
    | given v n =>
      have hv : p v = q v := h (.given v n) (by simp)
      simp [passTo, hv]
    | taken v => rfl

/-- Who was given the name last of all was so among fewer as well. -/
theorem lastGiven?_of_subset {v : ValueId} (h : lastGiven? p name told = some v) (hv : q v = true)
    (hsub : ∀ w, q w = true → p w = true) : lastGiven? q name told = some v := by
  induction told using List.reverseRecOn with
  | nil => cases h
  | append_singleton told n ih =>
    rw [lastGiven?_append] at h ⊢
    cases n with
    | taken w => exact ih h
    | given w n =>
      simp only [passTo] at h ⊢
      by_cases hw : n = name ∧ p w = true
      · rw [if_pos hw] at h
        cases h
        rw [if_pos ⟨hw.1, hv⟩]
      · rw [if_neg hw] at h
        rw [if_neg fun hq => hw ⟨hq.1, hsub w hq.2⟩]
        exact ih h

/-- A name that stands was given at some time. -/
theorem isSome_lastGiven? {v : ValueId} (h : standing told v = some name) (hv : p v = true) :
    (lastGiven? p name told).isSome = true := by
  induction told using List.reverseRecOn with
  | nil => cases h
  | append_singleton told n ih =>
    rw [standing_append] at h
    rw [lastGiven?_append]
    cases n with
    | taken w =>
      simp only [onto] at h
      split at h
      · cases h
      · exact ih h
    | given w n =>
      simp only [onto, passTo] at h ⊢
      split at h
      · rename_i hw
        cases h
        simp [hw, hv]
      · split
        · rfl
        · exact ih h

end Naming

/-- Whom a name stands for: the one that was given it last, if that one bears it still, and else the
last of the bearers. -/
def holder? (last : Option ValueId) (bearers : List ValueId) : Option ValueId :=
  (last.filter (· ∈ bearers)).or bearers.getLast?

theorem holder?_of_mem {v : ValueId} {bearers : List ValueId} (h : v ∈ bearers) :
    holder? (some v) bearers = some v := by
  simp [holder?, Option.filter, h]

theorem holder?_of_not_mem {last : Option ValueId} {bearers : List ValueId}
    (h : ∀ v, last = some v → v ∉ bearers) : holder? last bearers = bearers.getLast? := by
  cases last with
  | none => rfl
  | some v => simp [holder?, Option.filter, h v rfl]

/-- When one of the bearers goes, the holder stays, unless it is the one. -/
theorem holder?_erase (last : Option ValueId) (bearers : List ValueId) (v : ValueId) :
    holder? last (bearers.filter (· ≠ v)) =
      if holder? last bearers = some v then (bearers.filter (· ≠ v)).getLast?
      else holder? last bearers := by
  by_cases hlast : ∃ g, last = some g ∧ g ∈ bearers
  · obtain ⟨g, rfl, hg⟩ := hlast
    rw [holder?_of_mem hg]
    by_cases hgv : g = v
    · rw [if_pos (congrArg some hgv)]
      apply holder?_of_not_mem
      rintro _ ⟨⟩
      simp [hgv]
    · rw [if_neg (by simpa using hgv)]
      exact holder?_of_mem (by simp [hg, hgv])
  · have hnone : ∀ g, last = some g → g ∉ bearers := fun g hg hmem => hlast ⟨g, hg, hmem⟩
    rw [holder?_of_not_mem hnone, holder?_of_not_mem]
    · split
      · rfl
      · rename_i hv
        -- the last of all is not the one that goes, so it is the last of those that stay
        cases hw : bearers.getLast? with
        | none => simp [List.getLast?_eq_none_iff.mp hw]
        | some w =>
          obtain ⟨front, rfl⟩ := List.getLast?_eq_some_iff.mp hw
          have hwv : w ≠ v := by
            rintro rfl
            exact hv hw
          simp [List.filter_append, hwv]
    · intro g hg hmem
      exact hnone g hg (List.mem_filter.mp hmem).1

namespace Context

/-- The functions of a module that go by a name, in the order of their making. -/
def bearers (c : Context) (m : ModuleId) (name : Bytes) : List ValueId :=
  (c.module m).functions.filter (c.name · = name)

/-- A value that goes by a name was given it, and it was not taken away. -/
theorem InSync.standing_of_name {c : Context} {told : List Naming} (h : c.InSync told)
    {v : ValueId} {name : Bytes} (hv : c.name v = name) (hne : name ≠ []) :
    Naming.standing told v = some name := by
  have hget : c.names.get? v = some name := by
    unfold Context.name Context.name? at hv
    split at hv
    · cases hsome : c.names.get? v with
      | none => simp [hsome, Ne.symm hne] at hv
      | some n => simpa [hsome] using hv
    · exact absurd hv.symm hne
  rw [h.get?, Option.filter_eq_some_iff] at hget
  exact hget.1

/-- Every binding follows from who was given the name last and who bears it. -/
structure Succeeds (c : Context) (told : List Naming) : Prop where
  has : ∀ n ∈ told, c.Has n.value
  holder : ∀ m name, name ≠ [] → (c.module m).symbols.get? name =
    holder? (Naming.lastGiven? (c.home? · = some m) name told) (c.bearers m name)

variable {c c' : Context} {told : List Naming}

theorem has_of_home? {v : ValueId} {m : ModuleId} (hv : c.home? v = some m) : c.Has v := by
  obtain ⟨s, body, hform⟩ := form?_of_home? hv
  simp [Has, kind?, hform]

theorem succeeds_empty : Succeeds {} [] where
  has n hn := by cases hn
  holder m name hne := by simp [module, bearers, Table.get?, holder?, Naming.lastGiven?]

namespace Succeeds

variable (h : c.Succeeds told)

include h

/-- Functions, their names and the bindings stay as they are. -/
theorem same (hgrows : c.Grows c') (hsame : SameSymbols c c')
    (hname : ∀ m f, f ∈ (c.module m).functions → c'.name f = c.name f) : c'.Succeeds told where
  has n hn := hgrows.has (h.has n hn)
  holder m name hne := by
    have hbearers : c'.bearers m name = c.bearers m name := by
      unfold bearers
      rw [hsame.functions]
      exact List.filter_congr fun f hf => by rw [hname m f hf]
    rw [hsame.symbols, hbearers, h.holder m name hne]
    simp only [hsame.home?]

/-- A naming that no function is given a name by. -/
theorem skip {n : Naming} (hn : c.Has n.value)
    (hnone : ∀ v name, n = .given v name → name ≠ [] → c.home? v = none) :
    c.Succeeds (told ++ [n]) where
  has x hx := by
    rcases List.mem_append.mp hx with hx | hx
    · exact h.has x hx
    · exact List.mem_singleton.mp hx ▸ hn
  holder m name hne := by
    rw [Naming.lastGiven?_append, h.holder m name hne]
    cases n with
    | taken v => rfl
    | given v n =>
      rw [Naming.passTo, if_neg]
      rintro ⟨rfl, hv⟩
      simp [hnone v n rfl hne] at hv

/-- One name of one module is bound anew, and the bearers of no other name change. -/
theorem rebinds (hgrows : c.Grows c') {m : ModuleId} {name : Bytes} {o : Option ValueId}
    (hr : Rebinds c c' m name o) {n : Naming} (hn : c.Has n.value)
    (hnew : name ≠ [] → o = holder? (Naming.lastGiven? (c.home? · = some m) name (told ++ [n]))
      (c'.bearers m name))
    (hkept : ∀ k f x, c.home? f = some k → ¬ (k = m ∧ x = name) → x ≠ [] →
      (c'.name f = x ↔ c.name f = x))
    (hother : ∀ v x, n = .given v x → c.home? v = some m ∧ x = name)
    (hlisted : ∀ k f, f ∈ (c.module k).functions ↔ c.home? f = some k) :
    c'.Succeeds (told ++ [n]) where
  has x hx := by
    rcases List.mem_append.mp hx with hx | hx
    · exact hgrows.has (h.has x hx)
    · exact hgrows.has (List.mem_singleton.mp hx ▸ hn)
  holder k x hne := by
    rw [hr.get?]
    simp only [hr.home?]
    split
    · rename_i hsame
      obtain ⟨rfl, rfl⟩ := hsame
      exact hnew hne
    · rename_i hdiff
      have hbearers : c'.bearers k x = c.bearers k x := by
        unfold bearers
        rw [hr.functions]
        refine List.filter_congr fun f hf => ?_
        rw [decide_eq_decide]
        exact hkept k f x ((hlisted k f).mp hf) hdiff hne
      rw [hbearers, h.holder k x hne, Naming.lastGiven?_append]
      cases n with
      | taken v => rfl
      | given v y =>
        obtain ⟨hv, rfl⟩ := hother v y rfl
        rw [Naming.passTo, if_neg]
        rintro ⟨rfl, hk⟩
        rw [decide_eq_true_eq, hv] at hk
        cases hk
        exact hdiff ⟨rfl, rfl⟩

/-- A function without a name is given one. -/
theorem given (hgrows : c.Grows c') (hres : c.Resolved) {v : ValueId} {m : ModuleId} {name : Bytes}
    (hv : c.home? v = some m) (hfree : c.name v = []) (hr : Rebinds c c' m name (some v))
    (hname : ∀ f, c'.name f = if f = v then name else c.name f) :
    c'.Succeeds (told ++ [.given v name]) := by
  refine h.rebinds hgrows hr ?_ ?_ (name_iff_of_given hv hfree hname) ?_ hres.home?
  · exact has_of_home? hv
  · intro _
    have hmem : v ∈ c'.bearers m name := by
      rw [bearers, hr.functions, List.mem_filter]
      exact ⟨(hres.home? m v).mpr hv, by simp [hname]⟩
    rw [Naming.lastGiven?_append, Naming.passTo, if_pos ⟨rfl, by simp [hv]⟩, holder?_of_mem hmem]
  · rintro _ _ ⟨⟩
    exact ⟨hv, rfl⟩

theorem named (hres : c.Resolved) {v : ValueId} {x : Value} (hv : c.value? v = some x)
    (hfree : x.hasName = false) (name : Bytes) :
    (c.named v name).Succeeds (told ++ [.given v name]) := by
  have hhas : c.Has v := has_iff.mpr ⟨x, hv⟩
  have hunnamed : c.isNamed v = false := by simp [isNamed, hv, hfree]
  have hname := (named_gives hhas name).name hunnamed
  have hgrows := (c.named_keeps v name).grows
  cases hhome : c.home? v with
  | none =>
    have hsame := named_sameSymbols hhome name
    have hkept : (c.named v name).Succeeds told := by
      refine h.same hgrows hsame fun m f hf => ?_
      rw [hname, if_neg]
      rintro rfl
      cases hhome.symm.trans ((hres.home? m f).mp hf)
    refine hkept.skip (hgrows.has hhas) ?_
    rintro _ _ ⟨⟩ _
    rw [hsame.home?, hhome]
  | some m =>
    by_cases hne : name = []
    · subst hne
      rw [named_nil]
      refine h.skip hhas ?_
      rintro _ _ ⟨⟩ hne
      exact absurd rfl hne
    · have hempty : c.name v = [] := by simp [Context.name, name?, hunnamed]
      exact h.given hgrows hres hhome hempty (named_rebinds hhome (hres.lt_size hhome) hne) hname

/-- A function loses its name, and whoever held it holds it still, unless it was that one. -/
theorem taken (hgrows : c.Grows c') (hres : c.Resolved) {v : ValueId} {m : ModuleId}
    {o : Option ValueId} (hv : c.home? v = some m) (hr : Rebinds c c' m (c.name v) o)
    (hname : ∀ f, c'.name f = if f = v then [] else c.name f)
    (ho : c.name v ≠ [] → o = if (c.module m).symbols.get? (c.name v) = some v
      then ((c.bearers m (c.name v)).filter (· ≠ v)).getLast?
      else (c.module m).symbols.get? (c.name v)) :
    c'.Succeeds (told ++ [.taken v]) := by
  refine h.rebinds hgrows hr ?_ ?_ (name_iff_of_taken hv hname) (fun _ _ => nofun) hres.home?
  · exact has_of_home? hv
  · intro hne
    have hbearers : c'.bearers m (c.name v) = (c.bearers m (c.name v)).filter (· ≠ v) := by
      rw [bearers, bearers, hr.functions, List.filter_filter]
      refine List.filter_congr fun f _ => ?_
      rw [hname]
      by_cases hf : f = v
      · simp [hf, Ne.symm hne]
      · simp [hf]
    rw [ho hne, hbearers, holder?_erase, Naming.lastGiven?_append, Naming.passTo,
      ← h.holder m _ hne]

theorem unnamed (hres : c.Resolved) {v : ValueId} (hhas : c.Has v) :
    (c.unnamed v).Succeeds (told ++ [.taken v]) := by
  have hgrows := (c.unnamed_keeps v).grows
  cases hnamed : c.isNamed v with
  | false =>
    rw [unnamed_of_not_named hnamed]
    exact h.skip hhas fun _ _ => nofun
  | true =>
    have hname := (unnamed_renames hnamed).name
    cases hhome : c.home? v with
    | none =>
      have hnone : c.unnamed v = c.withoutName v :=
        unnamed_of_not_bound hnamed fun m hm => by cases hhome.symm.trans hm
      have hkept : (c.unnamed v).Succeeds told := by
        refine h.same hgrows (hnone ▸ c.withoutName_sameSymbols v) fun m f hf => ?_
        rw [hname, if_neg]
        rintro rfl
        cases hhome.symm.trans ((hres.home? m f).mp hf)
      exact hkept.skip (hgrows.has hhas) fun _ _ => nofun
    | some m =>
      by_cases hbound : c.name v ≠ [] ∧ (c.module m).symbols.get? (c.name v) = some v
      · have hr := unnamed_rebinds hnamed hhome (hres.lt_size hhome) hbound.1 hbound.2
        refine h.taken hgrows hres hhome hr hname fun _ => ?_
        rw [if_pos hbound.2, heir?, bearers, List.filter_filter, List.filter_filter]
        simp only [Bool.and_comm]
      · have hother : c.unnamed v = c.withoutName v := by
          apply unnamed_of_not_bound hnamed
          intro k hk hne hsym
          cases hhome.symm.trans hk
          exact hbound ⟨hne, hsym⟩
        have hr := (hother ▸ c.withoutName_sameSymbols v : SameSymbols c (c.unnamed v)).rebinds m
          (c.name v)
        refine h.taken hgrows hres hhome hr hname fun hne => ?_
        rw [if_neg fun hsym => hbound ⟨hne, hsym⟩]

/-- A function that is listed bears no name yet. -/
theorem addListed (m : ModuleId) (t : Ty) : (c.addListed m t).Succeeds told where
  has n hn := (c.addListed_grows m t).has (h.has n hn)
  holder k name hne := by
    have hnames := addListed_sameNames (c := c) m t
    have hempty : c.name c.nextValue = [] := by simp [Context.name, name?, isNamed_nextValue]
    have hbearers : (c.addListed m t).bearers k name = c.bearers k name := by
      simp only [bearers, hnames.name]
      rcases functions_addListed c m k t with hsame | hmore
      · rw [hsame]
      · simp [hmore, hempty, Ne.symm hne]
    rw [symbols_addListed, hbearers, h.holder k name hne]
    congr 1
    apply Naming.lastGiven?_congr
    intro n hn
    rw [home?_addListed, if_neg]
    intro hnext
    have hhas := h.has n hn
    rw [hnext, Has, kind?, form?_nextValue] at hhas
    cases hhas

/-- A value that is no function is made and named. -/
theorem addNamed (hres : c.Resolved) {form : Form} (hform : form.home? = none) (name : Bytes) :
    ((c.addValue form).named c.nextValue name).Succeeds (told ++ [.given c.nextValue name]) := by
  have hnames := c.addValue_sameNames form
  have hsame := c.addValue_sameSymbols hform
  have hmade := h.same (c.addValue_grows form) hsame fun _ f _ => hnames.name f
  have hres' := hres.same hsame fun _ f _ => hnames.name f
  exact hmade.named hres' (value?_addValue_next c form) rfl name

theorem addFunction (hres : c.Resolved) {m : ModuleId} (hm : m < c.modules.size) (t : Ty)
    (name : Bytes) :
    (c.addFunction m t name).Succeeds (told ++ [.given c.nextValue name]) :=
  (h.addListed m t).named (hres.addListed hm t) (value?_addValue_next (c.addSignature t) _) rfl name

theorem addArgument (hres : c.Resolved) (m : ModuleId) (t : Ty) (f : ValueId) (s : Nat)
    (name : Bytes) :
    (c.addArgument m t f s name).Succeeds (told ++ [.given c.nextValue name]) :=
  (h.addNamed hres rfl name).same
    ((addParam_grows _ s c.nextValue).trans (adopt_keeps _ m c.nextValue).grows)
    ((addParam_sameSymbols _ s c.nextValue).trans (adopt_sameSymbols _ m c.nextValue))
    fun _ _ _ => rfl

theorem addBlock (hres : c.Resolved) {f : ValueId} {home : ModuleId} {s : Nat}
    (hf : c.form? f = some (.function home s none)) (m : ModuleId) (name : Bytes) :
    (c.addBlock m f home s name).Succeeds (told ++ [.given c.nextValue name]) := by
  have hf' := c.form?_named_addValue hf (.block f []) name
  have hbody := mapForm_sameSymbols _ hf' (g := fun _ => .function home s (some c.nextValue)) rfl
  have hnames := (mapForm_sameNames ((c.addValue (.block f [])).named c.nextValue name) f
    fun _ => .function home s (some c.nextValue)).trans (adopt_sameNames _ m c.nextValue)
  exact (h.addNamed hres rfl name).same
    ((mapForm_grows hf' rfl rfl).trans (adopt_keeps _ m c.nextValue).grows)
    (hbody.trans (adopt_sameSymbols _ m c.nextValue)) fun _ v _ => hnames.name v

end Succeeds

end Context

namespace Call

open Context Naming

variable {c : Context} {told : List Naming}

theorem Effect.sameSymbols {call : Call} (hcall : call.Nameless)
    {r : EStateM.Result Misuse Context Unit} (he : Effect c call r) : SameSymbols c (left r) := by
  cases he with
  | signature t => exact c.addSignature_sameSymbols t
  | module path => exact c.addModule_sameSymbols path
  | binary m hop hl hr hb => exact addInstruction_sameSymbols hb rfl m
  | ret m v hb => exact addInstruction_sameSymbols hb rfl m
  | exhausted | function | argument | block | setName | clearName => exact hcall.elim
  | _ => exact ⟨fun _ => rfl, fun _ => rfl, fun _ => rfl⟩

theorem succeeds_of_refused (h : c.Succeeds told) {α : Type} {x : Build α} (f : α → Naming)
    (hx : Build.Refused c (x c)) :
    (left (x c)).Succeeds (told ++ Naming.told f (x c)) := by
  obtain ⟨e, he, -⟩ := hx
  rw [he]
  simpa [left, Naming.told] using h

theorem succeeds_of_nameless (h : c.Succeeds told) {call : Call} (hcall : call.Nameless) :
    (call.after c).Succeeds (told ++ call.namings c) := by
  have heffect := perform_effect c call
  rw [namings_eq_nil hcall, List.append_nil]
  exact h.same heffect.grows (heffect.sameSymbols hcall)
    fun _ f _ => (heffect.sameNames hcall).name f

/-- One call leaves every name to whom it falls. -/
theorem after_succeeds (h : c.Succeeds told) (hres : c.Resolved) {call : Call}
    (hlegal : call.Legal c) : (call.after c).Succeeds (told ++ call.namings c) := by
  cases call with
  | function m result name =>
    rw [after, perform, left_discard]
    rcases Build.createFunction_cases c m result name with hrefused | ⟨t, rfl, hfull | ⟨-, hok⟩⟩
    · exact succeeds_of_refused h _ hrefused
    · rw [namings, hfull, Naming.told, List.append_nil]
      exact h.same (c.addSignature_grows t) (c.addSignature_sameSymbols t) fun _ _ _ => rfl
    · rw [namings, hok]
      exact h.addFunction hres hlegal.1 t name
  | argument m type fn name =>
    rw [after, perform, left_discard]
    rcases Build.createArgument_cases c m type fn name with
      hrefused | ⟨t, f, home, s, body, rfl, rfl, hf, -, hok⟩
    · exact succeeds_of_refused h _ hrefused
    · rw [namings, hok]
      exact h.addArgument hres m t f s name
  | block m context name fn =>
    rw [after, perform, left_discard]
    rcases Build.createBlock_cases c m context name fn with
      hrefused | ⟨f, home, s, rfl, rfl, hf, -, hok⟩
    · exact succeeds_of_refused h _ hrefused
    · rw [namings, hok]
      exact h.addBlock hres hf m name
  | setName v name =>
    rcases Build.setName_cases c v name with hrefused | ⟨x, hv, hfree, hok⟩
    · exact succeeds_of_refused h _ hrefused
    · rw [namings, after, perform, hok]
      exact h.named hres hv hfree name
  | clearName v =>
    rcases Build.clearName_cases c v with hrefused | ⟨x, hv, hok⟩
    · exact succeeds_of_refused h _ hrefused
    · rw [namings, after, perform, hok]
      exact h.unnamed hres (has_iff.mpr ⟨x, hv⟩)
  | _ => exact succeeds_of_nameless h trivial

theorem run_succeeds (h : c.Succeeds told) (hres : c.Resolved) {calls : List Call}
    (hlegal : LegalAll c calls) : (run c calls).Succeeds (told ++ history c calls) := by
  induction calls generalizing c told with
  | nil => simpa [run, history] using h
  | cons call calls ih =>
    rw [run, history, ← List.append_assoc]
    exact ih (after_succeeds h hres hlegal.1) ((perform_effect c call).resolved hres hlegal.1)
      hlegal.2

/-- After any script, a name that some functions of a module go by stands for the one that was given
it last of all, if that one goes by it still, and else for the one of them that was made last. So it
stands for the one of them that was named last in just these cases: none was named later and lost
the name since, or the one made last was also named last. -/
theorem run_lookup_holder (calls : List Call) (hlegal : LegalAll {} calls) (m : ModuleId)
    (name : Bytes) (hne : name ≠ []) (hborne : (run {} calls).bearers m name ≠ []) :
    let c := run {} calls
    ∃ last named made,
      lastGiven? (c.home? · = some m) name (history {} calls) = some last ∧
      lastGiven? (· ∈ c.bearers m name) name (history {} calls) = some named ∧
      (c.bearers m name).getLast? = some made ∧
      c.lookup? m name = some (if last ∈ c.bearers m name then last else made) ∧
      (c.lookup? m name = some named ↔ last ∈ c.bearers m name ∨ made = named) := by
  intro c
  have hres : c.Resolved := run_resolved resolved_empty hlegal
  have hsync : c.InSync (history {} calls) := run_inSync inSync_empty calls
  have hsucceeds : c.Succeeds (history {} calls) :=
    run_succeeds succeeds_empty resolved_empty hlegal
  have hheld := hsucceeds.holder m name hne
  have hhome : ∀ v, decide (v ∈ c.bearers m name) = true → decide (c.home? v = some m) = true := by
    intro v hv
    rw [decide_eq_true_eq] at hv ⊢
    exact (hres.home? m v).mp (List.mem_filter.mp hv).1
  obtain ⟨f, hf⟩ := List.exists_mem_of_ne_nil _ hborne
  have hstanding : standing (history {} calls) f = some name := by
    have hname : c.name f = name := by simpa using (List.mem_filter.mp hf).2
    exact hsync.standing_of_name hname hne
  obtain ⟨named, hnamed⟩ := Option.isSome_iff_exists.mp
    (isSome_lastGiven? (p := (· ∈ c.bearers m name)) hstanding (by simpa using hf))
  obtain ⟨last, hlast⟩ := Option.isSome_iff_exists.mp
    (isSome_lastGiven? (p := (c.home? · = some m)) hstanding (hhome f (by simpa using hf)))
  obtain ⟨made, hmade⟩ := Option.isSome_iff_exists.mp (List.getLast?_isSome.mpr hborne)
  have hlookup : c.lookup? m name = some (if last ∈ c.bearers m name then last else made) := by
    rw [lookup?, hheld, hlast]
    split
    · rename_i hmem
      exact holder?_of_mem hmem
    · rename_i hmem
      rw [holder?_of_not_mem (by rintro _ ⟨⟩; exact hmem), hmade]
  refine ⟨last, named, made, hlast, hnamed, hmade, hlookup, ?_⟩
  rw [hlookup, Option.some.injEq]
  split
  · rename_i hmem
    -- the last of all to be named is the last of the bearers to be named
    have hsame := lastGiven?_of_subset hlast (by simpa using hmem) hhome
    exact iff_of_true (Option.some.inj (hsame.symm.trans hnamed)) (.inl hmem)
  · rename_i hmem
    simp [hmem]

/-- The first of two functions is named after the second; a third takes the name and loses it. -/
def outlived : List Call :=
  [.module none, .function 0 (.own .void) "", .function 0 (.own .void) "n", .setName 1 "n",
    .function 0 (.own .void) "n", .clearName 3]

theorem run_lookup_holder_outlived :
    LegalAll {} outlived ∧ (run {} outlived).bearers 0 "n" = [1, 2] ∧
      (run {} outlived).lookup? 0 "n" = some 2 ∧
      lastGiven? (· ∈ [1, 2]) "n" (history {} outlived) = some 1 ∧
      ∃ last made, last ∉ (run {} outlived).bearers 0 "n" ∧ made ≠ 1 ∧
        (run {} outlived).lookup? 0 "n" =
          some (if last ∈ (run {} outlived).bearers 0 "n" then last else made) := by
  have hlegal : LegalAll {} outlived := by decide
  have hbearers : (run {} outlived).bearers 0 "n" = [1, 2] := by decide
  have hfound : (run {} outlived).lookup? 0 "n" = some 2 := by decide
  have hlast : lastGiven? (· ∈ [1, 2]) "n" (history {} outlived) = some 1 := by decide
  obtain ⟨last, named, made, -, hnamed, -, hlookup, hiff⟩ :=
    run_lookup_holder outlived hlegal 0 "n" (by decide) (by rw [hbearers]; decide)
  rw [hbearers, hlast] at hnamed
  cases hnamed
  have hother : ¬ (last ∈ (run {} outlived).bearers 0 "n" ∨ made = 1) := by
    rw [← hiff, hfound]
    decide
  exact ⟨hlegal, hbearers, hfound, hlast, last, made, fun h => hother (.inl h),
    fun h => hother (.inr h), hlookup⟩

/-- Of the functions that go by a name, it does not always stand for the one that was named last. -/
theorem outlived_not_named_last :
    ¬ ∀ (calls : List Call) (m : ModuleId) (name : Bytes), LegalAll {} calls → name ≠ [] →
      (run {} calls).bearers m name ≠ [] → (run {} calls).lookup? m name =
        lastGiven? (· ∈ (run {} calls).bearers m name) name (history {} calls) := by
  intro h
  have hsame := h outlived 0 "n" (by decide) (by decide) (by decide)
  revert hsame
  decide

end Call

end FrontEnd.Ir
