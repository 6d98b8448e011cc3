import FrontEnd.Proofs.Ir.Run

/-!
Names of values. That a value has a name is marked on the value, and the name itself is in a table
of the context. The two go together after any script of calls, whatever it hands over: a value is
marked exactly when the table has a name for it, that name is the one given last and not taken away
since, and to ask for the name of a value never finds it lost.
-/
namespace FrontEnd.Ir

namespace Context

variable {c c' c₁ c₂ : Context}

/-- Marks and names are as before. -/
structure SameNames (c c' : Context) : Prop where
  isNamed : ∀ v, c'.isNamed v = c.isNamed v
  names : c'.names = c.names

/-- One value gets a name, or loses the one it had. -/
structure Renames (c c' : Context) (v : ValueId) (name : Option Bytes) : Prop where
  isNamed : ∀ w, c'.isNamed w = if w = v then name.isSome else c.isNamed w
  get? : ∀ w, c'.names.get? w = if w = v then name else c.names.get? w
  nodup : c.names.keys.Nodup → c'.names.keys.Nodup

/-- A value is given a name; the empty one is none. -/
def Gives (c c' : Context) (v : ValueId) (name : Bytes) : Prop :=
  name = [] ∧ SameNames c c' ∨ name ≠ [] ∧ Renames c c' v (some name)

theorem SameNames.refl (c : Context) : SameNames c c := ⟨fun _ => rfl, rfl⟩

theorem SameNames.trans (h : SameNames c c₁) (h' : SameNames c₁ c₂) : SameNames c c₂ where
  isNamed v := (h'.isNamed v).trans (h.isNamed v)
  names := h'.names.trans h.names

theorem SameNames.name? (h : SameNames c c') (v : ValueId) : c'.name? v = c.name? v := by
  rw [Context.name?, Context.name?, h.isNamed, h.names]

theorem SameNames.name (h : SameNames c c') (v : ValueId) : c'.name v = c.name v := by
  rw [Context.name, Context.name, h.name?]

theorem Renames.name {v : ValueId} {name : Option Bytes} (h : Renames c c' v name) (w : ValueId) :
    c'.name w = if w = v then name.getD [] else c.name w := by
  simp only [Context.name, Context.name?, h.isNamed, h.get?]
  by_cases hw : w = v
  · cases name <;> simp [hw]
  · simp [hw]

/-- A name is given in the midst of changes that leave names alone. -/
theorem Gives.within {v : ValueId} {name : Bytes} (h : SameNames c c₁) (hgives : Gives c₁ c₂ v name)
    (h' : SameNames c₂ c') : Gives c c' v name := by
  rcases hgives with ⟨hempty, hsame⟩ | ⟨hne, hren⟩
  · exact .inl ⟨hempty, (h.trans hsame).trans h'⟩
  · refine .inr ⟨hne, ?_, ?_, ?_⟩
    · intro w
      rw [h'.isNamed, hren.isNamed, h.isNamed]
    · intro w
      rw [h'.names, hren.get?, h.names]
    · intro hnodup
      rw [h'.names]
      exact hren.nodup (h.names ▸ hnodup)

theorem Gives.name {v : ValueId} {name : Bytes} (h : Gives c c' v name) (hv : c.isNamed v = false)
    (w : ValueId) : c'.name w = if w = v then name else c.name w := by
  rcases h with ⟨rfl, hsame⟩ | ⟨-, hren⟩
  · rw [hsame.name]
    split
    · rename_i hw
      simp [Context.name, Context.name?, hw, hv]
    · rfl
  · exact hren.name w

section Frame

variable (c : Context)

theorem isNamed_nextValue : c.isNamed c.nextValue = false := by
  simp [isNamed, value?, nextValue]

theorem addValue_sameNames (form : Form) : SameNames c (c.addValue form) where
  isNamed v := by
    simp only [isNamed, value?, addValue, Array.getElem?_push]
    by_cases hzero : v = 0
    · simp [hzero]
    · by_cases hnext : v - 1 = c.values.size
      · simp [hzero, hnext]
      · simp [hzero, hnext]
  names := rfl

theorem mapForm_sameNames (v : ValueId) (g : Form → Form) : SameNames c (c.mapForm v g) where
  isNamed w := by
    simp only [isNamed, value?, mapForm, Array.getElem?_modify]
    split
    · rfl
    split
    · cases c.values[w - 1]? <;> rfl
    · rfl
  names := rfl

theorem addSignature_sameNames (t : Ty) : SameNames c (c.addSignature t) := ⟨fun _ => rfl, rfl⟩

theorem addParam_sameNames (s : Nat) (a : ValueId) : SameNames c (c.addParam s a) :=
  ⟨fun _ => rfl, rfl⟩

theorem adopt_sameNames (m : ModuleId) (v : ValueId) : SameNames c (c.adopt m v) :=
  ⟨fun _ => rfl, rfl⟩

theorem addToModule_sameNames (m : ModuleId) (f : ValueId) : SameNames c (c.addToModule m f) :=
  ⟨fun _ => rfl, rfl⟩

variable {c}

theorem has_iff {v : ValueId} : c.Has v ↔ ∃ x, c.value? v = some x := by
  simp [Has, kind?, form?, Option.isSome_iff_exists]

/-- Marking a value that is there. -/
theorem isNamed_mark {v : Nat} (hv : c.Has v) (mark : Bool) (names : Table ValueId Bytes)
    (w : Nat) :
    ({ c with values := c.values.modify (v - 1) fun x => { x with hasName := mark }, names } :
      Context).isNamed w = if w = v then mark else c.isNamed w := by
  obtain ⟨x, hx⟩ := has_iff.mp hv
  have hzero : v ≠ 0 := by
    rintro rfl
    simp [value?] at hx
  rw [value?, if_neg hzero] at hx
  simp only [isNamed, value?, Array.getElem?_modify]
  by_cases hw : w = v
  · simp [hw, hzero, hx]
  · by_cases hw' : w = 0
    · simp [hw', Ne.symm hzero]
    · have hne : v - 1 ≠ w - 1 := by omega
      simp [hw, hw', hne]

theorem lt_of_isNamed {v : Nat} (hv : c.isNamed v = true) : 0 < v ∧ v ≤ c.values.size := by
  unfold isNamed value? at hv
  by_cases hzero : v = 0
  · simp [hzero] at hv
  · rw [if_neg hzero] at hv
    by_cases hsize : v - 1 < c.values.size
    · omega
    · simp [hsize] at hv

theorem named_gives {v : ValueId} (hv : c.Has v) (name : Bytes) :
    Gives c (c.named v name) v name := by
  unfold named
  by_cases hempty : name = []
  · rw [if_pos (by simp [hempty])]
    exact .inl ⟨hempty, .refl c⟩
  · rw [if_neg (by simp [hempty])]
    have hren : Renames c { c with
        values := c.values.modify (v - 1) fun x => { x with hasName := true }
        names := c.names.insert v name } v (some name) := by
      refine ⟨isNamed_mark hv true _, ?_, fun h => Table.nodup_keys_insert h v name⟩
      intro w
      rw [Table.get?_insert]
      simp [eq_comm]
    refine .inr ⟨hempty, ?_⟩
    split
    · exact ⟨hren.isNamed, hren.get?, hren.nodup⟩
    · exact hren

theorem withoutName_renames {v : ValueId} (hv : c.Has v) : Renames c (c.withoutName v) v none := by
  refine ⟨isNamed_mark hv false _, ?_, fun h => Table.nodup_keys_erase h v⟩
  intro w
  rw [withoutName, Table.get?_erase]
  simp [eq_comm]

theorem unnamed_of_not_named {v : ValueId} (hv : c.isNamed v = false) : c.unnamed v = c := by
  simp [unnamed, hv]

theorem unnamed_renames {v : ValueId} (hv : c.isNamed v = true) :
    Renames c (c.unnamed v) v none := by
  have hhas : c.Has v := by
    rw [has_iff]
    unfold isNamed at hv
    cases hx : c.value? v with
    | none => simp [hx] at hv
    | some x => exact ⟨x, rfl⟩
  have hren := withoutName_renames hhas
  unfold unnamed
  rw [if_neg (by simp [hv])]
  split
  · split
    · exact ⟨hren.isNamed, hren.get?, hren.nodup⟩
    · exact hren
  · exact hren

theorem value?_addValue_next (c : Context) (form : Form) :
    (c.addValue form).value? c.nextValue = some { form } := by
  simp [value?, addValue, nextValue]

theorem has_addValue (c : Context) (form : Form) : (c.addValue form).Has c.nextValue := by
  simp [Has, kind?_addValue_next]

theorem addListed_sameNames (m : ModuleId) (t : Ty) : SameNames c (c.addListed m t) := by
  have hmade := (c.addSignature_sameNames t).trans
    (addValue_sameNames _ (.function m c.signatures.size none))
  have hadopted := hmade.trans (adopt_sameNames _ m c.nextValue)
  exact hadopted.trans (addToModule_sameNames _ m c.nextValue)

theorem addFunction_gives (m : ModuleId) (t : Ty) (name : Bytes) :
    Gives c (c.addFunction m t name) c.nextValue name := by
  have hnext : (c.addListed m t).Has c.nextValue := has_addValue (c.addSignature t) _
  exact .within (addListed_sameNames m t) (named_gives hnext name) (.refl _)

theorem addArgument_gives (m : ModuleId) (t : Ty) (f : ValueId) (s : Nat) (name : Bytes) :
    Gives c (c.addArgument m t f s name) c.nextValue name :=
  .within (c.addValue_sameNames _) (named_gives (c.has_addValue _) name)
    ((addParam_sameNames _ s _).trans (adopt_sameNames _ m _))

theorem addBlock_gives (m : ModuleId) (f : ValueId) (home : ModuleId) (s : Nat) (name : Bytes) :
    Gives c (c.addBlock m f home s name) c.nextValue name :=
  .within (c.addValue_sameNames _) (named_gives (c.has_addValue _) name)
    ((mapForm_sameNames _ f _).trans (adopt_sameNames _ m _))

theorem addInstruction_sameNames (m : ModuleId) (b : ValueId) (form : Form) :
    SameNames c (c.addInstruction m b form) :=
  ((c.addValue_sameNames form).trans (mapForm_sameNames _ b _)).trans (adopt_sameNames _ m _)

end Frame

end Context

/-- A value was given a name, or its name was taken away. -/
inductive Naming where
  | given (v : ValueId) (name : Bytes)
  | taken (v : ValueId)
  deriving DecidableEq, Repr

namespace Naming

/-- What a naming makes of the name that a value has. -/
def onto (v : ValueId) (old : Option Bytes) : Naming → Option Bytes
  | .given w name => if w = v then some name else old
  | .taken w => if w = v then none else old

/-- The name that a value was given last and that was not taken away since. -/
def standing (history : List Naming) (v : ValueId) : Option Bytes := history.foldl (onto v) none

theorem standing_append (history : List Naming) (n : Naming) (v : ValueId) :
    standing (history ++ [n]) v = onto v (standing history v) n := by
  simp [standing]

/-- A naming that was made, with what it gave out. -/
def told {α : Type} (f : α → Naming) : EStateM.Result Misuse Context α → List Naming
  | .ok a _ => [f a]
  | .error _ _ => []

end Naming

namespace Context

variable {c c' : Context} {history : List Naming}

/-- Marks and table go together, and they tell the history. -/
structure InSync (c : Context) (history : List Naming) : Prop where
  nodup : c.names.keys.Nodup
  isNamed : ∀ v, c.isNamed v = (c.names.get? v).isSome
  get? : ∀ v, c.names.get? v = (Naming.standing history v).filter (· ≠ [])

theorem inSync_empty : InSync {} [] where
  nodup := .nil
  isNamed v := by simp [Context.isNamed, value?, Table.get?]
  get? _ := rfl

namespace InSync

variable (h : InSync c history)

include h

theorem same (hsame : SameNames c c') : InSync c' history where
  nodup := hsame.names ▸ h.nodup
  isNamed v := by rw [hsame.isNamed, hsame.names, h.isNamed]
  get? v := by rw [hsame.names, h.get?]

theorem get?_eq_none {v : ValueId} (hv : c.isNamed v = false) : c.names.get? v = none := by
  simpa [hv] using h.isNamed v

theorem given {v : ValueId} {name : Bytes} (hv : c.isNamed v = false) (hgives : Gives c c' v name) :
    InSync c' (history ++ [.given v name]) := by
  rcases hgives with ⟨rfl, hsame⟩ | ⟨hne, hren⟩
  · refine ⟨(h.same hsame).nodup, (h.same hsame).isNamed, ?_⟩
    intro w
    rw [hsame.names, Naming.standing_append, Naming.onto]
    split
    · rename_i hw
      simp [← hw, h.get?_eq_none hv, Option.filter]
    · exact h.get? w
  · refine ⟨hren.nodup h.nodup, ?_, ?_⟩
    · intro w
      rw [hren.isNamed, hren.get?]
      split
      · rfl
      · exact h.isNamed w
    · intro w
      rw [hren.get?, Naming.standing_append, Naming.onto]
      by_cases hw : w = v
      · simp [hw, hne, Option.filter]
      · simp [hw, Ne.symm hw, h.get?]

theorem taken (v : ValueId) : InSync (c.unnamed v) (history ++ [.taken v]) := by
  cases hv : c.isNamed v with
  | false =>
    rw [unnamed_of_not_named hv]
    refine ⟨h.nodup, h.isNamed, ?_⟩
    intro w
    rw [Naming.standing_append, Naming.onto]
    split
    · rename_i hw
      simp [← hw, h.get?_eq_none hv]
    · exact h.get? w
  | true =>
    have hren := unnamed_renames hv
    refine ⟨hren.nodup h.nodup, ?_, ?_⟩
    · intro w
      rw [hren.isNamed, hren.get?]
      split
      · rfl
      · exact h.isNamed w
    · intro w
      rw [hren.get?, Naming.standing_append, Naming.onto]
      by_cases hw : w = v
      · simp [hw]
      · simp [hw, Ne.symm hw, h.get?]

/-- No name is ever missed. -/
theorem name?_ne_none (v : ValueId) : c.name? v ≠ none := by
  unfold Context.name?
  split
  · rename_i hv
    have hsome := h.isNamed v
    rw [hv] at hsome
    exact Option.isSome_iff_ne_none.mp hsome.symm
  · simp

/-- Every name in the table is that of one marked value. -/
theorem size_eq_countP : c.names.size = c.values.toList.countP Value.hasName := by
  have hmarks : c.values.toList.map Value.hasName =
      (List.range' 1 c.values.size).map c.isNamed := by
    apply List.ext_getElem
    · simp
    · intro i hi _
      have hsize : i < c.values.size := by simpa using hi
      simp [Context.isNamed, value?, hsize, Nat.add_comm 1 i]
  have hkeys : c.names.keys.Perm ((List.range' 1 c.values.size).filter c.isNamed) := by
    have hnumbers : (List.range' 1 c.values.size).Nodup := List.nodup_range'
    rw [List.perm_ext_iff_of_nodup h.nodup (hnumbers.filter _)]
    intro v
    rw [Table.mem_keys_iff, ← h.isNamed, List.mem_filter, List.mem_range'_1]
    constructor
    · intro hv
      refine ⟨?_, hv⟩
      have := lt_of_isNamed hv
      omega
    · exact fun hv => hv.2
  calc c.names.size = c.names.keys.length := by simp [Table.size, Table.keys]
    _ = (List.range' 1 c.values.size).countP c.isNamed := by
      rw [hkeys.length_eq, List.countP_eq_length_filter]
    _ = ((List.range' 1 c.values.size).map c.isNamed).countP id := by simp [List.countP_map]
    _ = c.values.toList.countP Value.hasName := by rw [← hmarks, List.countP_map]; rfl

end InSync

end Context

namespace Call

open Context Naming

/-- The namings that a call comes to: what it names is the value that it gives out, or the one
that it is asked to name. -/
def namings (c : Context) : Call → List Naming
  | .function m result name => told (.given · name) (Build.createFunction m result name c)
  | .argument m type fn name => told (.given · name) (Build.createArgument m type fn name c)
  | .block m context name fn => told (.given · name) (Build.createBlock m context name fn c)
  | .setName v name => told (fun _ => .given v name) (Build.setName v name c)
  | .clearName v => told (fun _ => .taken v) (Build.clearName v c)
  | _ => []

/-- All namings of a script, in order. -/
def history (c : Context) : List Call → List Naming
  | [] => []
  | call :: calls => call.namings c ++ history (call.after c) calls

variable {c : Context} {told : List Naming}

theorem left_discard {α : Type} (x : Build α) (c : Context) :
    left ((discard x : Build Unit) c) = left (x c) := by
  rw [discard_apply]
  cases x c <;> rfl

/-- What is refused names nothing and changes nothing. -/
theorem inSync_of_refused (h : c.InSync told) {α : Type} {x : Build α} (f : α → Naming)
    (hx : Build.Refused c (x c)) :
    (left (x c)).InSync (told ++ Naming.told f (x c)) := by
  obtain ⟨e, he, -⟩ := hx
  rw [he]
  simpa [left, Naming.told] using h

/-- A value that is made is named with it. -/
theorem inSync_of_made (h : c.InSync told) {x : Build ValueId} {c' : Context} {name : Bytes}
    (hx : x c = .ok c.nextValue c') (hgives : Gives c c' c.nextValue name) :
    (left (x c)).InSync (told ++ Naming.told (.given · name) (x c)) := by
  rw [hx]
  exact h.given c.isNamed_nextValue hgives

/-- The call is about no name. -/
def Nameless : Call → Prop
  | .function .. | .argument .. | .block .. | .setName .. | .clearName .. => False
  | _ => True

theorem namings_eq_nil {call : Call} (hcall : call.Nameless) : call.namings c = [] := by
  cases call with
  | function | argument | block | setName | clearName => exact hcall.elim
  | _ => rfl

theorem Effect.sameNames {call : Call} (hcall : call.Nameless)
    {r : EStateM.Result Misuse Context Unit} (he : Effect c call r) : SameNames c (left r) := by
  cases he with
  | refused => exact .refl c
  | primitive => exact .refl c
  | integer => exact ⟨fun _ => rfl, rfl⟩
  | signature t => exact c.addSignature_sameNames t
  | module => exact ⟨fun _ => rfl, rfl⟩
  | binary m => exact addInstruction_sameNames m _ _
  | ret m => exact addInstruction_sameNames m _ _
  | exhausted | function | argument | block | setName | clearName => exact hcall.elim

theorem inSync_of_nameless (h : c.InSync told) {call : Call} (hcall : call.Nameless) :
    (call.after c).InSync (told ++ call.namings c) := by
  rw [namings_eq_nil hcall, List.append_nil]
  exact h.same ((perform_effect c call).sameNames hcall)

/-- One call keeps marks and table together. -/
theorem after_inSync (h : c.InSync told) (call : Call) :
    (call.after c).InSync (told ++ call.namings c) := by
  cases call with
  | function m result name =>
    rw [after, perform, left_discard]
    rcases Build.createFunction_cases c m result name with hrefused | ⟨t, rfl, hfull | ⟨-, hok⟩⟩
    · exact inSync_of_refused h _ hrefused
    · rw [namings, hfull, Naming.told, List.append_nil]
      exact h.same (c.addSignature_sameNames t)
    · exact inSync_of_made h hok (addFunction_gives m t name)
  | argument m type fn name =>
    rw [after, perform, left_discard]
    rcases Build.createArgument_cases c m type fn name with
      hrefused | ⟨t, f, home, s, body, rfl, rfl, hf, -, hok⟩
    · exact inSync_of_refused h _ hrefused
    · exact inSync_of_made h hok (addArgument_gives m t f s name)
  | block m context name fn =>
    rw [after, perform, left_discard]
    rcases Build.createBlock_cases c m context name fn with
      hrefused | ⟨f, home, s, rfl, rfl, hf, -, hok⟩
    · exact inSync_of_refused h _ hrefused
    · exact inSync_of_made h hok (addBlock_gives m f home s name)
  | setName v name =>
    rcases Build.setName_cases c v name with hrefused | ⟨x, hv, hfree, hok⟩
    · exact inSync_of_refused h _ hrefused
    · have hnamed : c.isNamed v = false := by simp [isNamed, hv, hfree]
      rw [namings, after, perform, hok]
      exact h.given hnamed (named_gives (has_iff.mpr ⟨x, hv⟩) name)
  | clearName v =>
    rcases Build.clearName_cases c v with hrefused | ⟨x, hv, hok⟩
    · exact inSync_of_refused h _ hrefused
    · rw [namings, after, perform, hok]
      exact h.taken v
  | _ => exact inSync_of_nameless h trivial

/-- In step with the table, no call finds a name lost. -/
theorem not_nameLost (h : c.InSync told) (call : Call) (v : ValueId) (c' : Context) :
    call.perform c ≠ .error (.nameLost v) c' := by
  intro hlost
  have heffect := perform_effect c call
  rw [hlost] at heffect
  cases heffect with
  | refused _ _ hmissing => exact h.name?_ne_none v (hmissing v rfl)

theorem run_inSync (h : c.InSync told) (calls : List Call) :
    (run c calls).InSync (told ++ history c calls) := by
  induction calls generalizing c told with
  | nil => simpa [run, history] using h
  | cons call calls ih =>
    rw [run, history, ← List.append_assoc]
    exact ih (after_inSync h call)

/-- After any script, a value is marked as named exactly when the table has a name for it; that name
is not empty, and it is the one given last and not taken away since; there are as many names as
named values; and no name is ever missed, neither by one who asks for it nor by a further call. -/
theorem run_naming (calls : List Call) :
    let c := run {} calls
    (∀ v, c.isNamed v = true ↔ ∃ name, c.names.get? v = some name) ∧
      (∀ v name, c.names.get? v = some name ↔
        name ≠ [] ∧ standing (history {} calls) v = some name) ∧
      c.names.size = c.values.toList.countP Value.hasName ∧
      (∀ v, ∃ name, c.name? v = some name) ∧
      ∀ (call : Call) v c', call.perform c ≠ .error (.nameLost v) c' := by
  intro c
  have hsync : c.InSync (history {} calls) := run_inSync inSync_empty calls
  refine ⟨?_, ?_, hsync.size_eq_countP, ?_, not_nameLost hsync⟩
  · intro v
    rw [hsync.isNamed, Option.isSome_iff_exists]
  · intro v name
    rw [hsync.get?, Option.filter_eq_some_iff]
    simp [and_comm]
  · intro v
    exact Option.ne_none_iff_exists'.mp (hsync.name?_ne_none v)

end Call

end FrontEnd.Ir
