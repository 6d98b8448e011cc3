import FrontEnd.Proofs.Ir.Run

/-!
How code grows. Nearly all that a value is, it is from the start; only a function gets its arguments
and its body later, and a block its instructions. A call makes one value at most, with the next
number. The module that the call is made on owns it, and it goes to the end of the list that it says
it is in. Nothing else changes of what is told of values here.
-/
namespace FrontEnd.Ir

/-- A list of values that another value keeps. -/
inductive Row where
  | params (f : ValueId)
  | body (f : ValueId)
  | members (b : ValueId)
  deriving DecidableEq, Repr

namespace Form

/-- What a value is from the start. -/
def fixed : Form → Form
  | .function home s _ => .function home s none
  | .block p _ => .block p []
  | form => form

/-- The list that a value says it is in. -/
def row? : Form → Option Row
  | .function .. => none
  | .argument _ parent _ => parent.map .params
  | .block p _ => some (.body p)
  | .binary _ _ _ _ b | .ret _ b => some (.members b)

def signature? : Form → Option Nat
  | .function _ s _ => some s
  | _ => none

def body? : Form → Option ValueId
  | .function _ _ b => b
  | _ => none

theorem type_fixed (form : Form) : form.fixed.type = form.type := by
  cases form <;> rfl

theorem operands_fixed (form : Form) : form.fixed.operands = form.operands := by
  cases form <;> rfl

theorem row?_fixed (form : Form) : form.fixed.row? = form.row? := by
  cases form <;> rfl

theorem signature?_fixed (form : Form) : form.fixed.signature? = form.signature? := by
  cases form <;> rfl

end Form

namespace Row

/-- The value that keeps the list. -/
def keeper : Row → ValueId
  | .params f => f
  | .body f => f
  | .members b => b

/-- What is in the list when its keeper is as given. -/
def read (signatures : Array Signature) : Row → Option Form → List ValueId
  | .params _, o =>
    ((o.bind Form.signature?).bind fun s => signatures[s]?.map Signature.params).getD []
  | .body _, o => (o.bind Form.body?).toList
  | .members _, o => (o.map Form.members).getD []

theorem read_none (signatures : Array Signature) (k : Row) : k.read signatures none = [] := by
  cases k <;> rfl

end Row

namespace Context

def fixed? (c : Context) (v : ValueId) : Option Form := (c.form? v).map Form.fixed

def row? (c : Context) (v : ValueId) : Option Row := (c.form? v).bind Form.row?

def signature? (c : Context) (f : ValueId) : Option Nat := (c.form? f).bind Form.signature?

/-- The values in a list, in order. -/
def children (c : Context) : Row → List ValueId
  | .params f => c.params f
  | .body f => (c.body? f).toList
  | .members b => c.instructions b

/-- What the modules own, one module after the other. -/
def owned (c : Context) : List ValueId := c.modules.toList.flatMap Module.values

/-- No value is made or changed. -/
structure Still (c c' : Context) : Prop where
  fixed? : ∀ v, c'.fixed? v = c.fixed? v
  children : ∀ k, c'.children k = c.children k
  values : c'.values.size = c.values.size
  owned : c'.owned = c.owned

/-- One value is made, with the next number. -/
structure Makes (c c' : Context) (form : Form) : Prop where
  fixed? : ∀ v, c'.fixed? v = if v = c.nextValue then some form.fixed else c.fixed? v
  children : ∀ k, c'.children k =
    if form.row? = some k then c.children k ++ [c.nextValue] else c.children k
  values : c'.values.size = c.values.size + 1
  owned : c'.owned.Perm (c.nextValue :: c.owned)

variable {c c' : Context}

theorem row?_eq_fixed? (c : Context) (v : ValueId) : c.row? v = (c.fixed? v).bind Form.row? := by
  unfold row? fixed?
  cases c.form? v with
  | none => rfl
  | some form => exact form.row?_fixed.symm

theorem signature?_eq_fixed? (c : Context) (f : ValueId) :
    c.signature? f = (c.fixed? f).bind Form.signature? := by
  unfold signature? fixed?
  cases c.form? f with
  | none => rfl
  | some form => exact form.signature?_fixed.symm

theorem Makes.row? {form : Form} (h : Makes c c' form) (v : ValueId) :
    c'.row? v = if v = c.nextValue then form.row? else c.row? v := by
  rw [row?_eq_fixed?, row?_eq_fixed?, h.fixed?]
  split
  · exact form.row?_fixed
  · rfl

theorem Makes.signature? {form : Form} (h : Makes c c' form) (f : ValueId) :
    c'.signature? f = if f = c.nextValue then form.signature? else c.signature? f := by
  rw [signature?_eq_fixed?, signature?_eq_fixed?, h.fixed?]
  split
  · exact form.signature?_fixed
  · rfl

theorem Still.row? (h : Still c c') (v : ValueId) : c'.row? v = c.row? v := by
  rw [row?_eq_fixed?, row?_eq_fixed?, h.fixed?]

theorem Still.signature? (h : Still c c') (f : ValueId) : c'.signature? f = c.signature? f := by
  rw [signature?_eq_fixed?, signature?_eq_fixed?, h.fixed?]

section Reading

theorem children_eq (c : Context) (k : Row) :
    c.children k = k.read c.signatures (c.form? k.keeper) := by
  cases k with
  | params f =>
    unfold children params signatureOf?
    cases hf : c.form? f with
    | none => simp [Row.keeper, hf, Row.read_none]
    | some form => cases form <;> simp [Row.keeper, hf, Row.read, Form.signature?]
  | body f =>
    unfold children body?
    cases hf : c.form? f with
    | none => simp [Row.keeper, hf, Row.read_none]
    | some form => cases form <;> simp [Row.keeper, hf, Row.read, Form.body?]
  | members b =>
    unfold children instructions
    cases hb : c.form? b with
    | none => simp [Row.keeper, hb, Row.read_none]
    | some form => cases form <;> simp [Row.keeper, hb, Row.read, Form.members]

theorem params_eq (c : Context) (f : ValueId) :
    c.params f = ((c.signature? f).bind fun s => c.signatures[s]?.map Signature.params).getD [] :=
  c.children_eq (.params f)

variable {α : Type} {R : Option Form → α} {v : ValueId} {form : Form}

/-- What is read of a value is as before, if a new value shows nothing of it. -/
theorem read_made (h : ∀ v, c'.form? v = if v = c.nextValue then some form else c.form? v)
    (hform : R (some form) = R none) : R (c'.form? v) = R (c.form? v) := by
  rw [h]
  split
  · rename_i hv
    rw [hv, form?_nextValue, hform]
  · rfl

/-- The same where another value is changed as well, but not in what is read. -/
theorem read_changed {x : ValueId} {old new : Form} (hx : c.form? x = some old)
    (h : ∀ v, c'.form? v =
      if v = c.nextValue then some form else if v = x then some new else c.form? v)
    (hform : R (some form) = R none) (hnew : v = x → R (some new) = R (some old)) :
    R (c'.form? v) = R (c.form? v) := by
  rw [h]
  split
  · rename_i hv
    rw [hv, form?_nextValue, hform]
  split
  · rename_i hv
    rw [hnew hv, hv, hx]
  · rfl

end Reading

section Owners

variable (c)

/-- The modules own what they did. -/
structure SameOwners (c c' : Context) : Prop where
  values : c'.values.size = c.values.size
  modules : c'.modules.size = c.modules.size
  owned : c'.owned = c.owned

theorem SameOwners.trans {c₁ c₂ c₃ : Context} (h : SameOwners c₁ c₂) (h' : SameOwners c₂ c₃) :
    SameOwners c₁ c₃ where
  values := h'.values.trans h.values
  modules := h'.modules.trans h.modules
  owned := h'.owned.trans h.owned

theorem mapModule_sameOwners (m : ModuleId) {g : Module → Module}
    (hg : ∀ x, (g x).values = x.values) : SameOwners c (c.mapModule m g) where
  values := rfl
  modules := by simp [mapModule]
  owned := by
    have hmap : (c.modules.toList.modify m g).map Module.values =
        c.modules.toList.map Module.values := by
      apply List.ext_getElem?
      intro k
      simp only [List.getElem?_map, List.getElem?_modify]
      split
      · cases c.modules.toList[k]? with
        | none => rfl
        | some x => simp [hg x]
      · simp
    simp only [owned, mapModule, Array.toList_modify, List.flatMap_def, hmap]

theorem rename_sameOwners (i : Nat) (g : Value → Value) (names : Table ValueId Bytes) :
    SameOwners c { c with values := c.values.modify i g, names } where
  values := by simp
  modules := rfl
  owned := rfl

theorem mapForm_sameOwners (v : ValueId) (g : Form → Form) : SameOwners c (c.mapForm v g) :=
  c.rename_sameOwners _ _ c.names

theorem named_sameOwners (v : ValueId) (name : Bytes) : SameOwners c (c.named v name) := by
  unfold named
  split
  · exact ⟨rfl, rfl, rfl⟩
  have hrename := c.rename_sameOwners (v - 1) (fun x => { x with hasName := true })
    (c.names.insert v name)
  split
  · exact hrename.trans (mapModule_sameOwners _ _ fun _ => rfl)
  · exact hrename

theorem unnamed_sameOwners (v : ValueId) : SameOwners c (c.unnamed v) := by
  have hrename : SameOwners c (c.withoutName v) := c.rename_sameOwners (v - 1) _ _
  unfold unnamed
  split
  · exact ⟨rfl, rfl, rfl⟩
  split
  · split
    · exact hrename.trans (mapModule_sameOwners _ _ fun _ => rfl)
    · exact hrename
  · exact hrename

theorem owned_addModule (path : Option Bytes) : (c.addModule path).owned = c.owned := by
  simp [owned, addModule]

theorem owned_adopt {m : ModuleId} (hm : m < c.modules.size) (v : ValueId) :
    (c.adopt m v).owned.Perm (v :: c.owned) := by
  rw [owned, owned, adopt, mapModule, Array.toList_modify]
  have hlist : m < c.modules.toList.length := by simpa using hm
  clear hm
  generalize c.modules.toList = l at hlist
  induction l generalizing m with
  | nil => simp at hlist
  | cons x l ih =>
    cases m with
    | zero => simp
    | succ m =>
      have hrest := ih (by simpa using hlist)
      simpa using (hrest.append_left x.values).trans List.perm_middle

end Owners

section Forms

variable (c)

theorem form?_addFunction (m : ModuleId) (t : Ty) (name : Bytes) (v : ValueId) :
    (c.addFunction m t name).form? v =
      if v = c.nextValue then some (.function m c.signatures.size none) else c.form? v := by
  rw [addFunction, (named_keeps ..).form?]
  exact form?_addValue (c.addSignature t) _ v

theorem signatures_addFunction (m : ModuleId) (t : Ty) (name : Bytes) :
    (c.addFunction m t name).signatures = c.signatures.push { result := t } := by
  rw [addFunction, (named_keeps ..).signatures]
  rfl

theorem form?_addArgument (m : ModuleId) (t : Ty) (f : ValueId) (s : Nat) (name : Bytes)
    (v : ValueId) : (c.addArgument m t f s name).form? v =
      if v = c.nextValue then some (.argument t (some f) (c.params f).length) else c.form? v := by
  rw [addArgument, (adopt_keeps ..).form?]
  change ((c.addValue _).named _ name).form? v = _
  rw [(named_keeps ..).form?, form?_addValue]

theorem signatures_addArgument (m : ModuleId) (t : Ty) (f : ValueId) (s : Nat) (name : Bytes) :
    (c.addArgument m t f s name).signatures =
      c.signatures.modify s fun x => { x with params := x.params ++ [c.nextValue] } := by
  simp only [addArgument, (adopt_keeps ..).signatures, addParam, (named_keeps ..).signatures,
    addValue]

variable {c}

theorem ne_nextValue {v : ValueId} {form : Form} (h : c.form? v = some form) :
    v ≠ c.nextValue := by
  rintro rfl
  cases c.form?_nextValue.symm.trans h

theorem form?_addBlock {f : ValueId} {home : ModuleId} {s : Nat}
    (hf : c.form? f = some (.function home s none)) (m : ModuleId) (name : Bytes) (v : ValueId) :
    (c.addBlock m f home s name).form? v =
      if v = c.nextValue then some (.block f [])
      else if v = f then some (.function home s (some c.nextValue))
      else c.form? v := by
  rw [addBlock, (adopt_keeps ..).form?, form?_mapForm _ (c.form?_named_addValue hf _ name),
    (named_keeps ..).form?, form?_addValue]
  by_cases hv : v = c.nextValue
  · simp [hv, (ne_nextValue hf).symm]
  · simp [hv]

theorem signatures_addBlock (m : ModuleId) (f : ValueId) (home : ModuleId) (s : Nat)
    (name : Bytes) : (c.addBlock m f home s name).signatures = c.signatures := by
  change ((c.addValue _).named _ name).signatures = _
  rw [(named_keeps ..).signatures]
  rfl

theorem form?_addInstruction {b p : ValueId} {is : List ValueId}
    (hb : c.form? b = some (.block p is)) (form : Form) (m : ModuleId) (v : ValueId) :
    (c.addInstruction m b form).form? v =
      if v = c.nextValue then some form
      else if v = b then some (.block p (is ++ [c.nextValue]))
      else c.form? v := by
  rw [addInstruction, (adopt_keeps ..).form?, form?_mapForm _ (c.form?_addValue_of_some hb form),
    form?_addValue]
  by_cases hv : v = c.nextValue
  · simp [hv, (ne_nextValue hb).symm]
  · simp [hv, addToBlock]

end Forms

section Made

theorem Sound.signature?_lt (hs : c.Sound) {f : ValueId} {s : Nat} (hf : c.signature? f = some s) :
    s < c.signatures.size := by
  obtain ⟨form, hform, hsig⟩ := Option.bind_eq_some_iff.mp hf
  cases form with
  | function home s' body =>
    cases hsig
    exact (hs.forms f _ hform).type
  | _ => cases hsig

/-- A signature that is made hides none of the others. -/
theorem read_push (hs : c.Sound) (sig : Signature) (k : Row) :
    k.read (c.signatures.push sig) (c.form? k.keeper) =
      k.read c.signatures (c.form? k.keeper) := by
  cases k with
  | params f =>
    change ((c.signature? f).bind _).getD [] = ((c.signature? f).bind _).getD []
    cases hf : c.signature? f with
    | none => rfl
    | some s =>
      have hlt : s < c.signatures.size := hs.signature?_lt hf
      simp [Array.getElem?_push, Nat.ne_of_lt hlt]
  | _ => rfl

theorem Keeps.still (h : Keeps c c') (hvalues : c'.values.size = c.values.size)
    (howned : c'.owned = c.owned) : Still c c' where
  fixed? v := by rw [Context.fixed?, Context.fixed?, h.form?]
  children k := by rw [children_eq, children_eq, h.form?, h.signatures]
  values := hvalues
  owned := howned

theorem addSignature_still (hs : c.Sound) (t : Ty) : Still c (c.addSignature t) where
  fixed? _ := rfl
  children k := by
    rw [children_eq, children_eq]
    exact read_push hs _ k
  values := rfl
  owned := rfl

theorem addFunction_makes (hs : c.Sound) {m : ModuleId} (hm : m < c.modules.size) (t : Ty)
    (name : Bytes) :
    Makes c (c.addFunction m t name) (.function m c.signatures.size none) where
  fixed? v := by
    rw [fixed?, form?_addFunction]
    split <;> rfl
  children k := by
    have hnone : k.read (c.signatures.push { result := t })
        (some (.function m c.signatures.size none)) = [] := by
      cases k <;> simp [Row.read, Form.signature?, Form.body?, Form.members]
    rw [if_neg (by simp [Form.row?]), children_eq, children_eq, signatures_addFunction,
      ← read_push hs { result := t }]
    exact read_made (c.form?_addFunction m t name) (by rw [hnone, Row.read_none])
  values := by
    rw [addFunction, (named_sameOwners ..).values]
    exact Array.size_push _
  owned := by
    rw [addFunction, (named_sameOwners ..).owned]
    have hlisted := mapModule_sameOwners (((c.addSignature t).addValue
      (.function m c.signatures.size none)).adopt m c.nextValue) m
      (g := fun x => { x with functions := x.functions ++ [c.nextValue] }) fun _ => rfl
    rw [addToModule, hlisted.owned]
    exact owned_adopt _ hm c.nextValue

/-- What is done between making a value and giving it to a module leaves owners alone. -/
theorem adopt_made {form : Form} (h : SameOwners (c.addValue form) c') {m : ModuleId}
    (hm : m < c.modules.size) : (c'.adopt m c.nextValue).values.size = c.values.size + 1 ∧
      (c'.adopt m c.nextValue).owned.Perm (c.nextValue :: c.owned) := by
  refine ⟨h.values.trans (Array.size_push _), ?_⟩
  have hadopt := c'.owned_adopt (h.modules.symm ▸ hm) c.nextValue
  rwa [h.owned] at hadopt

theorem addArgument_made (t : Ty) (f : ValueId) (s : Nat) (name : Bytes) :
    SameOwners (c.addValue (.argument t (some f) (c.params f).length))
      (((c.addValue (.argument t (some f) (c.params f).length)).named c.nextValue name).addParam s
        c.nextValue) :=
  (named_sameOwners _ c.nextValue name).trans ⟨rfl, rfl, rfl⟩

theorem addBlock_made (f : ValueId) (home : ModuleId) (s : Nat) (name : Bytes) :
    SameOwners (c.addValue (.block f [])) (((c.addValue (.block f [])).named c.nextValue
      name).mapForm f fun _ => .function home s (some c.nextValue)) :=
  (named_sameOwners _ c.nextValue name).trans (mapForm_sameOwners _ f _)

/-- The arguments of one function change, since no other has its signature. -/
theorem params_addArgument {f : ValueId} {home : ModuleId} {s : Nat} {body : Option ValueId}
    (hs : c.Sound) (hf : c.form? f = some (.function home s body))
    (hown : ∀ g, c.signature? g = some s → g = f) (m : ModuleId) (t : Ty) (name : Bytes)
    (g : ValueId) : (c.addArgument m t f s name).params g =
      if f = g then c.params g ++ [c.nextValue] else c.params g := by
  have hsig : c.signature? f = some s := by simp [signature?, hf, Form.signature?]
  rw [params_eq, signature?, form?_addArgument, signatures_addArgument]
  by_cases hnext : g = c.nextValue
  · simp [hnext, params_eq, signature?, Form.signature?, form?_nextValue, ne_nextValue hf]
  rw [if_neg hnext, params_eq]
  change (Option.bind (c.signature? g) _).getD [] = _
  by_cases hg : f = g
  · have hlt : s < c.signatures.size := hs.signature?_lt hsig
    simp [← hg, hsig, hlt, Array.getElem_modify]
  · cases hg' : c.signature? g with
    | none => simp [hg]
    | some s' =>
      have hne : s ≠ s' := by
        rintro rfl
        exact hg (hown g hg').symm
      simp [hg, Array.getElem?_modify, hne]

theorem addArgument_makes {f : ValueId} {home : ModuleId} {s : Nat} {body : Option ValueId}
    (hs : c.Sound) (hf : c.form? f = some (.function home s body))
    (hown : ∀ g, c.signature? g = some s → g = f) {m : ModuleId} (hm : m < c.modules.size) (t : Ty)
    (name : Bytes) :
    Makes c (c.addArgument m t f s name) (.argument t (some f) (c.params f).length) where
  fixed? v := by
    rw [fixed?, form?_addArgument]
    split <;> rfl
  children k := by
    have hform := c.form?_addArgument m t f s name
    cases k with
    | params g =>
      simp only [children, Form.row?, Option.map_some, Option.some.injEq, Row.params.injEq]
      exact params_addArgument hs hf hown m t name g
    | body g =>
      rw [if_neg (by simp [Form.row?]), children_eq, children_eq]
      exact read_made hform rfl
    | members b =>
      rw [if_neg (by simp [Form.row?]), children_eq, children_eq]
      exact read_made hform rfl
  values := (adopt_made (addArgument_made ..) hm).1
  owned := (adopt_made (addArgument_made ..) hm).2

theorem addBlock_makes {f : ValueId} {home : ModuleId} {s : Nat}
    (hf : c.form? f = some (.function home s none)) {m : ModuleId} (hm : m < c.modules.size)
    (name : Bytes) : Makes c (c.addBlock m f home s name) (.block f []) where
  fixed? v := by
    rw [fixed?, form?_addBlock hf]
    split
    · rfl
    split
    · rename_i hv
      rw [hv, fixed?, hf]
      rfl
    · rfl
  children k := by
    have hform := form?_addBlock hf m name
    rw [children_eq, children_eq, signatures_addBlock]
    by_cases hk : k = .body f
    · rw [hk, Row.keeper, hform, hf, if_neg (ne_nextValue hf)]
      simp [Row.read, Form.body?, Form.row?]
    · rw [if_neg (by simpa [Form.row?] using Ne.symm hk)]
      refine read_changed hf hform (by cases k <;> rfl) ?_
      intro hkeeper
      cases k with
      | body g => exact absurd (congrArg Row.body hkeeper) hk
      | _ => rfl
  values := (adopt_made (addBlock_made ..) hm).1
  owned := (adopt_made (addBlock_made ..) hm).2

theorem addInstruction_makes {b p : ValueId} {is : List ValueId}
    (hb : c.form? b = some (.block p is)) {form : Form} (hform : form.row? = some (.members b))
    (hkind : form.kind = .instruction) {m : ModuleId} (hm : m < c.modules.size) :
    Makes c (c.addInstruction m b form) form where
  fixed? v := by
    rw [fixed?, form?_addInstruction hb]
    split
    · rfl
    split
    · rename_i hv
      rw [hv, fixed?, hb]
      rfl
    · rfl
  children k := by
    have hview := form?_addInstruction hb form m
    have hnone : k.read c.signatures (some form) = [] := by
      cases form <;> cases hkind <;> cases k <;> rfl
    have hsame : (c.addInstruction m b form).signatures = c.signatures := rfl
    rw [children_eq, children_eq, hsame, hform]
    by_cases hk : k = .members b
    · rw [hk, Row.keeper, hview, hb, if_neg (ne_nextValue hb)]
      simp [Row.read, Form.members]
    · rw [if_neg (by simpa using Ne.symm hk)]
      refine read_changed hb hview (by rw [hnone, Row.read_none]) ?_
      intro hkeeper
      cases k with
      | members g => exact absurd (congrArg Row.members hkeeper) hk
      | _ => rfl
  values := (adopt_made (mapForm_sameOwners ..) hm).1
  owned := (adopt_made (mapForm_sameOwners ..) hm).2

end Made

end Context

end FrontEnd.Ir
