import FrontEnd.Ir.Build

/-!
What a call does to a context. Every call that makes or names code either is refused and leaves the
context as it was, or changes it in one way, which is told here once, with all that the call has
checked before. Only running out of numbers comes too late for a function: its signature stays.
-/
namespace FrontEnd.Ir

/-- What is handed over, or nothing. -/
def Ref.ofOption {α φ : Type} : Option α → Ref α φ
  | none => .missing
  | some a => .own a

namespace Context

def addWidth (c : Context) (width : Nat) : Context :=
  { c with widths := if width ∈ Ty.standardWidths then c.widths else c.widths.insert width }

def addSignature (c : Context) (result : Ty) : Context :=
  { c with signatures := c.signatures.push { result } }

def addParam (c : Context) (s : Nat) (a : ValueId) : Context :=
  { c with signatures := c.signatures.modify s fun x => { x with params := x.params ++ [a] } }

/-- The number of the value that is made next. -/
def nextValue (c : Context) : ValueId := c.values.size + 1

def addValue (c : Context) (form : Form) : Context :=
  { c with values := c.values.push { form } }

def mapForm (c : Context) (v : ValueId) (g : Form → Form) : Context :=
  { c with values := c.values.modify (v - 1) fun x => { x with form := g x.form } }

def mapModule (c : Context) (m : ModuleId) (g : Module → Module) : Context :=
  { c with modules := c.modules.modify m g }

def adopt (c : Context) (m : ModuleId) (v : ValueId) : Context :=
  c.mapModule m fun x => { x with values := x.values ++ [v] }

def addToModule (c : Context) (m : ModuleId) (f : ValueId) : Context :=
  c.mapModule m fun x => { x with functions := x.functions ++ [f] }

def addModule (c : Context) (path : Option Bytes) : Context :=
  { c with modules := c.modules.push { path } }

/-- A value gets a name, and a function is bound by it in its module. -/
def named (c : Context) (v : ValueId) (name : Bytes) : Context :=
  if name.isEmpty then c
  else
    let c' := { c with
      values := c.values.modify (v - 1) fun x => { x with hasName := true }
      names := c.names.insert v name }
    match c.form? v with
    | some (.function home _ _) =>
      c'.mapModule home fun m => { m with symbols := m.symbols.insert name v }
    | _ => c'

/-- A value is taken out of the table of names. -/
def withoutName (c : Context) (v : ValueId) : Context :=
  { c with
    values := c.values.modify (v - 1) fun x => { x with hasName := false }
    names := c.names.erase v }

/-- The function that a name falls to when `v` loses it. -/
def heir? (c : Context) (home : ModuleId) (v : ValueId) : Option ValueId :=
  (((c.module home).functions.filter (· ≠ v)).filter (c.name · = c.name v)).getLast?

/-- A value loses its name, if it has one, and a function that was bound by it gives way to
another. -/
def unnamed (c : Context) (v : ValueId) : Context :=
  if !c.isNamed v then c
  else match c.form? v with
    | some (.function home _ _) =>
      if !(c.name v).isEmpty && (c.module home).symbols.get? (c.name v) = some v then
        (c.withoutName v).mapModule home fun m => { m with
          symbols := match c.heir? home v with
            | some f => m.symbols.insert (c.name v) f
            | none => m.symbols.erase (c.name v) }
      else c.withoutName v
    | _ => c.withoutName v

/-- A function is made and put into the list of its module, before it is named. -/
def addListed (c : Context) (m : ModuleId) (t : Ty) : Context :=
  (((c.addSignature t).addValue (.function m c.signatures.size none)).adopt m
    c.nextValue).addToModule m c.nextValue

def addFunction (c : Context) (m : ModuleId) (result : Ty) (name : Bytes) : Context :=
  ((((c.addSignature result).addValue (.function m c.signatures.size none)).adopt m
    c.nextValue).addToModule m c.nextValue).named c.nextValue name

def addArgument (c : Context) (m : ModuleId) (type : Ty) (f : ValueId) (s : Nat) (name : Bytes) :
    Context :=
  (((c.addValue (.argument type (some f) (c.params f).length)).named c.nextValue name).addParam s
    c.nextValue).adopt m c.nextValue

def addBlock (c : Context) (m : ModuleId) (f : ValueId) (home : ModuleId) (s : Nat)
    (name : Bytes) : Context :=
  (((c.addValue (.block f [])).named c.nextValue name).mapForm f fun _ =>
    .function home s (some c.nextValue)).adopt m c.nextValue

def addToBlock (i : ValueId) : Form → Form
  | .block p is => .block p (is ++ [i])
  | form => form

def addInstruction (c : Context) (m : ModuleId) (b : ValueId) (form : Form) : Context :=
  ((c.addValue form).mapForm b (addToBlock c.nextValue)).adopt m c.nextValue

end Context

namespace Build

variable {α β : Type} (c : Context)

theorem bind_apply (x : Build α) (f : α → Build β) :
    (x >>= f) c = match x c with
      | .ok a c' => f a c'
      | .error e c' => .error e c' := by
  change EStateM.bind x f c = _
  unfold EStateM.bind
  split <;> simp_all

theorem bind_ok {x : Build α} {a : α} {c c' : Context} (h : x c = .ok a c') (f : α → Build β) :
    (x >>= f) c = f a c' := by
  rw [bind_apply, h]

theorem bind_error {x : Build α} {e : Misuse} {c c' : Context} (h : x c = .error e c')
    (f : α → Build β) : (x >>= f) c = .error e c' := by
  rw [bind_apply, h]

/-- The context stays as it was, and a name is missed only where it is missing. -/
def Refused (c : Context) (r : EStateM.Result Misuse Context α) : Prop :=
  ∃ e, r = .error e c ∧ ∀ v, e = .nameLost v → c.name? v = none

variable {c} in
theorem Refused.bind {x : Build α} (h : Refused c (x c)) (f : α → Build β) :
    Refused c ((x >>= f) c) := by
  obtain ⟨e, he, hlost⟩ := h
  exact ⟨e, bind_error he f, hlost⟩

theorem pure_apply (a : α) : (pure a : Build α) c = .ok a c := rfl

theorem get_apply : (get : Build Context) c = .ok c c := rfl

theorem modify_apply (f : Context → Context) : (modify f : Build Unit) c = .ok () (f c) := rfl

theorem adopt_apply (m : ModuleId) (v : ValueId) : Build.adopt m v c = .ok () (c.adopt m v) := rfl

theorem modifyValue_apply (v : ValueId) (g : Value → Value) :
    modifyValue v g c = .ok () { c with values := c.values.modify (v - 1) g } := rfl

theorem modifyModule_apply (m : ModuleId) (g : Module → Module) :
    modifyModule m g c = .ok () (c.mapModule m g) := rfl

theorem own_apply (v : ValueId) : Build.own (.own v) c = .ok v c := rfl

theorem ownType_apply (t : Ty) : ownType (.own t) c = .ok t c := rfl

theorem given_some {o : Option α} {a : α} (h : o = some a) (e : Misuse) :
    (given o e : Build α) c = .ok a c := by
  rw [h]
  rfl

theorem given_refused {o : Option α} (h : o = none) {e : Misuse} (he : ∀ v, e ≠ .nameLost v) :
    Refused c ((given o e : Build α) c) := by
  rw [h]
  exact ⟨e, rfl, fun v hv => absurd hv (he v)⟩

variable {c} in
theorem allocate_room (h : c.values.size < 4294967295) (form : Form) :
    allocate form c = .ok c.nextValue (c.addValue form) := by
  unfold allocate
  rw [bind_ok (get_apply c), if_neg (Nat.not_le.mpr h)]
  rfl

variable {c} in
theorem allocate_full (h : 4294967295 ≤ c.values.size) (form : Form) :
    allocate form c = .error .exhausted c := by
  unfold allocate
  rw [bind_ok (get_apply c), if_pos h]
  rfl

variable {c} in
theorem allocate_refused (h : 4294967295 ≤ c.values.size) (form : Form) :
    Refused c (allocate form c) :=
  ⟨_, allocate_full h form, nofun⟩

theorem integer_cases (width : Nat) :
    Refused c (integer width c) ∨ (1 ≤ width ∧ width ≤ 255) ∧
      integer width c = .ok (.integer width) (c.addWidth width) := by
  unfold integer
  dsimp only
  by_cases hwidth : 1 ≤ width ∧ width ≤ 255
  · rw [if_neg (not_not_intro hwidth)]
    refine .inr ⟨hwidth, ?_⟩
    unfold Context.addWidth
    by_cases hstandard : width ∈ Ty.standardWidths
    · rw [if_neg (not_not_intro hstandard), if_pos hstandard]
      rfl
    · rw [if_pos hstandard, if_neg hstandard]
      rfl
  · rw [if_pos hwidth]
    exact .inl ⟨_, rfl, nofun⟩

theorem signature_own (t : Ty) :
    signature (.own t) c = .ok c.signatures.size (c.addSignature t) := rfl

theorem nameOf_cases (v : ValueId) :
    Refused c (nameOf v c) ∨ nameOf v c = .ok (c.name v) c := by
  unfold nameOf
  rw [bind_ok (get_apply c)]
  cases hv : c.name? v with
  | none =>
    refine .inl ⟨_, rfl, ?_⟩
    rintro _ ⟨⟩
    exact hv
  | some n =>
    have hname : c.name v = n := by simp [Context.name, hv]
    exact .inr (hname ▸ given_some c rfl _)

theorem lastNamed?_cases (name : Bytes) (fs : List ValueId) :
    Refused c (lastNamed? name fs c) ∨
      lastNamed? name fs c = .ok (fs.filter (c.name · = name)).getLast? c := by
  rw [List.getLast?_filter]
  unfold lastNamed?
  induction fs.reverse with
  | nil => exact .inr rfl
  | cons f fs ih =>
    rw [List.findM?, bind_assoc]
    rcases nameOf_cases c f with hlost | hname
    · exact .inl (hlost.bind _)
    rw [bind_ok hname]
    by_cases hf : c.name f = name
    · right
      simp [hf, pure_apply]
    · simpa [hf] using ih

variable {c} in
theorem setName_dangling {v : ValueId} (hv : c.value? v = none) (name : Bytes) :
    Refused c (setName v name c) := by
  unfold setName
  rw [bind_ok (get_apply c), hv]
  exact ⟨_, rfl, nofun⟩

variable {c} in
theorem setName_named {v : ValueId} {x : Value} (hv : c.value? v = some x) (hx : x.hasName = true)
    (name : Bytes) : Refused c (setName v name c) := by
  unfold setName
  rw [bind_ok (get_apply c), hv]
  dsimp only
  rw [if_pos hx]
  rcases nameOf_cases c v with hlost | hname
  · exact hlost.bind _
  · rw [bind_ok hname]
    exact ⟨_, rfl, nofun⟩

variable {c} in
theorem setName_free {v : ValueId} {x : Value} (hv : c.value? v = some x) (hx : x.hasName = false)
    (name : Bytes) : setName v name c = .ok () (c.named v name) := by
  have hform : c.form? v = some x.form := by simp [Context.form?, hv]
  unfold setName
  rw [bind_ok (get_apply c), hv]
  dsimp only
  rw [if_neg (by simp [hx])]
  simp only [Context.named, hform]
  split
  · rfl
  · simp only [bind_apply, modifyValue, modify_apply, modifyModule]
    cases x.form <;> rfl

theorem setName_cases (v : ValueId) (name : Bytes) :
    Refused c (setName v name c) ∨ ∃ x, c.value? v = some x ∧ x.hasName = false ∧
      setName v name c = .ok () (c.named v name) := by
  cases hv : c.value? v with
  | none => exact .inl (setName_dangling hv name)
  | some x =>
    cases hx : x.hasName with
    | true => exact .inl (setName_named hv hx name)
    | false => exact .inr ⟨x, rfl, hx, setName_free hv hx name⟩

theorem dropName_apply (v : ValueId) : dropName v c = .ok () (c.withoutName v) := rfl

theorem clearName_cases (v : ValueId) :
    Refused c (clearName v c) ∨
      ∃ x, c.value? v = some x ∧ clearName v c = .ok () (c.unnamed v) := by
  unfold clearName
  rw [bind_ok (get_apply c)]
  cases hv : c.value? v with
  | none => exact .inl ⟨_, rfl, nofun⟩
  | some x =>
    have hform : c.form? v = some x.form := by simp [Context.form?, hv]
    have hnamed : c.isNamed v = x.hasName := by simp [Context.isNamed, hv]
    simp only [Context.unnamed, hform, hnamed]
    split
    · exact .inr ⟨x, rfl, rfl⟩
    cases x.form with
    | function home s body =>
      dsimp only
      rcases nameOf_cases c v with hlost | hname
      · exact .inl (hlost.bind _)
      rw [bind_ok hname]
      split
      · rcases lastNamed?_cases c (c.name v) ((c.module home).functions.filter (· ≠ v)) with
          hlost | hheir
        · exact .inl (hlost.bind _)
        · rw [bind_ok hheir, bind_ok (dropName_apply c v)]
          exact .inr ⟨x, rfl, rfl⟩
      · exact .inr ⟨x, rfl, rfl⟩
    | _ => exact .inr ⟨x, rfl, rfl⟩

/-- A value that was just made can be named. -/
theorem setName_next {c c' : Context} {form : Form} (h : c'.values = c.values.push { form })
    (name : Bytes) : setName c.nextValue name c' = .ok () (c'.named c.nextValue name) := by
  have hvalue : c'.value? c.nextValue = some { form } := by
    simp [Context.value?, Context.nextValue, h]
  exact setName_free hvalue rfl name

theorem createFunction_full (h : 4294967295 ≤ c.values.size) (m : ModuleId) (t : Ty)
    (name : Bytes) :
    createFunction m (.own t) name c = .error .exhausted (c.addSignature t) := by
  have hfull : 4294967295 ≤ (c.addSignature t).values.size := h
  unfold createFunction
  rw [bind_ok (signature_own c t)]
  exact bind_error (allocate_full hfull _) _

theorem createFunction_room (h : c.values.size < 4294967295) (m : ModuleId) (t : Ty)
    (name : Bytes) :
    createFunction m (.own t) name c = .ok c.nextValue (c.addFunction m t name) := by
  have hroom : (c.addSignature t).values.size < 4294967295 := h
  unfold createFunction
  rw [bind_ok (signature_own c t), bind_ok (allocate_room hroom _), bind_ok (adopt_apply ..),
    bind_ok (modifyModule_apply ..)]
  exact bind_ok (setName_next rfl name) _

theorem createFunction_cases (m : ModuleId) (result : TypeRef) (name : Bytes) :
    Refused c (createFunction m result name c) ∨ ∃ t, result = .own t ∧
      (createFunction m result name c = .error .exhausted (c.addSignature t) ∨
        c.values.size < 4294967295 ∧
          createFunction m result name c = .ok c.nextValue (c.addFunction m t name)) := by
  match result with
  | .own t =>
    rcases Nat.lt_or_ge c.values.size 4294967295 with hroom | hfull
    · exact .inr ⟨t, rfl, .inr ⟨hroom, createFunction_room c hroom m t name⟩⟩
    · exact .inr ⟨t, rfl, .inl (createFunction_full c hfull m t name)⟩
  | .missing => exact .inl ⟨_, rfl, nofun⟩
  | .dangling => exact .inl ⟨_, rfl, nofun⟩
  | .foreign none => exact .inl ⟨_, rfl, nofun⟩
  | .foreign (some _) => exact .inl ⟨_, rfl, nofun⟩

/-- Neither a check that fails nor the want of a number changes anything. -/
theorem createArgument_own (m : ModuleId) (t : Ty) (f : ValueId) (name : Bytes) :
    Refused c (createArgument m (.own t) (.own f) name c) ∨
      ∃ home s body, c.form? f = some (.function home s body) ∧ c.values.size < 4294967295 ∧
        createArgument m (.own t) (.own f) name c =
          .ok c.nextValue (c.addArgument m t f s name) := by
  unfold createArgument
  rw [if_neg (by simp [Ref.isNone])]
  dsimp only
  rw [bind_ok (own_apply c f), bind_ok (ownType_apply c t), bind_ok (get_apply c)]
  cases hf : c.form? f with
  | none => exact .inl ((given_refused c rfl (by simp)).bind _)
  | some form =>
    rw [bind_ok (given_some c rfl _)]
    cases form with
    | function home s body =>
      dsimp only
      rw [bind_ok (get_apply c)]
      rcases Nat.lt_or_ge c.values.size 4294967295 with hroom | hfull
      · rw [bind_ok (allocate_room hroom _), bind_ok (setName_next rfl name),
          bind_ok (modify_apply ..), bind_ok (adopt_apply ..)]
        exact .inr ⟨home, s, body, rfl, hroom, rfl⟩
      · exact .inl ((allocate_refused hfull _).bind _)
    | _ => exact .inl ⟨_, rfl, nofun⟩

theorem createArgument_cases (m : ModuleId) (type : TypeRef) (fn : ValueRef) (name : Bytes) :
    Refused c (createArgument m type fn name c) ∨
      ∃ t f home s body, type = .own t ∧ fn = .own f ∧ c.form? f = some (.function home s body) ∧
        c.values.size < 4294967295 ∧
        createArgument m type fn name c = .ok c.nextValue (c.addArgument m t f s name) := by
  match fn, type with
  | .own f, .own t =>
    rcases createArgument_own c m t f name with hrefused | ⟨home, s, body, hf, hroom, hok⟩
    · exact .inl hrefused
    · exact .inr ⟨t, f, home, s, body, rfl, rfl, hf, hroom, hok⟩
  | .missing, _ => exact .inl ⟨_, rfl, nofun⟩
  | .dangling, _ => exact .inl ⟨_, rfl, nofun⟩
  | .foreign _, _ => exact .inl ⟨_, rfl, nofun⟩
  | .own _, .missing => exact .inl ⟨_, rfl, nofun⟩
  | .own _, .dangling => exact .inl ⟨_, rfl, nofun⟩
  | .own _, .foreign none => exact .inl ⟨_, rfl, nofun⟩
  | .own _, .foreign (some _) => exact .inl ⟨_, rfl, nofun⟩

theorem createBlock_own (m : ModuleId) (name : Bytes) (f : ValueId) :
    Refused c (createBlock m (.own ()) name (.own f) c) ∨
      ∃ home s, c.form? f = some (.function home s none) ∧ c.values.size < 4294967295 ∧
        createBlock m (.own ()) name (.own f) c =
          .ok c.nextValue (c.addBlock m f home s name) := by
  unfold createBlock
  dsimp only
  rw [if_neg (by simp [Ref.isNone]), bind_ok (own_apply c f), bind_ok (get_apply c)]
  cases hf : c.form? f with
  | none => exact .inl ((given_refused c rfl (by simp)).bind _)
  | some form =>
    rw [bind_ok (given_some c rfl _)]
    match form with
    | .function home s (some b) =>
      dsimp only
      rw [if_pos (by simp)]
      rcases nameOf_cases c f with hlost | hname
      · exact .inl (hlost.bind _)
      · rw [bind_ok hname]
        exact .inl ⟨_, rfl, nofun⟩
    | .function home s none =>
      dsimp only
      rw [if_neg (by simp)]
      rcases Nat.lt_or_ge c.values.size 4294967295 with hroom | hfull
      · rw [bind_ok (allocate_room hroom _), bind_ok (setName_next rfl name),
          bind_ok (modifyValue_apply ..), bind_ok (adopt_apply ..)]
        exact .inr ⟨home, s, rfl, hroom, rfl⟩
      · exact .inl ((allocate_refused hfull _).bind _)
    | .argument .. => exact .inl ⟨_, rfl, nofun⟩
    | .block .. => exact .inl ⟨_, rfl, nofun⟩
    | .binary .. => exact .inl ⟨_, rfl, nofun⟩
    | .ret .. => exact .inl ⟨_, rfl, nofun⟩

theorem createBlock_cases (m : ModuleId) (context : ContextRef) (name : Bytes) (fn : ValueRef) :
    Refused c (createBlock m context name fn c) ∨
      ∃ f home s, context = .own () ∧ fn = .own f ∧ c.form? f = some (.function home s none) ∧
        c.values.size < 4294967295 ∧
        createBlock m context name fn c = .ok c.nextValue (c.addBlock m f home s name) := by
  match context, fn with
  | .own (), .own f =>
    rcases createBlock_own c m name f with hrefused | ⟨home, s, hf, hroom, hok⟩
    · exact .inl hrefused
    · exact .inr ⟨f, home, s, rfl, rfl, hf, hroom, hok⟩
  | .missing, _ => exact .inl ⟨_, rfl, nofun⟩
  | .dangling, _ => exact .inl ⟨_, rfl, nofun⟩
  | .foreign _, _ => exact .inl ⟨_, rfl, nofun⟩
  | .own _, .missing => exact .inl ⟨_, rfl, nofun⟩
  | .own _, .dangling => exact .inl ⟨_, rfl, nofun⟩
  | .own _, .foreign _ => exact .inl ⟨_, rfl, nofun⟩

theorem append_cases (m : ModuleId) (b : ValueId) (form : Form) :
    Refused c (append m b form c) ∨ c.values.size < 4294967295 ∧
      append m b form c = .ok c.nextValue (c.addInstruction m b form) := by
  unfold append
  rcases Nat.lt_or_ge c.values.size 4294967295 with hroom | hfull
  · refine .inr ⟨hroom, ?_⟩
    rw [bind_ok (allocate_room hroom _), bind_ok (modifyValue_apply ..), bind_ok (adopt_apply ..)]
    unfold Context.addInstruction Context.mapForm
    rw [pure_apply]
    congr 4
    funext x
    obtain ⟨form, hasName⟩ := x
    cases form <;> rfl
  · exact .inl ((allocate_refused hfull _).bind _)

theorem createBinary_cases (m : ModuleId) (code : Nat) (l r b : ValueId) :
    Refused c (createBinary m code (.own l) (.own r) (.own b) c) ∨
      ∃ op t p is, BinaryOp.ofCode? code = some op ∧ c.type? l = some t ∧ c.type? r = some t ∧
        c.form? b = some (.block p is) ∧ createBinary m code (.own l) (.own r) (.own b) c =
          append m b (.binary op t l r b) c := by
  unfold createBinary
  rw [if_neg (by simp)]
  dsimp only
  rw [if_neg (by simp [Ref.isNone])]
  cases hop : BinaryOp.ofCode? code with
  | none => exact .inl ((given_refused c rfl (by simp)).bind _)
  | some op =>
    rw [bind_ok (given_some c rfl _), bind_ok (own_apply c l), bind_ok (own_apply c r),
      bind_ok (own_apply c b), bind_ok (get_apply c)]
    cases hb : c.form? b with
    | none => exact .inl ((given_refused c rfl (by simp)).bind _)
    | some form =>
      rw [bind_ok (given_some c rfl _)]
      cases form with
      | block p is =>
        dsimp only
        cases hl : c.type? l with
        | none => exact .inl ((given_refused c rfl (by simp)).bind _)
        | some lt =>
          rw [bind_ok (given_some c rfl _)]
          cases hr : c.type? r with
          | none => exact .inl ((given_refused c rfl (by simp)).bind _)
          | some rt =>
            rw [bind_ok (given_some c rfl _)]
            by_cases htypes : lt = rt
            · rw [if_neg (by simp [htypes])]
              exact .inr ⟨op, lt, p, is, rfl, rfl, by rw [htypes], rfl, rfl⟩
            · rw [if_pos htypes]
              cases c.typeText? lt <;> cases c.typeText? rt <;> exact .inl ⟨_, rfl, nofun⟩
      | _ => exact .inl ⟨_, rfl, nofun⟩

theorem own_cases (v : ValueRef) : Refused c (Build.own v c) ∨ ∃ a, v = .own a := by
  cases v with
  | own a => exact .inr ⟨a, rfl⟩
  | _ => exact .inl ⟨_, rfl, nofun⟩

theorem createBinary_refused {lhs rhs into : ValueRef}
    (h : ∀ l r b, ¬ (lhs = .own l ∧ rhs = .own r ∧ into = .own b)) (m : ModuleId) (code : Nat) :
    Refused c (createBinary m code lhs rhs into c) := by
  unfold createBinary
  split
  · exact ⟨_, rfl, nofun⟩
  dsimp only
  split
  · exact ⟨_, rfl, nofun⟩
  cases hop : BinaryOp.ofCode? code with
  | none => exact (given_refused c rfl (by simp)).bind _
  | some op =>
    rw [bind_ok (given_some c rfl _)]
    rcases own_cases c lhs with hl | ⟨l, rfl⟩
    · exact hl.bind _
    rw [bind_ok (own_apply c l)]
    rcases own_cases c rhs with hr | ⟨r, rfl⟩
    · exact hr.bind _
    rw [bind_ok (own_apply c r)]
    rcases own_cases c into with hb | ⟨b, rfl⟩
    · exact hb.bind _
    · exact absurd ⟨rfl, rfl, rfl⟩ (h l r b)

theorem createReturn_cases (m : ModuleId) (v : Option ValueId) (b : ValueId) :
    Refused c (createReturn m (.ofOption v) (.own b) c) ∨
      ∃ p is, c.form? b = some (.block p is) ∧
        createReturn m (.ofOption v) (.own b) c = append m b (.ret v b) c := by
  have hread : createReturn m (.ofOption v) (.own b) c =
      (given (c.form? b) .dangling >>= fun
        | .block .. => append m b (.ret v b)
        | _ => throw .dangling) c := by
    cases v <;> rfl
  rw [hread]
  cases hb : c.form? b with
  | none => exact .inl ((given_refused c rfl (by simp)).bind _)
  | some form =>
    rw [bind_ok (given_some c rfl _)]
    cases form with
    | block p is => exact .inr ⟨p, is, rfl, rfl⟩
    | _ => exact .inl ⟨_, rfl, nofun⟩

end Build

/-- A call on a context, with what the caller hands over. -/
inductive Call where
  | primitive (kind : Nat)
  | integer (width : Nat)
  | signature (result : TypeRef)
  | module (path : Option Bytes)
  | function (m : ModuleId) (result : TypeRef) (name : Bytes)
  | argument (m : ModuleId) (type : TypeRef) (fn : ValueRef) (name : Bytes)
  | block (m : ModuleId) (context : ContextRef) (name : Bytes) (fn : ValueRef)
  | binary (m : ModuleId) (code : Nat) (lhs rhs into : ValueRef)
  | ret (m : ModuleId) (value into : ValueRef)
  | setName (v : ValueId) (name : Bytes)
  | clearName (v : ValueId)
  deriving DecidableEq, Repr

namespace Call

def perform : Call → Build Unit
  | .primitive kind => discard (Build.primitive kind)
  | .integer width => discard (Build.integer width)
  | .signature result => discard (Build.signature result)
  | .module path => discard (Build.newModule path)
  | .function m result name => discard (Build.createFunction m result name)
  | .argument m type fn name => discard (Build.createArgument m type fn name)
  | .block m context name fn => discard (Build.createBlock m context name fn)
  | .binary m code lhs rhs into => discard (Build.createBinary m code lhs rhs into)
  | .ret m value into => discard (Build.createReturn m value into)
  | .setName v name => Build.setName v name
  | .clearName v => Build.clearName v

/-- All that a call can come to in a context. -/
inductive Effect (c : Context) : Call → EStateM.Result Misuse Context Unit → Prop
  | refused (call : Call) (e : Misuse) (hlost : ∀ v, e = .nameLost v → c.name? v = none) :
      Effect c call (.error e c)
  | primitive (kind : Nat) : Effect c (.primitive kind) (.ok () c)
  | integer {width : Nat} (hwidth : 1 ≤ width ∧ width ≤ 255) :
      Effect c (.integer width) (.ok () (c.addWidth width))
  | signature (t : Ty) : Effect c (.signature (.own t)) (.ok () (c.addSignature t))
  | module (path : Option Bytes) : Effect c (.module path) (.ok () (c.addModule path))
  /-- There is no number left for the function. -/
  | exhausted (m : ModuleId) (t : Ty) (name : Bytes) :
      Effect c (.function m (.own t) name) (.error .exhausted (c.addSignature t))
  | function (m : ModuleId) (t : Ty) (name : Bytes) (hroom : c.values.size < 4294967295) :
      Effect c (.function m (.own t) name) (.ok () (c.addFunction m t name))
  | argument (m : ModuleId) (t : Ty) (name : Bytes) {f : ValueId} {home : ModuleId} {s : Nat}
      {body : Option ValueId} (hf : c.form? f = some (.function home s body))
      (hroom : c.values.size < 4294967295) :
      Effect c (.argument m (.own t) (.own f) name) (.ok () (c.addArgument m t f s name))
  | block (m : ModuleId) (name : Bytes) {f : ValueId} {home : ModuleId} {s : Nat}
      (hf : c.form? f = some (.function home s none)) (hroom : c.values.size < 4294967295) :
      Effect c (.block m (.own ()) name (.own f)) (.ok () (c.addBlock m f home s name))
  | binary (m : ModuleId) {code : Nat} {op : BinaryOp} {t : Ty} {l r b p : ValueId}
      {is : List ValueId} (hop : BinaryOp.ofCode? code = some op) (hl : c.type? l = some t)
      (hr : c.type? r = some t) (hb : c.form? b = some (.block p is))
      (hroom : c.values.size < 4294967295) :
      Effect c (.binary m code (.own l) (.own r) (.own b))
        (.ok () (c.addInstruction m b (.binary op t l r b)))
  | ret (m : ModuleId) (v : Option ValueId) {b p : ValueId} {is : List ValueId}
      (hb : c.form? b = some (.block p is)) (hroom : c.values.size < 4294967295) :
      Effect c (.ret m (.ofOption v) (.own b)) (.ok () (c.addInstruction m b (.ret v b)))
  | setName (name : Bytes) {v : ValueId} {x : Value} (hv : c.value? v = some x)
      (hfree : x.hasName = false) : Effect c (.setName v name) (.ok () (c.named v name))
  | clearName {v : ValueId} {x : Value} (hv : c.value? v = some x) :
      Effect c (.clearName v) (.ok () (c.unnamed v))

open Build

variable (c : Context)

theorem discard_apply {α : Type} (x : Build α) :
    (discard x : Build Unit) c = match x c with
      | .ok _ c' => .ok () c'
      | .error e c' => .error e c' := by
  change EStateM.map _ x c = _
  unfold EStateM.map
  split <;> simp_all

theorem effect_of_refused {call : Call} {α : Type} {x : Build α} (h : Refused c (x c)) :
    Effect c call ((discard x : Build Unit) c) := by
  obtain ⟨e, he, hlost⟩ := h
  rw [discard_apply, he]
  exact .refused call e hlost

theorem primitive_effect (kind : Nat) :
    Effect c (.primitive kind) ((discard (Build.primitive kind) : Build Unit) c) := by
  unfold Build.primitive
  cases TypeKind.primitiveOfCode? kind with
  | none => exact .refused _ _ nofun
  | some p => exact .primitive kind

theorem integer_effect (width : Nat) :
    Effect c (.integer width) ((discard (Build.integer width) : Build Unit) c) := by
  rcases integer_cases c width with hrefused | ⟨hwidth, hok⟩
  · exact effect_of_refused c hrefused
  · rw [discard_apply, hok]
    exact .integer hwidth

theorem signature_effect (result : TypeRef) :
    Effect c (.signature result) ((discard (Build.signature result) : Build Unit) c) := by
  match result with
  | .own t => exact .signature t
  | .missing => exact .refused _ _ nofun
  | .dangling => exact .refused _ _ nofun
  | .foreign none => exact .refused _ _ nofun
  | .foreign (some _) => exact .refused _ _ nofun

theorem function_effect (m : ModuleId) (result : TypeRef) (name : Bytes) :
    Effect c (.function m result name)
      ((discard (createFunction m result name) : Build Unit) c) := by
  rcases createFunction_cases c m result name with hrefused | ⟨t, rfl, hfull | ⟨hroom, hok⟩⟩
  · exact effect_of_refused c hrefused
  · rw [discard_apply, hfull]
    exact .exhausted m t name
  · rw [discard_apply, hok]
    exact .function m t name hroom

theorem argument_effect (m : ModuleId) (type : TypeRef) (fn : ValueRef) (name : Bytes) :
    Effect c (.argument m type fn name)
      ((discard (createArgument m type fn name) : Build Unit) c) := by
  rcases createArgument_cases c m type fn name with
    hrefused | ⟨t, f, home, s, body, rfl, rfl, hf, hroom, hok⟩
  · exact effect_of_refused c hrefused
  · rw [discard_apply, hok]
    exact .argument m t name hf hroom

theorem block_effect (m : ModuleId) (context : ContextRef) (name : Bytes) (fn : ValueRef) :
    Effect c (.block m context name fn)
      ((discard (createBlock m context name fn) : Build Unit) c) := by
  rcases createBlock_cases c m context name fn with
    hrefused | ⟨f, home, s, rfl, rfl, hf, hroom, hok⟩
  · exact effect_of_refused c hrefused
  · rw [discard_apply, hok]
    exact .block m name hf hroom

/-- Putting an instruction into its block is the last thing that can fail. -/
theorem append_effect {call : Call} {m : ModuleId} {b : ValueId} {form : Form} {x : Build ValueId}
    (hx : x c = append m b form c)
    (hok : c.values.size < 4294967295 → Effect c call (.ok () (c.addInstruction m b form))) :
    Effect c call ((discard x : Build Unit) c) := by
  rcases append_cases c m b form with herror | ⟨hroom, happend⟩
  · exact effect_of_refused c (hx ▸ herror)
  · rw [discard_apply, hx, happend]
    exact hok hroom

theorem binary_effect (m : ModuleId) (code : Nat) (lhs rhs into : ValueRef) :
    Effect c (.binary m code lhs rhs into)
      ((discard (createBinary m code lhs rhs into) : Build Unit) c) := by
  by_cases hown : ∃ l r b, lhs = .own l ∧ rhs = .own r ∧ into = .own b
  · obtain ⟨l, r, b, rfl, rfl, rfl⟩ := hown
    rcases createBinary_cases c m code l r b with herror | ⟨op, t, p, is, hop, hl, hr, hb, hok⟩
    · exact effect_of_refused c herror
    · exact append_effect c hok (.binary m hop hl hr hb)
  · apply effect_of_refused
    apply createBinary_refused
    intro l r b h
    exact hown ⟨l, r, b, h⟩

theorem ret_effect (m : ModuleId) (value into : ValueRef) :
    Effect c (.ret m value into) ((discard (createReturn m value into) : Build Unit) c) := by
  have hok : ∀ (v : Option ValueId) (b : ValueId), Effect c (.ret m (.ofOption v) (.own b))
      ((discard (createReturn m (.ofOption v) (.own b)) : Build Unit) c) := by
    intro v b
    rcases createReturn_cases c m v b with herror | ⟨p, is, hb, hok⟩
    · exact effect_of_refused c herror
    · exact append_effect c hok (.ret m v hb)
  match value, into with
  | .own v, .own b => exact hok (some v) b
  | .missing, .own b => exact hok none b
  | .dangling, .own _ => exact .refused _ _ nofun
  | .foreign _, .own _ => exact .refused _ _ nofun
  | _, .missing => exact .refused _ _ nofun
  | _, .dangling => exact .refused _ _ nofun
  | .missing, .foreign _ => exact .refused _ _ nofun
  | .dangling, .foreign _ => exact .refused _ _ nofun
  | .own _, .foreign _ => exact .refused _ _ nofun
  | .foreign _, .foreign _ => exact .refused _ _ nofun

theorem setName_effect (v : ValueId) (name : Bytes) :
    Effect c (.setName v name) (Build.setName v name c) := by
  rcases setName_cases c v name with ⟨e, he, hlost⟩ | ⟨x, hv, hfree, hok⟩
  · exact he ▸ .refused _ e hlost
  · exact hok ▸ .setName name hv hfree

theorem clearName_effect (v : ValueId) : Effect c (.clearName v) (Build.clearName v c) := by
  rcases clearName_cases c v with ⟨e, he, hlost⟩ | ⟨x, hv, hok⟩
  · exact he ▸ .refused _ e hlost
  · exact hok ▸ .clearName hv

/-- A call comes to what it can come to. -/
theorem perform_effect (call : Call) : Effect c call (call.perform c) := by
  cases call with
  | primitive kind => exact primitive_effect c kind
  | integer width => exact integer_effect c width
  | signature result => exact signature_effect c result
  | module path => exact .module path
  | function m result name => exact function_effect c m result name
  | argument m type fn name => exact argument_effect c m type fn name
  | block m context name fn => exact block_effect c m context name fn
  | binary m code lhs rhs into => exact binary_effect c m code lhs rhs into
  | ret m value into => exact ret_effect c m value into
  | setName v name => exact setName_effect c v name
  | clearName v => exact clearName_effect c v

end Call

end FrontEnd.Ir
