import FrontEnd.Proofs.Ir.Loops
import FrontEnd.Proofs.Ir.Structure

/-!
The listing and the snapshot of a module say the same. A snapshot can be written out on its own,
with nothing of the context at hand, but for one thing: it does not tell the type of a value that a
function returns. Where every type has a text, what is written so is the listing.
-/
namespace FrontEnd.Ir

/-- A line of code; `returned` is the type of the value that goes back to the caller. -/
def InstSnapshot.render (returned : Bytes) (i : InstSnapshot) : Bytes :=
  if i.op = InstKind.ret.name then
    match i.operands with
    | [] => "ret void"
    | v :: _ => "ret " ++ returned ++ " " ++ v
  else i.result ++ " = " ++ i.op ++ " " ++ i.type ++ " " ++ Bytes.join ", " i.operands

/-- The label without its sigil, and the lines below it; `returned` goes by their places. -/
def BlockSnapshot.render (returned : Nat → Bytes) (b : BlockSnapshot) : Bytes :=
  let lines := (b.instructions.getD []).zipIdx.map fun (i, n) => i.render (returned n)
  b.label.drop 1 ++ ":\n" ++ (lines.map fun l => Bytes.ofString "  " ++ l ++ "\n").flatten

def ArgSnapshot.render (a : ArgSnapshot) : Bytes := a.type ++ " " ++ a.name

namespace FunctionSnapshot

/-- What a signature ends in: the types of the arguments, in parentheses. -/
def paramList (f : FunctionSnapshot) : Bytes :=
  " (" ++ Bytes.join ", " (f.args.map ArgSnapshot.type) ++ ")"

/-- The signature without its parameter list. -/
def result (f : FunctionSnapshot) : Bytes :=
  f.signature.take (f.signature.length - f.paramList.length)

theorem result_eq {f : FunctionSnapshot} {r : Bytes} (h : f.signature = r ++ f.paramList) :
    f.result = r := by
  simp [result, h]

def head (f : FunctionSnapshot) (keyword : Bytes) : Bytes :=
  keyword ++ " " ++ f.result ++ " " ++ f.name ++ "("
    ++ Bytes.join ", " (f.args.map ArgSnapshot.render) ++ ")"

/-- A definition when there is a body, and a declaration when there is none. -/
def render (returned : Nat → Bytes) (f : FunctionSnapshot) : Bytes :=
  match f.body with
  | none => f.head "declare" ++ "\n"
  | some b => f.head "define" ++ " \x7b\n" ++ b.render returned ++ "\x7d\n"

end FunctionSnapshot

/-- The functions in order, a blank line between them; `returned` goes by the place of the function
and that of the line. -/
def Snapshot.render (returned : Nat → Nat → Bytes) (s : Snapshot) : Bytes :=
  Bytes.join "\n" ((s.functions.getD []).zipIdx.map fun (f, n) => f.render (returned n))

theorem BinaryOp.name_ne_ret (op : BinaryOp) : op.name ≠ InstKind.ret.name := by
  cases op <;> decide

section Places

variable {α β γ : Type} {f : α → Option β} {g : α → Option γ} {xs : List α} {ys : List β}

/-- A second reading of a list is found from the first one, place by place. -/
theorem mapM_eq_some_zipIdx (h : xs.mapM f = some ys) {k : β × Nat → γ}
    (hk : ∀ n x y, xs[n]? = some x → f x = some y → g x = some (k (y, n))) :
    xs.mapM g = some (ys.zipIdx.map k) := by
  have hall := mapM_eq_some_iff.mp h
  rw [mapM_eq_some_iff, List.forall₂_iff_get]
  have hlength : xs.length = ys.length := hall.length_eq
  refine ⟨by simpa using hlength, ?_⟩
  intro n hx hy
  have hxy := (List.forall₂_iff_get.mp hall).2 n hx (hlength ▸ hx)
  simpa using hk n _ _ (List.getElem?_eq_getElem hx) hxy

end Places

namespace Context

/-- The type of the value that an instruction returns. -/
def returnedType? (c : Context) (i : ValueId) : Option Bytes :=
  match c.form? i with
  | some (.ret (some v) _) => (c.type? v).bind c.typeText?
  | _ => none

/-- The type of the value that a line of a function returns; empty when it returns none. -/
def returnedIn (c : Context) (f : ValueId) (n : Nat) : Bytes :=
  ((c.body? f).bind fun b => (c.instructions b)[n]?.bind c.returnedType?).getD []

/-- The same for the function at a place of a module. -/
def returned (c : Context) (m : ModuleId) (k n : Nat) : Bytes :=
  ((c.module m).functions[k]?.map fun f => c.returnedIn f n).getD []

/-- A type of the functions of a module, of their instructions or of what these use. -/
def TypeIn (c : Context) (m : ModuleId) (t : Ty) : Prop :=
  ∃ f ∈ (c.module m).functions, c.type? f = some t ∨
    ∃ b, c.body? f = some b ∧ ∃ i ∈ c.instructions b,
      c.type? i = some t ∨ ∃ o, c.Uses i o ∧ c.type? o = some t

variable {c : Context} {m : ModuleId}

theorem instructionText?_eq_render (h : c.Built) {f i : ValueId} {line : InstSnapshot}
    (hline : c.instructionSnapshot? m f i = some line) {returned : Bytes}
    (hreturned : ∀ v p, c.form? i = some (.ret (some v) p) → c.returnedType? i = some returned) :
    c.instructionText? m f i = some (line.render returned) := by
  simp only [instructionSnapshot?, Option.bind_eq_bind, Option.bind_eq_some_iff] at hline
  obtain ⟨form, hform, type, htype, hline⟩ := hline
  cases form with
  | binary op t l r p =>
    cases hline
    -- the listing has the type of the left side, the snapshot that of the result
    have hl : c.type? l = some t := (h.type?_of_binary hform).2.1
    have htext : c.typeText? t = some type := htype
    simp [instructionText?, hform, typed?, hl, htext, InstSnapshot.render, op.name_ne_ret,
      Form.isReturn, Form.operands, Bytes.join]
  | ret v p =>
    cases hline
    cases v with
    | none => simp [instructionText?, hform, InstSnapshot.render, Form.operands]
    | some v =>
      have htext := hreturned v p hform
      simp only [returnedType?, hform, Option.bind_eq_some_iff] at htext
      obtain ⟨t, ht, htext⟩ := htext
      simp [instructionText?, hform, typed?, ht, htext, InstSnapshot.render, Form.operands]
  | _ => cases hline

/-- Each argument is told by the text of its type and by its spelling. -/
theorem forall₂_of_args {f : ValueId} {args : List ArgSnapshot}
    (hargs : (c.params f).zipIdx.mapM (fun (a, i) => do
      let type ← c.typeText? (← c.type? a)
      return ({ index := i, name := c.spell m f a, type } : ArgSnapshot)) = some args) :
    List.Forall₂ (fun a arg => ∃ t, c.type? a = some t ∧
      c.typeText? t = some arg.type ∧ arg.name = c.spell m f a) (c.params f) args := by
  have hplaces := mapM_eq_some_iff.mp hargs
  rw [← List.zipIdx_map_fst 0 (c.params f), List.forall₂_map_left_iff]
  refine hplaces.imp ?_
  rintro ⟨a, i⟩ arg harg
  simp only [Option.bind_eq_bind, Option.bind_eq_some_iff, Option.pure_def,
    Option.some.injEq] at harg
  obtain ⟨t, ht, type, htype, rfl⟩ := harg
  exact ⟨t, ht, htype, rfl⟩

/-- The types of the arguments stand in the signature, and the arguments behind them in the head. -/
theorem args_of_snapshot {f : ValueId} {args : List ArgSnapshot}
    (hall : List.Forall₂ (fun a arg => ∃ t, c.type? a = some t ∧
      c.typeText? t = some arg.type ∧ arg.name = c.spell m f a) (c.params f) args) :
    (c.params f).mapM (fun a => (c.type? a).bind c.typeText?) = some (args.map ArgSnapshot.type) ∧
      (c.params f).mapM (c.typed? m f) = some (args.map ArgSnapshot.render) := by
  constructor
  · rw [mapM_eq_some_iff, List.forall₂_map_right_iff]
    refine hall.imp ?_
    rintro a arg ⟨t, ht, htype, -⟩
    rw [ht, Option.bind_some, htype]
  · rw [mapM_eq_some_iff, List.forall₂_map_right_iff]
    refine hall.imp ?_
    rintro a arg ⟨t, ht, htype, hname⟩
    simp [typed?, ht, htype, hname, ArgSnapshot.render]

/-- What a line of a function returns has a type with a text. -/
def Returns (c : Context) (f : ValueId) : Prop :=
  ∀ b i v p, c.body? f = some b → i ∈ c.instructions b → c.form? i = some (.ret (some v) p) →
    (c.returnedType? i).isSome = true

theorem lines_of_snapshot (h : c.Built) {f b : ValueId} (hb : c.body? f = some b)
    (hreturns : c.Returns f) {lines : List InstSnapshot}
    (hlines : (c.instructions b).mapM (c.instructionSnapshot? m f) = some lines) :
    (c.instructions b).mapM (c.instructionText? m f) =
      some (lines.zipIdx.map fun (i, n) => i.render (c.returnedIn f n)) := by
  apply mapM_eq_some_zipIdx hlines
  intro n i line hi hline
  apply instructionText?_eq_render h hline
  intro v p hform
  obtain ⟨type, htype⟩ :=
    Option.isSome_iff_exists.mp (hreturns b i v p hb (List.mem_of_getElem? hi) hform)
  simp [returnedIn, hb, hi, htype]

/-- A function is listed as its snapshot is written out, and its signature ends in its parameter
list. -/
theorem functionText?_eq_render (h : c.Built) {f : ValueId} (hf : c.kind? f = some .function)
    (hreturns : c.Returns f) {snap : FunctionSnapshot}
    (hsnap : c.functionSnapshot? m f = some snap) :
    c.functionText? m f = some (snap.render (c.returnedIn f)) ∧
      snap.paramList <:+ snap.signature := by
  simp only [functionSnapshot?, Option.bind_eq_bind, Option.bind_eq_some_iff, Option.pure_def,
    Option.some.injEq] at hsnap
  obtain ⟨t, ht, signature, hsignature, args, hargs, body, hbody, rfl⟩ := hsnap
  obtain ⟨htypes, hparams⟩ := args_of_snapshot (forall₂_of_args hargs)
  obtain ⟨form, hform, hkind⟩ := Option.map_eq_some_iff.mp hf
  cases form with
  | function home s block =>
    have htype : c.type? f = some (.function s) := by simp [type?, hform, Form.type]
    cases ht.symm.trans htype
    obtain ⟨sig, result, texts, hs, hresult, htexts, rfl⟩ := typeText?_function hsignature
    have hsig : c.signatureOf? f = some sig := by simp only [signatureOf?, hform, hs]
    have hparams' : c.params f = sig.params := by simp [params, hsig]
    rw [hparams'] at htypes hparams
    cases htexts.symm.trans htypes
    refine ⟨?_, result, by simp [FunctionSnapshot.paramList]⟩
    have hhead : ∀ body, FunctionSnapshot.result ⟨c.spell m f f,
        result ++ " (" ++ Bytes.join ", " (args.map ArgSnapshot.type) ++ ")", args, body⟩ =
          result :=
      fun body => FunctionSnapshot.result_eq (by simp [FunctionSnapshot.paramList])
    cases hb : c.body? f with
    | none =>
      rw [hb] at hbody
      cases hbody
      simp only [functionText?, hsig, hresult, hparams, hb, FunctionSnapshot.render,
        FunctionSnapshot.head, hhead, Option.bind_eq_bind, Option.bind_some, Option.pure_def]
    | some b =>
      simp only [hb, Option.mapM_some, blockSnapshot?, Option.bind_eq_bind, Option.bind_eq_some_iff,
        Option.map_eq_map, Option.map_eq_some_iff] at hbody
      obtain ⟨block, ⟨lines, hlines, ⟨⟩⟩, rfl⟩ := hbody
      have htexts := lines_of_snapshot h hb hreturns hlines
      simp only [functionText?, hsig, hresult, hparams, hb, htexts, FunctionSnapshot.render,
        FunctionSnapshot.head, hhead, BlockSnapshot.render, Option.bind_eq_bind, Option.bind_some,
        Option.pure_def, Option.getD_some]
      simp only [List.append_assoc]
  | _ => cases hkind

/-- A module is listed as its snapshot is written out. -/
theorem listing?_eq_render (h : c.Built) (hreturns : ∀ f ∈ (c.module m).functions, c.Returns f)
    {s : Snapshot} (hs : c.snapshot? m = some s) :
    c.listing? m = some (s.render (c.returned m)) ∧
      ∀ fs, s.functions = some fs → ∀ f ∈ fs, f.paramList <:+ f.signature := by
  simp only [snapshot?, Option.bind_eq_bind, Option.bind_eq_some_iff, Option.pure_def,
    Option.some.injEq] at hs
  obtain ⟨snaps, hsnaps, rfl⟩ := hs
  have hfunction : ∀ f snap, f ∈ (c.module m).functions → c.functionSnapshot? m f = some snap → _ :=
    fun f snap hf hsnap =>
      functionText?_eq_render h (h.sound.functions m f hf) (hreturns f hf) hsnap
  constructor
  · have htexts : (c.module m).functions.mapM (c.functionText? m) =
        some (snaps.zipIdx.map fun (f, n) => f.render (c.returned m n)) := by
      apply mapM_eq_some_zipIdx hsnaps
      intro n f snap hf hsnap
      have hreturned : c.returned m n = c.returnedIn f := by
        funext k
        simp [returned, hf]
      simpa only [hreturned] using (hfunction f snap (List.mem_of_getElem? hf) hsnap).1
    simp [listing?, htexts, Snapshot.render]
  · rintro _ ⟨⟩ snap hsnap
    obtain ⟨f, hf, hsnap⟩ :=
      exists_of_mem_forall₂ (mapM_eq_some_iff.mp hsnaps).flip hsnap
    exact (hfunction f snap hf hsnap).2

/-- A module is listed, and so is its snapshot, when none of its types is met inside itself. -/
theorem Built.exists_listing (h : c.Built)
    (hfinite : ∀ t, c.TypeIn m t → ∀ s, c.Reaches t s → ¬ c.Loops s) :
    ∃ s, c.snapshot? m = some s ∧ c.listing? m = some (s.render (c.returned m)) ∧
      ∀ fs, s.functions = some fs → ∀ f ∈ fs, f.paramList <:+ f.signature := by
  have htext : ∀ v t, c.TypeIn m t → c.type? v = some t → (c.typeText? t).isSome = true := by
    intro v t hin ht
    obtain ⟨form, hform, rfl⟩ := Option.map_eq_some_iff.mp ht
    exact (h.sound.typeText?_isSome_iff (h.sound.forms v form hform).type).mpr (hfinite _ hin)
  have hreturns : ∀ f ∈ (c.module m).functions, c.Returns f := by
    intro f hf b i v p hb hi hform
    have hused : c.Uses i v := ⟨_, hform, by simp [Form.operands]⟩
    obtain ⟨t, ht, -⟩ :=
      h.sound.exists_type? ((h.sound.forms i _ hform).operands v (by simp [Form.operands]))
    simpa [returnedType?, hform, ht] using
      htext v t ⟨f, hf, .inr ⟨b, hb, i, hi, .inr ⟨v, hused, ht⟩⟩⟩ ht
  obtain ⟨snaps, hsnaps⟩ := Option.isSome_iff_exists.mp (isSome_mapM fun f hf =>
    functionSnapshot?_isSome h.sound m (h.sound.functions m f hf)
      (fun t ht => htext f t ⟨f, hf, .inl ht⟩ ht)
      (fun b hb i hi t ht => htext i t ⟨f, hf, .inr ⟨b, hb, i, hi, .inl ht⟩⟩ ht))
  have hsnapshot : c.snapshot? m = some ⟨(c.module m).path.getD [], some snaps⟩ := by
    simp [snapshot?, hsnaps]
  exact ⟨_, hsnapshot, listing?_eq_render h hreturns hsnapshot⟩

end Context

namespace Call

/-- Whatever code was made, a module whose types do not contain themselves has a snapshot, and its
listing is that snapshot written out; only what functions return has to be told. -/
theorem run_listing_eq_render (calls : List Call) (hg : GrantedAll {} calls) (m : ModuleId)
    (hfinite : ∀ t, (run {} calls).TypeIn m t →
      ∀ s, (run {} calls).Reaches t s → ¬ (run {} calls).Loops s) :
    let c := run {} calls
    ∃ s, c.snapshot? m = some s ∧ c.listing? m = some (s.render (c.returned m)) ∧
      ∀ fs, s.functions = some fs → ∀ f ∈ fs, f.paramList <:+ f.signature :=
  (run_built Context.built_empty hg).exists_listing hfinite

/-- A function without a name that takes one of another module and gives it back, one that returns
nothing, and a declaration. -/
def callbacks : List Call :=
  [.module none, .module none, .function 0 (.own (.integer 32)) "f",
    .argument 0 (.own (.integer 8)) (.own 1) "x", .function 1 (.own (.function 0)) "",
    .argument 1 (.own (.function 0)) (.own 3) "", .argument 1 (.own (.integer 8)) (.own 3) "",
    .block 1 (.own ()) "" (.own 3), .binary 1 0 (.own 5) (.own 2) (.own 6),
    .ret 1 (.own 1) (.own 6), .function 1 (.own .void) "done", .block 1 (.own ()) "entry" (.own 9),
    .ret 1 .missing (.own 10), .function 1 (.own (.integer 64)) "out"]

theorem run_listing_eq_render_callbacks :
    GrantedAll {} callbacks ∧ (∀ s, ¬ (run {} callbacks).Loops s) ∧
      (run {} callbacks).listing? 1 = some (Bytes.ofString
        ("define i32 (i8) @0(i32 (i8) %0, i8 %1) \x7b\n2:\n" ++
          "  %3 = add i8 %1, %x\n  ret i32 (i8) @f\n" ++
          "\x7d\n\ndefine void @done() \x7b\nentry:\n  ret void\n\x7d\n\ndeclare i64 @out()\n")) ∧
      ∃ s, (run {} callbacks).snapshot? 1 = some s ∧
        (run {} callbacks).listing? 1 = some (s.render ((run {} callbacks).returned 1)) := by
  have hg : GrantedAll {} callbacks := by decide
  have htexts : ∀ s < 4, (run {} callbacks).typeText? (.function s) ≠ none := by decide
  have hloops : ∀ s, ¬ (run {} callbacks).Loops s := by
    intro s hs
    exact htexts s hs.lt_size (Context.typeText?_eq_none hs)
  obtain ⟨s, hs, hlisting, -⟩ := run_listing_eq_render callbacks hg 1 fun _ _ s _ => hloops s
  exact ⟨hg, hloops, by decide +kernel, s, hs, hlisting⟩

end Call

end FrontEnd.Ir
