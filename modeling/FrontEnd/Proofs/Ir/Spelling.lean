import FrontEnd.Proofs.Attribution
import FrontEnd.Proofs.Ir.Rendering

/-!
How values are spelled. Inside a function, what has no name goes by number, and the numbers are
handed out in one pass over what the function defines; a function without a name goes by its place
in the module. Whatever else has no name is shown as unknown, and so is, to the eye, a value that is
called `?`. All that a listing or a snapshot says of values is said by these spellings.
-/
namespace FrontEnd.Ir

namespace Context

variable {c : Context} {m : ModuleId} {f v : ValueId}

/-- The values a function defines that have no name. -/
def unnamedIn (c : Context) (f : ValueId) : List ValueId :=
  (c.definitions f).filter fun v => !c.isNamed v

theorem numberFrom_eq (c : Context) (n : Nat) (vs : List ValueId) :
    c.numberFrom n vs = (vs.filter fun v => !c.isNamed v).zipIdx n := by
  induction vs generalizing n with
  | nil => rfl
  | cons v vs ih =>
    rw [numberFrom]
    cases hv : c.isNamed v with
    | true => simp [hv, ih]
    | false => simp [hv, ih]

/-- What a function defines stands in one of its rows. -/
theorem row?_of_mem_definitions (h : c.Wired) (hv : v ∈ c.definitions f) :
    ∃ k, c.row? v = some k := by
  unfold definitions at hv
  rcases List.mem_append.mp hv with hv | hv
  · exact ⟨.params f, (h.listed (.params f) v).mp hv⟩
  · cases hb : c.body? f with
    | none => simp [hb] at hv
    | some b =>
      simp only [hb] at hv
      rcases List.mem_cons.mp hv with rfl | hv
      · exact ⟨.body f, (h.listed (.body f) v).mp (by simp [children, hb])⟩
      · exact ⟨.members b, (h.listed (.members b) v).mp (List.mem_filter.mp hv).1⟩

/-- The rows have nothing in common, since a value says which one it is in. -/
theorem definitions_nodup (h : c.Wired) (f : ValueId) : (c.definitions f).Nodup := by
  have hdisjoint : ∀ (k k' : Row) {v : ValueId}, k ≠ k' → v ∈ c.children k → v ∉ c.children k' := by
    intro k k' v hne hv hv'
    exact hne (Option.some.inj (((h.listed k v).mp hv).symm.trans ((h.listed k' v).mp hv')))
  unfold definitions
  cases hb : c.body? f with
  | none => exact (List.append_nil _).symm ▸ h.once (.params f)
  | some b =>
    have hbody : b ∈ c.children (.body f) := by simp [children, hb]
    refine List.nodup_append.mpr ⟨h.once (.params f), List.nodup_cons.mpr ⟨?_, ?_⟩, ?_⟩
    · intro hmem
      exact hdisjoint (.body f) (.members b) (by simp) hbody (List.mem_filter.mp hmem).1
    · exact (h.once (.members b)).filter _
    · rintro a ha v hv rfl
      rcases List.mem_cons.mp hv with rfl | hv
      · exact hdisjoint (.params f) (.body f) (by simp) ha hbody
      · exact hdisjoint (.params f) (.members b) (by simp) ha (List.mem_filter.mp hv).1

/-- No function is defined in another. -/
theorem isFunction_of_mem_definitions (h : c.Wired) (hv : v ∈ c.definitions f) :
    c.isFunction v = false := by
  obtain ⟨k, hk⟩ := row?_of_mem_definitions h hv
  obtain ⟨form, hform, hrow⟩ := row?_eq_some_iff.mp hk
  cases form with
  | function => cases hrow
  | _ => simp [isFunction, hform, Form.kind]

theorem unnamedIn_nodup (h : c.Wired) (f : ValueId) : (c.unnamedIn f).Nodup :=
  (definitions_nodup h f).filter _

theorem slots_eq (c : Context) (f : ValueId) : c.slots f = (c.unnamedIn f).zipIdx :=
  c.numberFrom_eq 0 (c.definitions f)

/-- The number of a value is its place among those that have no name. -/
theorem slot?_eq_some_iff (h : c.Wired) (hv : c.isFunction v = false) {n : Nat} :
    c.slot? m f v = some n ↔ (c.unnamedIn f)[n]? = some v := by
  have hkeys : ((c.slots f).map Prod.fst).Nodup := by
    rw [slots_eq, List.zipIdx_map_fst]
    exact unnamedIn_nodup h f
  rw [slot?, hv, if_neg (by simp), lookup_eq_some_iff_mem hkeys, slots_eq,
    List.mem_zipIdx_iff_getElem?]

/-- The number of a function is its place among all of the module. -/
theorem slot?_function (h : c.Numbered) {g : ValueId} {n : Nat}
    (hg : (c.module m).functions[n]? = some g) (hfunction : c.isFunction g = true)
    (hnamed : c.isNamed g = false) : c.slot? m f g = some n := by
  have hkeys : ((c.places m).map Prod.fst).Nodup := by
    have hsub : (c.places m).Sublist (c.module m).functions.zipIdx := List.filter_sublist
    have hall := hsub.map Prod.fst
    rw [List.zipIdx_map_fst] at hall
    exact (h.functions m).sublist hall
  rw [slot?, hfunction, if_pos rfl, lookup_eq_some_iff_mem hkeys, places, List.mem_filter,
    List.mem_zipIdx_iff_getElem?]
  exact ⟨hg, by simp [hnamed]⟩

/-- What stands behind the sigil. -/
def mark (c : Context) (m : ModuleId) (f v : ValueId) : Bytes :=
  if c.isNamed v then c.name v else ((c.slot? m f v).map Bytes.decimal).getD "?"

theorem spell_eq (c : Context) (m : ModuleId) (f v : ValueId) :
    c.spell m f v = (if c.isFunction v then "@" else "%" : Bytes) ++ c.mark m f v := by
  unfold spell mark
  cases c.slot? m f v <;> rfl

theorem decimal_ne_unknown (n : Nat) : Bytes.decimal n ≠ Bytes.ofString "?" := by
  intro h
  have hdigit := Bytes.decimal_digit n 63 (by rw [h]; decide)
  cases hdigit

theorem slot?_eq_none_iff (h : c.Wired) (hfunction : c.isFunction v = false)
    (hnamed : c.isNamed v = false) : c.slot? m f v = none ↔ v ∉ c.definitions f := by
  have hmem : v ∈ c.definitions f ↔ v ∈ c.unnamedIn f := by simp [unnamedIn, hnamed]
  rw [hmem, List.mem_iff_getElem?, Option.eq_none_iff_forall_ne_some, not_exists]
  simp only [ne_eq, slot?_eq_some_iff h hfunction]

theorem mark_eq_unknown_iff (h : c.Wired) (hfunction : c.isFunction v = false) :
    c.mark m f v = Bytes.ofString "?" ↔ c.isNamed v = true ∧ c.name v = Bytes.ofString "?" ∨
      c.isNamed v = false ∧ v ∉ c.definitions f := by
  unfold mark
  cases hnamed : c.isNamed v with
  | true => simp
  | false =>
    rw [← slot?_eq_none_iff (m := m) h hfunction hnamed]
    cases c.slot? m f v with
    | none => simp
    | some n => simpa using decimal_ne_unknown n

theorem spell_eq_unknown_iff (h : c.Wired) :
    c.spell m f v = Bytes.ofString "%?" ↔ c.isFunction v = false ∧
      (c.isNamed v = true ∧ c.name v = Bytes.ofString "?" ∨
        c.isNamed v = false ∧ v ∉ c.definitions f) := by
  have hat : Bytes.ofString "@" = [64] := by decide
  have hpercent : Bytes.ofString "%" = [37] := by decide
  have hunknown : Bytes.ofString "%?" = 37 :: Bytes.ofString "?" := by decide
  rw [spell_eq]
  cases hfunction : c.isFunction v with
  | true => simp [hat, hunknown]
  | false => simp [hpercent, hunknown, mark_eq_unknown_iff h hfunction]

/-- The spellings in a line of code: that of its result, empty when it has none, and those of the
values it uses. -/
def spellings (c : Context) (m : ModuleId) (f i : ValueId) : Bytes × List Bytes :=
  (if ((c.form? i).map Form.isReturn).getD true then [] else c.spell m f i,
    (((c.form? i).map Form.operands).getD []).map (c.spell m f))

theorem spellings_of_snapshot {i : ValueId} {line : InstSnapshot}
    (h : c.instructionSnapshot? m f i = some line) :
    (line.result, line.operands) = c.spellings m f i := by
  simp only [instructionSnapshot?, Option.bind_eq_bind, Option.bind_eq_some_iff] at h
  obtain ⟨form, hform, type, -, h⟩ := h
  cases form with
  | binary op t l r p =>
    cases h
    simp [spellings, hform]
  | ret v p =>
    cases h
    simp [spellings, hform]
  | _ => cases h

end Context

/-- All values are told by their spellings inside the function. -/
structure FunctionSnapshot.Spells (c : Context) (m : ModuleId) (f : ValueId)
    (snap : FunctionSnapshot) : Prop where
  name : snap.name = c.spell m f f
  args : snap.args.map ArgSnapshot.name = (c.params f).map (c.spell m f)
  label : snap.body.map BlockSnapshot.label = (c.body? f).map (c.spell m f)
  lines : ∀ block b, snap.body = some block → c.body? f = some b →
    ∃ lines, block.instructions = some lines ∧
      lines.map (fun i => (i.result, i.operands)) = (c.instructions b).map (c.spellings m f)

namespace Context

variable {c : Context} {m : ModuleId} {f : ValueId}

theorem spells_of_snapshot {snap : FunctionSnapshot} (h : c.functionSnapshot? m f = some snap) :
    snap.Spells c m f := by
  simp only [functionSnapshot?, Option.bind_eq_bind, Option.bind_eq_some_iff, Option.pure_def,
    Option.some.injEq] at h
  obtain ⟨t, ht, signature, -, args, hargs, body, hbody, rfl⟩ := h
  have hnames : List.Forall₂ (· = ·) (args.map ArgSnapshot.name)
      ((c.params f).map (c.spell m f)) := by
    rw [List.forall₂_map_left_iff, List.forall₂_map_right_iff]
    refine (forall₂_of_args hargs).flip.imp ?_
    rintro arg a ⟨t, -, -, hname⟩
    exact hname
  cases hb : c.body? f with
  | none =>
    rw [hb] at hbody
    cases hbody
    exact ⟨rfl, List.forall₂_eq_eq_eq ▸ hnames, by simp [hb], by simp⟩
  | some b =>
    simp only [hb, Option.mapM_some, blockSnapshot?, Option.bind_eq_bind, Option.bind_eq_some_iff,
      Option.map_eq_map, Option.map_eq_some_iff] at hbody
    obtain ⟨block, ⟨lines, hlines, ⟨⟩⟩, rfl⟩ := hbody
    refine ⟨rfl, List.forall₂_eq_eq_eq ▸ hnames, by simp [hb], ?_⟩
    rintro _ b' ⟨⟩ hb'
    cases hb.symm.trans hb'
    refine ⟨lines, rfl, ?_⟩
    have hspelled : List.Forall₂ (· = ·) (lines.map fun i => (i.result, i.operands))
        ((c.instructions b).map (c.spellings m f)) := by
      rw [List.forall₂_map_left_iff, List.forall₂_map_right_iff]
      refine (mapM_eq_some_iff.mp hlines).flip.imp ?_
      intro line i hline
      exact spellings_of_snapshot hline
    exact List.forall₂_eq_eq_eq ▸ hspelled

theorem typeText?_of_typed {v : ValueId} {text : Bytes} (h : c.typed? m f v = some text) :
    ∃ t b, c.type? v = some t ∧ c.typeText? t = some b := by
  simp only [typed?, Option.bind_eq_bind, Option.bind_eq_some_iff] at h
  obtain ⟨t, ht, b, hb, -⟩ := h
  exact ⟨t, b, ht, hb⟩

/-- The type of a line that is written has a text, and so has that of what it returns. -/
theorem typeText?_of_line (h : c.Built) {i : ValueId} {text : Bytes}
    (htext : c.instructionText? m f i = some text) :
    (∀ t, c.type? i = some t → (c.typeText? t).isSome = true) ∧
      ∀ v p, c.form? i = some (.ret (some v) p) → (c.returnedType? i).isSome = true := by
  obtain ⟨form, hform, htext⟩ := Option.bind_eq_some_iff.mp htext
  have htype : c.type? i = some form.type := by simp [type?, hform]
  cases form with
  | binary op t l r p =>
    obtain ⟨b, hb, -⟩ := Option.bind_eq_some_iff.mp htext
    obtain ⟨t', b', ht', hb'⟩ := typeText?_of_typed hb
    cases (h.type?_of_binary hform).2.1.symm.trans ht'
    constructor
    · rintro t' ht
      cases htype.symm.trans ht
      exact Option.isSome_iff_exists.mpr ⟨b', hb'⟩
    · intro v p hret
      cases hform.symm.trans hret
  | ret v p =>
    constructor
    · rintro t' ht
      cases htype.symm.trans ht
      simp [typeText?, Form.type, Ty.void, typeTextDeep]
    · intro w q hret
      cases hform.symm.trans hret
      obtain ⟨b, hb, -⟩ := Option.bind_eq_some_iff.mp htext
      obtain ⟨t, b', ht, hb'⟩ := typeText?_of_typed hb
      simp [returnedType?, hform, ht, hb']
  | _ => cases htext

/-- A snapshot can be taken of a function that is written. -/
theorem functionSnapshot?_of_text (h : c.Built) (hf : c.kind? f = some .function) {text : Bytes}
    (htext : c.functionText? m f = some text) :
    (c.functionSnapshot? m f).isSome = true ∧ c.Returns f := by
  obtain ⟨form, hform, hkind⟩ := Option.map_eq_some_iff.mp hf
  cases form with
  | function home s body =>
    have hlines : ∀ b, c.body? f = some b → ∀ i ∈ c.instructions b,
        ∃ line, c.instructionText? m f i = some line := by
      intro b hb i hi
      simp only [functionText?, hb, Option.bind_eq_bind, Option.bind_eq_some_iff] at htext
      obtain ⟨-, -, -, -, -, -, lines, hlines, -⟩ := htext
      obtain ⟨line, -, hline⟩ := exists_of_mem_forall₂ (mapM_eq_some_iff.mp hlines) hi
      exact ⟨line, hline⟩
    constructor
    · apply functionSnapshot?_isSome h.sound m hf
      · intro t ht
        have htype : c.type? f = some (.function s) := by simp [type?, hform, Form.type]
        cases htype.symm.trans ht
        obtain ⟨b, hb⟩ := printed_of_functionText? hform htext
        exact Option.isSome_iff_exists.mpr ⟨b, typeText?_eq_some_iff.mpr hb⟩
      · intro b hb i hi
        obtain ⟨line, hline⟩ := hlines b hb i hi
        exact (typeText?_of_line h hline).1
    · intro b i v p hb hi hret
      obtain ⟨line, hline⟩ := hlines b hb i hi
      exact (typeText?_of_line h hline).2 v p hret
  | _ => cases hkind

/-- A listing is a snapshot that is written out. -/
theorem render_of_listing (h : c.Built) {text : Bytes} (htext : c.listing? m = some text) :
    ∃ s, c.snapshot? m = some s ∧ text = s.render (c.returned m) := by
  obtain ⟨texts, htexts, -⟩ := Option.bind_eq_some_iff.mp htext
  have hwritten : ∀ f ∈ (c.module m).functions,
      (c.functionSnapshot? m f).isSome = true ∧ c.Returns f := by
    intro f hf
    obtain ⟨text, -, htext⟩ := exists_of_mem_forall₂ (mapM_eq_some_iff.mp htexts) hf
    exact functionSnapshot?_of_text h (h.sound.functions m f hf) htext
  obtain ⟨snaps, hsnaps⟩ := Option.isSome_iff_exists.mp (isSome_mapM fun f hf => (hwritten f hf).1)
  have hsnapshot : c.snapshot? m = some ⟨(c.module m).path.getD [], some snaps⟩ := by
    simp [snapshot?, hsnaps]
  have hrender := (listing?_eq_render h (fun f hf => (hwritten f hf).2) hsnapshot).1
  exact ⟨_, hsnapshot, Option.some.inj (htext.symm.trans hrender)⟩

/-- How values are spelled inside a function of a module. -/
structure Spelled (c : Context) (m : ModuleId) (f : ValueId) : Prop where
  /-- What has no name is counted from zero on: arguments, then the block, then instructions that
  have a result. -/
  number : ∀ v n, c.isFunction v = false →
    (c.slot? m f v = some n ↔ (c.unnamedIn f)[n]? = some v)
  once : (c.unnamedIn f).Nodup
  own : ∀ v n, (c.unnamedIn f)[n]? = some v →
    c.spell m f v = Bytes.ofString "%" ++ Bytes.decimal n
  unknown : ∀ v, c.spell m f v = Bytes.ofString "%?" ↔ c.isFunction v = false ∧
    (c.isNamed v = true ∧ c.name v = Bytes.ofString "?" ∨
      c.isNamed v = false ∧ v ∉ c.definitions f)
  function : ∀ g n, (c.module m).functions[n]? = some g → c.isNamed g = false →
    c.spell m f g = Bytes.ofString "@" ++ Bytes.decimal n

theorem Built.spelled (h : c.Built) (hn : c.Numbered) (m : ModuleId) (f : ValueId) :
    c.Spelled m f where
  number v n hv := slot?_eq_some_iff h.wired hv
  once := unnamedIn_nodup h.wired f
  own v n hv := by
    obtain ⟨hmem, hnamed⟩ := List.mem_filter.mp (List.mem_of_getElem? hv)
    have hfunction := isFunction_of_mem_definitions h.wired hmem
    have hslot : c.slot? m f v = some n := (slot?_eq_some_iff h.wired hfunction).mpr hv
    have hunnamed : c.isNamed v = false := by simpa using hnamed
    simp [spell_eq, mark, hfunction, hunnamed, hslot]
  unknown v := spell_eq_unknown_iff h.wired
  function g n hg hnamed := by
    have hfunction : c.isFunction g = true := by
      rw [isFunction, decide_eq_true_eq]
      exact h.sound.functions m g (List.mem_of_getElem? hg)
    have hslot : c.slot? m f g = some n := slot?_function hn hg hfunction hnamed
    simp [spell_eq, mark, hfunction, hnamed, hslot]

theorem forall₂_of_snapshot {s : Snapshot} (h : c.snapshot? m = some s) :
    ∃ fs, s.functions = some fs ∧
      List.Forall₂ (fun f snap => snap.Spells c m f) (c.module m).functions fs := by
  obtain ⟨snaps, hsnaps, hs⟩ := Option.bind_eq_some_iff.mp h
  cases hs
  refine ⟨snaps, rfl, (mapM_eq_some_iff.mp hsnaps).imp ?_⟩
  intro f snap hsnap
  exact spells_of_snapshot hsnap

end Context

namespace Call

/-- Whatever code was made: in each function of a module, what has no name is spelled by its number,
which counts from zero in the order of definition, and what has neither name nor number is shown as
unknown, like a value called `?`; functions without a name are spelled by their places everywhere. A
snapshot tells all values by these spellings, and a listing is a snapshot that is written out. -/
theorem run_spelled (calls : List Call) (hg : GrantedAll {} calls) (m : ModuleId) :
    let c := run {} calls
    (∀ f ∈ (c.module m).functions, c.Spelled m f) ∧
      (∀ s, c.snapshot? m = some s → ∃ fs, s.functions = some fs ∧
        List.Forall₂ (fun f snap => snap.Spells c m f) (c.module m).functions fs) ∧
      ∀ text, c.listing? m = some text →
        ∃ s, c.snapshot? m = some s ∧ text = s.render (c.returned m) := by
  intro c
  have hbuilt : c.Built := run_built Context.built_empty hg
  have hnumbered : c.Numbered := run_numbered Context.built_empty Context.numbered_empty hg
  refine ⟨?_, ?_, ?_⟩
  · intro f _
    exact hbuilt.spelled hnumbered m f
  · intro s hs
    exact Context.forall₂_of_snapshot hs
  · intro text htext
    exact Context.render_of_listing hbuilt htext

/-- An argument is called `?`, and the block that returns it has no name. -/
def puzzling : List Call :=
  [.module none, .function 0 (.own (.integer 32)) "f",
    .argument 0 (.own (.integer 32)) (.own 1) "?", .block 0 (.own ()) "" (.own 1),
    .ret 0 (.own 2) (.own 3)]

theorem run_spelled_puzzling :
    GrantedAll {} puzzling ∧ 1 ∈ ((run {} puzzling).module 0).functions ∧
      (run {} puzzling).spell 0 1 3 = Bytes.ofString "%" ++ Bytes.decimal 0 ∧
      ∃ s, (run {} puzzling).snapshot? 0 = some s ∧
        s.render ((run {} puzzling).returned 0) =
          Bytes.ofString "define i32 @f(i32 %?) \x7b\n0:\n  ret i32 %?\n\x7d\n" := by
  have hg : GrantedAll {} puzzling := by decide
  have hf : 1 ∈ ((run {} puzzling).module 0).functions := by decide
  have hlisting : (run {} puzzling).listing? 0 =
      some (Bytes.ofString "define i32 @f(i32 %?) \x7b\n0:\n  ret i32 %?\n\x7d\n") := by
    decide +kernel
  obtain ⟨hspelled, -, hwritten⟩ := run_spelled puzzling hg 0
  obtain ⟨s, hs, hrender⟩ := hwritten _ hlisting
  exact ⟨hg, hf, (hspelled 1 hf).own 3 0 (by decide), s, hs, hrender.symm⟩

/-- A value that has a name may be shown as if it had neither name nor number, and the line that
opens a block shows its number alone. -/
theorem puzzling_shown_unknown :
    ¬ (∀ v, (run {} puzzling).spell 0 1 v = Bytes.ofString "%?" ↔
      (run {} puzzling).isFunction v = false ∧ (run {} puzzling).isNamed v = false ∧
        v ∉ (run {} puzzling).definitions 1) ∧
    (run {} puzzling).spell 0 1 3 = Bytes.ofString "%0" ∧
    (run {} puzzling).listing? 0 =
      some (Bytes.ofString "define i32 @f(i32 %?) \x7b\n0:\n  ret i32 %?\n\x7d\n") := by
  refine ⟨?_, by decide +kernel, by decide +kernel⟩
  intro h
  have hunknown := (h 2).mp (by decide)
  revert hunknown
  decide

end Call

end FrontEnd.Ir
