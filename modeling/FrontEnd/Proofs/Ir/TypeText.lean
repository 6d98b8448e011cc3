import Mathlib.Data.Fintype.Card
import Mathlib.Data.Fintype.EquivFin
import Mathlib.Logic.Relation
import FrontEnd.Ir.Snapshot
import FrontEnd.Proofs.Ir.Run
import FrontEnd.Proofs.Outcomes

/-!
The text of a type, and whether there is one. To write out a type is to write out the types that it
holds, so it comes to an end only where no signature is met again inside itself; then no more than
there are signatures are written inside each other. Everything else that is written of a module is
made of the texts of its types.
-/
namespace FrontEnd.Ir

section Lists

variable {α β : Type} {R : α → β → Prop} {f : α → Option β} {xs : List α} {ys : List β}

theorem exists_forall₂ (h : ∀ x ∈ xs, ∃ y, R x y) : ∃ ys, List.Forall₂ R xs ys := by
  induction xs with
  | nil => exact ⟨[], .nil⟩
  | cons x xs ih =>
    obtain ⟨y, hy⟩ := h x List.mem_cons_self
    obtain ⟨ys, hys⟩ := ih fun x hx => h x (List.mem_cons_of_mem _ hx)
    exact ⟨y :: ys, .cons hy hys⟩

theorem isSome_mapM (h : ∀ x ∈ xs, (f x).isSome = true) : (xs.mapM f).isSome = true := by
  obtain ⟨ys, hys⟩ := exists_forall₂ fun x hx => Option.isSome_iff_exists.mp (h x hx)
  exact Option.isSome_iff_exists.mpr ⟨ys, mapM_eq_some_iff.mpr hys⟩

theorem mapM_eq_none {x : α} (hx : x ∈ xs) (h : f x = none) : xs.mapM f = none := by
  rw [Option.eq_none_iff_forall_ne_some]
  intro ys hys
  obtain ⟨y, -, hy⟩ := exists_of_mem_forall₂ (mapM_eq_some_iff.mp hys) hx
  cases h.symm.trans hy

theorem isSome_bind_of {x : Option α} {g : α → Option β} (hx : x.isSome = true)
    (hg : ∀ a, (g a).isSome = true) : (x >>= g).isSome = true := by
  obtain ⟨a, rfl⟩ := Option.isSome_iff_exists.mp hx
  exact hg a

end Lists

namespace Context

open Relation

/-- Writing out a type comes to an end with a text. -/
inductive Printed (c : Context) : Ty → Bytes → Prop
  | primitive (p : Primitive) : Printed c (.primitive p) p.name
  | integer (w : Nat) : Printed c (.integer w) ("i" ++ Bytes.decimal w)
  | function {s : Nat} {sig : Signature} {result : Bytes} {types : ValueId → Ty}
    {texts : List Bytes} (hs : c.signatures[s]? = some sig) (hresult : Printed c sig.result result)
      (htypes : ∀ a ∈ sig.params, c.type? a = some (types a))
      (hlength : sig.params.length = texts.length)
      (htexts : ∀ a b, (a, b) ∈ sig.params.zip texts → Printed c (types a) b) :
      Printed c (.function s) (result ++ " (" ++ Bytes.join ", " texts ++ ")")

/-- A signature has another one in its result or in an argument. -/
def Holds (c : Context) (s s' : Nat) : Prop :=
  ∃ sig, c.signatures[s]? = some sig ∧
    (sig.result = .function s' ∨ ∃ a ∈ sig.params, c.type? a = some (.function s'))

/-- A signature is met inside itself. -/
def Loops (c : Context) (s : Nat) : Prop := TransGen c.Holds s s

/-- A signature is met in a type, at whatever depth. -/
def Reaches (c : Context) (t : Ty) (s : Nat) : Prop :=
  ∃ s', t = .function s' ∧ ReflTransGen c.Holds s' s

variable {c : Context} {t : Ty} {b : Bytes} {s s' : Nat}

theorem printed_of_typeTextDeep {n : Nat} (h : c.typeTextDeep n t = some b) : c.Printed t b := by
  induction n generalizing t b with
  | zero =>
    cases t with
    | primitive p =>
      cases h
      exact .primitive p
    | integer w =>
      cases h
      exact .integer w
    | function s => cases h
  | succ n ih =>
    cases t with
    | primitive p =>
      cases h
      exact .primitive p
    | integer w =>
      cases h
      exact .integer w
    | function s =>
      simp only [typeTextDeep, Option.bind_eq_bind, Option.bind_eq_some_iff, Option.pure_def,
        Option.some.injEq] at h
      obtain ⟨sig, hs, result, hresult, texts, htexts, rfl⟩ := h
      have hall := mapM_eq_some_iff.mp htexts
      have htypes : ∀ a ∈ sig.params, c.type? a = some ((c.type? a).getD .void) := by
        intro a ha
        obtain ⟨b, -, hb⟩ := exists_of_mem_forall₂ hall ha
        obtain ⟨t, ht, -⟩ := Option.bind_eq_some_iff.mp hb
        rw [ht, Option.getD_some]
      refine .function hs (ih hresult) htypes hall.length_eq ?_
      intro a b hab
      obtain ⟨t, ht, hb⟩ := Option.bind_eq_some_iff.mp ((List.forall₂_iff_zip.mp hall).2 hab)
      rw [ht, Option.getD_some]
      exact ih hb

/-- What a signature holds is written before it is: induction over the signatures of a type that is
written out. -/
theorem Printed.induction {motive : Nat → Prop}
    (step : ∀ s, s < c.signatures.size → (∀ s', c.Holds s s' → motive s') → motive s)
    (h : c.Printed t b) (ht : t = .function s) : motive s := by
  induction h generalizing s with
  | primitive p => cases ht
  | integer w => cases ht
  | @function s₀ sig result types texts hs hresult htypes hlength htexts ihresult ihtexts =>
    cases ht
    apply step _ (Array.getElem?_eq_some_iff.mp hs).1
    rintro s' ⟨sig', hs', hin⟩
    cases hs.symm.trans hs'
    rcases hin with hr | ⟨a, ha, hta⟩
    · exact ihresult hr
    · have htype : types a = .function s' := Option.some.inj ((htypes a ha).symm.trans hta)
      have hall : List.Forall₂ (fun a _ => ∀ {s}, types a = .function s → motive s)
          sig.params texts := List.forall₂_iff_zip.mpr ⟨hlength, fun hab => ihtexts _ _ hab⟩
      obtain ⟨b', -, hmotive⟩ := exists_of_mem_forall₂ hall ha
      exact hmotive htype

theorem Printed.acc (h : c.Printed (.function s) b) : Acc (fun x y => c.Holds y x) s :=
  h.induction (fun _ _ hheld => Acc.intro _ hheld) rfl

theorem Printed.lt_of_reaches (h : c.Printed t b) (hs : c.Reaches t s) :
    s < c.signatures.size := by
  obtain ⟨s₀, rfl, hpath⟩ := hs
  refine h.induction (motive := fun x => ∀ y, ReflTransGen c.Holds x y → y < c.signatures.size)
    ?_ rfl s hpath
  intro x hx hheld y hxy
  rcases ReflTransGen.cases_head hxy with rfl | ⟨x', hx', hx'y⟩
  · exact hx
  · exact hheld x' hx' y hx'y

theorem not_loops_of_acc (h : Acc (fun x y => c.Holds y x) s) : ¬ c.Loops s := by
  induction h with
  | intro s _ ih =>
    intro hloop
    obtain ⟨s', hs, hback⟩ := TransGen.head'_iff.mp hloop
    exact ih s' hs (TransGen.tail' hback hs)

theorem not_loops_of_reaches (h : c.Printed t b) (hs : c.Reaches t s) : ¬ c.Loops s := by
  obtain ⟨s₀, rfl, hpath⟩ := hs
  have hacc := h.acc
  apply not_loops_of_acc
  induction hpath with
  | refl => exact hacc
  | tail _ hstep ih => exact ih.inv hstep

/-- With as many levels as there are signatures to be met, a type that has a text is written. -/
theorem Printed.typeTextDeep_eq (h : c.Printed t b) {S : Finset Nat}
    (hS : ∀ s, c.Reaches t s → s ∈ S)
    {n : Nat} (hn : S.card ≤ n) : c.typeTextDeep n t = some b := by
  induction h generalizing S n with
  | primitive p => cases n <;> rfl
  | integer w => cases n <;> rfl
  | @function s sig result types texts hs hresult htypes hlength htexts ihresult ihtexts =>
    have hself : s ∈ S := hS s ⟨s, rfl, .refl⟩
    have hprinted : c.Printed (.function s) _ := .function hs hresult htypes hlength htexts
    obtain ⟨k, rfl⟩ : ∃ k, n = k + 1 := ⟨n - 1, by have := Finset.card_pos.mpr ⟨s, hself⟩; omega⟩
    have hcard : (S.erase s).card ≤ k := by
      rw [Finset.card_erase_of_mem hself]
      omega
    -- below a signature, there is one less to be met
    have hbelow : ∀ t, (∀ s', t = .function s' → c.Holds s s') → ∀ k, c.Reaches t k →
        k ∈ S.erase s := by
      intro t ht x hx
      obtain ⟨s', rfl, hpath⟩ := hx
      have hheld := ht s' rfl
      refine Finset.mem_erase.mpr ⟨?_, hS x ⟨s, rfl, hpath.head hheld⟩⟩
      rintro rfl
      exact not_loops_of_reaches hprinted ⟨x, rfl, .refl⟩ (TransGen.head' hheld hpath)
    have hr := ihresult (hbelow sig.result fun s' h' => ⟨sig, hs, .inl h'⟩) hcard
    have hp : sig.params.mapM (fun a => (c.type? a).bind (c.typeTextDeep k)) = some texts := by
      rw [mapM_eq_some_iff, List.forall₂_iff_zip]
      refine ⟨hlength, ?_⟩
      intro a b hab
      have ha := (List.of_mem_zip hab).1
      rw [htypes a ha, Option.bind_some]
      exact ihtexts a b hab
        (hbelow (types a) fun s' h' => ⟨sig, hs, .inr ⟨a, ha, by rw [htypes a ha, h']⟩⟩) hcard
    simp only [typeTextDeep, hs, hr, hp, Option.bind_eq_bind, Option.bind_some, Option.pure_def]

/-- The text of a type is what writing it out comes to, and there is none when that goes on for
ever. -/
theorem typeText?_eq_some_iff : c.typeText? t = some b ↔ c.Printed t b := by
  constructor
  · exact printed_of_typeTextDeep
  · intro h
    exact h.typeTextDeep_eq (S := Finset.range c.signatures.size)
      (fun s hs => Finset.mem_range.mpr (h.lt_of_reaches hs)) (by simp)

/-- The parts of the text of a function type. -/
theorem typeText?_function {s : Nat} {b : Bytes} (h : c.typeText? (.function s) = some b) :
    ∃ sig result texts, c.signatures[s]? = some sig ∧ c.typeText? sig.result = some result ∧
      sig.params.mapM (fun a => (c.type? a).bind c.typeText?) = some texts ∧
      b = result ++ " (" ++ Bytes.join ", " texts ++ ")" := by
  have hprinted := typeText?_eq_some_iff.mp h
  cases hprinted with
  | @function s sig result types texts hs hresult htypes hlength htexts =>
    refine ⟨sig, result, texts, hs, typeText?_eq_some_iff.mpr hresult, ?_, rfl⟩
    rw [mapM_eq_some_iff, List.forall₂_iff_zip]
    refine ⟨hlength, ?_⟩
    intro a b hab
    rw [htypes a (List.of_mem_zip hab).1]
    exact typeText?_eq_some_iff.mpr (htexts a b hab)

theorem typeText?_eq_none (h : c.Loops s) : c.typeText? (.function s) = none := by
  rw [Option.eq_none_iff_forall_ne_some]
  intro b hb
  exact not_loops_of_reaches (typeText?_eq_some_iff.mp hb) ⟨s, rfl, .refl⟩ h

theorem Sound.holds_lt (h : c.Sound) (hs : c.Holds s s') : s' < c.signatures.size := by
  obtain ⟨sig, hsig, hr | ⟨a, ha, hta⟩⟩ := hs
  · have hin := (h.signatures s sig hsig).result
    rwa [hr] at hin
  · obtain ⟨form, hform, hty⟩ := Option.map_eq_some_iff.mp hta
    have hin := (h.forms a form hform).type
    rwa [hty] at hin

theorem Sound.reaches_lt (h : c.Sound) (ht : t.In c) (hs : c.Reaches t s) :
    s < c.signatures.size := by
  obtain ⟨s₀, rfl, hpath⟩ := hs
  rcases ReflTransGen.cases_tail hpath with rfl | ⟨s', -, hheld⟩
  · exact ht
  · exact h.holds_lt hheld

theorem type?_of_has {a : ValueId} (h : c.Has a) : c.type? a = some ((c.type? a).getD .void) := by
  unfold Has kind? at h
  unfold type?
  cases hf : c.form? a with
  | none => simp [hf] at h
  | some form => rfl

theorem printed_function {sig : Signature} (hs : c.signatures[s]? = some sig)
    (hresult : ∃ b, c.Printed sig.result b)
    (hparams : ∀ a ∈ sig.params, ∃ t, c.type? a = some t ∧ ∃ b, c.Printed t b) :
    ∃ b, c.Printed (.function s) b := by
  obtain ⟨result, hresult⟩ := hresult
  let types : ValueId → Ty := fun a => (c.type? a).getD .void
  have htypes : ∀ a ∈ sig.params, c.type? a = some (types a) ∧ ∃ b, c.Printed (types a) b := by
    intro a ha
    obtain ⟨t, ht, hb⟩ := hparams a ha
    have htype : types a = t := by simp only [types, ht, Option.getD_some]
    exact ⟨ht.trans (congrArg some htype.symm), htype ▸ hb⟩
  obtain ⟨texts, htexts⟩ := exists_forall₂ fun a ha => (htypes a ha).2
  obtain ⟨hlength, hzip⟩ := List.forall₂_iff_zip.mp htexts
  exact ⟨_, .function hs hresult (fun a ha => (htypes a ha).1) hlength fun a b hab => hzip hab⟩

/-- A signature is printed when all are that it holds. -/
theorem Sound.printed_of_held (h : c.Sound) (hs : s < c.signatures.size)
    (hheld : ∀ s', c.Holds s s' → ∃ b, c.Printed (.function s') b) :
    ∃ b, c.Printed (.function s) b := by
  have hsig : c.signatures[s]? = some c.signatures[s] := Array.getElem?_eq_getElem hs
  generalize c.signatures[s] = sig at hsig
  have hin := h.signatures s sig hsig
  have hprinted : ∀ t, (∀ s', t = .function s' → c.Holds s s') → ∃ b, c.Printed t b := by
    intro t ht
    cases t with
    | primitive p => exact ⟨_, .primitive p⟩
    | integer w => exact ⟨_, .integer w⟩
    | function s' => exact hheld s' (ht s' rfl)
  apply printed_function hsig (hprinted sig.result fun s' h' => ⟨sig, hsig, .inl h'⟩)
  intro a ha
  have htype := type?_of_has (hin.params a ha)
  exact ⟨_, htype, hprinted _ fun s' h' => ⟨sig, hsig, .inr ⟨a, ha, by rw [htype, h']⟩⟩⟩

/-- Among finitely many signatures, one that meets no loop has a text. -/
theorem Sound.printed_of_not_loops (h : c.Sound) (ht : t.In c)
    (hloops : ∀ s, c.Reaches t s → ¬ c.Loops s) : ∃ b, c.Printed t b := by
  cases t with
  | primitive p => exact ⟨_, .primitive p⟩
  | integer w => exact ⟨_, .integer w⟩
  | function s =>
    have hlt : ∀ x, ReflTransGen c.Holds s x → x < c.signatures.size :=
      fun x hx => h.reaches_lt ht ⟨s, rfl, hx⟩
    -- on the signatures that are met, being met inside is a well-founded order
    let met := { x // ReflTransGen c.Holds s x }
    let inside : met → met → Prop := fun x y => TransGen c.Holds y.1 x.1
    have : Finite met := Finite.of_injective
      (fun x : met => (⟨x.1, hlt x.1 x.2⟩ : Fin c.signatures.size))
      fun x y hxy => Subtype.ext (congrArg Fin.val hxy)
    have : IsTrans met inside := ⟨fun _ _ _ hxy hyz => hyz.trans hxy⟩
    have : Std.Irrefl inside := ⟨fun x => hloops x.1 ⟨s, rfl, x.2⟩⟩
    have hwf : WellFounded inside := Finite.wellFounded_of_trans_of_irrefl inside
    refine hwf.induction (C := fun x => ∃ b, c.Printed (.function x.1) b) ⟨s, .refl⟩ ?_
    intro x ih
    apply h.printed_of_held (hlt x.1 x.2)
    intro s' hs'
    exact ih ⟨s', x.2.tail hs'⟩ (.single hs')

/-- A type of a context has a text if and only if no signature that is met in it meets itself. -/
theorem Sound.typeText?_isSome_iff (h : c.Sound) (ht : t.In c) :
    (c.typeText? t).isSome = true ↔ ∀ s, c.Reaches t s → ¬ c.Loops s := by
  rw [Option.isSome_iff_exists]
  simp only [typeText?_eq_some_iff]
  constructor
  · rintro ⟨b, hb⟩ s hs
    exact not_loops_of_reaches hb hs
  · exact h.printed_of_not_loops ht

theorem Sound.exists_type? (h : c.Sound) {v : ValueId} (hv : c.Has v) :
    ∃ t, c.type? v = some t ∧ t.In c := by
  have htype := type?_of_has hv
  obtain ⟨form, hform, hty⟩ := Option.map_eq_some_iff.mp htype
  exact ⟨_, htype, hty ▸ (h.forms v form hform).type⟩

theorem Sound.kind?_of_mem_instructions (h : c.Sound) {v i : ValueId} (hi : i ∈ c.instructions v) :
    c.kind? i = some .instruction := by
  unfold instructions at hi
  split at hi
  · rename_i hv
    exact (h.forms v _ hv).members i hi
  · cases hi

theorem Sound.exists_signatureOf? (h : c.Sound) {f : ValueId} (hf : c.kind? f = some .function) :
    ∃ sig, c.signatureOf? f = some sig ∧ sig.In c := by
  obtain ⟨form, hform, hkind⟩ := Option.map_eq_some_iff.mp hf
  cases form with
  | function home s body =>
    have hs : s < c.signatures.size := (h.forms f _ hform).type
    have hsig : c.signatures[s]? = some c.signatures[s] := Array.getElem?_eq_getElem hs
    exact ⟨c.signatures[s], by simp only [signatureOf?, hform, hsig], h.signatures s _ hsig⟩
  | _ => cases hkind

section Parts

/-! A snapshot is taken of what has types with a text. -/

theorem instructionSnapshot?_isSome (m : ModuleId) (f : ValueId) {i : ValueId}
    (hi : c.kind? i = some .instruction)
    (htext : ∀ t, c.type? i = some t → (c.typeText? t).isSome = true) :
    (c.instructionSnapshot? m f i).isSome = true := by
  obtain ⟨form, hform, hkind⟩ := Option.map_eq_some_iff.mp hi
  obtain ⟨b, hb⟩ := Option.isSome_iff_exists.mp (htext form.type (by simp [type?, hform]))
  cases form with
  | binary op t l r p => simp [instructionSnapshot?, hform, hb]
  | ret v p => simp [instructionSnapshot?, hform, hb]
  | _ => cases hkind

/-- The text of its type has those of the arguments in it. -/
theorem functionSnapshot?_isSome (h : c.Sound) (m : ModuleId) {f : ValueId}
    (hf : c.kind? f = some .function)
    (htext : ∀ t, c.type? f = some t → (c.typeText? t).isSome = true)
    (hlines : ∀ b, c.body? f = some b → ∀ i ∈ c.instructions b, ∀ t, c.type? i = some t →
      (c.typeText? t).isSome = true) : (c.functionSnapshot? m f).isSome = true := by
  obtain ⟨form, hform, hkind⟩ := Option.map_eq_some_iff.mp hf
  cases form with
  | function home s block =>
    have htype : c.type? f = some (.function s) := by simp [type?, hform, Form.type]
    obtain ⟨text, hsignature⟩ := Option.isSome_iff_exists.mp (htext _ htype)
    obtain ⟨sig, result, texts, hs, -, htexts, -⟩ := typeText?_function hsignature
    have hparams : c.params f = sig.params := by simp [params, signatureOf?, hform, hs]
    unfold functionSnapshot?
    rw [htype, Option.bind_eq_bind, Option.bind_some]
    refine isSome_bind_of (htext _ htype) fun signature => isSome_bind_of ?_ fun args =>
      isSome_bind_of ?_ fun body => rfl
    · apply isSome_mapM
      rintro ⟨a, i⟩ hai
      have ha : a ∈ sig.params := hparams ▸ List.fst_mem_of_mem_zipIdx hai
      obtain ⟨b, -, hb⟩ := exists_of_mem_forall₂ (mapM_eq_some_iff.mp htexts) ha
      obtain ⟨t, ht, hb⟩ := Option.bind_eq_some_iff.mp hb
      simp [ht, hb]
    · cases hbody : c.body? f with
      | none => rfl
      | some b =>
        obtain ⟨lines, hlines⟩ := Option.isSome_iff_exists.mp (isSome_mapM fun i hi =>
          instructionSnapshot?_isSome m f (h.kind?_of_mem_instructions hi) (hlines b hbody i hi))
        simp [blockSnapshot?, hlines]
  | _ => cases hkind

end Parts

section Whole

/-! When every type has a text, so has all code. -/

variable (h : c.Sound) (htext : ∀ t : Ty, t.In c → (c.typeText? t).isSome = true)

include h htext

theorem typed?_isSome (m : ModuleId) (f : ValueId) {v : ValueId} (hv : c.Has v) :
    (c.typed? m f v).isSome = true := by
  obtain ⟨t, htype, hin⟩ := h.exists_type? hv
  obtain ⟨b, hb⟩ := Option.isSome_iff_exists.mp (htext t hin)
  simp [typed?, htype, hb]

theorem instructionText?_isSome (m : ModuleId) (f : ValueId) {i : ValueId}
    (hi : c.kind? i = some .instruction) : (c.instructionText? m f i).isSome = true := by
  obtain ⟨form, hform, hkind⟩ := Option.map_eq_some_iff.mp hi
  have hoperand := fun o ho => Option.isSome_iff_exists.mp
    (typed?_isSome h htext m f ((h.forms i form hform).operands o ho))
  cases form with
  | binary op t l r p =>
    obtain ⟨b, hb⟩ := hoperand l (by simp [Form.operands])
    simp [instructionText?, hform, hb]
  | ret v p =>
    cases v with
    | none => simp [instructionText?, hform]
    | some v =>
      obtain ⟨b, hb⟩ := hoperand v (by simp [Form.operands])
      simp [instructionText?, hform, hb]
  | _ => cases hkind

theorem functionText?_isSome (m : ModuleId) {f : ValueId} (hf : c.kind? f = some .function) :
    (c.functionText? m f).isSome = true := by
  obtain ⟨sig, hsig, hin⟩ := h.exists_signatureOf? hf
  obtain ⟨result, hresult⟩ := Option.isSome_iff_exists.mp (htext _ hin.result)
  obtain ⟨params, hparams⟩ := Option.isSome_iff_exists.mp
    (isSome_mapM fun a ha => typed?_isSome h htext m f (hin.params a ha))
  cases hbody : c.body? f with
  | none => simp [functionText?, hsig, hresult, hparams, hbody]
  | some b =>
    obtain ⟨lines, hlines⟩ := Option.isSome_iff_exists.mp (isSome_mapM fun i hi =>
      instructionText?_isSome h htext m f (h.kind?_of_mem_instructions (v := b) hi))
    simp [functionText?, hsig, hresult, hparams, hbody, hlines]

theorem listing?_isSome (m : ModuleId) : (c.listing? m).isSome = true := by
  obtain ⟨texts, htexts⟩ := Option.isSome_iff_exists.mp
    (isSome_mapM fun f hf => functionText?_isSome h htext m (h.functions m f hf))
  simp [listing?, htexts]

theorem snapshot?_isSome (m : ModuleId) : (c.snapshot? m).isSome = true := by
  have htyped : ∀ v t, c.type? v = some t → (c.typeText? t).isSome = true := by
    intro v t ht
    obtain ⟨form, hform, rfl⟩ := Option.map_eq_some_iff.mp ht
    exact htext _ (h.forms v form hform).type
  obtain ⟨fs, hfs⟩ := Option.isSome_iff_exists.mp
    (isSome_mapM fun f hf => functionSnapshot?_isSome h m (h.functions m f hf) (htyped f)
      fun _ _ i _ => htyped i)
  simp [snapshot?, hfs]

end Whole

/-- A function that is written has a signature with a text. -/
theorem printed_of_functionText? {f home : Nat} {body : Option ValueId} {m : ModuleId}
    {text : Bytes}
    (hf : c.form? f = some (.function home s body)) (htext : c.functionText? m f = some text) :
    ∃ b, c.Printed (.function s) b := by
  simp only [functionText?, signatureOf?, hf, Option.bind_eq_bind, Option.bind_eq_some_iff] at htext
  obtain ⟨sig, hs, result, hresult, params, hparams, -⟩ := htext
  have htyped : ∀ a ∈ sig.params, ∃ t, c.type? a = some t ∧ ∃ b, c.Printed t b := by
    intro a ha
    obtain ⟨text, -, hb⟩ := exists_of_mem_forall₂ (mapM_eq_some_iff.mp hparams) ha
    simp only [typed?, Option.bind_eq_bind, Option.bind_eq_some_iff] at hb
    obtain ⟨t, ht, b, hb, -⟩ := hb
    exact ⟨t, ht, b, typeText?_eq_some_iff.mp hb⟩
  exact printed_function hs ⟨result, typeText?_eq_some_iff.mp hresult⟩ htyped

section Looping

/-! A function whose signature is met inside itself keeps its module from being written. -/

variable {f home : Nat} {body : Option ValueId} (hf : c.form? f = some (.function home s body))
  (hloop : c.Loops s)

include hf hloop

theorem functionText?_eq_none (m : ModuleId) : c.functionText? m f = none := by
  rw [Option.eq_none_iff_forall_ne_some]
  intro text htext
  obtain ⟨b, hb⟩ := printed_of_functionText? hf htext
  exact not_loops_of_reaches hb ⟨s, rfl, .refl⟩ hloop

theorem functionSnapshot?_eq_none (m : ModuleId) : c.functionSnapshot? m f = none := by
  have htype : c.type? f = some (.function s) := by simp [type?, hf, Form.type]
  simp [functionSnapshot?, htype, typeText?_eq_none hloop]

theorem listing?_eq_none {m : ModuleId} (hm : f ∈ (c.module m).functions) :
    c.listing? m = none := by
  simp [listing?, mapM_eq_none hm (functionText?_eq_none hf hloop m)]

theorem snapshot?_eq_none {m : ModuleId} (hm : f ∈ (c.module m).functions) :
    c.snapshot? m = none := by
  simp [snapshot?, mapM_eq_none hm (functionSnapshot?_eq_none hf hloop m)]

end Looping

end Context

end FrontEnd.Ir
