import FrontEnd.Ir.Snapshot.Draft
import FrontEnd.Proofs.Ir.Structure
import FrontEnd.Proofs.Ir.TypeText
import FrontEnd.Proofs.Records

/-!
Snapshots as MessagePack documents. A snapshot is read back from its document exactly when it can be
written: when no text, no list and no index is too large for the format. Of the snapshots that are
taken of modules, only the texts have to be asked for, since the numbers of values run out before
the lengths of lists do.
-/
namespace FrontEnd.Ir

open Pack (Short Sets FieldsFit fits_arr asList?_fits readRecord?)

structure ArgSnapshot.Fits (a : ArgSnapshot) : Prop where
  low : -9223372036854775808 ≤ a.index
  high : a.index < 9223372036854775808
  name : Short a.name
  type : Short a.type

structure InstSnapshot.Fits (i : InstSnapshot) : Prop where
  result : Short i.result
  op : Short i.op
  type : Short i.type
  operands : Short i.operands
  operand : ∀ o ∈ i.operands, Short o

/-- A list that can be written, if it is there. -/
def ListFits {α : Type} (P : α → Prop) (o : Option (List α)) : Prop :=
  ∀ xs, o = some xs → Short xs ∧ ∀ x ∈ xs, P x

structure BlockSnapshot.Fits (b : BlockSnapshot) : Prop where
  label : Short b.label
  instructions : ListFits InstSnapshot.Fits b.instructions

structure FunctionSnapshot.Fits (f : FunctionSnapshot) : Prop where
  name : Short f.name
  signature : Short f.signature
  args : Short f.args
  arg : ∀ a ∈ f.args, a.Fits
  body : ∀ b, f.body = some b → b.Fits

/-- A snapshot that can be written: its texts and lists have lengths of 32 bits, and the indices of
arguments have 64. -/
structure Snapshot.Fits (s : Snapshot) : Prop where
  path : Short s.path
  functions : ListFits FunctionSnapshot.Fits s.functions

theorem mapM_asText? (ts : List Bytes) : (ts.map Pack.str).mapM Pack.asText? = some ts := by
  induction ts with
  | nil => rfl
  | cons t ts ih =>
    rw [List.map_cons, List.mapM_cons, ih]
    rfl

theorem fill_map {α β : Type} {blank : β} {f : β → Pack → Option β} {pack : α → Pack} {g : α → β}
    {xs : List α} (h : ∀ x ∈ xs, f blank (pack x) = some (g x)) :
    Slots.fill blank f [] (xs.map pack) = some (xs.map g, []) := by
  induction xs with
  | nil => rfl
  | cons x xs ih =>
    have hx := h x (by simp)
    have hxs := ih fun y hy => h y (by simp [hy])
    simp only [List.map_cons, Slots.fill, List.head?_nil, Option.getD_none, hx, List.tail_nil, hxs,
      Option.bind_eq_bind, Option.bind_some, Option.pure_def]

/-- What is read of a block before it is done. -/
def BlockSnapshot.draft (b : BlockSnapshot) : BlockDraft where
  label := b.label
  instructions := { shown := b.instructions }

/-- What is read of a function before it is done; of no arguments there is no list. -/
def FunctionSnapshot.draft (f : FunctionSnapshot) : FunctionDraft where
  name := f.name
  signature := f.signature
  args := { shown := if f.args = [] then none else some f.args }
  body := f.body.map BlockSnapshot.draft

theorem FunctionSnapshot.done_draft (f : FunctionSnapshot) : f.draft.done = f := by
  obtain ⟨name, signature, args, body⟩ := f
  have hargs : (if args = [] then none else some args).getD [] = args := by
    split
    · rename_i hempty
      rw [hempty, Option.getD_none]
    · rfl
  have hbody : (body.map BlockSnapshot.draft).map BlockDraft.done = body := by
    cases body <;> rfl
  simp only [draft, FunctionDraft.done, hargs, hbody]

namespace Snapshot

theorem read?_instPack (i : InstSnapshot) : InstSnapshot.read? {} (instPack i) = some i := by
  obtain ⟨result, op, type, operands⟩ := i
  unfold InstSnapshot.read? instPack
  apply Sets.readRecord?
  refine (((Sets.textField? (b := { result }) (by decide) rfl ?_).append
    (.field (b := { result, op }) (by decide) rfl)).append
    (.field (b := { result, op, type }) (by decide) rfl)).append (.listField? (by decide) ?_ ?_)
  · rintro rfl
    rfl
  · change ((operands.map Pack.str).mapM Pack.asText?).bind
      (fun operands => some ({ result, op, type, operands } : InstSnapshot)) = _
    rw [mapM_asText?, Option.bind_some]
  · intro hempty
    have hnone : operands = [] := List.map_eq_nil_iff.mp hempty
    rw [hnone]

theorem read?_argPack {a : ArgSnapshot} (h : a.Fits) :
    ArgSnapshot.read? {} (argPack a) = some a := by
  have hlow := h.low
  have hhigh := h.high
  obtain ⟨index, name, type⟩ := a
  dsimp only at hlow hhigh
  have hindex : index.bmod 18446744073709551616 = index :=
    Int.bmod_eq_of_le (by omega) (by omega)
  unfold ArgSnapshot.read? argPack
  apply Sets.readRecord?
  refine ((Sets.field (b := { index }) (by decide) ?_).append
    (.field (b := { index, name }) (by decide) rfl)).append (.field (by decide) rfl)
  change some ({ index := index.bmod 18446744073709551616 } : ArgSnapshot) = _
  rw [hindex]

section Lists

variable {α β : Type} {blank : β} {f : β → Pack → Option β} {pack : α → Pack} {g : α → β}

/-- A list is read onto no places, item by item. -/
theorem read?_arr {xs : List α} (h : ∀ x ∈ xs, f blank (pack x) = some (g x)) :
    Slots.read? blank f {} (.arr (xs.map pack)) = some { shown := some (xs.map g) } := by
  have hfill := fill_map h
  simp only [Slots.read?, Pack.asList?, Option.bind_eq_bind, Option.bind_some, Option.getD_none,
    List.append_nil, hfill, Option.pure_def]

theorem read?_listPack {o : Option (List α)}
    (h : ∀ xs, o = some xs → ∀ x ∈ xs, f blank (pack x) = some (g x)) :
    Slots.read? blank f {} (listPack pack o) = some { shown := o.map (·.map g) } := by
  cases o with
  | none => rfl
  | some xs => exact read?_arr (h xs rfl)

end Lists

theorem read?_blockPack (b : BlockSnapshot) : BlockDraft.read? {} (blockPack b) = some b.draft := by
  obtain ⟨label, instructions⟩ := b
  unfold BlockDraft.read? blockPack
  apply Sets.readRecord?
  refine (Sets.field (b := { label }) (by decide) rfl).append (.field (by decide) ?_)
  change (Slots.read? {} InstSnapshot.read? {} (listPack instPack instructions)).bind
    (fun instructions => some ({ label, instructions } : BlockDraft)) = _
  rw [read?_listPack (g := id) fun _ _ i _ => read?_instPack i]
  simp [BlockSnapshot.draft]

theorem read?_functionPack {f : FunctionSnapshot} (h : f.Fits) :
    FunctionDraft.read? {} (functionPack f) = some f.draft := by
  have harg : ∀ a ∈ f.args, ArgSnapshot.read? {} (argPack a) = some (id a) :=
    fun a ha => read?_argPack (h.arg a ha)
  obtain ⟨name, signature, args, body⟩ := f
  unfold FunctionDraft.read? functionPack
  apply Sets.readRecord?
  refine Sets.append
    (b := { name, signature, args := { shown := if args = [] then none else some args } })
    (((Sets.field (b := { name }) (by decide) rfl).append
      (.field (b := { name, signature }) (by decide) rfl)).append ?_) ?_
  · unfold Pack.listField?
    by_cases hempty : args = []
    · simp only [hempty]
      exact .nil
    · have hitems : (args.map argPack).isEmpty = false := by simpa using hempty
      simp only [hitems, hempty]
      refine .field (by decide) ?_
      change (Slots.read? {} ArgSnapshot.read? {} (.arr (args.map argPack))).bind
        (fun args => some ({ name, signature, args } : FunctionDraft)) = _
      rw [read?_arr harg]
      simp
  · cases body with
    | none => exact .nil
    | some b =>
      refine .field (by decide) ?_
      change ((BlockDraft.read? {} (blockPack b)).bind fun b => some _) = _
      rw [read?_blockPack]
      rfl

theorem ofPack?_toPack {s : Snapshot} (h : s.Fits) : ofPack? s.toPack = some s := by
  have hfunctions := h.functions
  obtain ⟨path, functions⟩ := s
  have hread : Draft.read? {} (toPack ⟨path, functions⟩) =
      some { path, functions := { shown := functions.map (·.map FunctionSnapshot.draft) } } := by
    unfold Draft.read? toPack
    apply Sets.readRecord?
    refine (Sets.textField? (b := { path }) (by decide) rfl ?_).append (.field (by decide) ?_)
    · rintro rfl
      rfl
    · change (Slots.read? {} FunctionDraft.read? {} (listPack functionPack functions)).bind
        (fun functions => some ({ path, functions } : Draft)) = _
      rw [read?_listPack fun fs hfs f hf => read?_functionPack ((hfunctions fs hfs).2 f hf)]
      rfl
  rw [ofPack?, hread, Option.map_some, Draft.done]
  cases functions with
  | none => rfl
  | some fs => simp [Function.comp_def, FunctionSnapshot.done_draft]

end Snapshot

section Written

/-! A snapshot that fits is a document that fits. -/

namespace Snapshot

theorem fits_listPack {α : Type} {P : α → Prop} {pack : α → Pack} {o : Option (List α)}
    (ho : ListFits P o) (hpack : ∀ x, P x → (pack x).Fits) : (listPack pack o).Fits := by
  cases o with
  | none => exact .nil
  | some xs =>
    obtain ⟨hlength, hxs⟩ := ho xs rfl
    exact fits_arr hlength fun x hx => hpack x (hxs x hx)

theorem fits_instPack (i : InstSnapshot) (h : i.Fits) : (instPack i).Fits := by
  have hoperands := fits_arr h.operands fun o ho => Pack.Fits.str (h.operand o ho)
  exact ((((FieldsFit.textField? (by decide) h.result).append
    (.field (by decide) (.str h.op))).append
    (.field (by decide) (.str h.type))).append (.listField? (by decide) hoperands)).map (by decide)

theorem fits_argPack (a : ArgSnapshot) (h : a.Fits) : (argPack a).Fits := by
  have hindex : (Pack.int a.index).Fits := .int h.low (Int.lt_trans h.high (by decide))
  exact (((FieldsFit.field (by decide) hindex).append (.field (by decide) (.str h.name))).append
    (.field (by decide) (.str h.type))).map (by decide)

theorem fits_blockPack (b : BlockSnapshot) (h : b.Fits) : (blockPack b).Fits := by
  have hlines := fits_listPack h.instructions fits_instPack
  exact ((FieldsFit.field (by decide) (.str h.label)).append (.field (by decide) hlines)).map
    (by decide)

theorem fits_functionPack (f : FunctionSnapshot) (h : f.Fits) : (functionPack f).Fits := by
  have hargs := fits_arr h.args fun a ha => fits_argPack a (h.arg a ha)
  have hbody : FieldsFit 1 (f.body.elim [] fun b => Pack.field "body" (blockPack b)) := by
    cases hb : f.body with
    | none => exact .nil
    | some b => exact .field (by decide) (fits_blockPack b (h.body b hb))
  exact ((((FieldsFit.field (by decide) (.str h.name)).append
    (.field (by decide) (.str h.signature))).append (.listField? (by decide) hargs)).append
    hbody).map (by decide)

theorem fits_toPack {s : Snapshot} (h : s.Fits) : s.toPack.Fits := by
  have hfunctions := fits_listPack h.functions fits_functionPack
  exact ((FieldsFit.textField? (by decide) h.path).append (.field (by decide) hfunctions)).map
    (by decide)

/-- The document of a snapshot is all that is written. -/
theorem Fits.decode?_pack {s : Snapshot} (h : s.Fits) :
    Pack.decode? s.pack = some (s.toPack, []) :=
  (fits_toPack h).decode?_encode

theorem Fits.read?_pack {s : Snapshot} (h : s.Fits) : read? s.pack = some s := by
  rw [read?, h.decode?_pack]
  exact ofPack?_toPack h

end Snapshot

end Written

section Read

/-! Whatever document is read, the snapshot that comes of it fits. -/

theorem asText?_short {p : Pack} {s : Bytes} (hp : p.Fits) (h : p.asText? = some s) : Short s := by
  cases hp with
  | nil =>
    cases h
    decide
  | str hs =>
    cases h
    exact hs
  | bin hs =>
    cases h
    exact hs
  | _ => cases h

theorem mapM_asText?_short {items : List Pack} {ts : List Bytes} (hitems : ∀ q ∈ items, q.Fits)
    (h : items.mapM Pack.asText? = some ts) :
    ts.length = items.length ∧ ∀ t ∈ ts, Short t := by
  have hall := mapM_eq_some_iff.mp h
  refine ⟨hall.length_eq.symm, ?_⟩
  intro t ht
  obtain ⟨q, hq, hqt⟩ := exists_of_mem_forall₂ hall.flip ht
  exact asText?_short (hitems q hq) hqt

theorem asRecord?_fits {names : List Bytes} {p : Pack} {entries : List (Bytes × Pack)}
    (hp : p.Fits) (h : p.asRecord? names = some entries) : ∀ e ∈ entries, e.2.Fits := by
  cases hp with
  | nil =>
    cases h
    simp
  | @map fields _ _ hvalues =>
    intro e he
    obtain ⟨f, hf, hfe⟩ := exists_of_mem_forall₂ (mapM_eq_some_iff.mp h).flip he
    obtain ⟨name, -, rfl⟩ := Option.map_eq_some_iff.mp hfe
    exact hvalues f hf
  | @arr items _ hitems =>
    cases items with
    | nil =>
      cases h
      simp
    | cons q items =>
      simp only [Pack.asRecord?] at h
      split at h
      · cases h
        intro e he
        exact hitems e.2 (List.of_mem_zip he).2
      · cases h
  | _ => cases h

theorem foldlM_invariant {α β : Type} {P : α → Prop} {f : α → β → Option α} {xs : List β}
    (hstep : ∀ a x b, x ∈ xs → P a → f a x = some b → P b) {a b : α} (ha : P a)
    (h : xs.foldlM f a = some b) : P b := by
  induction xs generalizing a with
  | nil =>
    cases h
    exact ha
  | cons x xs ih =>
    rw [List.foldlM_cons] at h
    obtain ⟨a', hx, hxs⟩ := Option.bind_eq_some_iff.mp h
    exact ih (fun a y b hy => hstep a y b (List.mem_cons_of_mem x hy))
      (hstep a x a' List.mem_cons_self ha hx) hxs

/-- A reader of documents that fit keeps to records that do. -/
def Keeping {α : Type} (P : α → Prop) (f : α → Pack → Option α) : Prop :=
  ∀ a p b, P a → p.Fits → f a p = some b → P b

theorem readRecord?_keeping {α : Type} {P : α → Prop} {names : List Bytes}
    {set : α → Bytes → Pack → Option α} {blank : α} (hblank : P blank)
    (hset : ∀ k, Keeping P fun a v => set a k v) : Keeping P (readRecord? names set blank) := by
  intro a p b ha hp h
  simp only [readRecord?, Option.bind_eq_bind, Option.bind_eq_some_iff] at h
  obtain ⟨entries, hentries, hfold⟩ := h
  have hfits := asRecord?_fits hp hentries
  refine foldlM_invariant ?_ ?_ hfold
  · rintro a ⟨k, v⟩ b hkv ha hb
    dsimp only at hb
    split at hb
    · exact hset k a v b ha (hfits _ hkv) hb
    · cases hb
      exact ha
  · split
    · exact hblank
    · exact ha

/-- Places whose items fit, also where they do not show. -/
structure Slots.Fits {α : Type} (P : α → Prop) (s : Slots α) : Prop where
  shown : ListFits P s.shown
  hidden : ∀ x ∈ s.hidden, P x

theorem Slots.fits_empty {α : Type} {P : α → Prop} : Slots.Fits P {} := ⟨nofun, by simp⟩

theorem fill_keeping {α : Type} {P : α → Prop} {blank : α} {f : α → Pack → Option α}
    (hblank : P blank) (hf : Keeping P f) {held shown hidden : List α} {items : List Pack}
    (hheld : ∀ x ∈ held, P x) (hitems : ∀ p ∈ items, p.Fits)
    (h : Slots.fill blank f held items = some (shown, hidden)) :
    shown.length = items.length ∧ (∀ x ∈ shown, P x) ∧ ∀ x ∈ hidden, P x := by
  induction items generalizing held shown hidden with
  | nil =>
    cases h
    exact ⟨rfl, by simp, hheld⟩
  | cons p items ih =>
    simp only [Slots.fill, Option.bind_eq_bind, Option.bind_eq_some_iff, Option.pure_def,
      Option.some.injEq, Prod.mk.injEq] at h
    obtain ⟨a, ha, ⟨rest, hidden'⟩, hrest, rfl, rfl⟩ := h
    have hplace : P (held.head?.getD blank) := by
      cases held with
      | nil => exact hblank
      | cons x held => exact hheld x List.mem_cons_self
    obtain ⟨hlength, hshown, hhidden⟩ := ih (fun x hx => hheld x (List.mem_of_mem_tail hx))
      (fun q hq => hitems q (List.mem_cons_of_mem p hq)) hrest
    refine ⟨by simp [hlength], ?_, hhidden⟩
    rw [List.forall_mem_cons]
    exact ⟨hf _ p a hplace (hitems p List.mem_cons_self) ha, hshown⟩

theorem Slots.read?_keeping {α : Type} {P : α → Prop} {blank : α} {f : α → Pack → Option α}
    (hblank : P blank) (hf : Keeping P f) : Keeping (Slots.Fits P) (Slots.read? blank f) := by
  intro s p s' hs hp h
  simp only [Slots.read?, Option.bind_eq_bind, Option.bind_eq_some_iff] at h
  obtain ⟨o, ho, h⟩ := h
  cases o with
  | none =>
    cases h
    exact fits_empty
  | some items =>
    simp only [Option.bind_eq_some_iff, Option.pure_def, Option.some.injEq] at h
    obtain ⟨⟨shown, hidden⟩, hfill, rfl⟩ := h
    obtain ⟨hshort, hitems⟩ := asList?_fits hp ho
    have hheld : ∀ x ∈ s.shown.getD [] ++ s.hidden, P x := by
      intro x hx
      rcases List.mem_append.mp hx with hx | hx
      · cases hshown : s.shown with
        | none => simp [hshown] at hx
        | some xs => exact (hs.shown xs hshown).2 x (by simpa [hshown] using hx)
      · exact hs.hidden x hx
    obtain ⟨hlength, hall, hrest⟩ := fill_keeping hblank hf hheld hitems hfill
    refine ⟨?_, hrest⟩
    rintro xs ⟨⟩
    exact ⟨hshort.of_length_eq hlength, hall⟩

theorem InstSnapshot.fits_blank : InstSnapshot.Fits {} :=
  ⟨by decide, by decide, by decide, by decide, by simp⟩

theorem InstSnapshot.read?_keeping : Keeping InstSnapshot.Fits InstSnapshot.read? := by
  apply readRecord?_keeping fits_blank
  intro k i v j hi hv h
  dsimp only at h
  split at h
  · obtain ⟨t, ht, ⟨⟩⟩ := Option.bind_eq_some_iff.mp h
    exact { hi with result := asText?_short hv ht }
  split at h
  · obtain ⟨t, ht, ⟨⟩⟩ := Option.bind_eq_some_iff.mp h
    exact { hi with op := asText?_short hv ht }
  split at h
  · obtain ⟨t, ht, ⟨⟩⟩ := Option.bind_eq_some_iff.mp h
    exact { hi with type := asText?_short hv ht }
  · obtain ⟨o, ho, h⟩ := Option.bind_eq_some_iff.mp h
    cases o with
    | none =>
      cases h
      exact hi
    | some items =>
      obtain ⟨ts, hts, ⟨⟩⟩ := Option.bind_eq_some_iff.mp h
      obtain ⟨hshort, hitems⟩ := asList?_fits hv ho
      obtain ⟨hlength, htexts⟩ := mapM_asText?_short hitems hts
      exact { hi with operands := hshort.of_length_eq hlength, operand := htexts }

theorem ArgSnapshot.fits_blank : ArgSnapshot.Fits {} :=
  ⟨by decide, by decide, by decide, by decide⟩

theorem ArgSnapshot.read?_keeping : Keeping ArgSnapshot.Fits ArgSnapshot.read? := by
  apply readRecord?_keeping fits_blank
  intro k a v b ha hv h
  dsimp only at h
  split at h
  · obtain ⟨n, -, ⟨⟩⟩ := Option.bind_eq_some_iff.mp h
    have hlow := Int.le_bmod (x := n) (m := 18446744073709551616) (by decide)
    have hhigh := Int.bmod_lt (x := n) (m := 18446744073709551616) (by decide)
    exact { ha with low := by simpa using hlow, high := by simpa using hhigh }
  split at h
  · obtain ⟨t, ht, ⟨⟩⟩ := Option.bind_eq_some_iff.mp h
    exact { ha with name := asText?_short hv ht }
  · obtain ⟨t, ht, ⟨⟩⟩ := Option.bind_eq_some_iff.mp h
    exact { ha with type := asText?_short hv ht }

structure BlockDraft.Fits (b : BlockDraft) : Prop where
  label : Short b.label
  instructions : b.instructions.Fits InstSnapshot.Fits

structure FunctionDraft.Fits (f : FunctionDraft) : Prop where
  name : Short f.name
  signature : Short f.signature
  args : f.args.Fits ArgSnapshot.Fits
  body : ∀ b, f.body = some b → b.Fits

structure Draft.Fits (d : Draft) : Prop where
  path : Short d.path
  functions : d.functions.Fits FunctionDraft.Fits

theorem BlockDraft.fits_blank : BlockDraft.Fits {} := ⟨by decide, Slots.fits_empty⟩

theorem BlockDraft.read?_keeping : Keeping BlockDraft.Fits BlockDraft.read? := by
  apply readRecord?_keeping fits_blank
  intro k b v b' hb hv h
  dsimp only at h
  split at h
  · obtain ⟨t, ht, ⟨⟩⟩ := Option.bind_eq_some_iff.mp h
    exact { hb with label := asText?_short hv ht }
  · obtain ⟨s, hs, ⟨⟩⟩ := Option.bind_eq_some_iff.mp h
    have hread := Slots.read?_keeping InstSnapshot.fits_blank InstSnapshot.read?_keeping
    exact { hb with instructions := hread _ v s hb.instructions hv hs }

theorem FunctionDraft.fits_blank : FunctionDraft.Fits {} :=
  ⟨by decide, by decide, Slots.fits_empty, nofun⟩

theorem FunctionDraft.read?_keeping : Keeping FunctionDraft.Fits FunctionDraft.read? := by
  apply readRecord?_keeping fits_blank
  intro k f v g hf hv h
  dsimp only at h
  split at h
  · obtain ⟨t, ht, ⟨⟩⟩ := Option.bind_eq_some_iff.mp h
    exact { hf with name := asText?_short hv ht }
  split at h
  · obtain ⟨t, ht, ⟨⟩⟩ := Option.bind_eq_some_iff.mp h
    exact { hf with signature := asText?_short hv ht }
  split at h
  · obtain ⟨s, hs, ⟨⟩⟩ := Option.bind_eq_some_iff.mp h
    have hread := Slots.read?_keeping ArgSnapshot.fits_blank ArgSnapshot.read?_keeping
    exact { hf with args := hread _ v s hf.args hv hs }
  split at h
  · cases h
    exact { hf with body := nofun }
  · obtain ⟨b, hb, ⟨⟩⟩ := Option.bind_eq_some_iff.mp h
    have hbefore : (f.body.getD {}).Fits := by
      cases hbody : f.body with
      | none => exact BlockDraft.fits_blank
      | some b => exact hf.body b hbody
    refine { hf with body := ?_ }
    rintro _ ⟨⟩
    exact BlockDraft.read?_keeping _ v b hbefore hv hb

theorem Draft.fits_blank : Draft.Fits {} := ⟨by decide, Slots.fits_empty⟩

theorem Draft.read?_keeping : Keeping Draft.Fits Draft.read? := by
  apply readRecord?_keeping fits_blank
  intro k d v d' hd hv h
  dsimp only at h
  split at h
  · obtain ⟨t, ht, ⟨⟩⟩ := Option.bind_eq_some_iff.mp h
    exact { hd with path := asText?_short hv ht }
  · obtain ⟨s, hs, ⟨⟩⟩ := Option.bind_eq_some_iff.mp h
    have hread := Slots.read?_keeping FunctionDraft.fits_blank FunctionDraft.read?_keeping
    exact { hd with functions := hread _ v s hd.functions hv hs }

theorem FunctionDraft.Fits.done {f : FunctionDraft} (h : f.Fits) : f.done.Fits := by
  have hargs : Short (f.args.shown.getD []) ∧ ∀ a ∈ f.args.shown.getD [], a.Fits := by
    cases hshown : f.args.shown with
    | none => exact ⟨by decide, by simp⟩
    | some args => exact h.args.shown args hshown
  refine ⟨h.name, h.signature, hargs.1, hargs.2, ?_⟩
  intro b hb
  obtain ⟨draft, hdraft, rfl⟩ := Option.map_eq_some_iff.mp hb
  have hfits := h.body draft hdraft
  exact ⟨hfits.label, hfits.instructions.shown⟩

theorem Draft.Fits.done {d : Draft} (h : d.Fits) : d.done.Fits := by
  refine ⟨h.path, ?_⟩
  intro fs hfs
  obtain ⟨drafts, hdrafts, rfl⟩ := Option.map_eq_some_iff.mp hfs
  obtain ⟨hshort, hfits⟩ := h.functions.shown drafts hdrafts
  refine ⟨hshort.of_length_eq (List.length_map _), ?_⟩
  rw [List.forall_mem_map]
  intro f hf
  exact (hfits f hf).done

end Read

/-! The texts of a snapshot. -/

def ArgSnapshot.texts (a : ArgSnapshot) : List Bytes := [a.name, a.type]

def InstSnapshot.texts (i : InstSnapshot) : List Bytes := i.result :: i.op :: i.type :: i.operands

def BlockSnapshot.texts (b : BlockSnapshot) : List Bytes :=
  b.label :: (b.instructions.getD []).flatMap InstSnapshot.texts

def FunctionSnapshot.texts (f : FunctionSnapshot) : List Bytes :=
  f.name :: f.signature :: (f.args.flatMap ArgSnapshot.texts
    ++ (f.body.map BlockSnapshot.texts).getD [])

def Snapshot.texts (s : Snapshot) : List Bytes :=
  s.path :: (s.functions.getD []).flatMap FunctionSnapshot.texts

theorem InstSnapshot.Fits.texts {i : InstSnapshot} (h : i.Fits) : ∀ t ∈ i.texts, Short t := by
  simp only [InstSnapshot.texts, List.forall_mem_cons]
  exact ⟨h.result, h.op, h.type, h.operand⟩

theorem BlockSnapshot.Fits.texts {b : BlockSnapshot} (h : b.Fits) : ∀ t ∈ b.texts, Short t := by
  simp only [BlockSnapshot.texts, List.forall_mem_cons, List.mem_flatMap]
  refine ⟨h.label, ?_⟩
  rintro t ⟨i, hi, ht⟩
  cases hlines : b.instructions with
  | none => simp [hlines] at hi
  | some is =>
    rw [hlines, Option.getD_some] at hi
    exact ((h.instructions is hlines).2 i hi).texts t ht

theorem FunctionSnapshot.Fits.texts {f : FunctionSnapshot} (h : f.Fits) :
    ∀ t ∈ f.texts, Short t := by
  simp only [FunctionSnapshot.texts, List.forall_mem_cons, List.mem_append, List.mem_flatMap]
  refine ⟨h.name, h.signature, ?_⟩
  rintro t (⟨a, ha, ht⟩ | ht)
  · have hfits := h.arg a ha
    simp only [ArgSnapshot.texts, List.mem_cons, List.not_mem_nil, or_false] at ht
    rcases ht with rfl | rfl
    · exact hfits.name
    · exact hfits.type
  · cases hbody : f.body with
    | none => simp [hbody] at ht
    | some b =>
      rw [hbody, Option.map_some, Option.getD_some] at ht
      exact (h.body b hbody).texts t ht

theorem Snapshot.Fits.texts {s : Snapshot} (h : s.Fits) : ∀ t ∈ s.texts, Short t := by
  simp only [Snapshot.texts, List.forall_mem_cons, List.mem_flatMap]
  refine ⟨h.path, ?_⟩
  rintro t ⟨f, hf, ht⟩
  cases hfs : s.functions with
  | none => simp [hfs] at hf
  | some fs =>
    rw [hfs, Option.getD_some] at hf
    exact ((h.functions fs hfs).2 f hf).texts t ht

namespace Context

variable {c : Context} {m : ModuleId} {f : ValueId}

/-- Values that are listed once are few enough for their number to be written. -/
theorem Numbered.short (hn : c.Numbered) {vs : List ValueId} (hnodup : vs.Nodup)
    (hhas : ∀ v ∈ vs, c.Has v) : Short vs := by
  have hlength := length_le_size hnodup hhas
  have hsize := hn.size
  unfold Short
  omega

end Context

namespace Call

end Call

end FrontEnd.Ir
