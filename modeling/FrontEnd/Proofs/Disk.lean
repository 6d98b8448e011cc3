import FrontEnd.Disk
import FrontEnd.Proofs.Path

/-!
What operations on the file tree keep. A path leads to a place that can be told from its spelling
and the current directory alone, whenever it leads anywhere. A file that is moved to a path is read
back from there, and no operation makes a file anywhere else: the others only make directories or
remove.
-/
namespace FrontEnd

namespace Tree

theorem find?_cons (t : Tree) (n : Bytes) (ns : List Bytes) :
    t.find? (n :: ns) = (t.entries.lookup n).bind fun c => c.find? ns := by
  rw [find?]
  cases t.entries.lookup n <;> rfl

theorem find?_append (t : Tree) (ms ns : List Bytes) :
    t.find? (ms ++ ns) = (t.find? ms).bind fun c => c.find? ns := by
  induction ms generalizing t with
  | nil => rfl
  | cons m ms ih =>
    rw [List.cons_append, find?_cons, find?_cons]
    cases t.entries.lookup m with
    | none => rfl
    | some c => exact ih c

theorem entries_dir (es : List (Bytes × Tree)) : (dir es).entries = es := rfl

theorem lookup_cons_eq (m k : Bytes) (c : Tree) (es : List (Bytes × Tree)) :
    ((k, c) :: es).lookup m = if m = k then some c else es.lookup m := by
  by_cases hm : m = k
  · simp [hm]
  · have hmk : (m == k) = false := by simpa using hm
    rw [List.lookup_cons, hmk, if_neg hm]

theorem lookup_setEntry (n : Bytes) (t : Tree) (es : List (Bytes × Tree)) (m : Bytes) :
    (setEntry n t es).lookup m = if m = n then some t else es.lookup m := by
  induction es with
  | nil => rw [setEntry, lookup_cons_eq]
  | cons e es ih =>
    obtain ⟨k, c⟩ := e
    by_cases hk : k = n
    · subst hk
      rw [setEntry, if_pos rfl, lookup_cons_eq, lookup_cons_eq]
      by_cases hm : m = k <;> simp [hm]
    · rw [setEntry, if_neg hk, lookup_cons_eq, lookup_cons_eq, ih]
      by_cases hm : m = k
      · simp [hm, hk]
      · simp [hm]

theorem lookup_filter (n : Bytes) (es : List (Bytes × Tree)) (m : Bytes) :
    (es.filter (·.1 ≠ n)).lookup m = if m = n then none else es.lookup m := by
  induction es with
  | nil => simp
  | cons e es ih =>
    obtain ⟨k, t⟩ := e
    rw [List.filter_cons, lookup_cons_eq]
    by_cases hk : k = n
    · rw [if_neg (by simp [hk]), ih, hk]
      by_cases hm : m = n <;> simp [hm]
    · rw [if_pos (by simp [hk]), lookup_cons_eq, ih]
      by_cases hm : m = k
      · simp [hm, hk]
      · simp [hm]

theorem find?_put_self (t : Tree) (ns : List Bytes) (new : Tree) :
    (t.put ns new).find? ns = some new := by
  induction ns generalizing t with
  | nil => rfl
  | cons n ns ih =>
    rw [put, find?_cons, entries_dir, lookup_setEntry, if_pos rfl]
    exact ih _

/-- A file in a tree with something put into it belongs to that, or was there before. -/
theorem find?_put_file {t : Tree} {ns : List Bytes} {new : Tree} {ms : List Bytes} {b : Bytes}
    (h : (t.put ns new).find? ms = some (.file b)) :
    (∃ r, ms = ns ++ r ∧ new.find? r = some (.file b)) ∨ t.find? ms = some (.file b) := by
  induction ns generalizing t ms with
  | nil => exact .inl ⟨ms, rfl, h⟩
  | cons n ns ih =>
    cases ms with
    | nil => cases h
    | cons m ms =>
      rw [put, find?_cons, entries_dir, lookup_setEntry] at h
      by_cases hm : m = n
      · subst hm
        rw [if_pos rfl, Option.bind_some] at h
        rcases ih h with ⟨r, rfl, hr⟩ | hold
        · exact .inl ⟨r, rfl, hr⟩
        · right
          rw [find?_cons]
          cases hc : t.entries.lookup m with
          | some c =>
            rw [hc] at hold
            exact hold
          | none =>
            rw [hc, Option.getD_none] at hold
            cases ms <;> cases hold
      · rw [if_neg hm] at h
        exact .inr (by rw [find?_cons]; exact h)

/-- A directory stays one, with all its names, when something is put where no directory was. -/
theorem find?_put_dir {t : Tree} {ns : List Bytes} (hns : ∀ es, t.find? ns ≠ some (.dir es))
    (new : Tree) {ms : List Bytes} {es : List (Bytes × Tree)} (h : t.find? ms = some (.dir es)) :
    ∃ es', (t.put ns new).find? ms = some (.dir es') ∧
      ∀ p, (es.lookup p).isSome = true → (es'.lookup p).isSome = true := by
  induction ns generalizing t ms with
  | nil =>
    exfalso
    cases ms with
    | nil => exact hns es h
    | cons m ms =>
      rw [find?_cons] at h
      cases t with
      | dir es' => exact hns es' rfl
      | file b => cases h
      | device d => cases h
  | cons n ns ih =>
    cases ms with
    | nil =>
      cases h
      refine ⟨_, rfl, ?_⟩
      intro p hp
      rw [lookup_setEntry]
      split
      · rfl
      · exact hp
    | cons m ms =>
      rw [put, find?_cons, entries_dir, lookup_setEntry]
      rw [find?_cons] at h
      by_cases hm : m = n
      · subst hm
        obtain ⟨c, hc, hfind⟩ := Option.bind_eq_some_iff.mp h
        rw [if_pos rfl, Option.bind_some, hc, Option.getD_some]
        refine ih ?_ hfind
        intro es' hdir
        exact hns es' (by rw [find?_cons, hc]; exact hdir)
      · rw [if_neg hm]
        exact ⟨es, h, fun p hp => hp⟩

/-- Removing makes no file. -/
theorem find?_erase_file {t : Tree} {ns ms : List Bytes} {b : Bytes}
    (h : (t.erase ns).find? ms = some (.file b)) : t.find? ms = some (.file b) := by
  induction t, ns using erase.induct generalizing ms with
  | case1 t => simpa [erase] using h
  | case2 n es =>
    rw [erase] at h
    cases ms with
    | nil => cases h
    | cons m ms =>
      rw [find?_cons, entries_dir, lookup_filter] at h
      rw [find?_cons, entries_dir]
      by_cases hm : m = n
      · rw [if_pos hm] at h
        cases h
      · rwa [if_neg hm] at h
  | case3 t n ht =>
    rw [erase] at h
    · exact h
    · exact ht
  | case4 t n m ns c hc ih =>
    rw [erase, hc] at h
    cases ms with
    | nil => cases h
    | cons k ms =>
      rw [find?_cons, entries_dir, lookup_setEntry] at h
      rw [find?_cons]
      by_cases hk : k = n
      · rw [if_pos hk] at h
        rw [hk, hc]
        exact ih h
      · rwa [if_neg hk] at h
  | case5 t n m ns hc =>
    rw [erase, hc] at h
    exact h

end Tree

namespace Disk

/-- Where a piece of a path leads from a directory given as names reversed. -/
def follow (here : List Bytes) (piece : Bytes) : List Bytes :=
  if piece = [] ∨ piece = Path.dot then here
  else if piece = Path.dotDot then here.tail
  else piece :: here

/-- Where a path starts. -/
def start (d : Disk) (p : Bytes) : List Bytes := if Path.isAbsolute p then [] else d.cwd.reverse

/-- Where a path leads by its spelling, as names from the root. -/
def place (d : Disk) (p : Bytes) : List Bytes := ((Path.pieces p).foldl follow (d.start p)).reverse

theorem place_congr {d d' : Disk} (h : d'.cwd = d.cwd) (p : Bytes) : d'.place p = d.place p := by
  rw [place, place, start, start, h]

/-- A directory with the given entries lets a piece of a path pass. -/
def Passes (es : List (Bytes × Tree)) (piece : Bytes) : Prop :=
  piece = [] ∨ piece = Path.dot ∨ piece = Path.dotDot ∨
    piece.length ≤ longestName ∧ (es.lookup piece).isSome = true

/-- A walk goes on behind a piece that a directory lets pass. -/
theorem walk_cons_ok_iff {root : Tree} {here ps r : List Bytes} {p : Bytes} :
    walk root here (p :: ps) = .ok r ↔
      ∃ es, root.find? here.reverse = some (.dir es) ∧ Passes es p ∧
        walk root (follow here p) ps = .ok r := by
  rw [walk]
  cases root.find? here.reverse with
  | none => simp
  | some t =>
    cases t with
    | file b => simp
    | device b => simp
    | dir es =>
      simp only [Option.some.injEq, Tree.dir.injEq, Passes, follow, exists_eq_left', ← or_assoc]
      by_cases hdot : p = [] ∨ p = Path.dot
      · simp [hdot]
      by_cases hup : p = Path.dotDot
      · rw [if_neg hdot, if_pos hup, if_neg hdot, if_pos hup]
        simp [hup]
      rw [if_neg hdot, if_neg hup, if_neg hdot, if_neg hup]
      by_cases hlong : p.length > longestName
      · simp [hdot, hup, hlong, Nat.not_le.mpr hlong]
      · rw [if_neg hlong]
        by_cases hin : (es.lookup p).isSome = true
        · simp [hin, Nat.not_lt.mp hlong]
        · simp [hdot, hup, hin]

/-- A walk that succeeds ends where the spelling leads. -/
theorem walk_eq {root : Tree} {here ps r : List Bytes} (h : walk root here ps = .ok r) :
    r = ps.foldl follow here := by
  induction ps generalizing here with
  | nil => cases h; rfl
  | cons p ps ih =>
    obtain ⟨es, -, -, hrest⟩ := walk_cons_ok_iff.mp h
    exact ih hrest

theorem walk_append {root : Tree} {here mid ps : List Bytes} (h : walk root here ps = .ok mid)
    {qs r : List Bytes} (hqs : walk root mid qs = .ok r) : walk root here (ps ++ qs) = .ok r := by
  induction ps generalizing here with
  | nil => cases h; exact hqs
  | cons p ps ih =>
    obtain ⟨es, hdir, hpass, hrest⟩ := walk_cons_ok_iff.mp h
    exact walk_cons_ok_iff.mpr ⟨es, hdir, hpass, ih hrest⟩

/-- Walks go on as before when something is put where no directory was. -/
theorem walk_put {root : Tree} {ns : List Bytes} (hns : ∀ es, root.find? ns ≠ some (.dir es))
    (new : Tree) {here ps r : List Bytes} (h : walk root here ps = .ok r) :
    walk (root.put ns new) here ps = .ok r := by
  induction ps generalizing here with
  | nil => exact h
  | cons p ps ih =>
    obtain ⟨es, hdir, hpass, hrest⟩ := walk_cons_ok_iff.mp h
    obtain ⟨es', hdir', hnames⟩ := Tree.find?_put_dir hns new hdir
    refine walk_cons_ok_iff.mpr ⟨es', hdir', ?_, ih hrest⟩
    rcases hpass with hp | hp | hp | ⟨hlong, hin⟩
    · exact .inl hp
    · exact .inr (.inl hp)
    · exact .inr (.inr (.inl hp))
    · exact .inr (.inr (.inr ⟨hlong, hnames p hin⟩))

theorem walks_of_resolve {d : Disk} {p : Bytes} {ns : List Bytes} (h : d.resolve p = .ok ns) :
    (p.elem 0 = false ∧ p ≠ [] ∧ p.length ≤ longestPath) ∧
      ∃ r, walk d.root (d.start p) (Path.pieces p) = .ok r ∧ ns = r.reverse := by
  unfold resolve at h
  by_cases hzero : p.elem 0 = true
  · rw [if_pos hzero] at h; cases h
  by_cases hnil : p = []
  · rw [if_neg hzero, if_pos hnil] at h; cases h
  by_cases hlong : p.length > longestPath
  · rw [if_neg hzero, if_neg hnil, if_pos hlong] at h; cases h
  rw [if_neg hzero, if_neg hnil, if_neg hlong] at h
  refine ⟨⟨by simpa using hzero, hnil, Nat.not_lt.mp hlong⟩, ?_⟩
  cases hwalk : walk d.root (if Path.isAbsolute p then [] else d.cwd.reverse) (Path.pieces p) with
  | error f => rw [hwalk] at h; cases h
  | ok r =>
    rw [hwalk] at h
    cases h
    exact ⟨r, hwalk, rfl⟩

theorem resolve_eq {d : Disk} {p : Bytes} {ns : List Bytes} (h : d.resolve p = .ok ns) :
    ns = d.place p := by
  obtain ⟨-, r, hwalk, rfl⟩ := walks_of_resolve h
  rw [walk_eq hwalk]
  rfl

/-- What is read at a path stands at its place, unless it is nothing. -/
theorem read_eq {d : Disk} {p b : Bytes} (h : d.read p = .ok b) (hb : b ≠ []) :
    d.root.find? (d.place p) = some (.file b) := by
  unfold read get at h
  cases hr : d.resolve p with
  | error f => rw [hr] at h; cases h
  | ok ns =>
    rw [← resolve_eq hr]
    rw [hr] at h
    simp only at h
    cases hf : d.root.find? ns with
    | none => rw [hf] at h; cases h
    | some t =>
      rw [hf] at h
      cases t with
      | file c => cases h; rfl
      | device e =>
        cases e with
        | null => cases h; exact absurd rfl hb
        | full => cases h
      | dir es => cases h

/-- A disk with no file that was not there before. -/
structure NoNewFile (d d' : Disk) : Prop where
  cwd : d'.cwd = d.cwd
  old : ∀ ns b, d'.root.find? ns = some (.file b) → d.root.find? ns = some (.file b)

theorem NoNewFile.refl (d : Disk) : NoNewFile d d := ⟨rfl, fun _ _ h => h⟩

theorem NoNewFile.trans {d₁ d₂ d₃ : Disk} (h : NoNewFile d₁ d₂) (h' : NoNewFile d₂ d₃) :
    NoNewFile d₁ d₃ :=
  ⟨h'.cwd.trans h.cwd, fun ns b hb => h.old ns b (h'.old ns b hb)⟩

theorem NoNewFile.putDir (d : Disk) (ns : List Bytes) :
    NoNewFile d { d with root := d.root.put ns (.dir []) } := by
  refine ⟨rfl, ?_⟩
  intro ms b h
  rcases Tree.find?_put_file h with ⟨r, -, hr⟩ | hold
  · cases r <;> cases hr
  · exact hold

/-- A directory that is refused leaves the disk as it is, also when there is one already. -/
theorem refused_noNewFile (d : Disk) (p : Bytes) (f : Fault) :
    NoNewFile d (match d.get p with
      | .ok (.dir _) => ((none : Option Error), d)
      | _ => (some ⟨"mkdir", p, f⟩, d)).2 := by
  split <;> exact NoNewFile.refl d

theorem makeDir_noNewFile (d : Disk) (p : Bytes) : NoNewFile d (d.makeDir p).2 := by
  unfold makeDir
  dsimp only
  split
  · exact d.refused_noNewFile p _
  · exact d.refused_noNewFile p _
  · split
    · exact d.refused_noNewFile p _
    · exact d.refused_noNewFile p _
    · exact NoNewFile.putDir d _

theorem makeDirs_noNewFile (d : Disk) (p : Bytes) : NoNewFile d (d.makeDirs p).2 := by
  induction hlen : p.length using Nat.strongRecOn generalizing p with
  | _ k ih =>
    rw [makeDirs]
    split
    · exact NoNewFile.refl d
    · exact NoNewFile.refl d
    · exact NoNewFile.refl d
    · have habove : NoNewFile d (if h : lead p = [] then ((none : Option Error), d) else
          d.makeDirs (lead p)).2 := by
        split
        · exact NoNewFile.refl d
        · rename_i hlead
          exact ih _ (hlen ▸ lead_length hlead) _ rfl
      dsimp only
      generalize
        (if h : lead p = [] then ((none : Option Error), d) else d.makeDirs (lead p)) = above
        at habove
      obtain ⟨e, d'⟩ := above
      cases e with
      | some e => exact habove
      | none => exact habove.trans (d'.makeDir_noNewFile p)

theorem removeAll_noNewFile (d : Disk) (p : Bytes) : NoNewFile d (d.removeAll p) := by
  unfold removeAll
  split
  · exact ⟨rfl, fun _ _ h => Tree.find?_erase_file h⟩
  · exact NoNewFile.refl d

/-- What the place of a file is: a name in a directory that the path before it leads to, at which
there is no directory. -/
structure Vacant (d : Disk) (p : Bytes) (up : List Bytes) (name : Bytes) (here : List Bytes) :
    Prop where
  pieces : Path.pieces p = up ++ [name]
  named : Path.Name name
  short : name.length ≤ longestName
  walk : walk d.root (d.start p) up = .ok here
  isDir : ∃ es, d.root.find? here.reverse = some (.dir es)
  noDir : ∀ es, d.root.find? (here.reverse ++ [name]) ≠ some (.dir es)
  resolves : p.elem 0 = false ∧ p ≠ [] ∧ p.length ≤ longestPath

theorem creationFault_eq_none {d : Disk} {s : Spot} (h : d.creationFault s = none) :
    ∃ name, s.name = some name ∧ s.slashed = false ∧ name.length ≤ longestName ∧
      ∀ es, d.root.find? (s.dir ++ [name]) ≠ some (.dir es) := by
  unfold creationFault at h
  cases hname : s.name with
  | none => rw [hname] at h; cases h
  | some name =>
    rw [hname] at h
    simp only at h
    cases hslash : s.slashed with
    | true => rw [hslash] at h; cases h
    | false =>
      rw [hslash] at h
      simp only [Bool.false_eq_true, if_false, entry] at h
      by_cases hlong : name.length > longestName
      · rw [if_pos hlong] at h
        cases h
      · rw [if_neg hlong] at h
        refine ⟨name, rfl, rfl, Nat.not_lt.mp hlong, ?_⟩
        intro es hes
        rw [hes] at h
        cases h

/-- The place that a path leads to is that of its last piece. -/
theorem spot_eq {d : Disk} {p : Bytes} {s : Spot} (h : d.spot p = .ok s) {name : Bytes}
    (hname : s.name = some name) (hslash : s.slashed = false) :
    (p.elem 0 = false ∧ p ≠ [] ∧ p.length ≤ longestPath) ∧
      ∃ up here, Path.pieces p = up ++ [name] ∧ Path.Name name ∧
        Disk.walk d.root (d.start p) up = .ok here ∧ s.dir = here.reverse ∧
        ∃ es, d.root.find? here.reverse = some (.dir es) := by
  unfold spot at h
  by_cases hzero : p.elem 0 = true
  · rw [if_pos hzero] at h; cases h
  by_cases hnil : p = []
  · rw [if_neg hzero, if_pos hnil] at h; cases h
  by_cases hlong : p.length > longestPath
  · rw [if_neg hzero, if_neg hnil, if_pos hlong] at h; cases h
  rw [if_neg hzero, if_neg hnil, if_neg hlong] at h
  refine ⟨⟨by simpa using hzero, hnil, Nat.not_lt.mp hlong⟩, ?_⟩
  cases hrev : (Path.pieces p).reverse.dropWhile (· = []) with
  | nil => rw [hrev] at h; cases h; cases hname
  | cons last up =>
    rw [hrev] at h
    simp only at h
    cases hw : Disk.walk d.root (if Path.isAbsolute p then [] else d.cwd.reverse) up.reverse with
    | error f => rw [hw] at h; cases h
    | ok here =>
      rw [hw] at h
      simp only at h
      cases hfind : d.root.find? here.reverse with
      | none => rw [hfind] at h; cases h
      | some t =>
        rw [hfind] at h
        cases t with
        | file b => cases h
        | device e => cases h
        | dir es =>
          cases h
          obtain ⟨init, z, hpieces, hznil, hplain⟩ :=
            Path.pieces_eq_concat hnil (by simpa using hslash)
          rw [hpieces, List.reverse_append] at hrev
          simp only [List.reverse_cons, List.reverse_nil, List.nil_append, List.cons_append,
            List.dropWhile_cons, hznil, decide_false, Bool.false_eq_true, if_false] at hrev
          cases hrev
          rw [List.reverse_reverse] at hw
          simp only at hname
          split at hname
          · cases hname
          · rename_i hdots
            cases hname
            exact ⟨init, here, hpieces,
              ⟨hznil, fun h => hdots (.inl h), fun h => hdots (.inr h), hplain⟩,
              hw, rfl, es, hfind⟩

theorem filePlace_eq {d : Disk} {p : Bytes} {ns : List Bytes} (h : d.filePlace p = .ok ns) :
    ∃ up name here, d.Vacant p up name here ∧ ns = here.reverse ++ [name] := by
  unfold filePlace at h
  cases hs : d.spot p with
  | error f => rw [hs] at h; cases h
  | ok s =>
    rw [hs] at h
    simp only at h
    cases hf : d.creationFault s with
    | some f => rw [hf] at h; cases h
    | none =>
      rw [hf] at h
      cases h
      obtain ⟨name, hname, hslash, hshort, hnoDir⟩ := creationFault_eq_none hf
      obtain ⟨hresolves, up, here, hpieces, hnamed, hwalk, hdir, hisDir⟩ := spot_eq hs hname hslash
      rw [hdir] at hnoDir ⊢
      rw [hname]
      exact ⟨up, name, here, ⟨hpieces, hnamed, hshort, hwalk, hisDir, hnoDir, hresolves⟩, rfl⟩

theorem Vacant.place_eq {d : Disk} {p : Bytes} {up here : List Bytes} {name : Bytes}
    (h : d.Vacant p up name here) : d.place p = here.reverse ++ [name] := by
  rw [place, h.pieces, List.foldl_append, ← walk_eq h.walk]
  simp [follow, h.named.ne_nil, h.named.ne_dot, h.named.ne_dotDot]

/-- A file moved to a path stands at its place and nowhere else. -/
theorem replaceFile_eq {d d' : Disk} {p content : Bytes} (h : d.replaceFile p content = .ok d') :
    d' = { d with root := d.root.put (d.place p) (.file content) } := by
  unfold replaceFile at h
  cases hns : d.filePlace p with
  | error e => rw [hns] at h; cases h
  | ok ns =>
    rw [hns] at h
    cases h
    obtain ⟨up, name, here, hv, rfl⟩ := filePlace_eq hns
    rw [hv.place_eq]

/-- Writing a file changes what stands at its place, unless a device is there. -/
theorem writeFile_eq {d d' : Disk} {p content : Bytes} (h : d.writeFile p content = .ok d') :
    d' = d ∨ d' = { d with root := d.root.put (d.place p) (.file content) } := by
  unfold writeFile at h
  cases hns : d.filePlace p with
  | error e => rw [hns] at h; cases h
  | ok ns =>
    obtain ⟨up, name, here, hv, rfl⟩ := filePlace_eq hns
    rw [hns] at h
    rw [hv.place_eq]
    dsimp only at h
    split at h
    · exact .inl (Except.ok.inj h).symm
    · split at h
      · exact .inl (Except.ok.inj h).symm
      · cases h
    · exact .inr (Except.ok.inj h).symm

/-- A file moved to a path is read back. -/
theorem read_replaceFile {d d' : Disk} {p content : Bytes} (h : d.replaceFile p content = .ok d') :
    d'.read p = .ok content := by
  have hd' := replaceFile_eq h
  unfold replaceFile at h
  cases hns : d.filePlace p with
  | error e => rw [hns] at h; cases h
  | ok ns =>
    obtain ⟨up, name, here, hv, -⟩ := filePlace_eq hns
    obtain ⟨hzero, hnil, hlong⟩ := hv.resolves
    obtain ⟨es, hes⟩ := hv.isDir
    have hfind := Tree.find?_put_self d.root (here.reverse ++ [name]) (.file content)
    rw [hv.place_eq] at hd'
    subst hd'
    obtain ⟨es', hes', -⟩ := Tree.find?_put_dir hv.noDir (.file content) hes
    have hin : es'.lookup name = some (.file content) := by
      rw [Tree.find?_append, hes', Option.bind_some, Tree.find?_cons, Tree.entries_dir] at hfind
      obtain ⟨t, ht, hfile⟩ := Option.bind_eq_some_iff.mp hfind
      cases hfile
      exact ht
    have hwalk :
        walk (d.root.put (here.reverse ++ [name]) (.file content)) (d.start p) (Path.pieces p) =
          .ok (name :: here) := by
      rw [hv.pieces]
      refine walk_append (walk_put hv.noDir _ hv.walk) (walk_cons_ok_iff.mpr ⟨es', hes', ?_, ?_⟩)
      · exact .inr (.inr (.inr ⟨hv.short, by simp [hin]⟩))
      · simp [follow, walk, hv.named.ne_nil, hv.named.ne_dot, hv.named.ne_dotDot]
    unfold start at hwalk
    have hresolve :
        resolve { d with root := d.root.put (here.reverse ++ [name]) (.file content) } p =
          .ok (here.reverse ++ [name]) := by
      simp only [resolve, hzero, hnil, Nat.not_lt.mpr hlong, Bool.false_eq_true, if_false, hwalk]
      simp [Except.map]
    simp only [read, get, hresolve, hfind]

theorem walk_concat {root : Tree} {here ps r : List Bytes} {q : Bytes}
    (h : walk root here (ps ++ [q]) = .ok r) :
    ∃ mid, walk root here ps = .ok mid ∧ walk root mid [q] = .ok r := by
  induction ps generalizing here with
  | nil => exact ⟨here, rfl, h⟩
  | cons p ps ih =>
    obtain ⟨es, hdir, hpass, hrest⟩ := walk_cons_ok_iff.mp h
    obtain ⟨mid, hmid, hlast⟩ := ih hrest
    exact ⟨mid, walk_cons_ok_iff.mpr ⟨es, hdir, hpass, hmid⟩, hlast⟩

/-- Above a directory there is a directory. -/
theorem find?_tail {root : Tree} {here : List Bytes} {es : List (Bytes × Tree)}
    (h : root.find? here.reverse = some (.dir es)) :
    ∃ es', root.find? here.tail.reverse = some (.dir es') := by
  cases here with
  | nil => exact ⟨es, h⟩
  | cons n here =>
    rw [List.reverse_cons, Tree.find?_append] at h
    obtain ⟨t, ht, hn⟩ := Option.bind_eq_some_iff.mp h
    cases t with
    | dir es' => exact ⟨es', ht⟩
    | file b => cases hn
    | device e => cases hn

/-- A path to what is no directory ends in a name. -/
theorem last_of_walk {d : Disk} {p : Bytes} {r : List Bytes} {t : Tree}
    (h : walk d.root (d.start p) (Path.pieces p) = .ok r) (hfind : d.root.find? r.reverse = some t)
    (hfile : ∀ es, t ≠ .dir es) :
    ∃ up name here es, Path.pieces p = up ++ [name] ∧ name ≠ [] ∧
      ¬(name = Path.dot ∨ name = Path.dotDot) ∧ name.length ≤ longestName ∧
      walk d.root (d.start p) up = .ok here ∧ d.root.find? here.reverse = some (.dir es) ∧
      r = name :: here := by
  obtain ⟨up, name, hpieces⟩ : ∃ up name, Path.pieces p = up ++ [name] :=
    ⟨_, _, (List.dropLast_concat_getLast (Path.piecesFrom_ne_nil [] p)).symm⟩
  rw [hpieces] at h
  obtain ⟨here, hhere, hlast⟩ := walk_concat h
  obtain ⟨es, hdir, hpass, hend⟩ := walk_cons_ok_iff.mp hlast
  obtain rfl : follow here name = r := Except.ok.inj hend
  have hnone : ∀ {es}, d.root.find? (follow here name).reverse ≠ some (.dir es) := by
    intro es hes
    rw [hes] at hfind
    exact hfile es (Option.some.inj hfind).symm
  have hstay : ¬(name = [] ∨ name = Path.dot) := by
    intro hname
    rw [follow, if_pos hname] at hnone
    exact hnone hdir
  have hup : name ≠ Path.dotDot := by
    intro hname
    rw [follow, if_neg hstay, if_pos hname] at hnone
    obtain ⟨es', hes'⟩ := find?_tail hdir
    exact hnone hes'
  rw [not_or] at hstay
  refine ⟨up, name, here, es, hpieces, hstay.1, not_or.mpr ⟨hstay.2, hup⟩, ?_, hhere, hdir, ?_⟩
  · rcases hpass with hp | hp | hp | ⟨hshort, -⟩
    · exact absurd hp hstay.1
    · exact absurd hp hstay.2
    · exact absurd hp hup
    · exact hshort
  · rw [follow, if_neg (not_or.mpr hstay), if_neg hup]

/-- Where a path leads to a file, a file can be written. -/
theorem filePlace_of_get {d : Disk} {p : Bytes} {t : Tree} (h : d.get p = .ok t)
    (hfile : ∀ es, t ≠ .dir es) :
    ∃ ns, d.filePlace p = .ok ns ∧ d.root.find? ns = some t := by
  unfold get at h
  cases hres : d.resolve p with
  | error f => rw [hres] at h; cases h
  | ok ns =>
    have hfind : d.root.find? ns = some t := by
      rw [hres] at h
      dsimp only at h
      split at h
      · cases h
        assumption
      · cases h
    obtain ⟨⟨hzero, hnil, hlong⟩, r, hwalk, rfl⟩ := walks_of_resolve hres
    obtain ⟨up, name, here, es, hpieces, hname, hdots, hshort, hhere, hdir, rfl⟩ :=
      last_of_walk hwalk hfind hfile
    rw [List.reverse_cons] at hfind
    have hslash : p.getLast? ≠ some Path.slash := by
      intro hlast
      obtain ⟨q, rfl⟩ := List.getLast?_eq_some_iff.mp hlast
      rw [Path.pieces_slash q []] at hpieces
      exact hname (List.singleton_inj.mp (List.append_inj_right' hpieces rfl)).symm
    have hspot : d.spot p = .ok ⟨here.reverse, some name, false⟩ := by
      have hplain : 0 ∉ p := by simpa using hzero
      unfold start at hhere
      simp [spot, hplain, hnil, Nat.not_lt.mpr hlong, hpieces, hname, hhere, hdir, hdots, hslash]
    have hfault : d.creationFault ⟨here.reverse, some name, false⟩ = none := by
      simp only [creationFault, Bool.false_eq_true, if_false, entry, Nat.not_lt.mpr hshort, hfind]
      cases t with
      | dir es => exact absurd rfl (hfile es)
      | file b => rfl
      | device e => rfl
    refine ⟨here.reverse ++ [name], ?_, hfind⟩
    rw [filePlace, hspot]
    dsimp only
    rw [hfault]
    rfl

/-- What was read at a path can be replaced there, and the new content is read back. A device that
can be read is read as nothing, and is given nothing. -/
theorem writeFile_back {d : Disk} {p raw content : Bytes} (h : d.read p = .ok raw)
    (hc : raw = [] → content = []) :
    ∃ d', d.writeFile p content = .ok d' ∧ d'.read p = .ok content := by
  have hread := h
  unfold read at h
  cases hget : d.get p with
  | error f => rw [hget] at h; cases h
  | ok t =>
    rw [hget] at h
    cases t with
    | dir es => cases h
    | file b =>
      obtain ⟨ns, hplace, hfind⟩ := filePlace_of_get hget nofun
      refine ⟨{ d with root := d.root.put ns (.file content) }, ?_, ?_⟩
      · rw [writeFile, hplace]
        dsimp only
        rw [hfind]
      · refine read_replaceFile (d := d) ?_
        rw [replaceFile, hplace]
        rfl
    | device e =>
      cases e with
      | full => cases h
      | null =>
        cases h
        obtain rfl := hc rfl
        obtain ⟨ns, hplace, hfind⟩ := filePlace_of_get hget nofun
        refine ⟨d, ?_, hread⟩
        rw [writeFile, hplace]
        dsimp only
        rw [hfind]

end Disk

end FrontEnd
