import FrontEnd.Proofs.CleanPath
import FrontEnd.Proofs.Disk
import FrontEnd.Proofs.Outcomes
import FrontEnd.Workspace.Discovery

/-!
What a search for sources finds. A walk through a tree joins the names it passes to the path it set
out from, so the path of a file tells where in the tree the file stands, and whether the path has
the extension is a matter of the last name. The walk comes to every file that lies behind no hidden
directory, and the answer is put in order at the end.
-/
namespace FrontEnd

namespace Bytes

theorem compare_eq_gt_iff (r s : Bytes) : compare r s = .gt ↔ s < r := by
  induction r generalizing s with
  | nil => cases s <;> simp [compare]
  | cons a r ih =>
    cases s with
    | nil => simp [compare]
    | cons b s =>
      rw [compare, List.cons_lt_cons_iff, ← ih]
      by_cases hab : a = b
      · simp [hab]
      · by_cases hlt : a < b
        · simp [hab, hlt, Ne.symm hab, UInt8.le_of_lt hlt]
        · have hgt : b < a := UInt8.lt_of_le_of_ne (UInt8.not_lt.mp hlt) (Ne.symm hab)
          simp [hab, hlt, hgt]

theorem compare_ne_gt_iff (r s : Bytes) : (compare r s != .gt) = true ↔ r ≤ s := by
  rw [bne_iff_ne, ne_eq, compare_eq_gt_iff]
  exact List.not_lt

/-- Texts of which no two are the same come in strictly ascending order. -/
theorem mergeSort_ascending {xs : List Bytes} (h : xs.Nodup) :
    (xs.mergeSort fun a b => compare a b != .gt).Pairwise (· < ·) := by
  have htrans : ∀ a b c : Bytes, (compare a b != .gt) = true → (compare b c != .gt) = true →
      (compare a c != .gt) = true := by
    simp only [compare_ne_gt_iff]
    exact fun a b c => List.le_trans
  have htotal : ∀ a b : Bytes, (compare a b != .gt || compare b a != .gt) = true := by
    simp only [Bool.or_eq_true, compare_ne_gt_iff]
    exact List.le_total
  refine List.Pairwise.imp₂ ?_ (List.pairwise_mergeSort htrans htotal xs)
    ((List.mergeSort_perm xs _).nodup_iff.mpr h)
  intro a b hle hne
  rw [compare_ne_gt_iff] at hle
  exact List.not_le.mp fun hge => hne (List.le_antisymm hle hge)

end Bytes

namespace Path

/-- The path that a walk has come to when it has passed the names one by one. -/
def below (p : Bytes) (ns : List Bytes) : Bytes := ns.foldl (fun q n => join [q, n]) p

variable {n : Bytes} {ns : List Bytes}

theorem below_cons (p n : Bytes) (ns : List Bytes) :
    below p (n :: ns) = below (join [p, n]) ns := rfl

theorem join_name (p : Bytes) (h : Name n) :
    join [p, n] = spell (isAbsolute p) (elements p ++ [n]) :=
  join_names p (by simpa using h) (.inr (List.cons_ne_nil n []))

theorem canonical_concat (p : Bytes) (h : Name n) :
    Canonical (isAbsolute p) (elements p ++ [n]) :=
  (elements_canonical p).append_names (by simpa using h)

theorem elements_below (p : Bytes) (h : ∀ n ∈ ns, Name n) :
    elements (below p ns) = elements p ++ ns := by
  induction ns generalizing p with
  | nil => exact (List.append_nil _).symm
  | cons n ns ih =>
    rw [List.forall_mem_cons] at h
    rw [below_cons, ih (join [p, n]) h.2, join_name p h.1, (canonical_concat p h.1).elements_spell,
      List.append_assoc, List.singleton_append]

/-- To pass names one by one is to join them all at once. -/
theorem below_eq_join (p : Bytes) (h : ∀ n ∈ ns, Name n) (hne : ns ≠ []) :
    below p ns = join (p :: ns) := by
  induction ns generalizing p with
  | nil => exact absurd rfl hne
  | cons n ns ih =>
    obtain ⟨hn, hns⟩ := List.forall_mem_cons.mp h
    by_cases hlast : ns = []
    · rw [hlast]
      rfl
    · rw [below_cons, ih (join [p, n]) hns hlast, join_names _ hns (.inr hlast),
        join_names p h (.inr hne), join_name p hn, (canonical_concat p hn).isAbsolute_spell,
        (canonical_concat p hn).elements_spell, List.append_assoc, List.singleton_append]

theorem spell_concat (rooted : Bool) (es : List Bytes) (n : Bytes) :
    spell rooted (es ++ [n]) = n ∨ ∃ front, spell rooted (es ++ [n]) = front ++ slash :: n := by
  cases es with
  | nil =>
    cases rooted with
    | true => exact .inr ⟨[], by simp [spell, Bytes.join]⟩
    | false => exact .inl (by simp [spell, Bytes.join])
  | cons e es =>
    right
    cases rooted with
    | true => exact ⟨slash :: (e ++ es.flatMap ([slash] ++ ·)), by simp [spell, Bytes.join]⟩
    | false => exact ⟨e ++ es.flatMap ([slash] ++ ·), by simp [spell, Bytes.join]⟩

/-- What a path ends in, up to the last slash, is what its last name ends in. -/
theorem endsWith_join {tail : Bytes} (htail : slash ∉ tail) (p : Bytes) {dirs : List Bytes}
    (h : ∀ m ∈ dirs ++ [n], Name m) :
    (join (p :: (dirs ++ [n]))).endsWith tail = n.endsWith tail := by
  rw [join_names p h (.inr (by simp)), ← List.append_assoc]
  rcases spell_concat (isAbsolute p) (elements p ++ dirs) n with hname | ⟨front, hfront⟩
  · rw [hname]
  · rw [hfront, Bool.eq_iff_iff, Bytes.endsWith, Bytes.endsWith, List.isSuffixOf_iff_suffix,
      List.isSuffixOf_iff_suffix]
    constructor
    · intro hsuffix
      have hcut : ¬ slash :: n <:+ tail := fun hin => htail (hin.subset List.mem_cons_self)
      rcases List.suffix_or_suffix_of_suffix hsuffix (List.suffix_append front _) with hin | hin
      · rcases List.suffix_cons_iff.mp hin with heq | hin
        · exact absurd (heq ▸ List.suffix_refl _) hcut
        · exact hin
      · exact absurd hin hcut
    · intro hsuffix
      exact hsuffix.trans ((List.suffix_cons slash n).trans (List.suffix_append front _))

end Path

namespace Tree

/-- A tree as a file system has it: in every directory each name is a proper one, and there is one
entry for it. -/
inductive Proper : Tree → Prop where
  | file (content : Bytes) : Proper (.file content)
  | device (d : Device) : Proper (.device d)
  | dir {es : List (Bytes × Tree)} (distinct : (es.map Prod.fst).Nodup)
      (names : ∀ e ∈ es, Path.Name e.1) (inside : ∀ e ∈ es, Proper e.2) : Proper (.dir es)

theorem Proper.names_of_find? {t c : Tree} (ht : t.Proper) {ns : List Bytes}
    (h : t.find? ns = some c) : ∀ n ∈ ns, Path.Name n := by
  induction ht generalizing ns with
  | file content =>
    cases ns with
    | nil => simp
    | cons n ns => cases h
  | device d =>
    cases ns with
    | nil => simp
    | cons n ns => cases h
  | dir distinct names inside ih =>
    cases ns with
    | nil => simp
    | cons n ns =>
      rw [find?_cons, entries_dir] at h
      obtain ⟨c', hlookup, hfind⟩ := Option.bind_eq_some_iff.mp h
      have hmem := (lookup_eq_some_iff_mem distinct).mp hlookup
      exact List.forall_mem_cons.mpr ⟨names _ hmem, ih _ hmem hfind⟩

end Tree

namespace Discovery

variable {t : Tree} {es : List (Bytes × Tree)} {ns : List Bytes}

/-- The names lead to a file, and through no hidden directory. -/
def Reached (t : Tree) (ns : List Bytes) : Prop :=
  (∃ c, t.find? ns = some c ∧ c.isDir = false) ∧ ∀ n ∈ ns.dropLast, isHidden n = false

theorem reached_leaf (h : t.isDir = false) : Reached t ns ↔ ns = [] := by
  constructor
  · rintro ⟨⟨c, hfind, -⟩, -⟩
    cases ns with
    | nil => rfl
    | cons n ns =>
      cases t with
      | dir es => cases h
      | file content => cases hfind
      | device d => cases hfind
  · rintro rfl
    exact ⟨⟨t, rfl, h⟩, by simp⟩

/-- A file in a directory is one of its entries, or lies in an entry that is not hidden. -/
theorem reached_dir (distinct : (es.map Prod.fst).Nodup) : Reached (.dir es) ns ↔
    ∃ e ∈ es, (e.2.isDir && isHidden e.1) = false ∧ ∃ ms, ns = e.1 :: ms ∧ Reached e.2 ms := by
  constructor
  · rintro ⟨⟨c, hfind, hc⟩, hhidden⟩
    cases ns with
    | nil => cases hfind; cases hc
    | cons n ms =>
      rw [Tree.find?_cons, Tree.entries_dir] at hfind
      obtain ⟨t, hlookup, hrest⟩ := Option.bind_eq_some_iff.mp hfind
      refine ⟨(n, t), (lookup_eq_some_iff_mem distinct).mp hlookup, ?_, ms, rfl, ⟨c, hrest, hc⟩, ?_⟩
      · cases ms with
        | nil =>
          cases hrest
          simp [hc]
        | cons m ms => simp [hhidden n (by simp)]
      · cases ms with
        | nil => simp
        | cons m ms => exact fun k hk => hhidden k (List.mem_cons_of_mem n hk)
  · rintro ⟨⟨n, t⟩, hmem, hopen, ms, rfl, ⟨c, hfind, hc⟩, hhidden⟩
    have hlookup := (lookup_eq_some_iff_mem distinct).mpr hmem
    refine ⟨⟨c, by rw [Tree.find?_cons, Tree.entries_dir, hlookup]; exact hfind, hc⟩, ?_⟩
    cases ms with
    | nil => simp
    | cons m ms =>
      -- what lies below the entry makes it a directory
      have hdir : t.isDir = true := by
        cases t with
        | dir es => rfl
        | file content => cases hfind
        | device d => cases hfind
      rw [hdir, Bool.true_and] at hopen
      rw [List.dropLast_cons_of_ne_nil (List.cons_ne_nil m ms)]
      exact List.forall_mem_cons.mpr ⟨hopen, hhidden⟩

theorem sources_leaf (h : t.isDir = false) (p : Bytes) :
    sources p t = if p.endsWith extension then [p] else [] := by
  cases t with
  | dir es => cases h
  | file content => rw [sources]
  | device d => rw [sources]

theorem sources_dir (p : Bytes) (es : List (Bytes × Tree)) :
    sources p (.dir es) = es.flatMap fun e =>
      if e.2.isDir && isHidden e.1 then [] else sources (Path.join [p, e.1]) e.2 := by
  rw [sources]
  conv => rhs; rw [← List.attach_map_subtype_val es, List.flatMap_map]

theorem mem_sources_dir {p x : Bytes} : x ∈ sources p (.dir es) ↔
    ∃ e ∈ es, (e.2.isDir && isHidden e.1) = false ∧ x ∈ sources (Path.join [p, e.1]) e.2 := by
  rw [sources_dir, List.mem_flatMap]
  refine exists_congr fun e => and_congr_right fun _ => ?_
  cases e.2.isDir && isHidden e.1 <;> simp

theorem mem_sources_leaf (h : t.isDir = false) (p x : Bytes) : x ∈ sources p t ↔
    x.endsWith extension = true ∧ ∃ ns, Reached t ns ∧ x = Path.below p ns := by
  have hpath : (∃ ns, Reached t ns ∧ x = Path.below p ns) ↔ x = p := by
    simp only [reached_leaf h, exists_eq_left]
    rfl
  rw [hpath, sources_leaf h, List.mem_ite_nil_right, List.mem_singleton]
  exact ⟨fun ⟨hend, hx⟩ => ⟨hx ▸ hend, hx⟩, fun ⟨hend, hx⟩ => ⟨hx ▸ hend, hx⟩⟩

/-- The sources are the files that are reached and whose path has the extension. -/
theorem mem_sources (ht : t.Proper) (p x : Bytes) :
    x ∈ sources p t ↔ x.endsWith extension = true ∧ ∃ ns, Reached t ns ∧ x = Path.below p ns := by
  induction ht generalizing p with
  | file content => exact mem_sources_leaf rfl p x
  | device d => exact mem_sources_leaf rfl p x
  | dir distinct names inside ih =>
    rw [mem_sources_dir]
    simp only [reached_dir distinct]
    constructor
    · rintro ⟨e, he, hopen, hx⟩
      obtain ⟨hend, ms, hreached, rfl⟩ := (ih e he _).mp hx
      exact ⟨hend, e.1 :: ms, ⟨e, he, hopen, ms, rfl, hreached⟩, rfl⟩
    · rintro ⟨hend, ns, ⟨e, he, hopen, ms, rfl, hreached⟩, rfl⟩
      exact ⟨e, he, hopen, (ih e he _).mpr ⟨hend, ms, hreached, rfl⟩⟩

/-- No source is found twice: the paths of two files part where the files do. -/
theorem sources_nodup (ht : t.Proper) (p : Bytes) : (sources p t).Nodup := by
  induction ht generalizing p with
  | file content =>
    rw [sources_leaf rfl]
    split <;> simp
  | device d =>
    rw [sources_leaf rfl]
    split <;> simp
  | @dir es distinct names inside ih =>
    have hpath : ∀ e ∈ es, ∀ x ∈ sources (Path.join [p, e.1]) e.2,
        ∃ ms, Path.elements x = Path.elements p ++ e.1 :: ms := by
      intro e he x hx
      obtain ⟨-, ms, ⟨⟨c, hfind, -⟩, -⟩, rfl⟩ := (mem_sources (inside e he) _ x).mp hx
      exact ⟨ms, Path.elements_below p
        (List.forall_mem_cons.mpr ⟨names e he, (inside e he).names_of_find? hfind⟩)⟩
    rw [sources_dir, List.nodup_iff_pairwise_ne, List.pairwise_flatMap]
    constructor
    · intro e he
      split
      · exact List.Pairwise.nil
      · exact ih e he _
    · refine List.Pairwise.imp_of_mem ?_ (List.pairwise_map.mp distinct)
      intro e f he hf hne x hx y hy heq
      obtain ⟨ms, hms⟩ := hpath e he x (List.mem_ite_nil_left.mp hx).2
      obtain ⟨ks, hks⟩ := hpath f hf y (List.mem_ite_nil_left.mp hy).2
      rw [heq, hks, List.append_cancel_left_eq, List.cons.injEq] at hms
      exact hne hms.1.symm

theorem slash_not_mem_extension : Path.slash ∉ extension := by decide

/-- A search in a directory gives, in strictly ascending order, the path of each file below it that
has the extension in its name and lies behind no hidden directory. The directory itself may be
hidden. -/
theorem list_exact {d : Disk} {p : Bytes} (hp : d.get p = .ok (.dir es))
    (ht : (Tree.dir es).Proper) :
    ∃ xs, list d p = .ok xs ∧ xs.Pairwise (· < ·) ∧
      ∀ x, x ∈ xs ↔ ∃ dirs name c, (Tree.dir es).find? (dirs ++ [name]) = some c ∧
        c.isDir = false ∧ name.endsWith extension = true ∧ (∀ n ∈ dirs, isHidden n = false) ∧
        x = Path.join (p :: (dirs ++ [name])) := by
  refine ⟨_, by rw [list, hp], Bytes.mergeSort_ascending (sources_nodup ht p), ?_⟩
  intro x
  rw [List.mem_mergeSort, mem_sources ht]
  constructor
  · rintro ⟨hend, ns, ⟨⟨c, hfind, hc⟩, hhidden⟩, rfl⟩
    have hne : ns ≠ [] := by
      rintro rfl
      cases hfind
      cases hc
    obtain ⟨dirs, name, rfl⟩ : ∃ dirs name, ns = dirs ++ [name] :=
      ⟨_, _, (List.dropLast_concat_getLast hne).symm⟩
    have hnames := ht.names_of_find? hfind
    rw [Path.below_eq_join p hnames hne] at hend ⊢
    rw [Path.endsWith_join slash_not_mem_extension p hnames] at hend
    rw [List.dropLast_concat] at hhidden
    exact ⟨dirs, name, c, hfind, hc, hend, hhidden, rfl⟩
  · rintro ⟨dirs, name, c, hfind, hc, hend, hhidden, rfl⟩
    have hnames := ht.names_of_find? hfind
    rw [← Path.endsWith_join slash_not_mem_extension p hnames] at hend
    refine ⟨hend, dirs ++ [name], ⟨⟨c, hfind, hc⟩, ?_⟩,
      (Path.below_eq_join p hnames (by simp)).symm⟩
    rw [List.dropLast_concat]
    exact hhidden

/-- A directory in which the order of paths is not the one of a walk, and one name is hidden. -/
def sample : List (Bytes × Tree) :=
  [("a", .dir [("z.kj", .file []), ("t", .file [])]), ("a-.kj", .file []),
    (".git", .dir [("x.kj", .file [])])]

theorem sample_proper : (Tree.dir sample).Proper := by
  refine .dir (by decide) (by decide) ?_
  simp only [sample, List.forall_mem_cons]
  refine ⟨.dir (by decide) (by decide) ?_, .file [], .dir (by decide) (by decide) ?_, by simp⟩
  · simpa using Tree.Proper.file []
  · simpa using Tree.Proper.file []

/-- The directory asked for is hidden itself. -/
theorem list_exact_hidden :
    let d : Disk := ⟨.dir [(".h", .dir sample)], []⟩
    d.get ".h" = .ok (.dir sample) ∧ (Tree.dir sample).Proper ∧
      ∃ xs, list d ".h" = .ok xs ∧ xs.Pairwise (· < ·) ∧ (".h/a/z.kj" : Bytes) ∈ xs := by
  intro d
  have hp : d.get ".h" = .ok (.dir sample) := rfl
  obtain ⟨xs, hlist, hascending, hmem⟩ := list_exact hp sample_proper
  refine ⟨hp, sample_proper, xs, hlist, hascending, (hmem _).mpr ?_⟩
  exact ⟨["a"], "z.kj", .file [], rfl, rfl, by decide, by decide, by decide⟩

end Discovery

end FrontEnd
