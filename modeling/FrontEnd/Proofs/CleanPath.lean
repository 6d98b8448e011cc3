import FrontEnd.Proofs.Path

/-!
Clean paths. The elements of a clean spelling are names, behind steps up that only a relative path
can have; such elements are read back from their spelling, so that a path below a directory is the
directory with names behind it. The relative path leads down by those names, and where there are
none it is given up.
-/
namespace FrontEnd.Path

/-- Elements as a clean path has them: names, behind steps up if it does not start at the root. -/
def Canonical (rooted : Bool) (es : List Bytes) : Prop :=
  ∃ k names, es = List.replicate k dotDot ++ names ∧ (∀ n ∈ names, Name n) ∧ (rooted = true → k = 0)

variable {rooted : Bool} {es : List Bytes}

theorem Canonical.names (h : Canonical true es) : ∀ e ∈ es, Name e := by
  obtain ⟨k, names, rfl, hnames, hk⟩ := h
  rw [hk rfl]
  exact hnames

theorem canonical_names (h : ∀ e ∈ es, Name e) :
    Canonical rooted es := ⟨0, es, rfl, h, fun _ => rfl⟩

theorem Canonical.append_names (h : Canonical rooted es) {names : List Bytes}
    (hnames : ∀ n ∈ names, Name n) : Canonical rooted (es ++ names) := by
  obtain ⟨k, first, rfl, hfirst, hk⟩ := h
  refine ⟨k, first ++ names, List.append_assoc _ _ _, ?_, hk⟩
  intro n hn
  rcases List.mem_append.mp hn with hn | hn
  · exact hfirst n hn
  · exact hnames n hn

theorem step_stay {piece : Bytes} (h : piece = [] ∨ piece = dot) (rooted : Bool)
    (stack : List Bytes) : step rooted stack piece = stack := by
  simp [step, h]

theorem step_up_root : step true [] dotDot = [] := rfl

theorem step_up_again (rooted : Bool) (rest : List Bytes) :
    step rooted (dotDot :: rest) dotDot = dotDot :: dotDot :: rest := rfl

theorem step_up_name {top : Bytes} (h : top ≠ dotDot) (rooted : Bool) (rest : List Bytes) :
    step rooted (top :: rest) dotDot = rest := by
  have hdots : ¬ (dotDot = [] ∨ dotDot = dot) := by decide
  simp [step, hdots, h]

/-- A step up from a name undoes it; from the root it leads nowhere, and else it is kept. -/
theorem step_up_canonical {stack : List Bytes} (h : Canonical rooted stack.reverse) :
    Canonical rooted (step rooted stack dotDot).reverse := by
  obtain ⟨k, names, hes, hnames, hk⟩ := h
  rw [List.reverse_eq_iff, List.reverse_append, List.reverse_replicate] at hes
  cases hlast : names.reverse with
  | nil =>
    -- nothing but steps up, of which there are none at the root
    rw [hlast, List.nil_append] at hes
    subst hes
    cases k with
    | zero =>
      cases rooted with
      | true => exact canonical_names (by simp [step_up_root])
      | false => exact ⟨1, [], rfl, by simp, by simp⟩
    | succ k =>
      rw [List.replicate_succ, step_up_again, ← List.replicate_succ, ← List.replicate_succ,
        List.reverse_replicate]
      exact ⟨k + 2, [], (List.append_nil _).symm, by simp, fun hr => absurd (hk hr) (by simp)⟩
  | cons top rest =>
    have htop : top ∈ names := by
      rw [← List.mem_reverse, hlast]
      exact List.mem_cons_self
    rw [hlast, List.cons_append] at hes
    rw [hes, step_up_name (hnames top htop).ne_dotDot, List.reverse_append, List.reverse_replicate]
    refine ⟨k, rest.reverse, rfl, ?_, hk⟩
    intro n hn
    refine hnames n ?_
    rw [← List.mem_reverse, hlast]
    exact List.mem_cons_of_mem _ (List.mem_reverse.mp hn)

theorem step_canonical {stack : List Bytes} (h : Canonical rooted stack.reverse) {piece : Bytes}
    (hplain : slash ∉ piece) : Canonical rooted (step rooted stack piece).reverse := by
  by_cases hstay : piece = [] ∨ piece = dot
  · rw [step_stay hstay]
    exact h
  by_cases hup : piece = dotDot
  · rw [hup]
    exact step_up_canonical h
  rw [not_or] at hstay
  have hname : Name piece := ⟨hstay.1, hstay.2, hup, hplain⟩
  rw [step_name hname, List.reverse_cons]
  exact h.append_names (by simpa using hname)

theorem elements_canonical (p : Bytes) : Canonical (isAbsolute p) (elements p) := by
  have hfold : ∀ (ps stack : List Bytes), (∀ q ∈ ps, slash ∉ q) →
      Canonical (isAbsolute p) stack.reverse →
      Canonical (isAbsolute p) (ps.foldl (step (isAbsolute p)) stack).reverse := by
    intro ps
    induction ps with
    | nil => exact fun _ _ h => h
    | cons q ps ih =>
      intro stack hplain h
      exact ih _ (fun r hr => hplain r (by simp [hr])) (step_canonical h (hplain q (by simp)))
  exact hfold _ [] (piecesFrom_plain (by simp) p) (canonical_names (by simp))

/-- Clean elements are taken as they are. -/
theorem Canonical.foldl_step (h : Canonical rooted es) :
    es.foldl (step rooted) [] = es.reverse := by
  obtain ⟨k, names, rfl, hnames, hk⟩ := h
  have hups : (List.replicate k dotDot).foldl (step rooted) [] = List.replicate k dotDot := by
    cases rooted with
    | true => rw [hk rfl]; rfl
    | false =>
      clear hk
      induction k with
      | zero => rfl
      | succ k ih =>
        rw [List.replicate_succ', List.foldl_append, ih, ← List.replicate_succ']
        cases k with
        | zero => rfl
        | succ k => exact step_up_again false (List.replicate k dotDot)
  rw [List.foldl_append, hups, foldl_step_names hnames, List.reverse_append, List.reverse_replicate]

theorem Canonical.plain (h : Canonical rooted es) : ∀ e ∈ es, e ≠ [] ∧ slash ∉ e := by
  obtain ⟨k, names, rfl, hnames, -⟩ := h
  intro e he
  rcases List.mem_append.mp he with he | he
  · rw [List.eq_of_mem_replicate he]
    decide
  · exact ⟨(hnames e he).ne_nil, (hnames e he).plain⟩

theorem Canonical.isAbsolute_spell (h : Canonical rooted es) :
    isAbsolute (spell rooted es) = rooted := by
  by_cases hne : es = []
  · subst hne
    cases rooted <;> rfl
  · exact Path.isAbsolute_spell rooted hne h.plain

/-- Clean elements are read back from their spelling. -/
theorem Canonical.elements_spell (h : Canonical rooted es) : elements (spell rooted es) = es := by
  by_cases hne : es = []
  · subst hne
    cases rooted <;> rfl
  · have hlead : ((if rooted then [[]] else []) : List Bytes).foldl (step rooted) [] = [] := by
      cases rooted <;> rfl
    rw [elements, h.isAbsolute_spell, pieces_spell rooted hne fun e he => (h.plain e he).2,
      List.foldl_append, hlead, h.foldl_step, List.reverse_reverse]

theorem Canonical.clean_spell (h : Canonical rooted es) :
    clean (spell rooted es) = spell rooted es := by
  rw [clean, h.isAbsolute_spell, h.elements_spell]

theorem spell_ne_nil (rooted : Bool) (h : ∀ e ∈ es, e ≠ []) : spell rooted es ≠ [] := by
  cases rooted with
  | true => simp [spell]
  | false =>
    cases es with
    | nil => decide
    | cons e es => simp [spell, Bytes.join, h e (by simp)]

/-- The pieces of a relative spelling of names; there is a dot where there are none. -/
theorem pieces_spell_names {names : List Bytes} (h : ∀ n ∈ names, Name n) :
    pieces (spell false names) = if names = [] then [dot] else names := by
  by_cases hne : names = []
  · subst hne
    rfl
  · rw [pieces_spell false hne fun n hn => (h n hn).plain, if_neg hne]
    rfl

theorem dotDot_not_mem_pieces {names : List Bytes} (h : ∀ n ∈ names, Name n) :
    dotDot ∉ pieces (spell false names) := by
  rw [pieces_spell_names h]
  split
  · decide
  · exact fun hmem => (h _ hmem).ne_dotDot rfl

/-- Names behind an absolute path: it is the same to have them in one spelling. -/
theorem join_spell {es names : List Bytes} (hes : ∀ e ∈ es, Name e) (h : ∀ n ∈ names, Name n) :
    join [spell true es, spell false names] = spell true (es ++ names) := by
  have hdir := spell_ne_nil true fun e he => (hes e he).ne_nil
  have hway := spell_ne_nil false fun n hn => (h n hn).ne_nil
  have hcanonical : Canonical true es := canonical_names hes
  have hjoin : join [spell true es, spell false names] =
      clean (spell true es ++ slash :: spell false names) := by
    simp [join, hdir, hway, Bytes.join]
  have habs : isAbsolute (spell true es ++ slash :: spell false names) = true := rfl
  have hfront : (pieces (spell true es)).foldl (step true) [] = es.reverse := by
    have helements := hcanonical.elements_spell
    rw [elements, hcanonical.isAbsolute_spell] at helements
    exact List.reverse_eq_iff.mp helements
  have hback : (pieces (spell false names)).foldl (step true) es.reverse =
      names.reverse ++ es.reverse := by
    rw [pieces_spell_names h]
    split
    · subst_vars
      exact step_stay (.inr rfl) true _
    · exact foldl_step_names h true _
  rw [hjoin, clean, habs, elements, habs, pieces_slash, List.foldl_append, hfront, hback]
  simp

theorem spell_dotDot_escapes (es : List Bytes) :
    spell false (dotDot :: es) = dotDot ∨
      (dotDot ++ [slash]).isPrefixOf (spell false (dotDot :: es)) = true := by
  cases es with
  | nil => exact .inl rfl
  | cons e es => exact .inr (by simp [spell, Bytes.join])

/-- A way down by names is not taken for one that leads up, though a name may begin with two
dots. -/
theorem spell_names_not_escapes {names : List Bytes} (h : ∀ n ∈ names, Name n) :
    ¬ (spell false names = dotDot ∨ (dotDot ++ [slash]).isPrefixOf (spell false names) = true) := by
  intro hway
  have hpiece : dotDot ∈ pieces (spell false names) := by
    rcases hway with hway | hway
    · rw [hway]
      decide
    · obtain ⟨rest, hrest⟩ := List.isPrefixOf_iff_prefix.mp hway
      rw [← hrest, List.append_assoc, List.singleton_append, pieces_slash]
      exact List.mem_append_left _ (by decide)
  exact dotDot_not_mem_pieces h hpiece

theorem afterCommon_append (xs ys : List Bytes) : afterCommon xs (xs ++ ys) = ([], ys) := by
  induction xs with
  | nil => cases ys <;> rfl
  | cons x xs ih => rw [List.cons_append, afterCommon, if_pos rfl, ih]

theorem prefix_of_afterCommon (xs ys : List Bytes) (h : (afterCommon xs ys).1 = []) :
    xs <+: ys := by
  fun_induction afterCommon xs ys with
  | case1 x xs ys ih => exact List.cons_prefix_cons.mpr ⟨rfl, ih h⟩
  | case2 => cases h
  | case3 xs ys =>
    subst h
    exact List.nil_prefix

/-- The path is the directory itself, or lies below it by some names. -/
def Within (dir p : Bytes) : Prop :=
  ∃ names, (∀ n ∈ names, Name n) ∧ p = join (dir :: names)

theorem within_spell {bs ws : List Bytes} (hbs : ∀ e ∈ bs, Name e) (hws : ∀ e ∈ ws, Name e) :
    Within (spell true bs) (spell true ws) ↔ bs <+: ws := by
  have hbase : Canonical true bs := canonical_names hbs
  have hjoin : ∀ names, (∀ n ∈ names, Name n) →
      join (spell true bs :: names) = spell true (bs ++ names) := by
    intro names hnames
    rw [join_names _ hnames (.inl (spell_ne_nil true fun e he => (hbs e he).ne_nil)),
      hbase.isAbsolute_spell, hbase.elements_spell]
  constructor
  · rintro ⟨names, hnames, heq⟩
    rw [hjoin names hnames] at heq
    have helements := congrArg elements heq
    rw [(canonical_names hws).elements_spell,
      (hbase.append_names hnames).elements_spell] at helements
    exact ⟨names, helements.symm⟩
  · rintro ⟨names, rfl⟩
    have hnames : ∀ n ∈ names, Name n := fun n hn => hws n (List.mem_append_right _ hn)
    exact ⟨names, hnames, (hjoin names hnames).symm⟩

section Absolute

variable {cwd : Bytes} (hcwd : isAbsolute cwd = true)
include hcwd

theorem absolute_nil : absolute cwd [] = clean cwd := by
  have hne : cwd ≠ [] := by
    rintro rfl
    cases hcwd
  simp [absolute, isAbsolute, join, hne, Bytes.join]

/-- An absolute path is spelled by names alone. -/
theorem absolute_spell (p : Bytes) : ∃ es, (∀ e ∈ es, Name e) ∧ absolute cwd p = spell true es := by
  have hclean : ∀ q, isAbsolute q = true → ∃ es, (∀ e ∈ es, Name e) ∧ clean q = spell true es := by
    intro q hq
    have hcanonical := elements_canonical q
    rw [hq] at hcanonical
    exact ⟨elements q, hcanonical.names, by rw [clean, hq]⟩
  by_cases habs : isAbsolute p = true
  · rw [absolute, if_pos habs]
    exact hclean p habs
  by_cases hp : p = []
  · rw [hp, absolute_nil hcwd]
    exact hclean cwd hcwd
  · obtain ⟨rest, rfl⟩ : ∃ rest, cwd = slash :: rest := by
      cases cwd with
      | nil => cases hcwd
      | cons b rest => exact ⟨rest, by simpa [isAbsolute] using hcwd⟩
    rw [absolute, if_neg habs]
    have hjoin : join [slash :: rest, p] = clean (slash :: (rest ++ slash :: p)) := by
      simp [join, hp, Bytes.join]
    rw [hjoin]
    exact hclean _ rfl

/-- No directory given means the current one. -/
theorem absolute_dir (dir : Bytes) :
    absolute cwd (if dir = [] then cwd else dir) = absolute cwd dir := by
  split
  · next hdir => rw [hdir, absolute_nil hcwd, absolute, if_pos hcwd]
  · rfl

/-- A path at the directory or below it is shown by a way that never leads up and that leads from
the directory back to the path; any other is shown whole. -/
theorem relative_points_back (p dir : Bytes) :
    let base := absolute cwd dir
    let whole := absolute cwd p
    let way := relative cwd p dir
    (Within base whole → isAbsolute way = false ∧ dotDot ∉ pieces way ∧ join [base, way] = whole) ∧
      (¬ Within base whole → way = whole) := by
  intro base whole way
  obtain ⟨bs, hbs, hbase⟩ : ∃ bs, (∀ e ∈ bs, Name e) ∧ base = spell true bs :=
    absolute_spell hcwd dir
  obtain ⟨ws, hws, hwhole⟩ : ∃ ws, (∀ e ∈ ws, Name e) ∧ whole = spell true ws :=
    absolute_spell hcwd p
  have hrel : way = if difference base whole = dotDot ∨
        (dotDot ++ [slash]).isPrefixOf (difference base whole) then whole
      else clean (difference base whole) := by
    unfold way relative
    rw [absolute_dir hcwd]
  have hdifference : difference base whole =
      spell false ((afterCommon bs ws).1.map (fun _ => dotDot) ++ (afterCommon bs ws).2) := by
    rw [difference, hbase, hwhole, (canonical_names hbs).elements_spell,
      (canonical_names hws).elements_spell]
  rw [hbase, hwhole, within_spell hbs hws, ← hwhole, hrel, hdifference]
  constructor
  · rintro ⟨names, rfl⟩
    have hnames : ∀ n ∈ names, Name n := fun n hn => hws n (List.mem_append_right _ hn)
    have hcanonical : Canonical false names := canonical_names hnames
    rw [afterCommon_append, List.map_nil, List.nil_append,
      if_neg (spell_names_not_escapes hnames), hcanonical.clean_spell, hwhole]
    exact ⟨hcanonical.isAbsolute_spell, dotDot_not_mem_pieces hnames, join_spell hbs hnames⟩
  · intro hapart
    cases hup : (afterCommon bs ws).1 with
    | nil => exact absurd (prefix_of_afterCommon bs ws hup) hapart
    | cons e up => exact if_pos (spell_dotDot_escapes _)

end Absolute

/-- A name that begins with two dots leads down. -/
theorem relative_points_back_dots :
    let cwd : Bytes := "/w"
    let p : Bytes := "../w/..a//b/."
    isAbsolute cwd = true ∧ Within (absolute cwd ".") (absolute cwd p) ∧
      relative cwd p "." = "..a/b" ∧ dotDot ∉ pieces (relative cwd p ".") ∧
      join [absolute cwd ".", relative cwd p "."] = absolute cwd p := by
  intro cwd p
  have hcwd : isAbsolute cwd = true := by decide
  have hwithin : Within (absolute cwd ".") (absolute cwd p) :=
    ⟨["..a", "b"], by decide, by decide⟩
  obtain ⟨-, hdown, hback⟩ := (relative_points_back hcwd p ".").1 hwithin
  exact ⟨hcwd, hwithin, by decide, hdown, hback⟩

end FrontEnd.Path
