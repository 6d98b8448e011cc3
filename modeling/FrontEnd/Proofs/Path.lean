import FrontEnd.Path

/-!
How a path is spelled and read again. Pieces between slashes come back from a spelling as they went
in, so the path of names below a directory has the elements of the directory and then the names; and
hexadecimal digits are names from which the octets can be told.
-/
namespace FrontEnd

namespace Path

theorem piecesFrom_slash (piece s t : Bytes) :
    piecesFrom piece (s ++ slash :: t) = piecesFrom piece s ++ pieces t := by
  induction s generalizing piece with
  | nil => simp [piecesFrom, pieces]
  | cons b s ih =>
    rw [List.cons_append, piecesFrom, piecesFrom]
    split
    · rw [ih]
      rfl
    · exact ih _

theorem pieces_slash (s t : Bytes) : pieces (s ++ slash :: t) = pieces s ++ pieces t :=
  piecesFrom_slash [] s t

theorem piecesFrom_of_not_mem {s : Bytes} (h : slash ∉ s) (piece : Bytes) :
    piecesFrom piece s = [piece.reverse ++ s] := by
  induction s generalizing piece with
  | nil => simp [piecesFrom]
  | cons b s ih =>
    have hb : b ≠ slash := fun hb => h (by simp [hb])
    rw [piecesFrom, if_neg hb, ih fun hs => h (by simp [hs])]
    simp

theorem pieces_of_not_mem {s : Bytes} (h : slash ∉ s) : pieces s = [s] := piecesFrom_of_not_mem h []

theorem piecesFrom_plain {piece : Bytes} (hp : slash ∉ piece) (s : Bytes) :
    ∀ q ∈ piecesFrom piece s, slash ∉ q := by
  induction s generalizing piece with
  | nil => simpa [piecesFrom] using hp
  | cons b s ih =>
    rw [piecesFrom]
    split
    · intro q hq
      rcases List.mem_cons.mp hq with rfl | hq
      · simpa using hp
      · exact ih (by simp) q hq
    · rename_i hb
      exact ih (by simp [hp, Ne.symm hb])

theorem piecesFrom_ne_nil (piece s : Bytes) : piecesFrom piece s ≠ [] := by
  induction s generalizing piece with
  | nil => simp [piecesFrom]
  | cons b s ih =>
    rw [piecesFrom]
    split
    · simp
    · exact ih _

/-- Only a slash at the end leaves an empty last piece. -/
theorem piecesFrom_getLast {piece s : Bytes} (h : (piecesFrom piece s).getLast? = some []) :
    (piece = [] ∧ s = []) ∨ s.getLast? = some slash := by
  induction s generalizing piece with
  | nil => left; simpa [piecesFrom] using h
  | cons b s ih =>
    rw [piecesFrom] at h
    rw [List.getLast?_cons]
    right
    split at h
    · rename_i hb
      obtain ⟨q, qs, hqs⟩ := List.exists_cons_of_ne_nil (piecesFrom_ne_nil [] s)
      rw [hqs, List.getLast?_cons_cons, ← hqs] at h
      rcases ih h with ⟨-, rfl⟩ | hlast
      · simp [hb]
      · simp [hlast]
    · rcases ih h with ⟨hnil, -⟩ | hlast
      · cases hnil
      · simp [hlast]

/-- A path that does not end in a slash has a last piece. -/
theorem pieces_eq_concat {p : Bytes} (hne : p ≠ []) (hslash : p.getLast? ≠ some slash) :
    ∃ init last, pieces p = init ++ [last] ∧ last ≠ [] ∧ slash ∉ last := by
  obtain ⟨init, last, hpieces⟩ : ∃ init last, pieces p = init ++ [last] :=
    ⟨_, _, (List.dropLast_concat_getLast (piecesFrom_ne_nil [] p)).symm⟩
  refine ⟨init, last, hpieces, ?_, piecesFrom_plain (List.not_mem_nil) p last ?_⟩
  · rintro rfl
    have hlast : (piecesFrom [] p).getLast? = some [] := by
      change (pieces p).getLast? = some []
      simp [hpieces]
    rcases piecesFrom_getLast hlast with ⟨-, hp⟩ | hp
    · exact hne hp
    · exact hslash hp
  · change last ∈ pieces p
    simp [hpieces]

theorem pieces_join {es : List Bytes} (hne : es ≠ []) (h : ∀ e ∈ es, slash ∉ e) :
    pieces (Bytes.join [slash] es) = es := by
  induction es with
  | nil => exact absurd rfl hne
  | cons e es ih =>
    have he := pieces_of_not_mem (h e (by simp))
    cases es with
    | nil => simpa [Bytes.join] using he
    | cons e' es =>
      have hjoin :
          Bytes.join [slash] (e :: e' :: es) = e ++ slash :: Bytes.join [slash] (e' :: es) := by
        simp [Bytes.join]
      rw [hjoin, pieces_slash, he, ih (by simp) fun x hx => h x (by simp [hx])]
      rfl

/-- A name that a path can have between its slashes and that leads down. -/
structure Name (e : Bytes) : Prop where
  ne_nil : e ≠ []
  ne_dot : e ≠ dot
  ne_dotDot : e ≠ dotDot
  plain : slash ∉ e

theorem name_iff {e : Bytes} : Name e ↔ e ≠ [] ∧ e ≠ dot ∧ e ≠ dotDot ∧ slash ∉ e :=
  ⟨fun h => ⟨h.ne_nil, h.ne_dot, h.ne_dotDot, h.plain⟩, fun ⟨h, hd, hdd, hp⟩ => ⟨h, hd, hdd, hp⟩⟩

instance (e : Bytes) : Decidable (Name e) := decidable_of_iff _ name_iff.symm

theorem step_name {e : Bytes} (h : Name e) (rooted : Bool) (stack : List Bytes) :
    step rooted stack e = e :: stack := by
  simp [step, h.ne_nil, h.ne_dot, h.ne_dotDot]

/-- Elements are not empty and contain no slash. -/
theorem foldl_step_plain {rooted : Bool} {ps stack : List Bytes} (hps : ∀ p ∈ ps, slash ∉ p)
    (hstack : ∀ e ∈ stack, e ≠ [] ∧ slash ∉ e) :
    ∀ e ∈ ps.foldl (step rooted) stack, e ≠ [] ∧ slash ∉ e := by
  induction ps generalizing stack with
  | nil => exact hstack
  | cons p ps ih =>
    rw [List.foldl_cons]
    apply ih fun q hq => hps q (by simp [hq])
    have hdots : dotDot ≠ [] ∧ slash ∉ dotDot := by decide
    unfold step
    split
    · exact hstack
    split
    · cases stack with
      | nil => cases rooted <;> simp [hdots]
      | cons top rest =>
        simp only
        split
        · exact List.forall_mem_cons.mpr ⟨hdots, hstack⟩
        · exact (List.forall_mem_cons.mp hstack).2
    · rename_i hp _
      exact List.forall_mem_cons.mpr ⟨⟨fun hnil => hp (.inl hnil), hps p (by simp)⟩, hstack⟩

theorem elements_plain (p : Bytes) : ∀ e ∈ elements p, e ≠ [] ∧ slash ∉ e := by
  intro e he
  exact foldl_step_plain (piecesFrom_plain (by simp) p) (by simp) e (List.mem_reverse.mp he)

theorem pieces_spell (rooted : Bool) {es : List Bytes} (hne : es ≠ []) (h : ∀ e ∈ es, slash ∉ e) :
    pieces (spell rooted es) = (if rooted then [[]] else []) ++ es := by
  cases rooted with
  | true =>
    have hsplit := pieces_slash [] (Bytes.join [slash] es)
    rw [pieces_join hne h] at hsplit
    simpa [spell, pieces, piecesFrom] using hsplit
  | false =>
    have hempty : es.isEmpty = false := by simpa using hne
    simp [spell, hempty, pieces_join hne h]

theorem isAbsolute_spell (rooted : Bool) {es : List Bytes} (hne : es ≠ [])
    (h : ∀ e ∈ es, e ≠ [] ∧ slash ∉ e) : isAbsolute (spell rooted es) = rooted := by
  cases rooted with
  | true => simp [spell, isAbsolute]
  | false =>
    obtain ⟨e, rest, rfl⟩ := List.exists_cons_of_ne_nil hne
    obtain ⟨henil, heplain⟩ := h e (by simp)
    obtain ⟨b, e, rfl⟩ := List.exists_cons_of_ne_nil henil
    have hb : b ≠ slash := fun hb => heplain (by simp [hb])
    simp [spell, isAbsolute, Bytes.join, hb]

theorem elements_nil : elements [] = [] := rfl

theorem foldl_step_names {names : List Bytes} (h : ∀ n ∈ names, Name n) (rooted : Bool)
    (stack : List Bytes) : names.foldl (step rooted) stack = names.reverse ++ stack := by
  induction names generalizing stack with
  | nil => rfl
  | cons n names ih =>
    rw [List.foldl_cons, step_name (h n (by simp)), ih fun m hm => h m (by simp [hm])]
    simp

/-- The path of names below a directory. -/
theorem join_names (dir : Bytes) {names : List Bytes} (h : ∀ n ∈ names, Name n)
    (hne : dir ≠ [] ∨ names ≠ []) :
    join (dir :: names) = spell (isAbsolute dir) (elements dir ++ names) := by
  have hall : names.filter (· ≠ []) = names :=
    List.filter_eq_self.mpr fun n hn => by simpa using (h n hn).ne_nil
  by_cases hnames : names = []
  · have hdir : dir ≠ [] := hne.resolve_right fun hn => hn hnames
    simp [hnames, join, hdir, Bytes.join, clean]
  have hpieces : pieces (Bytes.join [slash] names) = names :=
    pieces_join hnames fun n hn => (h n hn).plain
  obtain ⟨n, rest, hcons⟩ := List.exists_cons_of_ne_nil hnames
  cases dir with
  | nil =>
    have hjoin : join ([] :: names) = clean (Bytes.join [slash] names) := by
      simp only [join, List.filter_cons, ne_eq, not_true_eq_false, decide_false,
        Bool.false_eq_true, if_false]
      rw [hall, hcons]
    have hspell : Bytes.join [slash] names = spell false names := by simp [spell, hnames]
    have habs : isAbsolute (Bytes.join [slash] names) = false := by
      rw [hspell]
      exact isAbsolute_spell false hnames fun n hn => ⟨(h n hn).ne_nil, (h n hn).plain⟩
    rw [hjoin, clean, elements, hpieces, habs, foldl_step_names h]
    simp [elements_nil, isAbsolute]
  | cons x dir =>
    have hjoin : join ((x :: dir) :: names) =
        clean ((x :: dir) ++ slash :: Bytes.join [slash] names) := by
      have hfilter : ((x :: dir) :: names).filter (· ≠ []) = (x :: dir) :: names := by
        rw [List.filter_cons, if_pos (by simp), hall]
      rw [join, hfilter, hcons]
      simp [Bytes.join]
    rw [hjoin, clean, elements, pieces_slash, hpieces, List.foldl_append, foldl_step_names h]
    simp [elements, isAbsolute]

end Path

namespace Bytes

theorem hexValue_hexDigit {n : Nat} (h : n < 16) :
    hexValue (hexDigit n) = n.toUInt8 ∧ hexDigit n ≠ Path.slash := by
  have hall : ∀ k : Fin 16,
      hexValue (hexDigit k) = k.val.toUInt8 ∧ hexDigit k ≠ Path.slash := by decide
  exact hall ⟨n, h⟩

theorem ofHex_hex (s : Bytes) : ofHex (hex s) = s := by
  induction s with
  | nil => rfl
  | cons b s ih =>
    have hlt := b.toNat_lt
    have hhigh := (hexValue_hexDigit (n := b.toNat / 16) (by omega)).1
    have hlow := (hexValue_hexDigit (n := b.toNat % 16) (by omega)).1
    have hcons : hex (b :: s) = hexDigit (b.toNat / 16) :: hexDigit (b.toNat % 16) :: hex s := by
      simp [hex]
    rw [hcons, ofHex, ih, hhigh, hlow]
    congr 1
    apply UInt8.toNat_inj.mp
    simp only [Nat.toUInt8, UInt8.toNat_add, UInt8.toNat_mul, UInt8.toNat_ofNat']
    simp
    omega

theorem slash_not_mem_hex (s : Bytes) : Path.slash ∉ hex s := by
  intro h
  obtain ⟨b, -, hb⟩ := List.mem_flatMap.mp h
  have hlt := b.toNat_lt
  have hhigh := (hexValue_hexDigit (n := b.toNat / 16) (by omega)).2
  have hlow := (hexValue_hexDigit (n := b.toNat % 16) (by omega)).2
  simp [hhigh.symm, hlow.symm] at hb

end Bytes

end FrontEnd
