import FrontEnd.Diagnostic.Template

/-!
Expanding a template is one pass over it. From the front, a template is a row of parts, each an
octet that stands for itself or an argument that is there, up to its end or up to a per cent sign
that names no argument. In the first case each part is replaced by what it stands for, and what was
put in is not looked at again; in the second there is no result.
-/
namespace FrontEnd.Template

/-- A part of a template for so many arguments. -/
inductive Part (count : Nat) where
  | octet (b : UInt8) (plain : b ≠ percent)
  | argument (d : UInt8) (digit : 48 ≤ d ∧ d ≤ 57) (given : d.toNat - 48 < count)

namespace Part

variable {count : Nat}

/-- As the part is written in the template. -/
def spell : Part count → Bytes
  | .octet b _ => [b]
  | .argument d _ _ => [percent, d]

/-- What takes its place. -/
def fill (args : List Arg) : Part args.length → Bytes
  | .octet b _ => [b]
  | .argument d _ _ => args[d.toNat - 48].render

end Part

/-- What is wrong with a per cent sign that has the text behind it. -/
inductive Stumbles (template : Bytes) (count : Nat) : Bytes → Error → Prop
  | notANumber {rest : Bytes} (h : ∀ d r, rest = d :: r → ¬ (48 ≤ d ∧ d ≤ 57)) :
      Stumbles template count rest (.notANumber template)
  | noSuchArgument {d : UInt8} {r : Bytes} (hd : 48 ≤ d ∧ d ≤ 57) (h : count ≤ d.toNat - 48) :
      Stumbles template count (d :: r) (.noSuchArgument (d.toNat - 48) count template)

section Steps

variable (template : Bytes) (args : List Arg) (acc : Bytes)

theorem expandOnto_octet {b : UInt8} (hb : b ≠ percent) (s : Bytes) :
    expandOnto template args acc (b :: s) = expandOnto template args (b :: acc) s := by
  rw [expandOnto.eq_def]
  exact if_pos hb

theorem expandOnto_argument {d : UInt8} (hd : 48 ≤ d ∧ d ≤ 57) (h : d.toNat - 48 < args.length)
    (s : Bytes) :
    expandOnto template args acc (percent :: d :: s) =
      expandOnto template args (args[d.toNat - 48].render.reverse ++ acc) s := by
  rw [expandOnto.eq_def]
  simp only [ne_eq, not_true_eq_false, if_false, hd, and_self, if_true,
    List.getElem?_eq_getElem h]

/-- Each part leaves what takes its place. -/
theorem expandOnto_parts (ps : List (Part args.length)) (s : Bytes) :
    expandOnto template args acc (ps.flatMap Part.spell ++ s) =
      expandOnto template args ((ps.flatMap (Part.fill args)).reverse ++ acc) s := by
  induction ps generalizing acc with
  | nil => rfl
  | cons p ps ih =>
    cases p with
    | octet b plain =>
      simp only [List.flatMap_cons, Part.spell, Part.fill, List.cons_append, List.nil_append]
      rw [expandOnto_octet template args acc plain, ih]
      simp
    | argument d digit given =>
      simp only [List.flatMap_cons, Part.spell, Part.fill, List.cons_append, List.nil_append]
      rw [expandOnto_argument template args acc digit given, ih]
      simp

theorem expandOnto_stumbles {rest : Bytes} {e : Error}
    (h : Stumbles template args.length rest e) :
    expandOnto template args acc (percent :: rest) = .error e := by
  rw [expandOnto.eq_def]
  simp only [ne_eq, not_true_eq_false, if_false]
  cases h with
  | notANumber hno =>
    cases rest with
    | nil => rfl
    | cons d r => exact if_neg (hno d r rfl)
  | noSuchArgument hd hlen =>
    simp only [hd, and_self, if_true, List.getElem?_eq_none hlen]

end Steps

/-- Behind a per cent sign stands the number of an argument that is there, or something is wrong. -/
theorem names_or_stumbles (template : Bytes) (count : Nat) (rest : Bytes) :
    (∃ d r, rest = d :: r ∧ (48 ≤ d ∧ d ≤ 57) ∧ d.toNat - 48 < count) ∨
      ∃ e, Stumbles template count rest e := by
  cases rest with
  | nil => exact .inr ⟨_, .notANumber nofun⟩
  | cons d r =>
    by_cases hd : 48 ≤ d ∧ d ≤ 57
    · by_cases hlt : d.toNat - 48 < count
      · exact .inl ⟨d, r, rfl, hd, hlt⟩
      · exact .inr ⟨_, .noSuchArgument hd (Nat.le_of_not_lt hlt)⟩
    · refine .inr ⟨_, .notANumber ?_⟩
      rintro _ _ ⟨⟩
      exact hd

/-- Any text is a row of parts, up to its end or up to a per cent sign with something wrong. -/
theorem exists_parts (template : Bytes) (count : Nat) (s : Bytes) :
    ∃ ps : List (Part count), s = ps.flatMap Part.spell ∨
      ∃ rest e, s = ps.flatMap Part.spell ++ percent :: rest ∧ Stumbles template count rest e := by
  -- an argument takes two octets, so what is left is not always the tail
  induction h : s.length using Nat.strongRecOn generalizing s with
  | ind n ih =>
    subst h
    cases s with
    | nil => exact ⟨[], .inl rfl⟩
    | cons b r =>
      by_cases hb : b = percent
      · subst hb
        rcases names_or_stumbles template count r with ⟨d, r', rfl, hd, hlt⟩ | ⟨e, he⟩
        · obtain ⟨ps, hps⟩ := ih r'.length (by simp only [List.length_cons]; omega) r' rfl
          refine ⟨.argument d hd hlt :: ps, ?_⟩
          rcases hps with rfl | ⟨rest, e, rfl, he⟩
          · exact .inl rfl
          · exact .inr ⟨rest, e, rfl, he⟩
        · exact ⟨[], .inr ⟨r, e, rfl, he⟩⟩
      · obtain ⟨ps, hps⟩ := ih r.length (by simp) r rfl
        refine ⟨.octet b hb :: ps, ?_⟩
        rcases hps with rfl | ⟨rest, e, rfl, he⟩
        · exact .inl rfl
        · exact .inr ⟨rest, e, rfl, he⟩

theorem expand_parts (args : List Arg) (ps : List (Part args.length)) :
    expand (ps.flatMap Part.spell) args = .ok (ps.flatMap (Part.fill args)) := by
  have hall := expandOnto_parts (ps.flatMap Part.spell) args [] ps []
  rw [List.append_nil, List.append_nil] at hall
  rw [expand, hall, expandOnto, List.reverse_reverse]

theorem expand_stumbles (args : List Arg) (ps : List (Part args.length)) {rest : Bytes} {e : Error}
    (h : Stumbles (ps.flatMap Part.spell ++ percent :: rest) args.length rest e) :
    expand (ps.flatMap Part.spell ++ percent :: rest) args = .error e := by
  rw [expand, expandOnto_parts]
  exact expandOnto_stumbles _ _ _ h

theorem expand_cases (template : Bytes) (args : List Arg) :
    (∃ ps : List (Part args.length), template = ps.flatMap Part.spell ∧
        expand template args = .ok (ps.flatMap (Part.fill args))) ∨
      ∃ (ps : List (Part args.length)) (rest : Bytes) (e : Error),
        template = ps.flatMap Part.spell ++ percent :: rest ∧
          Stumbles template args.length rest e ∧ expand template args = .error e := by
  obtain ⟨ps, hps | ⟨rest, e, hps, he⟩⟩ := exists_parts template args.length template
  · refine .inl ⟨ps, hps, ?_⟩
    rw [hps]
    exact expand_parts args ps
  · refine .inr ⟨ps, rest, e, hps, he, ?_⟩
    rw [hps] at he ⊢
    exact expand_stumbles args ps he

/-- Expanding fails, with the error that says what is wrong, if and only if the parts from the front
end at a per cent sign with no digit behind it, or with one whose argument is not there. Else the
parts make up the template, and the result has what takes their places. -/
theorem expand_exact (template : Bytes) (args : List Arg) :
    (∀ e, expand template args = .error e ↔
        ∃ (ps : List (Part args.length)) (rest : Bytes),
          template = ps.flatMap Part.spell ++ percent :: rest ∧
            Stumbles template args.length rest e) ∧
      ∀ m, expand template args = .ok m ↔
        ∃ ps : List (Part args.length),
          template = ps.flatMap Part.spell ∧ m = ps.flatMap (Part.fill args) := by
  refine ⟨fun e => ⟨fun herror => ?_, ?_⟩, fun m => ⟨fun hm => ?_, ?_⟩⟩
  · rcases expand_cases template args with ⟨ps, -, hok⟩ | ⟨ps, rest, e', hps, he, herror'⟩
    · cases hok.symm.trans herror
    · cases herror'.symm.trans herror
      exact ⟨ps, rest, hps, he⟩
  · rintro ⟨ps, rest, rfl, he⟩
    exact expand_stumbles args ps he
  · rcases expand_cases template args with ⟨ps, hps, hok⟩ | ⟨ps, rest, e, -, -, herror⟩
    · cases hok.symm.trans hm
      exact ⟨ps, hps, rfl⟩
    · cases herror.symm.trans hm
  · rintro ⟨ps, rfl, rfl⟩
    exact expand_parts args ps

/-- The text of an argument is put in as it is, though it would read as a part itself. -/
example : (expand "%1%0%1" [.text "%1", .char 7]).toOption = some "\\x07%1\\x07" := by decide

end FrontEnd.Template
