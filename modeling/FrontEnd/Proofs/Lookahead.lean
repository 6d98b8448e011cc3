import FrontEnd.Proofs.TokenStream

/-!
Looking ahead. A lexer can be asked for the next token, for a look at it, and for all tokens that
are left, in any order and any number of times. Whatever it is asked, its answers are read off the
one stream of the file, of which only the end is given more than once; and what was reported is what
is wrong with the tokens scanned by then, whether they were given or only looked at.
-/
namespace FrontEnd

namespace Lexer

/-- What a lexer can be asked for: a token, a look at it, or all tokens that are left. -/
inductive Call where
  | next
  | peek
  | all
  deriving DecidableEq, Repr

variable {σ : Type}

/-- Answers a call with the tokens asked for. -/
def perform (lx : Lexer σ) : Call → Except BuilderError (List Token × Lexer σ)
  | .next => lx.next.map fun (t, lx) => ([t], lx)
  | .peek => lx.peek.map fun (t, lx) => ([t], lx)
  | .all => lx.all

/-- Answers calls in order. -/
def run (lx : Lexer σ) : List Call → Except BuilderError (List (List Token) × Lexer σ)
  | [] => .ok ([], lx)
  | c :: cs => match lx.perform c with
    | .error e => .error e
    | .ok (ts, lx) => (lx.run cs).map fun (answers, lx) => (ts :: answers, lx)

end Lexer

/-- How far a list of tokens was read: so many of them are given, so many are known. The last token
is given as often as asked for and does not count as given. -/
structure Place where
  given : Nat := 0
  known : Nat := 0
  deriving DecidableEq, Repr

namespace Place

variable (ts : List Token)

/-- The tokens that a call at a place gives. -/
def answer (p : Place) : Lexer.Call → List Token
  | .next | .peek => (ts.drop p.given).take 1
  | .all => ts.drop p.given

/-- The place after a call. -/
def after (p : Place) : Lexer.Call → Place
  | .next => ⟨min (p.given + 1) (ts.length - 1), max p.known (p.given + 1)⟩
  | .peek => { p with known := max p.known (p.given + 1) }
  | .all => ⟨ts.length - 1, ts.length⟩

/-- The answers to calls in order. -/
def answers (p : Place) : List Lexer.Call → List (List Token)
  | [] => []
  | c :: cs => p.answer ts c :: (p.after ts c).answers cs

/-- The place after calls in order. -/
def afterAll (p : Place) (cs : List Lexer.Call) : Place := cs.foldl (after ts) p

end Place

namespace File

/-- What is wrong with the first `n` tokens of a file, in the order it is found. -/
def faultsOf (f : File) (n : Nat) : List Diagnostic :=
  (f.reading.lexemes.take n).flatMap (Placed.diagnostics f.id)

theorem faultsOf_zero (f : File) : f.faultsOf 0 = [] := rfl

theorem faultsOf_succ {f : File} {k : Nat} {p : Placed} (h : f.reading.lexemes[k]? = some p) :
    f.faultsOf (k + 1) = f.faultsOf k ++ p.diagnostics f.id := by
  rw [faultsOf, List.take_add_one, h, List.flatMap_append]
  simp [faultsOf]

/-- There is nothing wrong with the end of a file. -/
theorem faultsOf_length (f : File) {n : Nat} (h : f.reading.lexemes.length ≤ n) :
    f.faultsOf n = f.faults := by
  rw [faultsOf, List.take_of_length_le h]
  rfl

theorem length_stream (f : File) : f.stream.length = f.reading.lexemes.length + 1 := by
  simp [stream, Reading.tokens]

theorem stream_getElem? {f : File} {k : Nat} {p : Placed} (h : f.reading.lexemes[k]? = some p) :
    f.stream[k]? = some (p.token f.id) := by
  obtain ⟨hk, rfl⟩ := List.getElem?_eq_some_iff.mp h
  rw [stream, Reading.tokens, List.getElem?_append_left (by simpa using hk), List.getElem?_map, h]
  rfl

theorem stream_getElem?_last (f : File) : f.stream[f.reading.lexemes.length]? =
    some ⟨.eof, ⟨f.id, f.reading.stop.toUInt32, f.reading.stop.toUInt32⟩, []⟩ := by
  rw [stream, Reading.tokens, List.getElem?_append_right (by simp)]
  simp

end File

namespace Lexer

variable {σ : Type} (f : File) (b : Option (Builder σ))

/-- A lexer that scanned the first `k` tokens of a file, but not its end. -/
structure Inside (k : Nat) (lx : Lexer σ) : Prop where
  file : lx.file = f.id
  done : lx.done = false
  left : Reading.ofText lx.off lx.rest = ⟨f.reading.lexemes.drop k, f.reading.stop⟩
  count : k ≤ f.reading.lexemes.length
  builder : lx.builder = b.map fun x => (f.faultsOf k).foldl Builder.handOn x

/-- A lexer that scanned the end of a file. -/
structure Ended (lx : Lexer σ) : Prop where
  file : lx.file = f.id
  done : lx.done = true
  off : lx.off = f.reading.stop
  builder : lx.builder = b.map fun x => f.faults.foldl Builder.handOn x

/-- A lexer that scanned `k` tokens of a file. -/
def Scanned (k : Nat) (lx : Lexer σ) : Prop :=
  Inside f b k lx ∨ k = f.stream.length ∧ Ended f b lx

/-- A lexer at a place of the stream: what was looked at is known and not yet given. -/
structure At (p : Place) (lx : Lexer σ) : Prop where
  scanned : Scanned f b p.known lx
  look : match lx.look with
    | none => p.given = min p.known f.reading.lexemes.length
    | some t => p.known = p.given + 1 ∧ f.stream[p.given]? = some t

variable {f b} {k : Nat} {lx : Lexer σ} {p : Place}

theorem Inside.ready (hidle : ∀ x ∈ b, x.pending = none) (h : Inside f b k lx)
    (hlook : lx.look = none) : lx.Ready where
  look := hlook
  done := h.done
  idle := by
    intro x hx
    rw [h.builder] at hx
    obtain ⟨y, hy, rfl⟩ := Option.map_eq_some_iff.mp hx
    exact Builder.foldl_handOn_pending _ (hidle y hy)

/-- At the end of the text the lexer gives the end. -/
theorem Inside.next_last (hidle : ∀ x ∈ b, x.pending = none) (h : Inside f b k lx)
    (hlook : lx.look = none) (hnone : Lexeme.front? (lx.rest.drop (Lexeme.gap lx.rest)) = none) :
    ∃ t lx', lx.next = .ok (t, lx') ∧ f.stream[k]? = some t ∧ lx'.look = none ∧
      Scanned f b (k + 1) lx' := by
  have hleft := h.left
  rw [Reading.ofText_none hnone] at hleft
  obtain ⟨hdrop, hstop⟩ := Reading.mk.inj hleft
  have hk : k = f.reading.lexemes.length :=
    Nat.le_antisymm h.count (List.drop_eq_nil_iff.mp hdrop.symm)
  have hended : Ended f b lx.atEnd :=
    ⟨h.file, rfl, hstop, by rw [← f.faultsOf_length (Nat.le_of_eq hk.symm)]; exact h.builder⟩
  refine ⟨_, _, next_of_none (h.ready hidle hlook) hnone, ?_, hlook, .inr ⟨?_, hended⟩⟩
  · rw [hk, f.stream_getElem?_last, endToken, spanAt, hended.off, hended.file]
    rfl
  · rw [f.length_stream, hk]

/-- Before the end of the text the lexer gives the token of the next lexeme. -/
theorem Inside.next_lexeme (hidle : ∀ x ∈ b, x.pending = none) (h : Inside f b k lx)
    (hlook : lx.look = none) {m : Lexeme}
    (hsome : Lexeme.front? (lx.rest.drop (Lexeme.gap lx.rest)) = some m) :
    ∃ t lx', lx.next = .ok (t, lx') ∧ f.stream[k]? = some t ∧ lx'.look = none ∧
      Scanned f b (k + 1) lx' := by
  have hleft := h.left
  rw [Reading.ofText_some hsome] at hleft
  obtain ⟨hdrop, hstop⟩ := Reading.mk.inj hleft
  have hk : k < f.reading.lexemes.length := by
    apply Nat.lt_of_not_le
    intro hle
    rw [List.drop_eq_nil_of_le hle] at hdrop
    cases hdrop
  rw [List.drop_eq_getElem_cons hk] at hdrop
  obtain ⟨hhead, htail⟩ := List.cons.inj hdrop
  have hget : f.reading.lexemes[k]? = some ⟨lx.off + Lexeme.gap lx.rest, m⟩ := by
    rw [hhead, List.getElem?_eq_getElem hk]
  refine ⟨_, _, next_of_some (h.ready hidle hlook) hsome, ?_, hlook,
    .inl ⟨h.file, h.done, ?_, hk, ?_⟩⟩
  · rw [File.stream_getElem? hget, h.file]
  · rw [← htail, ← hstop]
    rfl
  · rw [File.faultsOf_succ hget]
    simp only [past, h.builder, h.file, Option.map_map, Function.comp_def, List.foldl_append]

theorem Ended.next (h : Ended f b lx) (hlook : lx.look = none) :
    lx.next = .ok (⟨.eof, ⟨f.id, f.reading.stop.toUInt32, f.reading.stop.toUInt32⟩, []⟩, lx) := by
  rw [Lexer.next, hlook]
  change lx.scan = _
  rw [scan, if_pos h.done, endToken, spanAt, h.file, h.off]
  rfl

/-- One more token is scanned, or the end again. -/
theorem Scanned.next (hidle : ∀ x ∈ b, x.pending = none) (h : Scanned f b k lx)
    (hlook : lx.look = none) :
    ∃ t lx', lx.next = .ok (t, lx') ∧ f.stream[min k f.reading.lexemes.length]? = some t ∧
      lx'.look = none ∧ Scanned f b (min (k + 1) f.stream.length) lx' := by
  rcases h with hin | ⟨rfl, hend⟩
  · have hcount := hin.count
    rw [Nat.min_eq_left hcount, f.length_stream, Nat.min_eq_left (by omega)]
    cases hm : Lexeme.front? (lx.rest.drop (Lexeme.gap lx.rest)) with
    | none => exact hin.next_last hidle hlook hm
    | some m => exact hin.next_lexeme hidle hlook hm
  · refine ⟨_, _, hend.next hlook, ?_, hlook, .inr ⟨?_, hend⟩⟩
    · rw [f.length_stream, Nat.min_eq_right (by omega)]
      exact f.stream_getElem?_last
    · exact Nat.min_eq_right (by omega)

theorem Scanned.le (h : Scanned f b k lx) : k ≤ f.stream.length := by
  rcases h with hin | ⟨rfl, -⟩
  · have hcount := hin.count
    rw [f.length_stream]
    omega
  · exact Nat.le_refl _

/-- What was looked at has nothing to do with what is scanned. -/
theorem Scanned.withLook (h : Scanned f b k lx) (look : Option Token) :
    Scanned f b k { lx with look } := by
  rcases h with hin | ⟨hk, hend⟩
  · exact .inl ⟨hin.file, hin.done, hin.left, hin.count, hin.builder⟩
  · exact .inr ⟨hk, hend.file, hend.done, hend.off, hend.builder⟩

/-- The end is never passed. -/
theorem At.given_lt (h : At f b p lx) : p.given < f.stream.length := by
  have hle := h.scanned.le
  have hlook := h.look
  have hlength := f.length_stream
  cases hl : lx.look with
  | none =>
    rw [hl] at hlook
    dsimp only at hlook
    omega
  | some t =>
    rw [hl] at hlook
    have hknown := hlook.1
    omega

theorem at_new (f : File) (b : Option (Builder σ)) : At f b {} (Lexer.new f b) where
  scanned := by
    refine .inl ⟨rfl, rfl, rfl, Nat.zero_le _, ?_⟩
    rw [f.faultsOf_zero]
    exact Option.map_id'.symm
  look := (Nat.zero_min _).symm

/-- The next token is the one at the place, and is then given. -/
theorem At.next (hidle : ∀ x ∈ b, x.pending = none) (h : At f b p lx) :
    ∃ t lx', lx.next = .ok (t, lx') ∧ f.stream[p.given]? = some t ∧
      At f b (p.after f.stream .next) lx' := by
  have hlength := f.length_stream
  have hle := h.scanned.le
  have hlook := h.look
  cases hl : lx.look with
  | none =>
    rw [hl] at hlook
    dsimp only at hlook
    obtain ⟨t, lx', hnext, ht, hnone, hscanned⟩ := h.scanned.next hidle hl
    refine ⟨t, lx', hnext, hlook ▸ ht, ?_, ?_⟩
    · have hknown : max p.known (p.given + 1) = min (p.known + 1) f.stream.length := by omega
      simp only [Place.after, hknown]
      exact hscanned
    · rw [hnone]
      simp only [Place.after]
      omega
  | some t =>
    rw [hl] at hlook
    obtain ⟨hknown, ht⟩ := hlook
    have hmax : max p.known (p.given + 1) = p.known := by omega
    refine ⟨t, { lx with look := none }, by simp only [Lexer.next, hl], ht, ?_, ?_⟩
    · simp only [Place.after, hmax]
      exact h.scanned.withLook none
    · simp only [Place.after]
      omega

/-- A look gives the token at the place and leaves it there. -/
theorem At.peek (hidle : ∀ x ∈ b, x.pending = none) (h : At f b p lx) :
    ∃ t lx', lx.peek = .ok (t, lx') ∧ f.stream[p.given]? = some t ∧
      At f b (p.after f.stream .peek) lx' := by
  have hlength := f.length_stream
  have hle := h.scanned.le
  have hlook := h.look
  cases hl : lx.look with
  | none =>
    rw [hl] at hlook
    dsimp only at hlook
    obtain ⟨t, lx', hnext, ht, hnone, hscanned⟩ := h.scanned.next hidle hl
    rw [← hlook] at ht
    refine ⟨t, { lx' with look := some t },
      by simp only [Lexer.peek, hnext, Except.map], ht, ?_, ?_⟩
    · have hknown : max p.known (p.given + 1) = min (p.known + 1) f.stream.length := by omega
      simp only [Place.after, hknown]
      exact hscanned.withLook (some t)
    · simp only [Place.after]
      exact ⟨by omega, ht⟩
  | some t =>
    rw [hl] at hlook
    obtain ⟨hknown, ht⟩ := hlook
    have hmax : max p.known (p.given + 1) = p.known := by omega
    refine ⟨t, { lx with look := some t },
      by simp only [Lexer.peek, Lexer.next, hl, Except.map], ht, ?_, ?_⟩
    · simp only [Place.after, hmax]
      exact h.scanned.withLook (some t)
    · simp only [Place.after, hmax]
      exact ⟨hknown, ht⟩

theorem mapSink_self (lx : Lexer σ) : lx.mapSink (fun s => s) = lx := by
  have hid : lx.builder.map (fun x => { x with sink := x.sink }) = lx.builder := Option.map_id'
  rw [mapSink, hid]

/-- Only the last token of a stream is the end. -/
theorem stream_kind {t : Token} (ht : f.stream[k]? = some t) :
    t.kind = .eof ↔ k = f.reading.lexemes.length := by
  obtain ⟨hk, -⟩ := List.getElem?_eq_some_iff.mp ht
  rw [f.length_stream] at hk
  rcases Nat.lt_or_eq_of_le (Nat.le_of_lt_succ hk) with hlt | rfl
  · have hget := List.getElem?_eq_getElem hlt
    rw [File.stream_getElem? hget] at ht
    cases ht
    have hkind := (f.token_covers (List.getElem_mem hlt)).kind_ne
    exact ⟨fun heof => absurd heof hkind, fun heq => absurd heq (Nat.ne_of_lt hlt)⟩
  · rw [f.stream_getElem?_last] at ht
    cases ht
    exact ⟨fun _ => rfl, fun _ => rfl⟩

/-- All tokens from a place on are collected when as many steps are allowed. -/
theorem At.collect (hidle : ∀ x ∈ b, x.pending = none) (h : At f b p lx) (acc : List Token)
    {fuel : Nat} (hfuel : f.stream.length ≤ p.given + fuel) :
    ∃ lx', Lexer.collect (fun _ s => s) acc lx fuel =
        .ok (acc.reverse ++ f.stream.drop p.given, lx') ∧
      At f b (p.after f.stream .all) lx' := by
  -- each step gives one more token, so the induction is on the steps allowed
  induction fuel generalizing p lx acc with
  | zero =>
    have hlt := h.given_lt
    omega
  | succ fuel ih =>
    have hlength := f.length_stream
    have hle := h.scanned.le
    have hlt := h.given_lt
    obtain ⟨t, lx₁, hnext, ht, hat⟩ := h.next hidle
    have hdrop : f.stream.drop p.given = t :: f.stream.drop (p.given + 1) := by
      rw [List.drop_eq_getElem_cons hlt]
      rw [List.getElem?_eq_getElem hlt] at ht
      rw [Option.some.inj ht]
    rw [Lexer.collect, hnext]
    simp only [mapSink_self]
    by_cases heof : t.kind = .eof
    · have hlast := (stream_kind ht).mp heof
      have hplace : p.after f.stream .next = p.after f.stream .all := by
        simp only [Place.after, Place.mk.injEq]
        omega
      refine ⟨lx₁, ?_, hplace ▸ hat⟩
      rw [if_pos heof, hdrop, List.drop_eq_nil_of_le (by omega), List.reverse_cons]
    · have hmore : p.given ≠ f.reading.lexemes.length := mt (stream_kind ht).mpr heof
      have hgiven : (p.after f.stream .next).given = p.given + 1 := by
        simp only [Place.after]
        omega
      obtain ⟨lx₂, hcollect, hat₂⟩ := ih hat (t :: acc) (by omega)
      refine ⟨lx₂, ?_, hat₂⟩
      rw [if_neg heof, hcollect, hgiven, hdrop, List.reverse_cons, List.append_assoc]
      rfl

/-- No more tokens are left than the lexer allows itself steps. -/
theorem At.enough (h : At f b p lx) : f.stream.length ≤ p.given + (lx.rest.length + 2) := by
  have hlength := f.length_stream
  have hknown : p.known ≤ p.given + 1 := by
    have hle := h.scanned.le
    have hlook := h.look
    cases hl : lx.look with
    | none =>
      rw [hl] at hlook
      dsimp only at hlook
      omega
    | some t =>
      rw [hl] at hlook
      exact Nat.le_of_eq hlook.1
  rcases h.scanned with hin | ⟨hk, -⟩
  · have hrest := Reading.length_ofText lx.off lx.rest
    rw [hin.left, List.length_drop] at hrest
    have hcount := hin.count
    omega
  · omega

/-- Whatever a lexer is asked for, it answers from its place. -/
theorem At.perform (hidle : ∀ x ∈ b, x.pending = none) (h : At f b p lx) (c : Call) :
    ∃ lx', lx.perform c = .ok (p.answer f.stream c, lx') ∧ At f b (p.after f.stream c) lx' := by
  have hone : ∀ {t}, f.stream[p.given]? = some t → (f.stream.drop p.given).take 1 = [t] := by
    intro t ht
    rw [List.drop_eq_getElem_cons h.given_lt]
    rw [List.getElem?_eq_getElem h.given_lt] at ht
    rw [Option.some.inj ht]
    rfl
  cases c with
  | next =>
    obtain ⟨t, lx', hnext, ht, hat⟩ := h.next hidle
    refine ⟨lx', ?_, hat⟩
    simp only [Lexer.perform, hnext, Except.map, Place.answer, hone ht]
  | peek =>
    obtain ⟨t, lx', hpeek, ht, hat⟩ := h.peek hidle
    refine ⟨lx', ?_, hat⟩
    simp only [Lexer.perform, hpeek, Except.map, Place.answer, hone ht]
  | all => exact h.collect hidle [] h.enough

theorem At.run (hidle : ∀ x ∈ b, x.pending = none) (h : At f b p lx) (script : List Call) :
    ∃ lx', lx.run script = .ok (p.answers f.stream script, lx') ∧
      At f b (p.afterAll f.stream script) lx' := by
  induction script generalizing p lx with
  | nil => exact ⟨lx, rfl, h⟩
  | cons c cs ih =>
    obtain ⟨lx₁, hperform, hat⟩ := h.perform hidle c
    obtain ⟨lx₂, hrun, hat₂⟩ := ih hat
    refine ⟨lx₂, ?_, hat₂⟩
    rw [Lexer.run, hperform]
    simp only [hrun, Except.map]
    rfl

theorem Scanned.builder (h : Scanned f b k lx) :
    lx.builder = b.map fun x => (f.faultsOf k).foldl Builder.handOn x := by
  rcases h with hin | ⟨rfl, hend⟩
  · exact hin.builder
  · rw [f.faultsOf_length (by rw [f.length_stream]; omega)]
    exact hend.builder

/-- A script of calls on a fresh lexer is answered from the stream that the plain scan gives, token
by token, a look taking none and the end staying where it is. Reported is what is wrong with the
tokens known after the script, once and in order, to the builder if there is one. -/
theorem run_plain (f : File) {b : Option (Builder σ)} (hidle : ∀ x ∈ b, x.pending = none)
    (script : List Call) :
    ∃ full lx, (Lexer.new f b).all = .ok (f.stream, full) ∧
      (Lexer.new f b).run script = .ok (Place.answers f.stream {} script, lx) ∧
      lx.builder = b.map fun x =>
        (f.faultsOf (Place.afterAll f.stream {} script).known).foldl Builder.handOn x := by
  obtain ⟨full, hall, -⟩ := (at_new f b).perform hidle .all
  obtain ⟨lx, hrun, hat⟩ := (at_new f b).run hidle script
  exact ⟨full, lx, hall, hrun, hat.scanned.builder⟩

/-- Two looks at a stray octet, then the octet, all that is left, and the end once more. -/
theorem run_plain_stray :
    let f := File.make 3 "stray.kj" (Bytes.ofString "`x '") 0 (by decide)
    let b : Builder Bag := { report := Reporter.bag, sink := { limit := 9 } }
    let script : List Call := [.peek, .peek, .next, .all, .peek, .next]
    (∀ x ∈ some b, x.pending = none) ∧
      ∃ full lx, (Lexer.new f (some b)).all = .ok (f.stream, full) ∧
        (Lexer.new f (some b)).run script = .ok (Place.answers f.stream {} script, lx) ∧
        lx.builder = (some b).map fun x =>
          (f.faultsOf (Place.afterAll f.stream {} script).known).foldl Builder.handOn x :=
  ⟨by simp, run_plain _ (by simp) _⟩

end Lexer

end FrontEnd
