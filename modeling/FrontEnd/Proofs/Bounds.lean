import FrontEnd.Proofs.Walk
import Mathlib.Data.List.Induction

/-!
A cursor stays in its file. Nothing is tested when the buffer is read; what keeps every read inside
is that the offset never passes the content and that the sentinel stands behind it. So each call on
a cursor does what the same call does on a list of octets and a number, where nothing overflows.
-/
namespace FrontEnd

open Walk (cursorAt)

namespace Cursor

variable {f : File} {off : Nat}

theorem toNat_off (h : off ≤ f.content.length) :
    (cursorAt f off).off.toNat = off := f.toNat_offset h

/-- Up to the end of the content a read gives its octet, and there the sentinel. -/
theorem read_cursorAt (f : File) (off : Nat) {i : UInt32} (h : i.toNat ≤ f.content.length) :
    (cursorAt f off).read i = .ok (f.content[i.toNat]?.getD sentinel) := by
  have hget : (cursorAt f off).buffer[i.toNat]? = some (f.content[i.toNat]?.getD sentinel) := by
    change (f.content ++ [sentinel]).toArray[i.toNat]? = _
    rw [List.getElem?_toArray]
    rcases Nat.lt_or_eq_of_le h with hlt | heq
    · rw [List.getElem?_append_left hlt, List.getElem?_eq_getElem hlt, Option.getD_some]
    · rw [heq, List.getElem?_concat_length, List.getElem?_eq_none (Nat.le_refl _), Option.getD_none]
  rw [read, hget]

/-- The difference of the offsets is the number of octets that are left. -/
theorem toNat_left (h : off ≤ f.content.length) :
    ((cursorAt f off).stop - (cursorAt f off).off).toNat = f.content.length - off := by
  rw [UInt32.toNat_sub_of_le, Walk.toNat_stop, toNat_off h]
  rw [UInt32.le_iff_toNat_le, Walk.toNat_stop, toNat_off h]
  exact h

theorem off_lt_stop_iff (h : off ≤ f.content.length) :
    (cursorAt f off).off < (cursorAt f off).stop ↔ off < f.content.length := by
  rw [UInt32.lt_iff_toNat_lt, Walk.toNat_stop, toNat_off h]

/-- A sum that stays in the content does not come around. -/
theorem off_add {n : UInt32} (h : off + n.toNat ≤ f.content.length) :
    (cursorAt f off).off + n = (cursorAt f (off + n.toNat)).off := by
  have hfits := f.fits
  unfold FitsOffsets at hfits
  apply UInt32.toNat_inj.mp
  rw [UInt32.toNat_add, toNat_off h, toNat_off (by omega)]
  exact Nat.mod_eq_of_lt (by omega)

theorem off_add_one (h : off < f.content.length) :
    (cursorAt f off).off + 1 = (cursorAt f (off + 1)).off :=
  off_add (n := 1) (by rw [UInt32.toNat_one]; exact h)

theorem atEnd_cursorAt (h : off ≤ f.content.length) :
    (cursorAt f off).atEnd = decide (f.content.length ≤ off) := by
  have hiff := (not_congr (off_lt_stop_iff h)).trans Nat.not_lt
  rw [UInt32.not_lt] at hiff
  simp only [atEnd, hiff]

theorem peek_cursorAt (h : off ≤ f.content.length) :
    (cursorAt f off).peek = .ok (f.content[off]?.getD sentinel) := by
  have hoff := toNat_off h
  have hread := read_cursorAt f off (i := (cursorAt f off).off) (by rw [hoff]; exact h)
  rwa [hoff] at hread

theorem peekAt_cursorAt (h : off ≤ f.content.length) (n : UInt32) :
    (cursorAt f off).peekAt n = .ok (f.content[off + n.toNat]?.getD sentinel) := by
  have hfar : n > (cursorAt f off).stop - (cursorAt f off).off ↔
      f.content.length - off < n.toNat := by
    rw [GT.gt, UInt32.lt_iff_toNat_lt, toNat_left h]
  unfold peekAt
  by_cases hn : f.content.length - off < n.toNat
  · rw [if_pos (hfar.mpr hn), List.getElem?_eq_none (by omega), Option.getD_none]
  · -- the place is in the content or at its end, so that the sum is the place
    have hle : off + n.toNat ≤ f.content.length := by omega
    have hsum : ((cursorAt f off).off + n).toNat = off + n.toNat := by
      rw [off_add hle, toNat_off hle]
    have hread := read_cursorAt f off (i := (cursorAt f off).off + n) (by rw [hsum]; exact hle)
    rw [if_neg (mt hfar.mp hn), hread, hsum]

theorem bump_cursorAt (h : off ≤ f.content.length) :
    (cursorAt f off).bump =
      .ok (f.content[off]?.getD sentinel, cursorAt f (min (off + 1) f.content.length)) := by
  rw [bump, peek_cursorAt h]
  by_cases hlt : off < f.content.length
  · rw [Nat.min_eq_left hlt]
    simp only [Except.map, off_lt_stop_iff h, hlt, if_true, off_add_one hlt]
    rfl
  · rw [Nat.min_eq_right (by omega), show f.content.length = off by omega]
    simp only [Except.map, off_lt_stop_iff h, hlt, if_false]

theorem advance_cursorAt (h : off ≤ f.content.length) {n : Int} (hn : 0 ≤ n ∧ n < 0x100000000) :
    (cursorAt f off).advance n =
      .ok (cursorAt f (off + min n.toNat (f.content.length - off))) := by
  have hword : n.toNat.toUInt32.toNat = n.toNat := by
    rw [Nat.toUInt32, UInt32.toNat_ofNat']
    omega
  have hstep : (min n.toNat.toUInt32 ((cursorAt f off).stop - (cursorAt f off).off)).toNat =
      min n.toNat (f.content.length - off) := by
    rw [UInt32.toNat_min, hword, toNat_left h]
  rw [advance, if_pos hn, off_add (by omega), hstep]
  rfl

theorem eat_cursorAt (h : off ≤ f.content.length) (b : UInt8) :
    (cursorAt f off).eat b =
      .ok (if f.content[off]? = some b then (true, cursorAt f (off + 1))
        else (false, cursorAt f off)) := by
  unfold eat
  by_cases hlt : off < f.content.length
  · rw [if_pos ((off_lt_stop_iff h).mpr hlt), peek_cursorAt h, List.getElem?_eq_getElem hlt,
      off_add_one hlt]
    simp only [Except.map, Option.getD_some, Option.some.injEq]
    rfl
  · rw [if_neg (mt (off_lt_stop_iff h).mp hlt), List.getElem?_eq_none (Nat.not_lt.mp hlt)]
    rfl

theorem reset_cursorAt (f : File) (off : Nat) (m : Mark) :
    (cursorAt f off).reset m = cursorAt f m.toNat := by
  have hm : m.toNat.toUInt32 = m := UInt32.ofNat_toNat
  rw [cursorAt, cursorAt, hm]
  rfl

end Cursor

namespace Moving

open Cursor (Mark)

/-- What is refused or moves a cursor, done in place: a refusal leaves the cursor where it is. -/
def outcome {α : Type} (c : Cursor) :
    Except CursorError (α × Cursor) → EStateM.Result CursorError Cursor α
  | .ok (a, c') => .ok a c'
  | .error e => .error e c

theorem look_apply {α : Type} (sight : Cursor → Except CursorError α) (c : Cursor) :
    look sight c = outcome c ((sight c).map (·, c)) := by
  change (look sight).run c = _
  cases h : sight c with
  | ok a =>
    simp [look, h]
    rfl
  | error e =>
    simp [look, h]
    rfl

theorem peek_apply (c : Cursor) : peek c = outcome c (c.peek.map (·, c)) := look_apply _ c

theorem peekAt_apply (n : UInt32) (c : Cursor) :
    peekAt n c = outcome c ((c.peekAt n).map (·, c)) := look_apply _ c

theorem rest_apply (c : Cursor) : rest c = outcome c (c.rest.map (·, c)) := look_apply _ c

theorem bump_apply (c : Cursor) : bump c = outcome c c.bump := by
  change bump.run c = _
  cases hp : c.peek with
  | error e =>
    simp [bump, peek, look, Cursor.bump, hp]
    rfl
  | ok b =>
    by_cases h : c.off < c.stop
    · simp [bump, peek, look, Cursor.bump, hp, h]
      rfl
    · simp [bump, peek, look, Cursor.bump, hp, h]
      rfl

theorem advance_apply (n : Int) (c : Cursor) :
    advance n c = outcome c ((c.advance n).map ((), ·)) := by
  change (advance n).run c = _
  by_cases h : 0 ≤ n ∧ n < 0x100000000
  · simp [advance, Cursor.advance, h]
    rfl
  · simp [advance, Cursor.advance, h]
    rfl

theorem eat_apply (b : UInt8) (c : Cursor) : eat b c = outcome c (c.eat b) := by
  change (eat b).run c = _
  by_cases h : c.off < c.stop
  · cases hp : c.peek with
    | error e =>
      simp [eat, peek, look, Cursor.eat, hp, h]
      rfl
    | ok x =>
      by_cases hx : x = b
      · simp [eat, peek, look, Cursor.eat, Except.map, hp, h, hx]
        rfl
      · simp [eat, peek, look, Cursor.eat, Except.map, hp, h, hx]
        rfl
  · simp [eat, Cursor.eat, h]
    rfl

theorem map_apply {α β : Type} {x : Moving α} {c : Cursor} {r : Except CursorError (α × Cursor)}
    (h : x c = outcome c r) (g : α → β) :
    (g <$> x) c = outcome c (r.map fun (a, c') => (g a, c')) := by
  change EStateM.map g x c = _
  rw [EStateM.map, h]
  cases r <;> rfl

/-- What is asked of a cursor. -/
inductive Call where
  | atEnd
  | peek
  | peekAt (n : UInt32)
  | bump
  | advance (n : Int)
  | eat (b : UInt8)
  | rest
  | mark
  | spanFrom (m : Mark)
  | reset (m : Mark)

inductive Answer where
  | nothing
  | flag (b : Bool)
  | octet (b : UInt8)
  | text (s : Bytes)
  | mark (m : Mark)
  | span (s : Span)

namespace Call

def perform : Call → Moving Answer
  | .atEnd => .flag <$> Moving.atEnd
  | .peek => .octet <$> Moving.peek
  | .peekAt n => .octet <$> Moving.peekAt n
  | .bump => .octet <$> Moving.bump
  | .advance n => (fun _ => .nothing) <$> Moving.advance n
  | .eat b => .flag <$> Moving.eat b
  | .rest => .text <$> Moving.rest
  | .mark => .mark <$> Moving.mark
  | .spanFrom m => .span <$> Moving.spanFrom m
  | .reset m => (fun _ => .nothing) <$> Moving.reset m

/-- What a call gives and where it leads, from an offset of a file on. -/
def result (f : File) (off : Nat) : Call → Except CursorError (Answer × Nat)
  | .atEnd => .ok (.flag (f.content.length ≤ off), off)
  | .peek => .ok (.octet (f.content[off]?.getD sentinel), off)
  | .peekAt n => .ok (.octet (f.content[off + n.toNat]?.getD sentinel), off)
  | .bump => .ok (.octet (f.content[off]?.getD sentinel), min (off + 1) f.content.length)
  | .advance n =>
    if 0 ≤ n ∧ n < 0x100000000 then
      .ok (.nothing, off + min n.toNat (f.content.length - off))
    else .error .outOfRange
  | .eat b => .ok (if f.content[off]? = some b then (.flag true, off + 1) else (.flag false, off))
  | .rest => .ok (.text (f.content.drop off), off)
  | .mark => .ok (.mark off.toUInt32, off)
  | .spanFrom m => .ok (.span ⟨f.id, m, off.toUInt32⟩, off)
  | .reset m => .ok (.nothing, m.toNat)

variable {f : File} {off : Nat}

/-- In place and on words, a call does what it does on a list of octets and a number. -/
theorem perform_cursorAt (h : off ≤ f.content.length) (call : Call) :
    call.perform (cursorAt f off) =
      outcome (cursorAt f off) ((call.result f off).map fun (a, off') => (a, cursorAt f off')) := by
  cases call with
  | atEnd =>
    have hend : Moving.atEnd (cursorAt f off) =
      outcome (cursorAt f off) (.ok ((cursorAt f off).atEnd, cursorAt f off)) := rfl
    rw [perform, map_apply hend, Cursor.atEnd_cursorAt h]
    rfl
  | peek =>
    rw [perform, map_apply (peek_apply _), Cursor.peek_cursorAt h]
    rfl
  | peekAt n =>
    rw [perform, map_apply (peekAt_apply _ _), Cursor.peekAt_cursorAt h]
    rfl
  | bump =>
    rw [perform, map_apply (bump_apply _), Cursor.bump_cursorAt h]
    rfl
  | advance n =>
    rw [perform, map_apply (advance_apply _ _), result]
    by_cases hn : 0 ≤ n ∧ n < 0x100000000
    · rw [if_pos hn, Cursor.advance_cursorAt h hn]
      rfl
    · rw [if_neg hn, Cursor.advance, if_neg hn]
      rfl
  | eat b =>
    rw [perform, map_apply (eat_apply _ _), Cursor.eat_cursorAt h, result]
    split <;> rfl
  | rest =>
    rw [perform, map_apply (rest_apply _), Walk.rest_eq ⟨h, rfl⟩]
    rfl
  | mark => rfl
  | spanFrom m => rfl
  | reset m =>
    have hreset : Moving.reset m (cursorAt f off) =
      outcome (cursorAt f off) (.ok ((), (cursorAt f off).reset m)) := rfl
    rw [perform, map_apply hreset, Cursor.reset_cursorAt]
    rfl

/-- A reset to an offset in the file is the only call that needs anything to stay in the file. -/
theorem result_le (h : off ≤ f.content.length) {call : Call}
    (hback : ∀ m, call = .reset m → m.toNat ≤ f.content.length) {a : Answer} {off' : Nat}
    (hresult : call.result f off = .ok (a, off')) :
    off' ≤ f.content.length ∧ ∀ m, a = .mark m → m.toNat ≤ f.content.length := by
  cases call with
  | atEnd | peek | peekAt | rest | spanFrom =>
    cases hresult
    exact ⟨h, by simp⟩
  | bump =>
    cases hresult
    exact ⟨Nat.min_le_right _ _, by simp⟩
  | advance n =>
    rw [result] at hresult
    split at hresult
    · cases hresult
      exact ⟨by omega, by simp⟩
    · cases hresult
  | eat b =>
    rw [result, Except.ok.injEq] at hresult
    split at hresult
    · rename_i hb
      cases hresult
      exact ⟨(List.getElem?_eq_some_iff.mp hb).1, by simp⟩
    · cases hresult
      exact ⟨h, by simp⟩
  | mark =>
    cases hresult
    refine ⟨h, ?_⟩
    rintro m ⟨⟩
    rwa [f.toNat_offset h]
  | reset m =>
    cases hresult
    exact ⟨hback m rfl, by simp⟩

/-- Only a step that is no word is refused. -/
theorem result_error {call : Call} {e : CursorError} (h : call.result f off = .error e) :
    e = .outOfRange ∧ ∃ n, call = .advance n ∧ ¬(0 ≤ n ∧ n < 0x100000000) := by
  cases call with
  | atEnd | peek | peekAt | bump | eat | rest | mark | spanFrom | reset => cases h
  | advance n =>
    rw [result] at h
    split at h
    · cases h
    · rename_i hn
      cases h
      exact ⟨rfl, n, rfl, hn⟩

/-- The cursor behind a call, refused or not. -/
def left : EStateM.Result CursorError Cursor Answer → Cursor
  | .ok _ c | .error _ c => c

/-- The mark that a call gave. -/
def given? : EStateM.Result CursorError Cursor Answer → Option Mark
  | .ok (.mark m) _ => some m
  | _ => none

end Call

open Call (left given?)

/-- The cursor of a file after any number of calls, with the marks that it gave on the way. It is
reset to these only. -/
inductive Moved (f : File) : Cursor → List Mark → Prop
  | start : Moved f (Cursor.new f) []
  | call {c : Cursor} {marks : List Mark} (call : Call) (h : Moved f c marks)
      (back : ∀ m, call = .reset m → m ∈ marks) :
      Moved f (left (call.perform c)) (marks ++ (given? (call.perform c)).toList)

variable {f : File} {c : Cursor} {marks : List Mark}

theorem Moved.inside (h : Moved f c marks) :
    (∃ off, off ≤ f.content.length ∧ c = cursorAt f off) ∧
      ∀ m ∈ marks, m.toNat ≤ f.content.length := by
  induction h with
  | start => exact ⟨⟨0, Nat.zero_le _, rfl⟩, List.forall_mem_nil _⟩
  | @call c marks call _ back ih =>
    obtain ⟨⟨off, hoff, rfl⟩, hmarks⟩ := ih
    have hback : ∀ m, call = .reset m → m.toNat ≤ f.content.length :=
      fun m hm => hmarks m (back m hm)
    rw [call.perform_cursorAt hoff]
    cases hresult : call.result f off with
    | error e => exact ⟨⟨off, hoff, rfl⟩, by simpa [given?, outcome, Except.map] using hmarks⟩
    | ok x =>
      obtain ⟨a, off'⟩ := x
      obtain ⟨hoff', hmark⟩ := Call.result_le hoff hback hresult
      refine ⟨⟨off', hoff', rfl⟩, List.forall_mem_append.mpr ⟨hmarks, ?_⟩⟩
      cases a with
      | mark m => simpa [given?, outcome, Except.map] using hmark m rfl
      | nothing | flag | octet | text | span => simp [given?, outcome, Except.map]

/-- Wherever calls have led a cursor: its offset is in the content or at its end. The only call that
fails is to step over a number of octets that is no word, which leaves the cursor where it is; so
nothing outside the buffer is ever read. A look ahead gives the octet at that distance, or the
sentinel if the content does not reach so far, and a step of any length goes on to the end at
most. -/
theorem moved_within (h : Moved f c marks) :
    c.off.toNat ≤ f.content.length ∧
    (∀ (call : Call) (e : CursorError) (c' : Cursor), call.perform c = .error e c' →
      e = .outOfRange ∧ c' = c ∧ ∃ n, call = .advance n ∧ ¬(0 ≤ n ∧ n < 0x100000000)) ∧
    (∀ n : UInt32, (Call.peekAt n).perform c =
      .ok (.octet (f.content[c.off.toNat + n.toNat]?.getD sentinel)) c) ∧
    (∀ n : Int, 0 ≤ n ∧ n < 0x100000000 → ∃ c', (Call.advance n).perform c = .ok .nothing c' ∧
      c'.off.toNat = c.off.toNat + min n.toNat (f.content.length - c.off.toNat)) ∧
    ∀ n : Int, ¬(0 ≤ n ∧ n < 0x100000000) →
      (Call.advance n).perform c = .error .outOfRange c := by
  obtain ⟨⟨off, hoff, rfl⟩, -⟩ := h.inside
  rw [Cursor.toNat_off hoff]
  refine ⟨hoff, ?_, fun n => Call.perform_cursorAt hoff (.peekAt n), ?_, ?_⟩
  · intro call e c' hfail
    rw [call.perform_cursorAt hoff] at hfail
    cases hresult : call.result f off with
    | ok x =>
      rw [hresult] at hfail
      cases hfail
    | error e' =>
      rw [hresult] at hfail
      cases hfail
      obtain ⟨he, hcall⟩ := Call.result_error hresult
      exact ⟨he, rfl, hcall⟩
  · intro n hn
    rw [Call.perform_cursorAt hoff, Call.result, if_pos hn]
    exact ⟨_, rfl, Cursor.toNat_off (by omega)⟩
  · intro n hn
    rw [Call.perform_cursorAt hoff, Call.result, if_neg hn]
    rfl

/-- To the end, back to a mark, and over the first octet. The farthest look ahead from there adds up
to more than a word. -/
theorem moved_within_back :
    let f := File.make 0 "t.kj" (Bytes.ofString "->") 0 (by decide)
    ∃ c, Moved f c [0] ∧ c.off = 1 ∧
      (Call.peekAt 0).perform c = .ok (.octet 62) c ∧
      (Call.peekAt 0xFFFFFFFF).perform c = .ok (.octet sentinel) c ∧
      (∃ c', (Call.advance 0xFFFFFFFF).perform c = .ok .nothing c' ∧ c'.off.toNat = 2) ∧
      (Call.advance (-1)).perform c = .error .outOfRange c := by
  intro f
  have h : Moved f _ _ :=
    .call .bump (.call (.reset 0) (.call (.advance 0xFFFFFFFF) (.call .mark .start (by simp))
      (by simp)) fun m hm => by cases hm; decide) (by simp)
  obtain ⟨-, -, hpeek, hadvance, hrefused⟩ := moved_within h
  exact ⟨_, h, rfl, hpeek 0, hpeek 0xFFFFFFFF, hadvance 0xFFFFFFFF (by decide),
    hrefused (-1) (by decide)⟩

end Moving

end FrontEnd
