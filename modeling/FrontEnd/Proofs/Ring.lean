import FrontEnd.Trace.Hub

/-!
What a ring keeps. While there are free places the cells are the events in order; from then on the
oldest event stands at a place that goes around, and a new one takes its place. In both phases the
cells, read from that place on, are the newest of all events given to the ring.
-/
namespace FrontEnd.Trace

/-- A list with its oldest item replaced, read from the next place on: the oldest item is gone and
the new one is last. -/
theorem turned_set {α : Type} (xs : List α) (i : Nat) (x : α) (hi : i < xs.length) :
    (xs.set i x).drop ((i + 1) % xs.length) ++ (xs.set i x).take ((i + 1) % xs.length) =
      (xs.drop i ++ xs.take i).tail ++ [x] := by
  obtain ⟨pre, y, post, rfl, rfl⟩ : ∃ pre y post, xs = pre ++ y :: post ∧ pre.length = i :=
    ⟨xs.take i, xs[i], xs.drop (i + 1),
      by rw [← List.drop_eq_getElem_cons hi, List.take_append_drop],
      List.length_take_of_le (Nat.le_of_lt hi)⟩
  cases post with
  | nil =>
    -- the oldest stands at the last place, so that the next place is the first
    have hwrap : (pre.length + 1) % (pre ++ [y]).length = 0 := by simp
    rw [hwrap]
    simp
  | cons z post =>
    have hnext : (pre.length + 1) % (pre ++ y :: z :: post).length = (pre ++ [x]).length := by
      rw [Nat.mod_eq_of_lt (by simp), List.length_append, List.length_singleton]
    have hset : (pre ++ y :: z :: post).set pre.length x = (pre ++ [x]) ++ z :: post := by simp
    rw [hnext, hset, List.drop_left, List.take_left]
    simp

namespace Ring

/-- The ring has so many places and was given these events, the oldest first. -/
structure Given (r : Ring) (places : Nat) (es : List Event) : Prop where
  capacity : r.capacity = places
  next : r.next < places
  size : r.cells.size = min places es.length
  /-- The place of the oldest event is the first until all places are taken. -/
  filling : r.cells.size < places → r.next = 0
  events : r.events = es.drop (es.length - places)
  total : r.total = es.length.toUInt64

theorem new_given (capacity : Int) (level : Level) :
    (new capacity level).Given (if 0 < capacity then capacity.toNat else 4096) [] where
  capacity := rfl
  next := by
    change 0 < _
    split <;> omega
  size := (Nat.min_zero _).symm
  filling _ := rfl
  events := List.drop_nil.symm
  total := rfl

theorem push_level (r : Ring) (e : Event) : (r.push e).level = r.level := by
  unfold push
  split <;> rfl

theorem length_events (r : Ring) : r.events.length = r.cells.size := by
  simp only [events, List.length_append, List.length_drop, List.length_take, Array.length_toList]
  omega

theorem toUInt64_succ (n : Nat) : n.toUInt64 + 1 = (n + 1).toUInt64 :=
  (UInt64.ofNat_add n 1).symm

variable {r : Ring} {places : Nat} {es : List Event}

/-- There are free places: the event takes the first of them. -/
theorem Given.push_filling (h : r.Given places es) (hroom : r.cells.size < places) (e : Event) :
    (r.push e).Given places (es ++ [e]) := by
  have hsize := h.size
  have hnext := h.filling hroom
  have hfew : es.length - places = 0 := by omega
  have hfew' : es.length + 1 - places = 0 := by omega
  have hcells : r.cells.toList = es := by
    have hevents := h.events
    simpa [Ring.events, hnext, hfew] using hevents
  rw [push, if_pos (h.capacity ▸ hroom)]
  refine ⟨h.capacity, h.next, ?_, fun _ => hnext, ?_, ?_⟩
  · simp only [Array.size_push, List.length_append, List.length_singleton]
    omega
  · simp [Ring.events, hnext, hcells, hfew']
  · simp only [List.length_append, List.length_singleton, h.total, toUInt64_succ]

/-- All places are taken: the event takes that of the oldest, and the next oldest is behind it. -/
theorem Given.push_full (h : r.Given places es) (hfull : ¬ r.cells.size < places) (e : Event) :
    (r.push e).Given places (es ++ [e]) := by
  have hnext := h.next
  have hsize := h.size
  have hturned : (r.cells.setIfInBounds r.next e).toList.drop ((r.next + 1) % r.cells.size) ++
      (r.cells.setIfInBounds r.next e).toList.take ((r.next + 1) % r.cells.size) =
        r.events.tail ++ [e] := by
    rw [Array.toList_setIfInBounds, ← Array.length_toList]
    exact turned_set _ _ _ (by rw [Array.length_toList]; omega)
  rw [push, if_neg (h.capacity ▸ hfull)]
  refine ⟨h.capacity, ?_, ?_, ?_, ?_, ?_⟩
  · have hmod := Nat.mod_lt (r.next + 1) (y := r.cells.size) (by omega)
    change (r.next + 1) % r.cells.size < places
    omega
  · simp only [Array.size_setIfInBounds, List.length_append, List.length_singleton]
    omega
  · intro hroom
    rw [Array.size_setIfInBounds] at hroom
    exact absurd hroom hfull
  · have hcut : es.length - places + 1 = es.length + 1 - places := by omega
    calc _ = r.events.tail ++ [e] := hturned
      _ = es.drop (es.length + 1 - places) ++ [e] := by rw [h.events, List.tail_drop, hcut]
      _ = (es ++ [e]).drop ((es ++ [e]).length - places) := by
        rw [List.length_append, List.length_singleton, List.drop_append_of_le_length (by omega)]
  · simp only [List.length_append, List.length_singleton, h.total, toUInt64_succ]

theorem Given.push (h : r.Given places es) (e : Event) : (r.push e).Given places (es ++ [e]) := by
  by_cases hroom : r.cells.size < places
  · exact h.push_filling hroom e
  · exact h.push_full hroom e

theorem Given.length_events (h : r.Given places es) : r.events.length = min places es.length :=
  r.length_events.trans h.size

theorem Given.dropped_eq (h : r.Given places es) :
    r.dropped = (es.length - min places es.length).toUInt64 := by
  rw [dropped, h.total, h.size]
  exact (UInt64.ofNat_sub (Nat.min_le_right _ _)).symm

end Ring

/-- Events with the numbers they get when the last number given was `last`. -/
def Event.numbered (last : UInt64) : List Event → List Event
  | [] => []
  | e :: es => { e with seq := last + 1 } :: numbered (last + 1) es

theorem Event.length_numbered (last : UInt64) (es : List Event) :
    (numbered last es).length = es.length := by
  induction es generalizing last with
  | nil => rfl
  | cons e es ih => rw [numbered, List.length_cons, List.length_cons, ih]

theorem Tracer.ring?_single (h : Hub) (i : Nat) :
    Tracer.ring? h (.single (.ring i)) = h.rings[i]? := by
  simp only [ring?, sinks, List.findSome?_cons, List.findSome?_nil]
  cases h.rings[i]? <;> rfl

namespace Hub

/-- Gives events to a tracer, one after the other. -/
def emitAll (h : Hub) (t : Tracer) (es : List Event) : Hub := es.foldl (fun h e => h.emit t e) h

theorem emit_ring {h : Hub} {i : Nat} {r : Ring} (hr : h.rings[i]? = some r) (e : Event) :
    h.emit (.single (.ring i)) e = if r.level.admits e.scope then
      { h with seq := h.seq + 1, rings := h.rings.modify i (·.push { e with seq := h.seq + 1 }) }
    else h := by
  have hlevel : Sink.level h (.ring i) = r.level := by simp [Sink.level, hr]
  change (h.give e (.ring i)).2 = _
  rw [give, hlevel]
  split <;> rfl

/-- A ring that is given events gets those that its level admits, numbered one after the other.
Notes are as before. -/
theorem emitAll_ring {h : Hub} {i : Nat} {r : Ring} (hr : h.rings[i]? = some r) {places : Nat}
    {before : List Event} (hgiven : r.Given places before) (es : List Event) :
    ∃ r', (h.emitAll (.single (.ring i)) es).rings[i]? = some r' ∧
      r'.Given places (before ++ Event.numbered h.seq (es.filter (r.level.admits ·.scope))) ∧
      (h.emitAll (.single (.ring i)) es).notes = h.notes := by
  induction es generalizing h r before with
  | nil => exact ⟨r, hr, by simpa [Event.numbered] using hgiven, rfl⟩
  | cons e es ih =>
    rw [emitAll, List.foldl_cons, emit_ring hr, List.filter_cons]
    by_cases hadmits : r.level.admits e.scope = true
    · rw [if_pos hadmits, if_pos hadmits, Event.numbered, List.append_cons, ← r.push_level]
      refine ih (h := { h with
        seq := h.seq + 1, rings := h.rings.modify i (·.push { e with seq := h.seq + 1 }) }) ?_
        (hgiven.push _)
      rw [Array.getElem?_modify, if_pos rfl, hr]
      rfl
    · rw [if_neg hadmits, if_neg hadmits]
      exact ih hr hgiven

theorem shown_congr {h h' : Hub} (hnotes : h'.notes = h.notes) : h'.shown = h.shown := by
  funext e
  simp only [shown, notesOf, hnotes]

/-- A ring keeps the newest events. Of all events it is given, `n` of which its level admits, it has
the last ones, as many as it has places for, in their order and with the numbers they got; and what
it tells as dropped, in 64 bits, is how many of the `n` are not there. -/
theorem ring_newest (h : Hub) (capacity : Int) (level : Level) (es : List Event) :
    let places := if 0 < capacity then capacity.toNat else 4096
    let admitted := es.filter (level.admits ·.scope)
    let n := admitted.length
    let t := (h.addRing (.new capacity level)).1
    let last := (h.addRing (.new capacity level)).2.emitAll t es
    ∃ kept, last.kept? t = some kept ∧ kept.length = min places n ∧
      kept = ((Event.numbered h.seq admitted).drop (n - min places n)).map h.shown ∧
      (t.ring? last).map Ring.dropped = some (n - kept.length).toUInt64 := by
  intro places admitted n t last
  obtain ⟨r, hr, hgiven, hnotes⟩ : ∃ r, last.rings[h.rings.size]? = some r ∧
      r.Given places (Event.numbered h.seq admitted) ∧ last.notes = h.notes :=
    emitAll_ring Array.getElem?_push_size (Ring.new_given capacity level) es
  have hring : t.ring? last = some r := (Tracer.ring?_single _ _).trans hr
  have hn : (Event.numbered h.seq admitted).length = n := Event.length_numbered _ _
  have hlength : r.events.length = min places n := hgiven.length_events.trans (by rw [hn])
  have hcut : n - places = n - min places n := by omega
  refine ⟨r.events.map h.shown, ?_, ?_, ?_, ?_⟩
  · rw [kept?, hring, Option.map_some, shown_congr hnotes]
  · rw [List.length_map, hlength]
  · rw [hgiven.events, hn, hcut]
  · rw [hring, Option.map_some, hgiven.dropped_eq, List.length_map, hlength, hn]

end Hub

end FrontEnd.Trace
