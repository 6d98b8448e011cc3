import FrontEnd.Progress.Board
import Mathlib.Data.List.Dedup

/-!
A board behind a batch. The events of the entries come in any order that keeps those of one entry in
theirs, and the board knows an entry by its path. So of the items with one path only the last hears
anything; it is finished at the end, and the others are left as they were. A batch in which no path
occurs twice is shown as it went.
-/
namespace FrontEnd

section Interleaving

variable {α : Type}

/-- A list that comes about by taking the first element of any of several lists, again and again
until there is none. -/
inductive Interleaves : List (List α) → List α → Prop
  | done {ls : List (List α)} (empty : ∀ l ∈ ls, l = []) : Interleaves ls []
  | take {ls : List (List α)} {k : Nat} {x : α} {rest out : List α}
      (first : ls[k]? = some (x :: rest)) (h : Interleaves (ls.set k rest) out) :
      Interleaves ls (x :: out)

namespace Interleaves

variable {ls : List (List α)} {out : List α}

/-- Elements that are left out of the whole are left out of each list. -/
theorem filter (p : α → Bool) (h : Interleaves ls out) :
    Interleaves (ls.map (List.filter p)) (out.filter p) := by
  induction h with
  | done empty =>
    refine .done ?_
    intro l hl
    obtain ⟨l', hl', rfl⟩ := List.mem_map.mp hl
    rw [empty l' hl', List.filter_nil]
  | @take ls k x rest out first h ih =>
    have hfirst : (ls.map (List.filter p))[k]? = some ((x :: rest).filter p) := by
      rw [List.getElem?_map, first, Option.map_some]
    rw [List.map_set] at ih
    cases hx : p x with
    | true =>
      rw [List.filter_cons_of_pos hx] at hfirst ⊢
      exact .take hfirst ih
    | false =>
      -- the list that `x` was taken from is the same without it
      rw [List.filter_cons_of_neg (by simp [hx])] at hfirst ⊢
      obtain ⟨hk, hget⟩ := List.getElem?_eq_some_iff.mp hfirst
      rwa [← hget, List.set_getElem_self hk] at ih

theorem eq_nil (h : Interleaves ls []) : ∀ l ∈ ls, l = [] := by
  cases h with
  | done empty => exact empty

/-- What comes last is the last of one of the lists. -/
theorem exists_getLast? (h : Interleaves ls out) {x : α} (hx : out.getLast? = some x) :
    ∃ l ∈ ls, l.getLast? = some x := by
  induction h with
  | done => cases hx
  | @take ls k y rest out first h ih =>
    have hmem : y :: rest ∈ ls := List.mem_of_getElem? first
    cases out with
    | nil =>
      have hk : k < ls.length := (List.getElem?_eq_some_iff.mp first).1
      rw [h.eq_nil rest (List.mem_set hk rest)] at hmem
      exact ⟨[y], hmem, hx⟩
    | cons z out =>
      rw [List.getLast?_cons_cons] at hx
      obtain ⟨l, hl, hlast⟩ := ih hx
      rcases List.mem_or_eq_of_mem_set hl with hl | rfl
      · exact ⟨l, hl, hlast⟩
      · refine ⟨y :: l, hmem, ?_⟩
        rw [List.getLast?_cons, hlast, Option.getD_some]

/-- The first elements of all lists can come first, those of `ys` having been taken already. -/
theorem firsts {β : Type} {first : β → α} {rest : β → List α} (ys xs : List β)
    (h : Interleaves ((ys ++ xs).map rest) out) :
    Interleaves (ys.map rest ++ xs.map fun x => first x :: rest x) (xs.map first ++ out) := by
  induction xs generalizing ys with
  | nil => simpa using h
  | cons x xs ih =>
    have hnext := ih (ys ++ [x]) (by rwa [← List.append_cons])
    have hset : (ys.map rest ++ (first x :: rest x) :: xs.map fun x => first x :: rest x).set
        ys.length (rest x) = (ys ++ [x]).map rest ++ xs.map fun x => first x :: rest x := by
      simp
    exact .take (by simp) (hset ▸ hnext)

/-- The elements of a list can come before those of the others. -/
theorem append {l : List α} (h : Interleaves ls out) : Interleaves (l :: ls) (l ++ out) := by
  induction l with
  | cons x l ih => exact .take (k := 0) rfl ih
  | nil =>
    induction h with
    | done empty => exact .done (List.forall_mem_cons.mpr ⟨rfl, empty⟩)
    | @take ls k x rest out first h ih => exact .take (k := k + 1) first ih

theorem flatten (ls : List (List α)) : Interleaves ls ls.flatten := by
  induction ls with
  | nil => exact .done (List.forall_mem_nil _)
  | cons l ls ih => exact ih.append

end Interleaves

end Interleaving

namespace Progress

/-- How the work on a file of a batch comes to its end, if it is not called off. -/
inductive Ending where
  | unloaded (failure : Option Bytes)
  | scanned (faulty : Bool)

/-- An entry of a batch as far as it is told: its path, and how the work on it ends. -/
structure Tale where
  path : Bytes
  ending : Ending

/-- What is told of a path before any work is done. -/
def queued (path : Bytes) : Event := { file := path, stage := .load, status := .queued }

namespace Tale

/-- The last event that is told of an entry. -/
def last (e : Tale) : Event :=
  match e.ending with
  | .unloaded failure => { file := e.path, stage := .load, status := .error, failure }
  | .scanned faulty =>
    { file := e.path, stage := .lex, status := if faulty then .error else .done }

/-- What the work on an entry tells, in order. -/
def work (e : Tale) : List Event :=
  match e.ending with
  | .unloaded _ => [{ file := e.path, stage := .load, status := .working }, e.last]
  | .scanned _ =>
    [{ file := e.path, stage := .load, status := .working },
      { file := e.path, stage := .lex, status := .working }, e.last]

/-- All that is told of an entry, in order. -/
def events (e : Tale) : List Event := queued e.path :: e.work

/-- Whether the last event of an entry is an error. -/
def failed (e : Tale) : Bool := e.events.getLast?.any (·.status = .error)

theorem getLast?_work (e : Tale) : e.work.getLast? = some e.last := by
  obtain ⟨path, failure | faulty⟩ := e <;> rfl

theorem getLast?_events (e : Tale) : e.events.getLast? = some e.last := by
  obtain ⟨path, failure | faulty⟩ := e <;> rfl

theorem failed_eq (e : Tale) : e.failed = decide (e.last.status = .error) := by
  rw [failed, getLast?_events, Option.any_some]

theorem isLast_last (e : Tale) : e.last.isLast = true := by
  obtain ⟨path, failure | _ | _⟩ := e <;> rfl

theorem file_of_mem_events {e : Tale} {x : Event} (h : x ∈ e.events) : x.file = e.path := by
  obtain ⟨path, failure | faulty⟩ := e
  · simp only [events, work, last, queued, List.mem_cons, List.not_mem_nil, or_false] at h
    rcases h with rfl | rfl | rfl <;> rfl
  · simp only [events, work, last, queued, List.mem_cons, List.not_mem_nil, or_false] at h
    rcases h with rfl | rfl | rfl | rfl <;> rfl

/-- Of the events that are about a path, an entry has all or none. -/
theorem filter_of_subset {e : Tale} {es : List Event} (h : es ⊆ e.events) (path : Bytes) :
    es.filter (·.file = path) = if e.path = path then es else [] := by
  split
  · rename_i hpath
    exact List.filter_eq_self.mpr fun x hx => by simp [file_of_mem_events (h hx), hpath]
  · rename_i hpath
    exact List.filter_eq_nil_iff.mpr fun x hx => by simp [file_of_mem_events (h hx), hpath]

theorem filter_events (e : Tale) (path : Bytes) :
    e.events.filter (·.file = path) = if e.path = path then e.events else [] :=
  filter_of_subset (List.Subset.refl _) path

theorem filter_flatMap_work (tales : List Tale) (path : Bytes) :
    (tales.flatMap work).filter (·.file = path) = (tales.filter (·.path = path)).flatMap work := by
  induction tales with
  | nil => rfl
  | cons e tales ih =>
    have hwork := filter_of_subset (List.subset_cons_self (queued e.path) e.work) path
    rw [List.flatMap_cons, List.filter_append, hwork, ih]
    by_cases hpath : e.path = path <;> simp [hpath]

end Tale

/-- All paths are queued first, and then the work on them is done in turn. -/
theorem interleaves_inTurn (tales : List Tale) :
    Interleaves (tales.map Tale.events)
      (tales.map (queued ·.path) ++ tales.flatMap Tale.work) := by
  rw [List.flatMap_def]
  exact (Interleaves.flatten (tales.map Tale.work)).firsts [] tales

/-- Whether the last event about a path is an error. -/
def failedLast (told : List Event) (path : Bytes) : Bool :=
  (told.filter (·.file = path)).getLast?.any (·.status = .error)

variable {tales : List Tale} {told : List Event}

/-- The last event about a path is the last of an entry with that path. -/
theorem exists_last (h : Interleaves (tales.map Tale.events) told) {path : Bytes}
    (hpath : path ∈ tales.map Tale.path) :
    ∃ e ∈ tales, e.path = path ∧ (told.filter (·.file = path)).getLast? = some e.last := by
  have hfilter := h.filter (·.file = path)
  rw [List.map_map] at hfilter
  cases hlast : (told.filter (·.file = path)).getLast? with
  | none =>
    -- then nothing was told of the path, but it has an entry
    obtain ⟨e, he, rfl⟩ := List.mem_map.mp hpath
    rw [List.getLast?_eq_none_iff.mp hlast] at hfilter
    have hnil := hfilter.eq_nil _ (List.mem_map_of_mem he)
    rw [Function.comp_apply, e.filter_events, if_pos rfl] at hnil
    have hsome := e.getLast?_events
    rw [hnil] at hsome
    cases hsome
  | some x =>
    obtain ⟨l, hl, hx⟩ := hfilter.exists_getLast? hlast
    obtain ⟨e, he, rfl⟩ := List.mem_map.mp hl
    rw [Function.comp_apply, e.filter_events] at hx
    split at hx
    · rename_i hpath'
      rw [e.getLast?_events] at hx
      exact ⟨e, he, hpath', hx.symm⟩
    · cases hx

/-- Where no path occurs twice, the last event about the path of an entry is the entry's own. -/
theorem failedLast_eq (h : Interleaves (tales.map Tale.events) told)
    (hnodup : (tales.map Tale.path).Nodup) {e : Tale} (he : e ∈ tales) :
    failedLast told e.path = e.failed := by
  obtain ⟨e', he', hpath, hlast⟩ := exists_last h (List.mem_map_of_mem he)
  cases List.inj_on_of_nodup_map hnodup he' he hpath
  rw [failedLast, hlast, Option.any_some, e.failed_eq]

/-- Where the entries of a batch are worked on in turn, the last event about a path is that of its
last entry. -/
theorem failedLast_inTurn {path : Bytes} (hpath : path ∈ tales.map Tale.path) :
    failedLast (tales.map (queued ·.path) ++ tales.flatMap Tale.work) path =
      (tales.filter (·.path = path)).getLast?.any Tale.failed := by
  obtain ⟨e', he', rfl⟩ := List.mem_map.mp hpath
  have hne : tales.filter (·.path = e'.path) ≠ [] :=
    List.ne_nil_of_mem (List.mem_filter.mpr ⟨he', by simp⟩)
  obtain ⟨before, e, hsplit⟩ := (List.eq_nil_or_concat _).resolve_left hne
  rw [failedLast, List.filter_append, Tale.filter_flatMap_work, hsplit, List.concat_eq_append,
    List.flatMap_append]
  simp [List.getLast?_append, e.getLast?_work, e.failed_eq]

namespace Item

variable (x : Item) (e : Event)

@[simp]
theorem path_apply : (x.apply e).path = x.path := by
  unfold apply
  cases label? e.stage e.status <;> dsimp only <;> split <;> rfl

theorem finished_apply : (x.apply e).finished = (x.finished || e.isLast) := by
  unfold apply
  cases label? e.stage e.status <;> cases e.isLast <;> simp

variable {x e} in
theorem status_apply (h : e.isLast = true) :
    (x.apply e).status = ("error" : Bytes) ↔ e.status = .error := by
  have hne : ("done" : Bytes) ≠ "error" := by decide
  obtain ⟨file, stage, status, failure⟩ := e
  cases status <;> simp_all [apply, label?, Event.isLast]

/-- An item after some events, of which it hears those about its path. -/
def hear (x : Item) (es : List Event) : Item :=
  (es.filter (·.file = x.path)).foldl Item.apply x

theorem path_foldl (es : List Event) : (es.foldl Item.apply x).path = x.path := by
  induction es generalizing x with
  | nil => rfl
  | cons e es ih => rw [List.foldl_cons, ih, path_apply]

@[simp]
theorem path_hear (es : List Event) : (x.hear es).path = x.path := path_foldl x _

theorem hear_nil : x.hear [] = x := rfl

theorem hear_append (es es' : List Event) : x.hear (es ++ es') = (x.hear es).hear es' := by
  rw [hear, List.filter_append, List.foldl_append]
  rw [hear, path_hear]
  rfl

theorem hear_singleton : x.hear [e] = if e.file = x.path then x.apply e else x := by
  by_cases h : e.file = x.path <;> simp [hear, h]

/-- A finished item stays so. -/
theorem finished_hear (es : List Event) (h : x.finished = true) : (x.hear es).finished = true := by
  unfold hear
  generalize es.filter (·.file = x.path) = es
  induction es generalizing x with
  | nil => exact h
  | cons e es ih => exact ih (x.apply e) (by rw [finished_apply, h, Bool.true_or])

variable {x e} in
/-- The last event that an item hears of decides how it is shown. -/
theorem hear_last {es : List Event} (hlast : (es.filter (·.file = x.path)).getLast? = some e)
    (he : e.isLast = true) :
    (x.hear es).finished = true ∧ ((x.hear es).status = ("error" : Bytes) ↔ e.status = .error) := by
  obtain ⟨before, hbefore⟩ := List.getLast?_eq_some_iff.mp hlast
  rw [hear, hbefore, List.foldl_concat, finished_apply, he, Bool.or_true]
  exact ⟨rfl, status_apply he⟩

end Item

/-- The event that a message brings. -/
def Message.event? : Message → Option Event
  | .event e => some e
  | _ => none

theorem filterMap_event (es : List Event) :
    (es.map Message.event).filterMap Message.event? = es := by
  rw [List.filterMap_map]
  exact List.filterMap_some

namespace Board

variable (b : Board)

/-- The board after some messages. -/
def follow (ms : List Message) : Board := ms.foldl update b

def paths : List Bytes := b.items.map Item.path

theorem paths_new (title : Bytes) (paths : List Bytes) : (new title paths).paths = paths := by
  rw [Board.paths, new, List.map_map]
  exact List.map_id paths

theorem withPath_eq_nil_iff (items : List Item) (k : Nat) (path : Bytes) :
    (items.zipIdx k).filter (·.1.path = path) = [] ↔ path ∉ items.map Item.path := by
  have hfst := congrArg (List.map Item.path) (List.zipIdx_map_fst k items)
  rw [List.map_map] at hfst
  rw [← hfst, List.filter_eq_nil_iff]
  simp

/-- Of items that are numbered from `k` on, the last with a path. -/
theorem lastWith_eq_some_iff (items : List Item) (k i : Nat) (path : Bytes) :
    ((items.zipIdx k).filter (·.1.path = path)).getLast?.map Prod.snd = some (k + i) ↔
      (items.map Item.path)[i]? = some path ∧ path ∉ (items.map Item.path).drop (i + 1) := by
  induction items generalizing k i with
  | nil => simp
  | cons x items ih =>
    rw [List.zipIdx_cons, List.map_cons, List.drop_succ_cons]
    generalize hrest : (items.zipIdx (k + 1)).filter (·.1.path = path) = rest
    have hnil : rest = [] ↔ path ∉ items.map Item.path := by
      rw [← hrest]
      exact withPath_eq_nil_iff items (k + 1) path
    have hlater : ∀ y, rest.getLast? = some y → k < y.2 := by
      intro y hy
      rw [← hrest] at hy
      exact List.le_snd_of_mem_zipIdx (List.mem_filter.mp (List.mem_of_getLast? hy)).1
    cases i with
    | zero =>
      rw [List.getElem?_cons_zero, Option.some.injEq, List.drop_zero, ← hnil, Nat.add_zero]
      by_cases hx : x.path = path
      · rw [List.filter_cons_of_pos (by simpa using hx), hrest, List.getLast?_cons]
        cases hlast : rest.getLast? with
        | none => simp [hx, List.getLast?_eq_none_iff.mp hlast]
        | some y =>
          have hne : rest ≠ [] := fun h => by simp [h] at hlast
          have := hlater y hlast
          simp [hne]
          omega
      · rw [List.filter_cons_of_neg (by simpa using hx), hrest]
        simp only [hx, false_and, iff_false, Option.map_eq_some_iff, not_exists, not_and]
        intro y hy
        have := hlater y hy
        omega
    | succ i =>
      have hi := ih (k + 1) i
      rw [hrest] at hi
      rw [List.getElem?_cons_succ, ← hi, show k + (i + 1) = k + 1 + i by omega]
      by_cases hx : x.path = path
      · rw [List.filter_cons_of_pos (by simpa using hx), hrest, List.getLast?_cons]
        cases rest.getLast? with
        | none => simp; omega
        | some y => rfl
      · rw [List.filter_cons_of_neg (by simpa using hx), hrest]

theorem placeOf?_eq_some_iff (path : Bytes) (i : Nat) :
    b.placeOf? path = some i ↔ b.paths[i]? = some path ∧ path ∉ b.paths.drop (i + 1) := by
  have h := lastWith_eq_some_iff b.items 0 i path
  rwa [Nat.zero_add] at h

/-- Where events go is a matter of the paths alone. -/
theorem placeOf?_congr {b c : Board} (h : c.paths = b.paths) (path : Bytes) :
    c.placeOf? path = b.placeOf? path := by
  refine Option.ext fun i => ?_
  rw [placeOf?_eq_some_iff, placeOf?_eq_some_iff, h]

/-- A message without an event leaves the items alone. -/
theorem items_update {m : Message} (h : m.event? = none) : (b.update m).items = b.items := by
  cases m with
  | event e => cases h
  | done => rfl
  | tick => simp only [update]; split <;> rfl
  | size w => simp only [update]; split <;> rfl
  | other => rfl

theorem items_apply_getElem? (e : Event) (i : Nat) :
    (b.apply e).items[i]? = b.items[i]?.map fun x =>
      if b.placeOf? x.path = some i then x.hear [e] else x := by
  have happly : (b.apply e).items[i]? = b.items[i]?.map fun x =>
      if b.placeOf? e.file = some i then x.apply e else x := by
    unfold apply
    cases hplace : b.placeOf? e.file with
    | none => simp
    | some j => simp [List.getElem?_modify]
  rw [happly]
  refine Option.map_congr fun x hx => ?_
  rw [Item.hear_singleton]
  by_cases hfile : e.file = x.path
  · rw [hfile, if_pos rfl]
  · rw [if_neg hfile, ite_self, if_neg]
    intro hplace
    have hpath := ((b.placeOf?_eq_some_iff _ _).mp hplace).1
    rw [paths, List.getElem?_map, hx] at hpath
    exact hfile (Option.some.inj hpath).symm

theorem update_getElem? (m : Message) (i : Nat) :
    (b.update m).items[i]? = b.items[i]?.map fun x =>
      if b.placeOf? x.path = some i then x.hear m.event?.toList else x := by
  cases hm : m.event? with
  | none => simp [items_update b hm, Item.hear_nil]
  | some e =>
    cases m <;> cases hm
    exact b.items_apply_getElem? e i

theorem paths_update (m : Message) : (b.update m).paths = b.paths := by
  refine List.ext_getElem? fun i => ?_
  rw [paths, paths, List.getElem?_map, List.getElem?_map, update_getElem?, Option.map_map]
  cases b.items[i]? with
  | none => rfl
  | some x =>
    rw [Option.map_some, Option.map_some, Function.comp_apply]
    split
    · rw [Item.path_hear]
    · rfl

/-- Any number of messages: at each place is the item that was there, after all the events about its
path if it is the last with that path. -/
theorem follow_getElem? (ms : List Message) (i : Nat) :
    (b.follow ms).items[i]? = b.items[i]?.map fun x =>
      if b.placeOf? x.path = some i then x.hear (ms.filterMap Message.event?) else x := by
  induction ms generalizing b with
  | nil => simp [follow, Item.hear_nil]
  | cons m ms ih =>
    rw [show b.follow (m :: ms) = (b.update m).follow ms from rfl, ih, update_getElem?,
      Option.map_map]
    refine Option.map_congr fun x _ => ?_
    rw [Function.comp_apply, placeOf?_congr (b.paths_update m)]
    by_cases hplace : b.placeOf? x.path = some i
    · have htold : (m :: ms).filterMap Message.event? =
          m.event?.toList ++ ms.filterMap Message.event? := by
        cases hm : m.event? <;> simp [hm]
      rw [if_pos hplace, Item.path_hear, if_pos hplace, if_pos hplace, htold, Item.hear_append]
    · rw [if_neg hplace, if_neg hplace, if_neg hplace]

/-- Once an item is finished it stays so, whatever comes. -/
theorem finished_follow {ms : List Message} {i : Nat} {x : Item} (h : b.items[i]? = some x)
    (hx : x.finished = true) : ∃ y, (b.follow ms).items[i]? = some y ∧ y.finished = true := by
  rw [follow_getElem?, h, Option.map_some]
  refine ⟨_, rfl, ?_⟩
  split
  · exact x.finished_hear _ hx
  · exact hx

theorem paths_follow (ms : List Message) : (b.follow ms).paths = b.paths := by
  induction ms generalizing b with
  | nil => rfl
  | cons m ms ih => exact (ih (b.update m)).trans (b.paths_update m)

/-- A board from its beginning on: the last item with each path has all the events about it, the
others none. -/
theorem new_follow_getElem? (title : Bytes) (paths : List Bytes) (ms : List Message) (i : Nat) :
    ((new title paths).follow ms).items[i]? = paths[i]?.map fun path =>
      if path ∈ paths.drop (i + 1) then { path }
      else ({ path } : Item).hear (ms.filterMap Message.event?) := by
  have hnew : (new title paths).items[i]? = paths[i]?.map fun path => { path } := List.getElem?_map
  rw [follow_getElem?, hnew, Option.map_map]
  refine Option.map_congr fun path hpath => ?_
  have hplace := (new title paths).placeOf?_eq_some_iff path i
  rw [paths_new, hpath, eq_self, true_and] at hplace
  simp only [Function.comp_apply, hplace, ite_not]

section Batch

variable {title : Bytes} {ms : List Message}

/-- An item at the end of a batch: the last with its path is finished, and shows the last event
about it. -/
theorem follow_new (h : Interleaves (tales.map Tale.events) (ms.filterMap Message.event?))
    {i : Nat} {x : Item}
    (hx : ((new title (tales.map Tale.path)).follow ms).items[i]? = some x) :
    (x.finished = true ↔ x.path ∉ (tales.map Tale.path).drop (i + 1)) ∧
      (x.finished = true → (x.status = ("error" : Bytes) ↔
        failedLast (ms.filterMap Message.event?) x.path = true)) := by
  rw [new_follow_getElem?] at hx
  obtain ⟨path, hpath, rfl⟩ := Option.map_eq_some_iff.mp hx
  by_cases hlater : path ∈ (tales.map Tale.path).drop (i + 1)
  · simp [hlater]
  · rw [if_neg hlater, Item.path_hear]
    obtain ⟨e, -, rfl, hlast⟩ := exists_last h (List.mem_of_getElem? hpath)
    obtain ⟨hfinished, hstatus⟩ := Item.hear_last (x := { path := e.path }) hlast e.isLast_last
    refine ⟨iff_of_true hfinished hlater, fun _ => ?_⟩
    rw [hstatus, failedLast, hlast, Option.any_some, decide_eq_true_eq]

/-- Where the last item with each path is finished and no other, there is one finished item for
each path. -/
theorem paths_finished (items : List Item)
    (h : ∀ (i : Nat) (x : Item), items[i]? = some x →
      (x.finished = true ↔ x.path ∉ (items.map Item.path).drop (i + 1))) :
    (items.filter Item.finished).map Item.path = (items.map Item.path).dedup := by
  induction items with
  | nil => rfl
  | cons x items ih =>
    have hx := h 0 x rfl
    rw [List.map_cons, List.drop_succ_cons, List.drop_zero] at hx
    have hitems := ih fun i y hy => h (i + 1) y hy
    by_cases hmem : x.path ∈ items.map Item.path
    · rw [List.filter_cons_of_neg fun hf => hx.mp hf hmem, hitems, List.map_cons,
        List.dedup_cons_of_mem hmem]
    · rw [List.filter_cons_of_pos (hx.mpr hmem), List.map_cons, hitems, List.map_cons,
        List.dedup_cons_of_notMem hmem]

/-- The count at the end of a batch is one of paths. -/
theorem finished_new (h : Interleaves (tales.map Tale.events) (ms.filterMap Message.event?)) :
    ((new title (tales.map Tale.path)).follow ms).finished =
      ((tales.map Tale.path).dedup.length, ((tales.map Tale.path).dedup.filter
        (failedLast (ms.filterMap Message.event?))).length) := by
  have hpaths := (new title (tales.map Tale.path)).paths_follow ms
  rw [paths_new] at hpaths
  have hdone := paths_finished ((new title (tales.map Tale.path)).follow ms).items
    fun i x hx => by
      rw [← Board.paths, hpaths]
      exact (follow_new h hx).1
  rw [← Board.paths, hpaths] at hdone
  have hfailed : ∀ x ∈ ((new title (tales.map Tale.path)).follow ms).items.filter Item.finished,
      decide (x.status = ("error" : Bytes)) = failedLast (ms.filterMap Message.event?) x.path := by
    intro x hx
    obtain ⟨hx, hfinished⟩ := List.mem_filter.mp hx
    obtain ⟨i, hi⟩ := List.mem_iff_getElem?.mp hx
    rw [Bool.eq_iff_iff, decide_eq_true_eq]
    exact (follow_new h hi).2 hfinished
  rw [finished, ← hdone, List.filter_map, List.length_map, List.length_map,
    List.filter_congr hfailed]
  rfl

theorem finished_of_nodup
    (h : Interleaves (tales.map Tale.events) (ms.filterMap Message.event?))
    (hnodup : (tales.map Tale.path).Nodup) :
    ((new title (tales.map Tale.path)).follow ms).finished =
      (tales.length, (tales.filter Tale.failed).length) := by
  have hown : ∀ e ∈ tales, (failedLast (ms.filterMap Message.event?) ∘ Tale.path) e = e.failed :=
    fun e he => failedLast_eq h hnodup he
  rw [finished_new h, List.dedup_eq_self.mpr hnodup, List.length_map, List.filter_map,
    List.length_map, List.filter_congr hown]

/-- A batch at its end, whatever the order of its events and whatever other messages there were. Of
the items with one path the last is finished and the others are not; so the paths are counted, and
as failed those whose last event is an error. This is the count of the entries if and only if no
path occurs twice. No item that is finished ever becomes unfinished. -/
theorem follow_counts (title : Bytes) (tales : List Tale) {ms : List Message}
    (h : Interleaves (tales.map Tale.events) (ms.filterMap Message.event?)) :
    let paths := tales.map Tale.path
    let b := (new title paths).follow ms
    (∀ (i : Nat) (x : Item), b.items[i]? = some x →
      (x.finished = true ↔ x.path ∉ paths.drop (i + 1))) ∧
    b.finished = (paths.dedup.length,
      (paths.dedup.filter (failedLast (ms.filterMap Message.event?))).length) ∧
    (b.finished = (tales.length, (tales.filter Tale.failed).length) ↔ paths.Nodup) ∧
    ∀ (before later : List Message) (i : Nat) (x : Item),
      ((new title paths).follow before).items[i]? = some x → x.finished = true →
        ∃ y, ((new title paths).follow (before ++ later)).items[i]? = some y ∧
          y.finished = true := by
  intro paths b
  refine ⟨fun i x hx => (follow_new h hx).1, finished_new h, ⟨?_, finished_of_nodup h⟩, ?_⟩
  · intro hall
    have hlength : paths.dedup.length = paths.length :=
      (Prod.mk.inj ((finished_new h).symm.trans hall)).1.trans (List.length_map _).symm
    exact List.dedup_eq_self.mp ((List.dedup_sublist paths).eq_of_length hlength)
  · intro before later i x hx hfinished
    rw [follow, List.foldl_append]
    exact finished_follow _ hx hfinished

/-- Of two entries with one path, the one that failed ends first. The board shows one item for them,
as done, beside the one that could not be loaded. -/
theorem follow_counts_overtaken :
    let tales : List Tale :=
      [⟨"a.kj", .scanned false⟩, ⟨"b.kj", .unloaded none⟩, ⟨"a.kj", .scanned true⟩]
    let a (stage : Stage) (status : Status) : Message := .event { file := "a.kj", stage, status }
    let b (stage : Stage) (status : Status) : Message := .event { file := "b.kj", stage, status }
    let ms := [a .load .queued, b .load .queued, a .load .queued, a .load .working, .tick,
      a .load .working, b .load .working, a .lex .working, a .lex .error, b .load .error, .size 40,
      a .lex .working, a .lex .done, .done]
    let board := (new "tokenize" (tales.map Tale.path)).follow ms
    Interleaves (tales.map Tale.events) (ms.filterMap Message.event?) ∧
      board.finished = (2, 1) ∧
      board.finished ≠ (tales.length, (tales.filter Tale.failed).length) := by
  intro tales a b ms board
  have h : Interleaves (tales.map Tale.events) (ms.filterMap Message.event?) :=
    .take (k := 0) rfl <| .take (k := 1) rfl <| .take (k := 2) rfl <| .take (k := 2) rfl <|
      .take (k := 0) rfl <| .take (k := 1) rfl <| .take (k := 2) rfl <| .take (k := 2) rfl <|
      .take (k := 1) rfl <| .take (k := 0) rfl <| .take (k := 0) rfl <| .done (by decide)
  obtain ⟨-, hcount, hall, -⟩ := follow_counts "tokenize" tales h
  exact ⟨h, hcount.trans (by decide), hall.not.mpr (by decide)⟩

/-- A path given twice: the work on it is done both times, and one of its items waits forever. -/
theorem repeated_left_queued :
    let tales : List Tale := [⟨"a.kj", .scanned false⟩, ⟨"a.kj", .scanned false⟩]
    let told := tales.map (queued ·.path) ++ tales.flatMap Tale.work
    let board := (new "tokenize" (tales.map Tale.path)).follow (told.map Message.event)
    Interleaves (tales.map Tale.events) ((told.map Message.event).filterMap Message.event?) ∧
      board.finished = (1, 0) ∧
      board.finished ≠ (tales.length, (tales.filter Tale.failed).length) := by
  intro tales told board
  refine ⟨?_, by decide, by decide⟩
  rw [filterMap_event]
  exact interleaves_inTurn tales

end Batch

end Board

end Progress

end FrontEnd
