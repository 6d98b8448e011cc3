import FrontEnd.Proofs.Scan
import FrontEnd.Workspace.Tokenize

/-!
A scan is a function of the file: its tokens are the stream of the file, and the faults of the file
are added to the bag, whatever is traced or reported besides. A bag that can keep something is empty
only when there were no faults.
-/
namespace FrontEnd

namespace Bag

/-- A bag with one more diagnostic, if there is room. -/
def plus (b : Bag) (d : Diagnostic) : Bag := (b.add d).1

def addAll (b : Bag) (ds : List Diagnostic) : Bag := ds.foldl plus b

/-- A bag holds some of what is added to it, in order. -/
theorem addAll_sublist (b : Bag) (ds : List Diagnostic) :
    List.Sublist (b.addAll ds).items.toList (b.items.toList ++ ds) := by
  induction ds generalizing b with
  | nil => simp [addAll]
  | cons d ds ih =>
    refine (ih (b.plus d)).trans ?_
    unfold plus add
    split
    · simp
    · simp

theorem size_le_addAll (b : Bag) (ds : List Diagnostic) : b.size ≤ (b.addAll ds).size := by
  induction ds generalizing b with
  | nil => exact Nat.le_refl _
  | cons d ds ih =>
    refine Nat.le_trans ?_ (ih (b.plus d))
    unfold plus add size
    split <;> simp

/-- A bag for the diagnostics of a run. -/
structure Fresh (b : Bag) : Prop where
  empty : b.size = 0
  room : 0 < b.limit.toNat

theorem Fresh.addAll_size {b : Bag} (h : b.Fresh) {ds : List Diagnostic}
    (hds : (b.addAll ds).size = 0) :
    ds = [] := by
  cases ds with
  | nil => rfl
  | cons d ds =>
    have hroom := h.room
    have hfirst : (b.plus d).size = 1 := by
      have hempty := h.empty
      unfold size at hempty
      unfold plus add size
      rw [if_neg (by omega)]
      simp [hempty]
    have hle := size_le_addAll (b.plus d) ds
    change ((b.plus d).addAll ds).size = 0 at hds
    omega

theorem new_of_le {limit : Int} (hpos : 0 ≤ limit) (hle : limit ≤ 65535) :
    ∃ b, Bag.new limit = .ok b :=
  ⟨_, if_pos ⟨hpos, by omega⟩⟩

theorem new_of_lt {limit : Int} (h : 65535 < limit) : Bag.new limit = .error .limitOverflow :=
  if_neg (by omega)

end Bag

namespace Work

variable {σ : Type}

theorem kept_of_pos {limit : Int} (h : 0 < limit) : kept limit = limit := if_neg (by omega)

theorem kept_pos (limit : Int) : 0 < kept limit := by
  unfold kept
  split <;> omega

theorem fresh_of_new {limit : Int} {b : Bag} (h : Bag.new (kept limit) = .ok b) : b.Fresh := by
  have hpos := kept_pos limit
  unfold Bag.new at h
  split at h
  · rename_i hlimit
    cases h
    refine ⟨rfl, ?_⟩
    simp only [Nat.toUInt16, UInt16.toNat_ofNat']
    omega
  · cases h

/-- Scanning gives the stream of the file and adds its faults to the bag. -/
theorem scan_eq (w : Work σ) (c : Trace.Context) (opts : TokenizeOptions σ) (files : FileSet)
    (f : File) (bag : Bag) :
    ∃ w', w.scan c opts files f bag = .ok (f.stream, bag.addAll f.faults, w') := by
  unfold scan
  dsimp only
  generalize heach : (if (c.tracer.level w.hub).admits .token = true then _ else _) = each
  have htell : ∀ t s, (each t s).1 = s.1 := by
    intro t s
    rw [← heach]
    split <;> rfl
  generalize hb :
    ({ report := _, sink := (bag, w.hub, w.sink) } : Builder (Bag × Trace.Hub × σ)) = b
  have hreport : ∀ s d, (b.report s d).1 = s.1.plus d := by
    rw [← hb]
    intro s d
    rfl
  have hidle : ∀ x ∈ some b, x.pending = none := by simp [← hb]
  obtain ⟨last, hlast, hbuilder⟩ := Lexer.allTelling_new each f hidle
  have hview := Builder.view_followAll Prod.fst hreport htell f.id f.reading
  rw [hlast]
  simp only [Except.map, hbuilder, Option.map_some, Option.getD_some]
  refine ⟨{ w with
    hub := (b.followAll each f.id f.reading).sink.2.1
    sink := (b.followAll each f.id f.reading).sink.2.2 }, ?_⟩
  have hbag : b.sink.1 = bag := by rw [← hb]
  rw [hbag] at hview
  exact congrArg (fun x => Except.ok (f.stream, x, _)) hview

end Work

end FrontEnd
