import FrontEnd.Source.FileSet

/-!
Versions of files. Whatever is asked of a set of files, each file that was stored keeps its number
and all that is known of it, and the index knows for each path the last file that was stored under
it. A request that fails leaves the set as it was, because all that can fail comes before the first
change.
-/
namespace FrontEnd

section LineEnds

variable {content : Bytes} {i off : UInt32}

theorem toNat_next (h : i.toNat + 1 < 0x100000000) : (i + 1).toNat = i.toNat + 1 := by
  rw [UInt32.toNat_add, UInt32.toNat_one]
  omega

/-- The offsets are those at which there is a line end. -/
theorem mem_lineEndsFrom (hfits : i.toNat + content.length < 0x100000000) :
    off ∈ lineEndsFrom i content ↔
      i ≤ off ∧ ∃ b, content[off.toNat - i.toNat]? = some b ∧ isLineEnd b = true := by
  induction content generalizing i with
  | nil => simp [lineEndsFrom]
  | cons b r ih =>
    rw [List.length_cons] at hfits
    have hnext := toNat_next (i := i) (by omega)
    have hrest := ih (i := i + 1) (by omega)
    rw [UInt32.le_iff_toNat_le, hnext] at hrest
    rw [UInt32.le_iff_toNat_le]
    -- the offset of the first octet is in no list that starts behind it
    have hcons : off ∈ lineEndsFrom i (b :: r) ↔
        off = i ∧ isLineEnd b = true ∨ off ∈ lineEndsFrom (i + 1) r := by
      by_cases hb : isLineEnd b = true <;> simp [lineEndsFrom, hb]
    rw [hcons, hrest]
    by_cases hoff : off = i
    · subst hoff
      simp only [Nat.sub_self, List.getElem?_cons_zero]
      constructor
      · rintro (⟨-, hb⟩ | ⟨hlt, -⟩)
        · exact ⟨Nat.le_refl _, b, rfl, hb⟩
        · omega
      · rintro ⟨-, c, ⟨⟩, hb⟩
        exact .inl ⟨trivial, hb⟩
    · have hne : off.toNat ≠ i.toNat := fun h => hoff (UInt32.toNat_inj.mp h)
      constructor
      · rintro (⟨heq, -⟩ | ⟨hle, c, hc, hend⟩)
        · exact absurd heq hoff
        · refine ⟨by omega, c, ?_, hend⟩
          rw [show off.toNat - i.toNat = off.toNat - (i.toNat + 1) + 1 by omega]
          exact hc
      · rintro ⟨hle, c, hc, hend⟩
        refine .inr ⟨by omega, c, ?_, hend⟩
        rw [show off.toNat - i.toNat = off.toNat - (i.toNat + 1) + 1 by omega] at hc
        exact hc

theorem lineEndsFrom_increase (hfits : i.toNat + content.length < 0x100000000) :
    (lineEndsFrom i content).Pairwise (· < ·) := by
  induction content generalizing i with
  | nil => exact .nil
  | cons b r ih =>
    rw [List.length_cons] at hfits
    have hnext := toNat_next (i := i) (by omega)
    have hrest := ih (i := i + 1) (by omega)
    rw [lineEndsFrom]
    split
    · refine .cons ?_ hrest
      intro off hoff
      have hle := ((mem_lineEndsFrom (by omega)).mp hoff).1
      rw [UInt32.le_iff_toNat_le] at hle
      rw [UInt32.lt_iff_toNat_lt]
      omega
    · exact hrest

end LineEnds

/-- The whole of a file as its text. -/
theorem File.slice_whole (f : File) : f.slice ⟨f.id, 0, f.size⟩ = .ok f.content := by
  have hfits := f.fits
  unfold FitsOffsets at hfits
  have hsize : f.size.toNat = f.content.length := by
    rw [File.size, Nat.toUInt32, UInt32.toNat_ofNat']
    omega
  have hok : ∀ off : UInt32, off ≤ f.size → f.checkOffset off = .ok () := by
    intro off hle
    exact if_neg (UInt32.not_lt.mpr hle)
  have hzero : (0 : UInt32) ≤ f.size := by
    rw [UInt32.le_iff_toNat_le]
    exact Nat.zero_le _
  rw [File.slice, hok 0 hzero, hok f.size (UInt32.le_refl _)]
  dsimp only
  rw [if_pos hzero, File.cut, hsize]
  simp

namespace FileSet

/-- The set with one more file, which is the latest of its path. -/
def stored (fs : FileSet) (f : File) : FileSet :=
  { fs with files := fs.files.push f, latest := fs.latest.insert f.path f.id }

theorem files_stored (fs : FileSet) (f : File) : (fs.stored f).files = fs.files.push f := rfl

/-- One more file of this content can be stored. -/
def Admits (fs : FileSet) (content : Bytes) : Prop :=
  fs.files.size < 0x100000000 ∧ FitsOffsets content

/-- A file is stored with the next number, or there is no room for it. -/
theorem add_stores (fs : FileSet) (path content : Bytes) (flags : FileFlags) :
    (¬fs.Admits content ∧ ∃ e, fs.add path content flags = .error e) ∨
      ∃ h : fs.Admits content,
        fs.add path content flags =
          .ok (fs.stored (File.make fs.files.size.toUInt32 path content flags h.2),
            fs.files.size.toUInt32) := by
  unfold add
  by_cases hroom : fs.files.size ≥ 0x100000000
  · exact .inl ⟨fun h => Nat.not_lt.mpr hroom h.1, _, if_pos hroom⟩
  · rw [if_neg hroom]
    by_cases hfits : FitsOffsets content
    · refine .inr ⟨⟨Nat.not_le.mp hroom, hfits⟩, ?_⟩
      rw [dif_pos hfits]
      rfl
    · exact .inl ⟨fun h => hfits h.2, _, dif_neg hfits⟩

theorem load_of_read (fs : FileSet) {d : Disk} {path raw : Bytes} (h : d.read path = .ok raw) :
    fs.load d path =
      (fs.add path (normalize raw).1 (normalize raw).2).mapError .unstorable := by
  unfold Disk.read at h
  unfold load Disk.stat Disk.read
  cases hget : d.get path with
  | error f =>
    rw [hget] at h
    cases h
  | ok t =>
    rw [hget] at h
    cases t with
    | dir es => cases h
    | file c =>
      cases h
      rfl
    | device e =>
      cases e with
      | null =>
        cases h
        rfl
      | full => cases h

theorem load_of_unread (fs : FileSet) {d : Disk} {path : Bytes} {e : Disk.Error}
    (h : d.read path = .error e) : ∃ e', fs.load d path = .error e' := by
  unfold load
  rw [h]
  cases d.stat path with
  | error e => exact ⟨_, rfl⟩
  | ok t =>
    cases t with
    | dir es => exact ⟨_, rfl⟩
    | file c => exact ⟨_, rfl⟩
    | device e => exact ⟨_, rfl⟩

/-- A file is stored as it is read from the disk, in normal form, or it cannot be read or there is
no room for it. -/
theorem load_stores (fs : FileSet) (d : Disk) (path : Bytes) :
    ((∀ raw, d.read path = .ok raw → ¬fs.Admits (normalize raw).1) ∧
        ∃ e, fs.load d path = .error e) ∨
      ∃ raw, ∃ h : fs.Admits (normalize raw).1, d.read path = .ok raw ∧
        fs.load d path =
          .ok (fs.stored (File.make fs.files.size.toUInt32 path (normalize raw).1
            (normalize raw).2 h.2), fs.files.size.toUInt32) := by
  cases hread : d.read path with
  | error e => exact .inl ⟨nofun, fs.load_of_unread hread⟩
  | ok raw =>
    rw [fs.load_of_read hread]
    rcases fs.add_stores path (normalize raw).1 (normalize raw).2 with ⟨hfull, e, h⟩ | ⟨hroom, h⟩
    · refine .inl ⟨?_, .unstorable e, by rw [h]; rfl⟩
      rintro _ ⟨⟩
      exact hfull
    · exact .inr ⟨raw, hroom, rfl, by rw [h]; rfl⟩

/-- What the index of a set should know of a path: the greatest number of a file that is stored
under it. -/
def Newest (fs : FileSet) (key : Bytes) : Option FileId → Prop
  | some id => (∃ f, fs.files[id.toNat]? = some f ∧ f.path = key) ∧
      ∀ (i : Nat) (f : File), fs.files[i]? = some f → f.path = key → i ≤ id.toNat
  | none => ∀ (i : Nat) (f : File), fs.files[i]? = some f → f.path ≠ key

/-- What holds of every set of files that comes about by storing. -/
structure Sound (fs : FileSet) : Prop where
  numbered : ∀ (i : Nat) (f : File), fs.files[i]? = some f → f.id.toNat = i
  derived : ∀ (i : Nat) (f : File), fs.files[i]? = some f →
    f.lineEnds = lineEndsFrom 0 f.content ∧ f.digest = Sha256.digest f.content
  newest : ∀ key, fs.Newest key fs.latest[key]?

theorem sound_empty (base : Bytes) : Sound { baseDir := base } where
  numbered i f h := by simp at h
  derived i f h := by simp at h
  newest key := by
    rw [Std.HashMap.getElem?_empty]
    intro i f h
    simp at h

theorem getElem?_stored {fs : FileSet} {f g : File} {i : Nat}
    (h : (fs.stored f).files[i]? = some g) : fs.files[i]? = some g ∨ i = fs.files.size ∧ g = f := by
  rw [files_stored, Array.getElem?_push] at h
  split at h
  · rename_i hi
    cases h
    exact .inr ⟨hi, rfl⟩
  · exact .inl h

theorem stored_keeps {fs : FileSet} {f g : File} {i : Nat} (h : fs.files[i]? = some g) :
    (fs.stored f).files[i]? = some g := by
  obtain ⟨hi, -⟩ := Array.getElem?_eq_some_iff.mp h
  rw [files_stored, Array.getElem?_push, if_neg (Nat.ne_of_lt hi)]
  exact h

theorem newest_stored {fs : FileSet} {f : File} (hid : f.id.toNat = fs.files.size) :
    (fs.stored f).Newest f.path (some f.id) := by
  refine ⟨⟨f, ?_, rfl⟩, ?_⟩
  · rw [hid, files_stored, Array.getElem?_push_size]
  · intro i g h _
    obtain ⟨hi, -⟩ := Array.getElem?_eq_some_iff.mp h
    rw [files_stored, Array.size_push] at hi
    omega

/-- A file of another path changes nothing. -/
theorem Newest.stored {fs : FileSet} {key : Bytes} {latest : Option FileId} {f : File}
    (h : fs.Newest key latest) (hkey : f.path ≠ key) : (fs.stored f).Newest key latest := by
  cases latest with
  | none =>
    intro i g hg hpath
    rcases getElem?_stored hg with hin | ⟨-, rfl⟩
    · exact h i g hin hpath
    · exact hkey hpath
  | some id =>
    obtain ⟨⟨g, hg, hpath⟩, hnewest⟩ := h
    refine ⟨⟨g, stored_keeps hg, hpath⟩, ?_⟩
    intro i g' hg' hpath'
    rcases getElem?_stored hg' with hin | ⟨-, rfl⟩
    · exact hnewest i g' hin hpath'
    · exact absurd hpath' hkey

theorem Sound.stored {fs : FileSet} (hs : Sound fs) {f : File} (hid : f.id.toNat = fs.files.size)
    (hf : f.lineEnds = lineEndsFrom 0 f.content ∧ f.digest = Sha256.digest f.content) :
    Sound (fs.stored f) where
  numbered i g h := by
    rcases getElem?_stored h with hold | ⟨rfl, rfl⟩
    · exact hs.numbered i g hold
    · exact hid
  derived i g h := by
    rcases getElem?_stored h with hold | ⟨-, rfl⟩
    · exact hs.derived i g hold
    · exact hf
  newest key := by
    have hindex : (fs.stored f).latest[key]? =
        if f.path == key then some f.id else fs.latest[key]? := Std.HashMap.getElem?_insert
    rw [hindex]
    by_cases hkey : f.path = key
    · subst hkey
      rw [if_pos (beq_self_eq_true _)]
      exact newest_stored hid
    · rw [if_neg (by simpa using hkey)]
      exact (hs.newest key).stored hkey

end FileSet

namespace Filing

open FileSet (Sound)

/-- Storing in place does what storing does; where that fails nothing has changed yet. -/
theorem add_apply (fs : FileSet) (path content : Bytes) (flags : FileFlags) :
    add path content flags fs =
      match fs.add path content flags with
      | .ok (fs', id) => .ok id fs'
      | .error e => .error (.unstorable e) fs := by
  change (if fs.files.size ≥ 0x100000000 then _ else _ : Filing FileId) fs = _
  by_cases hroom : fs.files.size ≥ 0x100000000
  · rw [if_pos hroom, FileSet.add, if_pos hroom]
    rfl
  · rw [if_neg hroom, FileSet.add, if_neg hroom]
    by_cases hfits : FitsOffsets content
    · rw [dif_pos hfits, dif_pos hfits]
      rfl
    · rw [dif_neg hfits, dif_neg hfits]
      rfl

theorem load_apply (fs : FileSet) (disk : Disk) (path : Bytes) :
    load disk path fs =
      match fs.load disk path with
      | .ok (fs', id) => .ok id fs'
      | .error e => .error e fs := by
  unfold load FileSet.load
  cases disk.read path with
  | error e =>
    cases disk.stat path with
    | error e => rfl
    | ok t => cases t <;> rfl
  | ok raw =>
    have hadd : add path (normalize raw).1 (normalize raw).2 fs =
        match (fs.add path (normalize raw).1 (normalize raw).2).mapError .unstorable with
        | .ok (fs', id) => .ok id fs'
        | .error e => .error e fs := by
      rw [add_apply]
      cases fs.add path (normalize raw).1 (normalize raw).2 <;> rfl
    cases disk.stat path with
    | error e => rfl
    | ok t =>
      cases t with
      | dir entries => rfl
      | file content => exact hadd
      | device d => exact hadd

/-- What is asked of a set of files. A file is loaded from the disk as it is then. -/
inductive Call where
  | add (path content : Bytes) (flags : FileFlags)
  | addVirtual (path content : Bytes)
  | load (disk : Disk) (path : Bytes)

namespace Call

def perform : Call → Filing FileId
  | .add path content flags => Filing.add path content flags
  | .addVirtual path content => Filing.addVirtual path content
  | .load disk path => Filing.load disk path

def path : Call → Bytes
  | .add path _ _ | .addVirtual path _ | .load _ path => path

/-- The content and the flags of the file that a call is to store. -/
inductive Brings : Call → Bytes → FileFlags → Prop
  | add {path content : Bytes} {flags : FileFlags} : Brings (.add path content flags) content flags
  | addVirtual {path content : Bytes} :
      Brings (.addVirtual path content) content FileFlags.virtual
  | load {disk : Disk} {path raw : Bytes} (h : disk.read path = .ok raw) :
      Brings (.load disk path) (normalize raw).1 (normalize raw).2

/-- All that a call does: it stores what it brings, or it leaves the set alone when it brings
nothing or there is no room for it. -/
theorem perform_cases (call : Call) (fs : FileSet) :
    ((∀ content flags, call.Brings content flags → ¬fs.Admits content) ∧
        ∃ e, call.perform fs = .error e fs) ∨
      ∃ content flags, ∃ h : fs.Admits content, call.Brings content flags ∧
        call.perform fs = .ok fs.files.size.toUInt32
          (fs.stored (File.make fs.files.size.toUInt32 call.path content flags h.2)) := by
  have hadd : ∀ path content flags,
      (¬fs.Admits content ∧ ∃ e, Filing.add path content flags fs = .error e fs) ∨
        ∃ h : fs.Admits content,
          Filing.add path content flags fs = .ok fs.files.size.toUInt32
            (fs.stored (File.make fs.files.size.toUInt32 path content flags h.2)) := by
    intro path content flags
    rw [add_apply]
    rcases fs.add_stores path content flags with ⟨hfull, e, h⟩ | ⟨hroom, h⟩
    · exact .inl ⟨hfull, .unstorable e, by rw [h]⟩
    · exact .inr ⟨hroom, by rw [h]⟩
  cases call with
  | add path content flags =>
    rcases hadd path content flags with ⟨hfull, h⟩ | ⟨hroom, h⟩
    · exact .inl ⟨fun | _, _, .add => hfull, h⟩
    · exact .inr ⟨content, flags, hroom, .add, h⟩
  | addVirtual path content =>
    rcases hadd path content FileFlags.virtual with ⟨hfull, h⟩ | ⟨hroom, h⟩
    · exact .inl ⟨fun | _, _, .addVirtual => hfull, h⟩
    · exact .inr ⟨content, FileFlags.virtual, hroom, .addVirtual, h⟩
  | load disk path =>
    have happly := load_apply fs disk path
    rcases fs.load_stores disk path with ⟨hfull, e, h⟩ | ⟨raw, hroom, hraw, h⟩
    · rw [h] at happly
      exact .inl ⟨fun | _, _, .load hraw => hfull _ hraw, e, happly⟩
    · rw [h] at happly
      exact .inr ⟨_, _, hroom, .load hraw, happly⟩

theorem succeeds_iff (call : Call) (fs : FileSet) :
    (∃ id fs', call.perform fs = .ok id fs') ↔
      ∃ content flags, call.Brings content flags ∧ fs.Admits content := by
  rcases call.perform_cases fs with ⟨hfull, e, h⟩ | ⟨content, flags, hroom, hbrings, h⟩
  · constructor
    · rintro ⟨id, fs', hok⟩
      rw [h] at hok
      cases hok
    · rintro ⟨content, flags, hbrings, hroom⟩
      exact absurd hroom (hfull content flags hbrings)
  · exact ⟨fun _ => ⟨content, flags, hbrings, hroom⟩, fun _ => ⟨_, _, h⟩⟩

theorem stored_of_ok {call : Call} {fs fs' : FileSet} {id : FileId}
    (h : call.perform fs = .ok id fs') :
    id.toNat = fs.files.size ∧ ∃ f, fs' = fs.stored f ∧ f.path = Path.clean call.path ∧
      call.Brings f.content f.flags := by
  rcases call.perform_cases fs with ⟨-, e, herr⟩ | ⟨content, flags, hroom, hbrings, hok⟩
  · rw [herr] at h
    cases h
  · rw [hok] at h
    cases h
    exact ⟨Nat.mod_eq_of_lt hroom.1, _, rfl, rfl, hbrings⟩

theorem unchanged_of_error {call : Call} {fs fs' : FileSet} {e : LoadError}
    (h : call.perform fs = .error e fs') : fs' = fs := by
  rcases call.perform_cases fs with ⟨-, e', herr⟩ | ⟨content, flags, hroom, -, hok⟩
  · rw [herr] at h
    cases h
    rfl
  · rw [hok] at h
    cases h

/-- The set after a call, whether or not it failed. -/
def left (call : Call) (fs : FileSet) : FileSet :=
  match call.perform fs with
  | .ok _ fs' => fs'
  | .error _ fs' => fs'

theorem left_of_ok {call : Call} {fs fs' : FileSet} {id : FileId}
    (h : call.perform fs = .ok id fs') : call.left fs = fs' := by
  rw [left, h]

theorem left_of_error {call : Call} {fs fs' : FileSet} {e : LoadError}
    (h : call.perform fs = .error e fs') : call.left fs = fs' := by
  rw [left, h]

theorem left_sound (call : Call) {fs : FileSet} (hs : Sound fs) : Sound (call.left fs) := by
  rcases call.perform_cases fs with ⟨-, e, h⟩ | ⟨content, flags, hroom, -, h⟩
  · rw [left_of_error h]
    exact hs
  · rw [left_of_ok h]
    refine hs.stored ?_ ⟨rfl, rfl⟩
    exact Nat.mod_eq_of_lt hroom.1

/-- A file that is there stays as it is. -/
theorem left_keeps (call : Call) {fs : FileSet} {i : Nat} {f : File} (hf : fs.files[i]? = some f) :
    (call.left fs).files[i]? = some f := by
  rcases call.perform_cases fs with ⟨-, e, h⟩ | ⟨content, flags, hroom, -, h⟩
  · rw [left_of_error h]
    exact hf
  · rw [left_of_ok h]
    exact FileSet.stored_keeps hf

end Call

/-- The set that a list of calls leaves. -/
def run (fs : FileSet) (calls : List Call) : FileSet := calls.foldl (fun fs call => call.left fs) fs

theorem run_sound {fs : FileSet} (hs : Sound fs) (calls : List Call) : Sound (run fs calls) := by
  induction calls generalizing fs with
  | nil => exact hs
  | cons call calls ih => exact ih (call.left_sound hs)

theorem run_keeps {fs : FileSet} {i : Nat} {f : File} (hf : fs.files[i]? = some f)
    (calls : List Call) : (run fs calls).files[i]? = some f := by
  induction calls generalizing fs with
  | nil => exact hf
  | cons call calls ih => exact ih (call.left_keeps hf)

end Filing

theorem FileSet.get_eq_ok_iff {fs : FileSet} {id : FileId} {f : File} :
    fs.get id = .ok f ↔ fs.files[id.toNat]? = some f := by
  unfold get
  cases fs.files[id.toNat]? <;> simp

theorem FileSet.exists_get_iff {fs : FileSet} {id : FileId} :
    (∃ f, fs.get id = .ok f) ↔ id.toNat < fs.size := by
  simp only [get_eq_ok_iff]
  exact Option.isSome_iff_exists.symm.trans (by simp [size])

/-- A file that was added is in the set. -/
theorem FileSet.get_of_add {fs fs' : FileSet} {path content : Bytes}
    {flags : FileFlags} {id : FileId} (h : fs.add path content flags = .ok (fs', id)) :
    ∃ f, fs'.get id = .ok f ∧ f.id = id ∧ f.content = content := by
  obtain ⟨-, e, hadd⟩ | ⟨room, hadd⟩ := fs.add_stores path content flags
  · rw [hadd] at h
    cases h
  · rw [hadd] at h
    cases h
    have hid : fs.files.size.toUInt32.toNat = fs.files.size := UInt32.toNat_ofNat_of_lt' room.1
    refine ⟨File.make fs.files.size.toUInt32 path content flags room.2,
      get_eq_ok_iff.mpr ?_, rfl, rfl⟩
    rw [hid, files_stored, Array.getElem?_push_size]

/-- What is known of a file follows from its content. -/
structure File.Derived (f : File) : Prop where
  buffer : f.buffer = f.content ++ [0]
  text : f.slice ⟨f.id, 0, f.size⟩ = .ok f.content
  digest : f.digest = Sha256.digest f.content
  increasing : f.lineEnds.Pairwise (· < ·)
  lineEnds : ∀ off, off ∈ f.lineEnds ↔
    f.content[off.toNat]? = some 10 ∨ f.content[off.toNat]? = some 13

theorem FileSet.Sound.derived_file {fs : FileSet} (hs : fs.Sound) {i : Nat} {f : File}
    (hf : fs.files[i]? = some f) : f.Derived := by
  obtain ⟨hends, hdigest⟩ := hs.derived i f hf
  have hfits : (0 : UInt32).toNat + f.content.length < 0x100000000 := by
    have := f.fits
    unfold FitsOffsets at this
    rw [UInt32.toNat_zero]
    omega
  refine ⟨rfl, f.slice_whole, hdigest, ?_, ?_⟩
  · rw [hends]
    exact lineEndsFrom_increase hfits
  · intro off
    rw [hends, mem_lineEndsFrom hfits]
    simp only [UInt32.zero_le, UInt32.toNat_zero, Nat.sub_zero, true_and, isLineEnd,
      Bool.or_eq_true, beq_iff_eq]
    grind

namespace Filing

open FileSet (Sound)

/-- In every history of a set of files, a call succeeds exactly when what it brings is there and has
room; it then returns the number of files so far, and the file it stored keeps that number. A call
that fails changes nothing, no call changes a file that is there, and the index knows the last file
of each path. -/
theorem run_versions (base : Bytes) (before after : List Call) (call : Call) :
    let fs := run { baseDir := base } before
    let last := run (call.left fs) after
    ((∃ id fs', call.perform fs = .ok id fs') ↔
        ∃ content flags, call.Brings content flags ∧ fs.Admits content) ∧
      (∀ id fs', call.perform fs = .ok id fs' →
        id.toNat = fs.size ∧ fs'.size = fs.size + 1 ∧
          ∃ f, last.get id = .ok f ∧ f.path = Path.clean call.path ∧
            call.Brings f.content f.flags) ∧
      (∀ e fs', call.perform fs = .error e fs' → fs' = fs) ∧
      (∀ id f, fs.get id = .ok f → last.get id = .ok f) ∧
      (∀ p, last.Newest (Path.clean p) (last.getLatest? p)) ∧
      ∀ id f, last.get id = .ok f → f.id = id ∧ f.Derived := by
  intro fs last
  have hlast : Sound last := run_sound (call.left_sound (run_sound (FileSet.sound_empty base) _)) _
  refine ⟨call.succeeds_iff fs, ?_, fun e fs' => Call.unchanged_of_error, ?_,
    fun p => hlast.newest (Path.clean p), ?_⟩
  · intro id fs' hok
    obtain ⟨hid, f, rfl, hpath, hbrings⟩ := Call.stored_of_ok hok
    refine ⟨hid, Array.size_push _, f, ?_, hpath, hbrings⟩
    refine FileSet.get_eq_ok_iff.mpr (run_keeps ?_ after)
    rw [Call.left_of_ok hok, hid, FileSet.files_stored, Array.getElem?_push_size]
  · intro id f hf
    rw [FileSet.get_eq_ok_iff] at hf ⊢
    exact run_keeps (call.left_keeps hf) after
  · intro id f hf
    rw [FileSet.get_eq_ok_iff] at hf
    exact ⟨UInt32.toNat_inj.mp (hlast.numbered _ f hf), hlast.derived_file hf⟩

/-- A path that is spelled in two ways has two versions, and the later is the latest; a load that
fails takes nothing away. -/
theorem run_versions_respelled :
    let before : List Call := [.addVirtual "a/b.kj" "x\r\n", .addVirtual "c.kj" ""]
    let call : Call := .addVirtual "a//./b.kj" "y"
    let last := run (call.left (run {} before)) [.load ⟨.dir [], []⟩ "a/b.kj"]
    last.getLatest? "./a/b.kj" = some 2 ∧
      (∃ f, last.get 2 = .ok f ∧ f.path = "a/b.kj" ∧ f.content = "y") ∧
      ∃ f, last.get 0 = .ok f ∧ f.content = "x\r\n" ∧ f.lineEnds = [1, 2] := by
  intro before call last
  obtain ⟨-, hok, -, hkept, hnewest, -⟩ :=
    run_versions [] before [.load ⟨.dir [], []⟩ "a/b.kj"] call
  obtain ⟨-, -, f, hf, hpath, hbrings⟩ := hok 2 _ rfl
  have hfile : last.files[2]? = some f := FileSet.get_eq_ok_iff.mp hf
  have hpath' : f.path = "a/b.kj" := hpath.trans (by decide)
  refine ⟨?_, ⟨f, hf, hpath', ?_⟩, _, hkept 0 _ rfl, rfl, by decide⟩
  · have hkey : Path.clean "./a/b.kj" = "a/b.kj" := by decide
    have hindex := hnewest "./a/b.kj"
    rw [hkey] at hindex
    cases hlatest : last.getLatest? "./a/b.kj" with
    | none =>
      rw [hlatest] at hindex
      exact absurd hpath' (hindex 2 f hfile)
    | some id =>
      rw [hlatest] at hindex
      obtain ⟨⟨g, hg, -⟩, hle⟩ := hindex
      have hlt : id.toNat < 3 := (Array.getElem?_eq_some_iff.mp hg).1
      have hge : 2 ≤ id.toNat := hle 2 f hfile hpath'
      rw [Option.some.injEq, ← UInt32.toNat_inj]
      exact Nat.le_antisymm (Nat.le_of_lt_succ hlt) hge
  · have hvirtual : ∀ {path content c flags}, Call.Brings (.addVirtual path content) c flags →
        c = content := fun | .addVirtual => rfl
    exact hvirtual hbrings

end Filing

end FrontEnd
