import FrontEnd.Command.Run
import FrontEnd.Proofs.Loading
import FrontEnd.Proofs.TokenCache

/-!
How many diagnostics of a file can be kept. The settings of a run accept every positive number, and
a bag has room for 65535. A run with a larger number breaks off at the first file that it can load.
A run breaks off, too, where a file is too large to be stored. Every other outcome is a result, or
tells why the file could not be loaded.
-/
namespace FrontEnd

namespace Command

open Trace (Hub)

/-- Settings that are accepted keep at least one diagnostic. -/
theorem Settings.resolve_pos {d : Disk} {a : Arguments} {input : Bytes} {s : Settings}
    (h : Settings.resolve d a input = .ok s) : 0 < s.maxDiagnostics := by
  unfold resolve at h
  simp only [bind, Except.bind] at h
  split at h
  · cases h
  split at h
  · cases h
  split at h
  · cases h
  split at h
  · cases h
  split at h
  · cases h
  rename_i hpos
  cases h
  exact Int.not_le.mp hpos

namespace Session

variable (s : Session) {d : Disk} {a : Arguments} {input : Bytes}

section Outcome

variable (hpos : 0 < s.settings.maxDiagnostics) (cache : Option TokenCache)
  (report : FileSet → Reporter (Hub × Unit)) {w : Work Unit} {c : Trace.Context} {path : Bytes}
  {files : FileSet} {f : File}

theorem tokenize_unloaded {cause : LoadError}
    (h : FileSet.load {} (w.readingDisk c path) path = .error cause) :
    (w.tokenize c { s.options cache with report } path).1 = .error (.ofLoad cause) := by
  obtain ⟨w', hr, -⟩ := w.tokenize_of_error { s.options cache with report } h
  exact congrArg Prod.fst hr

include hpos

theorem tokenize_result (hmax : s.settings.maxDiagnostics ≤ 65535)
    (h : FileSet.Loads {} (w.readingDisk c path) path files f) :
    ∃ r, (w.tokenize c { s.options cache with report } path).1 = .ok r ∧ r.file = f := by
  obtain ⟨bag, hbag⟩ := Bag.new_of_le (Int.le_of_lt hpos) hmax
  rw [← Work.kept_of_pos hpos] at hbag
  obtain ⟨r, w', hr, -, hfile, -⟩ :=
    w.tokenize_gathered { s.options cache with report } h rfl hbag
  exact ⟨r, by rw [hr], hfile⟩

theorem tokenize_overflow (hmax : 65535 < s.settings.maxDiagnostics)
    (h : FileSet.Loads {} (w.readingDisk c path) path files f) :
    (w.tokenize c { s.options cache with report } path).1 = .error (.limit .limitOverflow) := by
  have hbag := Bag.new_of_lt hmax
  rw [← Work.kept_of_pos hpos] at hbag
  exact w.tokenize_limit { s.options cache with report } h rfl hbag

/-- A fatal failure is that of a limit that is too large, or that of a file that is. -/
theorem tokenize_fatal_cases {e : TokenizeError}
    (he : (w.tokenize c { s.options cache with report } path).1 = .error e)
    (hfatal : e.isFatal = true) :
    ((∃ files f, FileSet.Loads {} (w.readingDisk c path) path files f) ∧
      65535 < s.settings.maxDiagnostics ∧ e = .limit .limitOverflow) ∨
    ((w.readingDisk c path).TooLarge path ∧
      ∃ cause, FileSet.load {} (w.readingDisk c path) path = .error cause ∧ e = .broken cause) := by
  rcases FileSet.load_cases {} (w.readingDisk c path) path with ⟨cause, hcause⟩ | ⟨files, f, hf⟩
  · cases (s.tokenize_unloaded cache report hcause).symm.trans he
    rw [TokenizeError.isFatal_ofLoad] at hfatal
    have hlarge := (FileSet.isFatal_iff (by decide) hcause).mp hfatal
    exact .inr ⟨hlarge, cause, hcause, TokenizeError.ofLoad_fatal hfatal⟩
  · rcases Int.lt_or_le 65535 s.settings.maxDiagnostics with hmax | hmax
    · cases (s.tokenize_overflow hpos cache report hmax hf).symm.trans he
      exact .inl ⟨⟨files, f, hf⟩, hmax, rfl⟩
    · obtain ⟨r, hr, -⟩ := s.tokenize_result hpos cache report hmax hf
      cases hr.symm.trans he

end Outcome

/-- With settings that are accepted, a run on a path is a failure that no caller is prepared for if
and only if the path is loaded and more diagnostics are to be kept than a bag has room for, or the
file at the path is too large. -/
theorem tokenize_fatal_iff (hs : Settings.resolve d a input = .ok s.settings)
    (cache : Option TokenCache) (report : FileSet → Reporter (Hub × Unit)) (w : Work Unit)
    (c : Trace.Context) (path : Bytes) :
    let outcome := (w.tokenize c { s.options cache with report } path).1
    let disk := w.readingDisk c path
    ((∃ e, outcome = .error e ∧ e.isFatal = true) ↔
      ((∃ files f, FileSet.Loads {} disk path files f) ∧ 65535 < s.settings.maxDiagnostics) ∨
        disk.TooLarge path) ∧
    (∀ e, outcome = .error e → e.isFatal = true → e = .limit .limitOverflow ∨
      ∃ cause, FileSet.load {} disk path = .error cause ∧ e = .broken cause) ∧
    (∀ e, FileSet.load {} disk path = .error e → ¬ disk.TooLarge path →
      outcome = .error (.load e)) ∧
    (∀ files f, FileSet.Loads {} disk path files f → s.settings.maxDiagnostics ≤ 65535 →
      ∃ r, outcome = .ok r ∧ r.file = f) := by
  intro outcome disk
  have hpos := Settings.resolve_pos hs
  refine ⟨⟨?_, ?_⟩, ?_, ?_, ?_⟩
  · rintro ⟨e, he, hfatal⟩
    rcases s.tokenize_fatal_cases hpos cache report he hfatal with ⟨hloads, hmax, -⟩ | ⟨hlarge, -⟩
    · exact .inl ⟨hloads, hmax⟩
    · exact .inr hlarge
  · rintro (⟨⟨files, f, hf⟩, hmax⟩ | hlarge)
    · exact ⟨_, s.tokenize_overflow hpos cache report hmax hf, rfl⟩
    · obtain ⟨e, he, hfatal⟩ := (FileSet.load_fatal_iff {} (by decide) disk path).mpr hlarge
      exact ⟨_, s.tokenize_unloaded cache report he,
        (TokenizeError.isFatal_ofLoad e).trans hfatal⟩
  · intro e he hfatal
    rcases s.tokenize_fatal_cases hpos cache report he hfatal with ⟨-, -, hlimit⟩ | ⟨-, hcause⟩
    · exact .inl hlimit
    · exact .inr hcause
  · intro e he hsmall
    have husual := mt (FileSet.isFatal_iff (by decide) he).mp hsmall
    rw [← TokenizeError.ofLoad_usual husual]
    exact s.tokenize_unloaded cache report he
  · intro files f hf hmax
    exact s.tokenize_result hpos cache report hmax hf

/-- A number of diagnostics that is accepted and that no bag has room for. -/
theorem tokenize_fatal_iff_overflow :
    let d : Disk := ⟨.dir [("a.kj", .file "x")], []⟩
    let a : Arguments := { given := [("max-diagnostics", .integer 65536)], words := ["a.kj"] }
    let w : Work Unit := ⟨{ disk := d }, (), #[]⟩
    ∃ settings, Settings.resolve d a "a.kj" = .ok settings ∧ settings.maxDiagnostics = 65536 ∧
      ∀ cache report, ∃ e,
        (w.tokenize {} { (⟨settings, .nop, []⟩ : Session).options cache with report } "a.kj").1 =
          .error e ∧ e.isFatal = true := by
  intro d a w
  obtain ⟨settings, hsettings, hmax⟩ : ∃ settings,
      (Settings.resolve d a "a.kj").toOption = some settings ∧ settings.maxDiagnostics = 65536 :=
    Option.map_eq_some_iff.mp (by decide +kernel)
  have hs := ok_of_toOption hsettings
  obtain ⟨x, hx⟩ : ∃ x, (FileSet.load {} (w.readingDisk {} "a.kj") "a.kj").toOption = some x :=
    Option.isSome_iff_exists.mp (by decide +kernel)
  obtain ⟨f, hf⟩ := FileSet.loads_of_load (ok_of_toOption hx)
  refine ⟨settings, hs, hmax, ?_⟩
  intro cache report
  have hfatal := tokenize_fatal_iff ⟨settings, .nop, []⟩ hs cache report w {} "a.kj"
  exact hfatal.1.mpr (.inl ⟨⟨x.1, f, hf⟩, by rw [hmax]; decide⟩)

end Session

/-- A command line that is accepted and makes the program break off. -/
theorem run_crashed :
    (run { hub := { disk := ⟨.dir [("a.kj", .file "x")], []⟩ } }
      ["tokenize", "--max-diagnostics", "65536", "a.kj"]).1 =
        .crashed "bag limit overflow: out of range" := by
  decide +kernel

end Command

end FrontEnd
