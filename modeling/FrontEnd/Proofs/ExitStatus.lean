import FrontEnd.Command.Run
import FrontEnd.Proofs.Batch
import FrontEnd.Proofs.NormalForm

/-!
The exit status of tokenizing. A command line that gets as far as its files ends with status 0 when
it has a file and every file is clean. It breaks off when a file is too large to be stored, and ends
with status 1 in every other case. That is the same for a file on its own, which is worked on as a
stream, and for a batch, whose entries are collected first; and neither the formats, nor the number
of jobs, nor a genuine cache has a part in it. Showing what was found comes to its end always, so
the verdict on each file is what is left to decide.
-/
namespace FrontEnd.Command

/-- The program breaks off; there is no status. -/
def Stop.breaks : Stop → Bool
  | .fault _ | .death _ => true
  | .refused _ | .mistakes => false

/-- The work of a session, before its first file. -/
def Shell.toWork (sh : Shell) : Work Unit := { hub := sh.hub, sink := () }

namespace Action

variable {α β γ : Type} {m : Action α} {P : α → Prop}

theorem bind_ok {sh sh' : Shell} {a : α} (h : m sh = .ok a sh') (k : α → Action β) :
    (m >>= k) sh = k a sh' := by
  change EStateM.bind m k sh = _
  rw [EStateM.bind, h]

theorem bind_error {sh sh' : Shell} {e : Stop} (h : m sh = .error e sh') (k : α → Action β) :
    (m >>= k) sh = .error e sh' := by
  change EStateM.bind m k sh = _
  rw [EStateM.bind, h]

/-- An action that comes to its end, whatever the shell, with a result of some kind. -/
def Returns (m : Action α) (P : α → Prop) : Prop := ∀ sh, ∃ a sh', m sh = .ok a sh' ∧ P a

theorem returns_pure {a : α} (h : P a) : Returns (pure a) P := fun sh => ⟨a, sh, rfl, h⟩

theorem Returns.bind {k : α → Action β} {Q : β → Prop} (hm : Returns m P)
    (hk : ∀ a, P a → Returns (k a) Q) : Returns (m >>= k) Q := by
  intro sh
  obtain ⟨a, sh', ha, hP⟩ := hm sh
  rw [bind_ok ha]
  exact hk a hP sh'

theorem returns_get : Returns get fun _ => True := fun sh => ⟨sh, sh, rfl, trivial⟩

theorem returns_say (text : Bytes) : Returns (say text) fun _ => True :=
  fun sh => ⟨(), sh.say text, rfl, trivial⟩

theorem returns_print (text : Bytes) : Returns (print text) fun _ => True :=
  fun sh => ⟨(), sh.print text, rfl, trivial⟩

theorem returns_orFault {ε : Type} {r : Except ε α} (h : ∃ a, r = .ok a) (message : ε → Bytes) :
    Returns (orFault r message) fun _ => True := by
  obtain ⟨a, rfl⟩ := h
  exact returns_pure trivial

/-- A loop whose body always returns. -/
theorem returns_forIn (xs : Array γ) {body : γ → Unit → Action (ForInStep Unit)}
    (h : ∀ x, Returns (body x ()) fun _ => True) : Returns (forIn xs () body) fun _ => True := by
  rw [← Array.forIn_toList]
  induction xs.toList with
  | nil => exact returns_pure trivial
  | cons x xs ih =>
    rw [List.forIn_cons]
    refine (h x).bind fun step _ => ?_
    cases step with
    | done => exact returns_pure trivial
    | yield => exact ih

/-- An action that comes to its end if something holds, and stops if it does not; when it stops, the
program breaks off in one case and not in another. -/
inductive Decides (m : Action Unit) (sh : Shell) (ok broken : Prop) : Prop
  | returns {sh' : Shell} (hok : ok) (hwhole : ¬ broken) (heq : m sh = .ok () sh')
  | stops {e : Stop} {sh' : Shell} (hok : ¬ ok) (hbreaks : e.breaks = true ↔ broken)
      (heq : m sh = .error e sh')

theorem Decides.congr {n : Action Unit} {sh : Shell} {ok ok' broken broken' : Prop}
    (hok : ok ↔ ok') (hbroken : broken ↔ broken') (h : Decides n sh ok broken) :
    Decides n sh ok' broken' := by
  rwa [← propext hok, ← propext hbroken]

theorem decides_bind {k : α → Action Unit} {sh sh' : Shell} {a : α} {ok broken : Prop}
    (h : m sh = .ok a sh') (hk : Decides (k a) sh' ok broken) : Decides (m >>= k) sh ok broken := by
  have heq := bind_ok h k
  cases hk with
  | returns hok hwhole hk => exact .returns hok hwhole (heq.trans hk)
  | stops hok hbreaks hk => exact .stops hok hbreaks (heq.trans hk)

theorem Returns.decides {k : α → Action Unit} {sh : Shell} {ok broken : Prop} (h : Returns m P)
    (hk : ∀ a sh', P a → Decides (k a) sh' ok broken) : Decides (m >>= k) sh ok broken := by
  obtain ⟨a, sh', heq, hP⟩ := h sh
  exact decides_bind heq (hk a sh' hP)

/-- The last step of a command: whether mistakes were shown. -/
theorem decides_mistakes {failed : Bool} {sh : Shell} {ok broken : Prop} (h : failed = false ↔ ok)
    (hwhole : ¬ broken) :
    Decides (if failed = true then throw .mistakes else pure ()) sh ok broken := by
  cases failed with
  | false => exact .returns (h.mp rfl) hwhole rfl
  | true =>
    exact .stops (e := .mistakes) (fun hok => nomatch h.mpr hok)
      (iff_of_false Bool.false_ne_true hwhole) rfl

theorem orRefuse_eq {ε α : Type} {r : Except ε α} {a : α} (h : r = .ok a) (why : ε → Refusal)
    (sh : Shell) : orRefuse r why sh = .ok a sh := by
  rw [h]
  rfl

theorem work_eq (k : Work Unit → α × Work Unit) (sh : Shell) :
    work k sh = .ok (k sh.toWork).1 { sh with hub := (k sh.toWork).2.hub } := rfl

end Action

namespace Session

open FrontEnd.Command.Action

variable {r : Tokenized} {g : File}

theorem tellDiagnostics_returns (s : Session) (format : DiagnosticsFormat) (h : r.Shows g) :
    Returns (s.tellDiagnostics format r) fun _ => True := by
  have hitems : ∀ d ∈ r.bag.sort.items, d.On g := fun d hd => h.items d (Bag.mem_sort.mp hd)
  unfold tellDiagnostics
  split
  · refine returns_get.bind fun sh _ => ?_
    cases format with
    | json =>
      exact (returns_orFault (Report.build_ok h.get _ hitems) _).bind fun _ _ => returns_say _
    | short =>
      exact (returns_orFault (Short.render_ok _ _ _ _) _).bind fun _ _ => returns_say _
    | pretty =>
      exact (returns_orFault (Pretty.render_ok h.get _ hitems) _).bind fun _ _ => returns_say _
  · exact returns_pure trivial

theorem tokensText_ok (format : TokenFormat) (h : r.Shows g) :
    ∃ t, tokensText format r = .ok t := by
  obtain ⟨records, hrecords⟩ := Token.records_ok h.get h.tokens
  cases format with
  | pretty => exact Token.pretty_ok h.get h.tokens
  | json => exact ⟨Token.jsonListing records, by simp only [tokensText, hrecords, Except.map]⟩
  | msgpack => exact ⟨Token.packListing records, by simp only [tokensText, hrecords, Except.map]⟩

theorem tellTimings_returns (s : Session) (name : Bytes) (t : Trace.Timer) :
    Returns (s.tellTimings name t) fun _ => True := by
  unfold tellTimings
  split
  · refine returns_get.bind fun sh _ => ?_
    refine (returns_forIn _ fun p => ?_).bind fun _ _ => returns_say _
    exact (returns_say _).bind fun _ _ => returns_pure trivial
  · exact returns_pure trivial

/-- One file of a batch: it is shown, and what is wrong with it is remembered. -/
theorem tellEntry_returns (s : Session) (f : TokenizeFlags) (b : BatchState) {e : BatchEntry}
    {d : Disk} {path : Bytes} (h : Work.Judges d path e.outcome) :
    Returns (s.tellEntry f b e) fun b' => b'.failed = true ↔ b.failed = true ∨ ¬ d.Clean path := by
  obtain ⟨shown, outcome⟩ := e
  unfold tellEntry
  cases outcome with
  | error cause =>
    refine (returns_say _).bind fun _ _ => returns_pure ?_
    simp [h.1]
  | ok r =>
    obtain ⟨herrors, ⟨g, hg⟩, -⟩ := h
    have hfailed : (b.failed || r.bag.hasErrors) = true ↔ b.failed = true ∨ ¬ d.Clean path := by
      rw [Bool.or_eq_true, ← herrors, Bool.not_eq_false]
    refine (s.tellDiagnostics_returns _ hg).bind fun _ _ => ?_
    refine (s.tellTimings_returns _ _).bind fun _ _ => ?_
    dsimp only
    split
    · refine (returns_print _).bind fun _ _ => ?_
      refine (returns_orFault (Token.pretty_ok hg.get hg.tokens) _).bind fun _ _ => ?_
      exact (returns_print _).bind fun _ _ => returns_pure hfailed
    · exact (returns_orFault (Token.records_ok hg.get hg.tokens) _).bind fun _ _ =>
        returns_pure hfailed

/-- All files of a batch: something was wrong if and only if one of them was not clean. -/
theorem foldlM_tellEntry_returns (s : Session) (f : TokenizeFlags) (b : BatchState)
    {readings : List (Bytes × Disk)} {es : List BatchEntry}
    (h : List.Forall₂ (fun x e => Work.Judges x.2 x.1 e.outcome) readings es) :
    Returns (es.foldlM (s.tellEntry f) b) fun b' =>
      b'.failed = true ↔ b.failed = true ∨ ∃ x ∈ readings, ¬ x.2.Clean x.1 := by
  induction h generalizing b with
  | nil => exact returns_pure (by simp)
  | cons hx _ ih =>
    rw [List.foldlM_cons]
    refine (s.tellEntry_returns f b hx).bind fun b₁ hb₁ sh => ?_
    obtain ⟨b', sh', heq, hb'⟩ := ih b₁ sh
    refine ⟨b', sh', heq, ?_⟩
    simp only [hb', hb₁, List.mem_cons, exists_eq_or_imp, or_assoc]

theorem options_usual (s : Session) (hlimit : s.settings.maxDiagnostics ≤ 65535)
    (cache : Option TokenCache) : ∃ bag, (s.options cache).Usual bag := by
  have hpos := Work.kept_pos s.settings.maxDiagnostics
  have hle : Work.kept s.settings.maxDiagnostics ≤ 65535 := by
    unfold Work.kept
    split <;> omega
  obtain ⟨bag, hbag⟩ := Bag.new_of_le (Int.le_of_lt hpos) hle
  exact ⟨bag, rfl, rfl, rfl, hbag, fun _ h _ _ => .refl h⟩

/-- The end of a batch: every file is shown, then their mistakes count. -/
theorem tellEntries_decides (s : Session) (f : TokenizeFlags) {readings : List (Bytes × Disk)}
    {es : List BatchEntry}
    (hes : List.Forall₂ (fun x e => Work.Judges x.2 x.1 e.outcome) readings es) {sh : Shell}
    {broken : Prop} (hwhole : ¬ broken) :
    Decides (do
      let b ← es.foldlM (s.tellEntry f) {}
      if f.format ≠ .pretty then Action.print (batchText f.format b.listed.reverse)
      if b.failed then throw .mistakes) sh (∀ x ∈ readings, x.2.Clean x.1) broken := by
  refine (s.foldlM_tellEntry_returns f {} hes).decides fun b sh' hb => ?_
  have hfailed : b.failed = false ↔ ∀ x ∈ readings, x.2.Clean x.1 := by
    rw [Bool.eq_false_iff, Ne, hb]
    simp
  dsimp only
  split
  · exact (returns_print _).decides fun _ _ _ => decides_mistakes hfailed hwhole
  · exact decides_mistakes hfailed hwhole

/-- A batch comes to its end if and only if it has files and all of them are clean, and breaks off
if and only if one of them is too large. -/
theorem tokenizeMany_decides (s : Session) (f : TokenizeFlags) {inputs paths : List Bytes}
    {sh ready : Shell} {cache : Option TokenCache} {seen : File → Prop}
    (hlimit : s.settings.maxDiagnostics ≤ 65535)
    (hpaths : expand sh.hub.disk inputs = .ok paths) (hcache : s.openCache sh = .ok cache ready)
    (hlive : f.live.shows paths.length s.settings.tracesToConsole ready.consoleTerminal = false)
    (hk : Work.Trusted (s.options cache) seen ready.hub)
    {readings : List (Bytes × Disk)} (hreadings : readings =
      ready.toWork.batchReadings s.context (s.options cache) f.jobs ready.processors paths)
    (hseen : Work.Covers seen readings) :
    Decides (s.tokenizeMany f inputs) sh (paths ≠ [] ∧ ∀ x ∈ readings, x.2.Clean x.1)
      (∃ x ∈ readings, x.2.TooLarge x.1) := by
  unfold tokenizeMany
  refine decides_bind (show (get : Action Shell) sh = .ok sh sh from rfl) ?_
  rw [hpaths]
  refine decides_bind (show orRefuse (.ok paths) id sh = .ok paths sh from rfl) ?_
  by_cases hne : paths = []
  · subst hne
    have hnone : readings = [] := hreadings
    exact .stops (e := .refused .noSources) (fun h => h.1 rfl)
      (iff_of_false Bool.false_ne_true (by simp [hnone])) rfl
  rw [if_neg (by simpa using hne)]
  refine decides_bind hcache ?_
  refine decides_bind (show (get : Action Shell) ready = .ok ready ready from rfl) ?_
  obtain ⟨bag, husual⟩ := s.options_usual hlimit cache
  have hends := Work.tokenizeAll_ends husual ready.toWork s.context f.jobs ready.processors hne hk
    (hreadings ▸ hseen)
  rw [← hreadings] at hends
  refine decides_bind (work_eq _ ready) ?_
  dsimp only
  cases houtcome : (ready.toWork.tokenizeAll s.context (s.options cache) f.jobs ready.processors
      paths).1 with
  | cancelled =>
    rw [houtcome] at hends
    exact hends.elim
  | broken cause =>
    rw [houtcome] at hends
    obtain ⟨x, hx, hlarge⟩ := hends
    exact .stops (fun hok => hlarge.not_clean (hok.2 x hx)) (iff_of_true rfl ⟨x, hx, hlarge⟩) rfl
  | done es =>
    rw [houtcome] at hends
    obtain ⟨hes, hsmall⟩ := hends
    have hwhole : ¬ ∃ x ∈ readings, x.2.TooLarge x.1 := fun ⟨x, hx, hlarge⟩ => hsmall x hx hlarge
    rw [hlive]
    refine decides_bind (show tellProgress false paths _ _ = .ok () _ from rfl) ?_
    exact (s.tellEntries_decides f hes hwhole).congr (and_iff_right hne).symm Iff.rfl

theorem orStop_ok (r : Tokenized) (sh : Shell) : orStop (.ok r) sh = .ok r sh := rfl

theorem orStop_error (e : TokenizeError) (sh : Shell) :
    ∃ stop, orStop (.error e) sh = .error stop sh ∧ stop.breaks = e.isFatal := by
  refine ⟨_, rfl, ?_⟩
  cases e.isFatal <;> rfl

/-- The end of the work on a single file: tokens and timings are shown, then its mistakes count. -/
theorem showTokens_decides (s : Session) (f : TokenizeFlags) (hr : r.Shows g) {sh : Shell}
    {ok broken : Prop} (hok : r.bag.hasErrors = false ↔ ok) (hwhole : ¬ broken) :
    Decides (do
      Action.print (← Action.orFault (tokensText f.format r) SourceError.message)
      s.tellTimings r.file.path r.timer
      if r.bag.hasErrors then throw .mistakes) sh ok broken := by
  refine (returns_orFault (tokensText_ok f.format hr) _).decides fun _ _ _ => ?_
  refine (returns_print _).decides fun _ _ _ => ?_
  exact (s.tellTimings_returns _ _).decides fun _ _ _ => decides_mistakes hok hwhole

/-- A file on its own comes to its end if and only if it is clean, and breaks off if and only if it
is too large. -/
theorem tokenizeOne_decides (s : Session) (f : TokenizeFlags) {path : Bytes} {sh ready : Shell}
    {cache : Option TokenCache} {seen : File → Prop} (hlimit : s.settings.maxDiagnostics ≤ 65535)
    (hcache : s.openCache sh = .ok cache ready) (hk : Work.Trusted (s.options cache) seen ready.hub)
    (hseen : ∀ g, (ready.toWork.readingDisk s.context path).file? path = some g → seen g) :
    Decides (s.tokenizeOne f path) sh ((ready.toWork.readingDisk s.context path).Clean path)
      ((ready.toWork.readingDisk s.context path).TooLarge path) := by
  unfold tokenizeOne
  refine decides_bind hcache ?_
  refine decides_bind (show (get : Action Shell) ready = .ok ready ready from rfl) ?_
  dsimp only
  generalize hopts : (if f.diagnostics = .short then _ else s.options cache) = opts
  obtain ⟨bag, husual⟩ := s.options_usual hlimit cache
  have husual' : opts.Usual bag ∧ opts.cache = cache := by
    rw [← hopts]
    split
    · exact ⟨⟨rfl, rfl, rfl, husual.room, fun _ _ _ _ => Trace.Hub.traced_of_eq rfl rfl⟩, rfl⟩
    · exact ⟨husual, rfl⟩
  obtain ⟨husual', hsame⟩ := husual'
  have hk' : Work.Trusted opts seen ready.hub := fun k hsome => hk k (hsame.symm.trans hsome)
  obtain ⟨hjudges, -⟩ := Work.tokenize_judges husual' hk' hseen
  refine decides_bind (work_eq _ ready) ?_
  generalize (ready.toWork.tokenize s.context opts path).1 = outcome at hjudges ⊢
  cases outcome with
  | error e =>
    obtain ⟨hclean, hfatal⟩ := hjudges
    obtain ⟨stop, hstop, hbreaks⟩ := orStop_error e { ready with
      hub := (ready.toWork.tokenize s.context opts path).2.hub }
    exact .stops hclean (hbreaks ▸ hfatal) (bind_error hstop _)
  | ok r =>
    obtain ⟨herrors, ⟨g, hg⟩, hsmall⟩ := hjudges
    refine decides_bind (orStop_ok r _) ?_
    split
    · exact (s.tellDiagnostics_returns _ hg).decides fun _ _ _ =>
        s.showTokens_decides f hg herrors hsmall
    · exact s.showTokens_decides f hg herrors hsmall

/-- Closing a session does not change how its work ended. -/
theorem finish_decides (s : Session) {m : Action Unit} {sh : Shell} {ok broken : Prop}
    (h : Decides m sh ok broken) : Decides (s.finish m) sh ok broken := by
  have heq : ∀ x, m sh = x → s.finish m sh = _ := fun x hx => by unfold finish; rw [hx]
  cases h with
  | returns hok hwhole hm => exact .returns hok hwhole (heq _ hm)
  | @stops e sh' hok hbreaks hm =>
    cases e <;> exact .stops hok hbreaks (heq _ hm)

/-- Opening a session leaves the disk alone when there is no profile and the trace goes to no
file. -/
theorem start_traced {a : Arguments} {input : Bytes} {s : Session} {sh opened : Shell}
    (h : start a input sh = .ok s opened) (hcpu : a.text? "cpu-profile" = none)
    (hruntime : a.text? "runtime-trace" = none)
    (htrace : s.settings.traceLevel = .off ∨ s.settings.traceOutput = [] ∨
      s.settings.traceOutput = "-") : sh.hub.Traced opened.hub := by
  have hprofiles : startProfiles a = pure () := by
    unfold startProfiles
    rw [hcpu, hruntime]
    rfl
  unfold start at h
  rw [bind_ok (show (get : Action Shell) sh = .ok sh sh from rfl)] at h
  cases hsettings : Settings.resolve sh.hub.disk a input with
  | error e =>
    rw [hsettings] at h
    cases h
  | ok settings =>
    rw [hsettings, bind_ok (orRefuse_eq rfl _ sh)] at h
    cases htracer : sh.hub.openTracer
        ⟨settings.traceLevel, settings.traceMode, .text, settings.traceOutput, 0, false⟩ with
    | error e =>
      rw [htracer] at h
      cases h
    | ok x =>
      rw [htracer, bind_ok (orRefuse_eq rfl _ sh), hprofiles] at h
      cases h
      exact Trace.Hub.openTracer_traced htrace htracer

theorem expand_single {d : Disk} {p : Bytes} (h : ∀ es, d.get p ≠ .ok (.dir es)) :
    expand d [p] = .ok [p] := by
  unfold expand
  split
  · rename_i es hes
    exact absurd hes (h es)
  · rfl

end Session

open FrontEnd.Command.Action

/-- A command line that has come to its files: it asks for tokenizing, the settings are accepted and
the session is open, directories could be listed and the cache could be opened, and progress is not
shown. -/
structure Invocation (sh : Shell) (args : List Bytes) where
  verb : Verb
  rest : List Bytes
  arguments : Arguments
  flags : TokenizeFlags
  session : Session
  /-- The shell with the session open. -/
  opened : Shell
  paths : List Bytes
  cache : Option TokenCache
  /-- The shell with the cache open. -/
  ready : Shell
  find : Verb.find args = (verb, rest)
  tokenizes : verb = .plain ∨ verb = .tokenize
  read : readArguments verb.flags {} rest = .ok arguments
  noHelp : arguments.isOn "help" = false
  noVersion : arguments.isOn "version" = false
  named : arguments.words ≠ []
  readFlags : TokenizeFlags.ofArguments arguments = .ok flags
  start : Session.start arguments (arguments.words.headD []) sh = .ok session opened
  expand : Session.expand opened.hub.disk arguments.words = .ok paths
  openCache : session.openCache opened = .ok cache ready
  hidden :
    flags.live.shows paths.length session.settings.tracesToConsole ready.consoleTerminal = false

namespace Invocation

variable {sh : Shell} {args : List Bytes} (t : Invocation sh args)

/-- What a command line comes to, if it gets as far as its files. -/
def of? (sh : Shell) (args : List Bytes) : Option (Invocation sh args) :=
  match find : Verb.find args with
  | (verb, rest) =>
    if tokenizes : verb = .plain ∨ verb = .tokenize then
      match read : readArguments verb.flags {} rest with
      | .error _ => none
      | .ok arguments =>
        if plain : arguments.isOn "help" = false ∧ arguments.isOn "version" = false ∧
            arguments.words ≠ [] then
          match readFlags : TokenizeFlags.ofArguments arguments with
          | .error _ => none
          | .ok flags => match start : Session.start arguments (arguments.words.headD []) sh with
            | .error _ _ => none
            | .ok session opened =>
              match expand : Session.expand opened.hub.disk arguments.words with
              | .error _ => none
              | .ok paths => match openCache : session.openCache opened with
                | .error _ _ => none
                | .ok cache ready =>
                  if hidden : flags.live.shows paths.length session.settings.tracesToConsole
                      ready.consoleTerminal = false then
                    some ⟨verb, rest, arguments, flags, session, opened, paths, cache, ready, find,
                      tokenizes, read, plain.1, plain.2.1, plain.2.2, readFlags, start, expand,
                      openCache, hidden⟩
                  else none
        else none
    else none

/-- The only word, if it names no directory: such a file is worked on by itself. -/
def single? : Option Bytes :=
  match t.arguments.words with
  | [p] => match t.opened.hub.disk.get p with
    | .ok (.dir _) => none
    | _ => some p
  | _ => none

/-- The disk that each file is read from, with the path. -/
def readings : List (Bytes × Disk) :=
  match t.single? with
  | some p => [(p, t.ready.toWork.readingDisk t.session.context p)]
  | none => t.ready.toWork.batchReadings t.session.context (t.session.options t.cache) t.flags.jobs
      t.ready.processors t.paths

/-- There is a file, and every file is clean on the disk that it is read from. -/
def Clean : Prop := t.paths ≠ [] ∧ ∀ x ∈ t.readings, x.2.Clean x.1

/-- A file is too large on the disk that it is read from. -/
def TooLarge : Prop := ∃ x ∈ t.readings, x.2.TooLarge x.1

/-- The cache, if there is one, is genuine, also with regard to the files that are read. -/
def Trusts (seen : File → Prop) : Prop :=
  ∀ k, t.cache = some k → k.Genuine t.ready.hub seen ∧ Work.Covers seen t.readings

theorem single?_eq_some {p : Bytes} (h : t.single? = some p) :
    t.arguments.words = [p] ∧ (∀ es, t.opened.hub.disk.get p ≠ .ok (.dir es)) ∧ t.paths = [p] := by
  have hexpand := t.expand
  unfold single? at h
  split at h
  · rename_i q hwords
    split at h
    · cases h
    · rename_i hdir
      cases h
      rw [hwords, Session.expand_single hdir] at hexpand
      exact ⟨hwords, hdir, (Except.ok.inj hexpand).symm⟩
  · cases h

/-- The work of the session. -/
theorem body_decides (hlimit : t.session.settings.maxDiagnostics ≤ 65535) {seen : File → Prop}
    (hk : Work.Trusted (t.session.options t.cache) seen t.ready.hub)
    (hseen : Work.Covers seen t.readings) :
    Decides (match t.arguments.words with
      | [p] => do match (← get).hub.disk.get p with
        | .ok (.dir _) => t.session.tokenizeMany t.flags [p]
        | _ => t.session.tokenizeOne t.flags p
      | ps => t.session.tokenizeMany t.flags ps) t.opened t.Clean t.TooLarge := by
  unfold Clean TooLarge
  unfold readings at hseen ⊢
  cases hsingle : t.single? with
  | some p =>
    obtain ⟨hwords, hdir, hpaths⟩ := t.single?_eq_some hsingle
    rw [hsingle] at hseen
    have hfile :=
      hseen (p, t.ready.toWork.readingDisk t.session.context p) (List.mem_singleton_self _)
    have hone := t.session.tokenizeOne_decides t.flags hlimit t.openCache hk hfile
    rw [hwords]
    refine decides_bind (show (get : Action Shell) t.opened = .ok t.opened t.opened from rfl) ?_
    dsimp only
    split
    · rename_i es hes
      exact absurd hes (hdir es)
    · exact hone.congr (by simp [hpaths]) (by simp)
  | none =>
    rw [hsingle] at hseen
    have hmany := t.session.tokenizeMany_decides t.flags hlimit t.expand t.openCache t.hidden hk rfl
      hseen
    unfold single? at hsingle
    split
    · rename_i p hwords
      rw [hwords] at hsingle hmany
      refine decides_bind (show (get : Action Shell) t.opened = .ok t.opened t.opened from rfl) ?_
      dsimp only at hsingle ⊢
      split
      · exact hmany
      · rename_i hdir
        split at hsingle
        · rename_i es hes
          exact absurd hes (hdir es)
        · cases hsingle
    · exact hmany

/-- The command as a whole. -/
theorem verb_decides (hlimit : t.session.settings.maxDiagnostics ≤ 65535) {seen : File → Prop}
    (hk : Work.Trusted (t.session.options t.cache) seen t.ready.hub)
    (hseen : Work.Covers seen t.readings) :
    Decides (t.verb.run t.rest) sh t.Clean t.TooLarge := by
  have hwords : t.verb.checkWords t.arguments.words = .ok () := by
    rcases t.tokenizes with hverb | hverb <;> rw [hverb] <;> exact if_neg t.named
  have hsession : Decides (runTokenize t.arguments) sh t.Clean t.TooLarge :=
    decides_bind (orRefuse_eq t.readFlags id sh) (decides_bind t.start
      (t.session.finish_decides (t.body_decides hlimit hk hseen)))
  unfold Verb.run
  refine decides_bind (orRefuse_eq t.read .flag sh) ?_
  rw [if_neg (by simp [t.noHelp]), if_neg (by simp [t.noVersion])]
  refine decides_bind (orRefuse_eq hwords .words sh) ?_
  rcases t.tokenizes with hverb | hverb <;> rw [hverb] <;> exact hsession

theorem TooLarge.not_clean {t : Invocation sh args} (h : t.TooLarge) : ¬ t.Clean := by
  obtain ⟨x, hx, hlarge⟩ := h
  exact fun hclean => hlarge.not_clean (hclean.2 x hx)

/-- How the program ends, in each of the three cases. -/
theorem run_eq (hlimit : t.session.settings.maxDiagnostics ≤ 65535) {seen : File → Prop}
    (htrust : t.Trusts seen) :
    (t.Clean → (run sh args).1 = .status 0) ∧
    (t.TooLarge → ∃ m, (run sh args).1 = .crashed m) ∧
    (¬ t.Clean → ¬ t.TooLarge → (run sh args).1 = .status 1) := by
  have hdecides : Decides (t.verb.run t.rest) sh t.Clean t.TooLarge := by
    cases hcache : t.cache with
    | none =>
      have hk : Work.Trusted (t.session.options t.cache) (fun _ => True) t.ready.hub :=
        fun k hk => nomatch hcache.symm.trans hk
      exact t.verb_decides hlimit hk fun _ _ _ _ => trivial
    | some k =>
      obtain ⟨hgenuine, hcovers⟩ := htrust k hcache
      have hk : Work.Trusted (t.session.options t.cache) seen t.ready.hub := by
        intro k' hk'
        cases hcache.symm.trans hk'
        exact hgenuine
      exact t.verb_decides hlimit hk hcovers
  unfold run
  rw [t.find]
  dsimp only
  cases hdecides with
  | returns hok hwhole heq =>
    rw [heq]
    exact ⟨fun _ => rfl, fun h => absurd h hwhole, fun h => absurd hok h⟩
  | @stops e sh' hok hbreaks heq =>
    rw [heq]
    refine ⟨fun h => absurd h hok, ?_⟩
    cases e with
    | refused r => exact ⟨fun h => (nomatch hbreaks.mpr h), fun _ _ => rfl⟩
    | mistakes => exact ⟨fun h => (nomatch hbreaks.mpr h), fun _ _ => rfl⟩
    | fault m => exact ⟨fun _ => ⟨m, rfl⟩, fun _ h => absurd (hbreaks.mp rfl) h⟩
    | death m => exact ⟨fun _ => ⟨m, rfl⟩, fun _ h => absurd (hbreaks.mp rfl) h⟩

theorem readings_fst : t.readings.map Prod.fst = t.paths := by
  unfold readings
  cases hsingle : t.single? with
  | some p => exact (t.single?_eq_some hsingle).2.2.symm
  | none => exact Work.readings_fst _ _ _ _

theorem openCache_none {s : Session} {sh ready : Shell} (h : s.openCache sh = .ok none ready) :
    ready = sh := by
  unfold Session.openCache at h
  by_cases hcache : s.settings.cache = true
  · rw [if_pos hcache, bind_ok (show (get : Action Shell) sh = .ok sh sh from rfl)] at h
    dsimp only at h
    generalize
      (if s.settings.cacheDir ≠ [] then _ else _ : Except CacheError TokenCache × Disk) = found
      at h
    obtain ⟨cache, disk⟩ := found
    cases cache with
    | error e => cases h
    | ok cache => cases h
  · rw [if_neg hcache] at h
    cases h
    rfl

/-- Without a cache and without a trace in a file, all files are read from the disk as it was when
the session was opened. -/
theorem readings_still (hlimit : t.session.settings.maxDiagnostics ≤ 65535)
    (hcache : t.cache = none)
    (hnone : ∀ p, ¬ t.opened.hub.WritesTo p) : ∀ x ∈ t.readings, x.2 = t.opened.hub.disk := by
  have hready : t.ready = t.opened := openCache_none (hcache ▸ t.openCache)
  rw [← hready] at hnone ⊢
  obtain ⟨bag, husual⟩ := t.session.options_usual hlimit t.cache
  unfold readings
  cases t.single? with
  | some p =>
    intro x hx
    rw [List.mem_singleton.mp hx]
    exact t.ready.toWork.readingDisk_eq t.session.context p hnone
  | none =>
    have hstart :=
      t.ready.toWork.batchStart_traced t.session.context t.flags.jobs t.ready.processors
      t.paths
    obtain ⟨hdisk, hnone'⟩ := hstart.unwritten hnone
    intro x hx
    exact (Work.readings_still husual hcache _ hnone' x hx).trans hdisk

/-- Nothing is written before a file is read: there is no cache and no profile, and the trace goes
to no file. -/
structure OnlyReads : Prop where
  cache : t.cache = none
  cpuProfile : t.arguments.text? "cpu-profile" = none
  runtimeTrace : t.arguments.text? "runtime-trace" = none
  trace : t.session.settings.traceLevel = .off ∨ t.session.settings.traceOutput = [] ∨
    t.session.settings.traceOutput = "-"

/-- Then all files are read from the disk as it was at the beginning. -/
theorem OnlyReads.readings {t : Invocation sh args} (h : t.OnlyReads)
    (hlimit : t.session.settings.maxDiagnostics ≤ 65535) (hnone : ∀ p, ¬ sh.hub.WritesTo p) :
    ∀ x ∈ t.readings, x.2 = sh.hub.disk := by
  have htraced := Session.start_traced t.start h.cpuProfile h.runtimeTrace h.trace
  obtain ⟨hdisk, hnone'⟩ := htraced.unwritten hnone
  intro x hx
  exact (t.readings_still hlimit h.cache hnone' x hx).trans hdisk

/-- Tokenizing ends with status 0 if and only if the inputs stand for at least one file, every file
can be loaded, and a scan of each reports nothing. It breaks off if and only if one of the files is
too large, and ends with status 1 if and only if neither is so. A file is read from the disk as the
work before it left it. That is the disk at the beginning when nothing but the console is
written. -/
theorem run_status_iff (hlimit : t.session.settings.maxDiagnostics ≤ 65535) {seen : File → Prop}
    (htrust : t.Trusts seen) :
    t.readings.map Prod.fst = t.paths ∧
    ((run sh args).1 = .status 0 ↔ t.paths ≠ [] ∧ ∀ x ∈ t.readings, x.2.Clean x.1) ∧
    ((∃ m, (run sh args).1 = .crashed m) ↔ ∃ x ∈ t.readings, x.2.TooLarge x.1) ∧
    ((run sh args).1 = .status 1 ↔ ¬ (t.paths ≠ [] ∧ ∀ x ∈ t.readings, x.2.Clean x.1) ∧
      ¬ ∃ x ∈ t.readings, x.2.TooLarge x.1) ∧
    (t.OnlyReads → (∀ p, ¬ sh.hub.WritesTo p) → ∀ x ∈ t.readings, x.2 = sh.hub.disk) := by
  obtain ⟨hzero, hbreak, hone⟩ := t.run_eq hlimit htrust
  refine ⟨t.readings_fst, ⟨?_, hzero⟩, ⟨?_, hbreak⟩, ⟨?_, fun h => hone h.1 h.2⟩,
    fun honly hnone => honly.readings hlimit hnone⟩
  · intro hrun
    by_contra hclean
    by_cases hlarge : t.TooLarge
    · obtain ⟨m, hm⟩ := hbreak hlarge
      cases hrun.symm.trans hm
    · cases hrun.symm.trans (hone hclean hlarge)
  · rintro ⟨m, hrun⟩
    by_contra hlarge
    by_cases hclean : t.Clean
    · cases hrun.symm.trans (hzero hclean)
    · cases hrun.symm.trans (hone hclean hlarge)
  · intro hrun
    constructor
    · intro hclean
      cases hrun.symm.trans (hzero hclean)
    · intro hlarge
      obtain ⟨m, hm⟩ := hbreak hlarge
      cases hrun.symm.trans hm

/-- Three files and a cache that is empty at first. The second file has a mistake; the third is
found in the cache, where the first was stored. -/
theorem run_status_iff_cached :
    let sh : Shell := { hub := { disk := ⟨.dir [("a.kj", .file "x"), ("b.kj", .file "`"),
      ("c.kj", .file "x")], []⟩ }, env := [("XDG_CACHE_HOME", "/c")] }
    let args : List Bytes := ["tokenize", "--cache", "--format=json", "a.kj", "b.kj", "c.kj"]
    ∃ t : Invocation sh args, t.cache = some ⟨"/c/kaiju"⟩ ∧
      t.session.settings.maxDiagnostics ≤ 65535 ∧ (∃ seen, t.Trusts seen) ∧
      ¬ (t.paths ≠ [] ∧ ∀ x ∈ t.readings, x.2.Clean x.1) ∧
      (¬ ∃ x ∈ t.readings, x.2.TooLarge x.1) ∧ (run sh args).1 = .status 1 := by
  intro sh args
  let known : List Bytes := ["x", "`"]
  let base : List Bytes := ["c", "kaiju"]
  have hapart : Sha256.digest "x" ≠ Sha256.digest "`" := by decide +kernel
  have hdistinct : ∀ a ∈ known, ∀ b ∈ known, Sha256.digest a = Sha256.digest b → a = b := by
    simp [known, hapart, hapart.symm]
  obtain ⟨t, -, hcheck⟩ : ∃ t, of? sh args = some t ∧ (decide (t.cache = some ⟨"/c/kaiju"⟩ ∧
      t.session.settings.maxDiagnostics ≤ 65535 ∧ t.ready.hub.streams.size = 0 ∧
      t.ready.hub.disk.place ((⟨"/c/kaiju"⟩ : TokenCache).pathOf []) =
        base ++ [Bytes.ofString "tokens", Bytes.ofString ".mp"] ∧
      (t.ready.hub.disk.root.find? (base ++ [Bytes.ofString "tokens"])).isNone = true ∧
      (t.readings.all fun x => (x.2.file? x.1).all fun f =>
        f.content ∈ known ∧ f.digest = Sha256.digest f.content) = true ∧
      (t.readings.all fun x => (x.2.file? x.1).isSome) = true ∧
      (t.readings.any fun x => (x.2.file? x.1).any fun f => f.faults ≠ []) = true)) = true :=
    Option.map_eq_some_iff.mp (by decide +kernel)
  obtain ⟨hcache, hlimit, hstreams, hplace, htokens, hknown, hloaded, hfaulty⟩ :=
    of_decide_eq_true hcheck
  have hempty := TokenCache.isEmpty_of_find? hplace (Option.isNone_iff_eq_none.mp htokens)
  have hconsole : ∀ p, ¬ t.ready.hub.WritesTo p := Trace.Hub.not_writesTo hstreams
  have htrust : t.Trusts fun f => f.content ∈ known ∧ f.digest = Sha256.digest f.content := by
    intro k hk
    cases hcache.symm.trans hk
    refine ⟨⟨?_, fun digest b hb => absurd hb (hempty digest b),
      fun p hp => absurd hp (hconsole p)⟩, ?_⟩
    · rintro f g ⟨hf, hfd⟩ ⟨hg, hgd⟩ hsame
      exact hdistinct _ hf _ hg (hfd.symm.trans (hsame.trans hgd))
    · intro x hx f hf
      have hall := List.all_eq_true.mp hknown x hx
      rw [hf] at hall
      exact of_decide_eq_true hall
  have hdirty : ¬ (t.paths ≠ [] ∧ ∀ x ∈ t.readings, x.2.Clean x.1) := by
    rintro ⟨-, hclean⟩
    obtain ⟨x, hx, hany⟩ := List.any_eq_true.mp hfaulty
    obtain ⟨f, ts, hf, hscan⟩ := hclean x hx
    rw [hf] at hany
    exact of_decide_eq_true hany ((Disk.clean_iff hf).mp ⟨f, ts, hf, hscan⟩)
  have hsmall : ¬ ∃ x ∈ t.readings, x.2.TooLarge x.1 := by
    rintro ⟨x, hx, hlarge⟩
    obtain ⟨f, hf⟩ := Option.isSome_iff_exists.mp (List.all_eq_true.mp hloaded x hx)
    exact Disk.not_tooLarge hf hlarge
  exact ⟨t, hcache, hlimit, ⟨_, htrust⟩, hdirty, hsmall,
    (run_status_iff t hlimit htrust).2.2.2.1.mpr ⟨hdirty, hsmall⟩⟩

/-- Line feeds are their own normal form, so that enough of them are too large. -/
theorem tooLarge_lines {n : Nat} (hn : 4294967295 ≤ n) :
    (⟨.dir [("a.kj", .file (List.replicate n 10))], []⟩ : Disk).TooLarge "a.kj" := by
  refine Disk.tooLarge_controls (s := List.replicate n 10) rfl ?_ ?_ (by simpa using hn)
  · intro b hb
    rw [List.eq_of_mem_replicate hb]
    decide
  · intro hb
    exact absurd (List.eq_of_mem_replicate hb) (by decide)

/-- A trace that is written over a faulty file leaves nothing to find fault with; and a file of too
many line feeds has no status at all. -/
theorem run_status_exceptions :
    let small : Shell := { hub := { disk := ⟨.dir [("a.kj", .file "`")], []⟩ } }
    let large : Shell :=
      { hub := { disk := ⟨.dir [("a.kj", .file (List.replicate 4294967295 10))], []⟩ } }
    ¬ small.hub.disk.Clean "a.kj" ∧
    (run small ["tokenize", "--trace=a.kj", "--trace-level=detail", "a.kj"]).1 = .status 0 ∧
    ∃ m, (run large ["tokenize", "a.kj"]).1 = .crashed m := by
  intro small large
  refine ⟨?_, by decide +kernel, ?_⟩
  · obtain ⟨f, hf, hfaults⟩ : ∃ f, small.hub.disk.file? "a.kj" = some f ∧
        f.faults.isEmpty = false :=
      Option.map_eq_some_iff.mp (by decide +kernel)
    rw [Disk.clean_iff hf, ← List.isEmpty_iff, hfaults]
    decide
  · obtain ⟨t, -, hcheck⟩ : ∃ t, of? large ["tokenize", "a.kj"] = some t ∧ decide (t.cache = none ∧
        t.session.settings.maxDiagnostics ≤ 65535 ∧ t.arguments.text? "cpu-profile" = none ∧
        t.arguments.text? "runtime-trace" = none ∧ t.session.settings.traceLevel = .off ∧
        t.paths = ["a.kj"]) = true :=
      Option.map_eq_some_iff.mp (by decide +kernel)
    obtain ⟨hcache, hlimit, hcpu, hruntime, hlevel, hpaths⟩ := of_decide_eq_true hcheck
    have hsame := OnlyReads.readings ⟨hcache, hcpu, hruntime, .inl hlevel⟩ hlimit
      (Trace.Hub.not_writesTo rfl)
    obtain ⟨x, hx, hfst⟩ : ∃ x ∈ t.readings, x.1 = "a.kj" :=
      List.mem_map.mp (by rw [t.readings_fst, hpaths]; exact List.mem_singleton_self _)
    have hbig : t.TooLarge := by
      refine ⟨x, hx, ?_⟩
      rw [hsame x hx, hfst]
      exact tooLarge_lines (Nat.le_refl _)
    have htrust : t.Trusts fun _ => True := fun k hk => nomatch hcache.symm.trans hk
    exact (t.run_eq hlimit htrust).2.1 hbig

end Invocation

end FrontEnd.Command
