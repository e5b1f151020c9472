import RmtLibrary.CString
import Mathlib.Data.List.Nodup

/-! # The log

`logger.c`. A stream that `fopen` gave is known by the number of streams before it, and a closed
one is remembered. `none` stands for the use of a closed stream. -/
namespace Logger

open CString (Text)

inductive Stream where
  | stderr
  | opened (n : ℕ)
  deriving DecidableEq, Repr

/-- `g_fp` and `g_log_disable`, the paths that were opened, the streams that were closed, and all
that was printed. -/
structure State where
  gFp : Option Stream
  gLogDisable : Bool
  paths : List Text
  closed : List ℕ
  printed : List (Stream × Text)

def initial : State := ⟨none, false, [], [], []⟩

def fprintf (fp : Stream) (message : Text) (s : State) : Option State :=
  if ∃ n ∈ s.closed, fp = .opened n then none
  else some { s with printed := s.printed ++ [(fp, message)] }

/-- The body of the three macros. The time in front of a message is left out. -/
def logMessage (label message : Text) (s : State) : Option State :=
  if s.gLogDisable then some s else fprintf (s.gFp.getD .stderr) (label ++ message) s

def rmtLog : Text → State → Option State := logMessage "RMT_LOG:".toList

def rmtWarn : Text → State → Option State := logMessage "RMT_WARN:".toList

def rmtError : Text → State → Option State := logMessage "RMT_ERROR:".toList

/-- `opens` says whether the log file can be opened. -/
def logInit (logfile : Text) (opens : Bool) (s : State) : Option State :=
  if logfile = "none".toList then some { s with gLogDisable := true }
  else if logfile = "stderr".toList then some { s with gFp := some .stderr }
  else if opens then
    some { s with gFp := some (.opened s.paths.length), paths := s.paths ++ [logfile] }
  else rmtError "Unable to open the log file.\n".toList { s with gFp := some .stderr }

def fclose (n : ℕ) (s : State) : Option State :=
  if n ∈ s.closed then none else some { s with closed := n :: s.closed }

def logDeinit (logfile : Text) (s : State) : Option State :=
  if logfile = "none".toList then some { s with gLogDisable := false }
  else
    match s.gFp with
    | none => some s
    | some .stderr => some { s with gFp := none }
    | some (.opened n) => (fclose n s).map fun s => { s with gFp := none }

/-- Where the next message goes, if anywhere. -/
def State.sink (s : State) : Option Stream :=
  if s.gLogDisable then none else some (s.gFp.getD .stderr)

/-- Of the streams that `fopen` gave, those of `lost` are open and nothing refers to them any more.
Each other one is open in `g_fp` or was closed, once. -/
structure Accounts (gFp : Option Stream) (opened : ℕ) (closed lost : List ℕ) : Prop where
  nodup : closed.Nodup
  closed : ∀ n, n ∈ closed ↔ n < opened ∧ n ∉ lost ∧ gFp ≠ some (.opened n)
  current : ∀ n, gFp = some (.opened n) → n < opened ∧ n ∉ lost
  below : ∀ n ∈ lost, n < opened
  distinct : lost.Nodup

theorem accounts_initial : Accounts none 0 [] [] :=
  ⟨List.nodup_nil, by simp, by simp, by simp, List.nodup_nil⟩

variable {s : State}

theorem logMessage_open {lost : List ℕ} (h : Accounts s.gFp s.paths.length s.closed lost)
    (label message : Text) :
    logMessage label message s = some { s with
      printed := s.printed ++ (s.sink.map (·, label ++ message)).toList } := by
  rw [logMessage, State.sink]
  by_cases hdisable : s.gLogDisable = true
  · rw [if_pos hdisable, if_pos hdisable]
    simp
  · have hopen : ¬ ∃ n ∈ s.closed, s.gFp.getD .stderr = .opened n := by
      rintro ⟨n, hn, hfp⟩
      cases hg : s.gFp with
      | none =>
        rw [hg] at hfp
        cases hfp
      | some fp =>
        rw [hg, Option.getD_some] at hfp
        exact ((h.closed n).mp hn).2.2 (by rw [hg, hfp])
    rw [if_neg hdisable, if_neg hdisable, fprintf, if_neg hopen]
    rfl

structure Journal where
  sink : Option Stream
  paths : List Text
  lost : List ℕ
  printed : List (Stream × Text)

def Journal.initial : Journal := ⟨some .stderr, [], [], []⟩

def Journal.say (label message : Text) (j : Journal) : Journal :=
  { j with printed := j.printed ++ (j.sink.map (·, label ++ message)).toList }

/-- A log file that is open when the log is opened again is lost. -/
def Journal.leave (j : Journal) : Journal :=
  match j.sink with
  | some (.opened n) => { j with lost := n :: j.lost }
  | _ => j

def Journal.enter (logfile : Text) (opens : Bool) (j : Journal) : Journal :=
  if logfile = "none".toList then { j with sink := none }
  else if logfile = "stderr".toList then { j.leave with sink := some .stderr }
  else if opens then
    { j.leave with sink := some (.opened j.paths.length), paths := j.paths ++ [logfile] }
  else
    { j.leave with sink := some .stderr }.say "RMT_ERROR:".toList
      "Unable to open the log file.\n".toList

structure Shows (s : State) (j : Journal) : Prop where
  sink : s.sink = j.sink
  paths : s.paths = j.paths
  printed : s.printed = j.printed
  accounts : Accounts s.gFp s.paths.length s.closed j.lost

/-- With this name of a log file `log_deinit` undoes what `log_init` did. -/
def Matches (logfile : Text) (s : State) : Prop :=
  if logfile = "none".toList then s.gFp = none else s.gLogDisable = false

variable {j : Journal} {logfile : Text}

theorem shows_initial : Shows initial Journal.initial := ⟨rfl, rfl, rfl, accounts_initial⟩

theorem matches_idle (logfile : Text) (hfp : s.gFp = none) (hon : s.gLogDisable = false) :
    Matches logfile s := by
  rw [Matches]
  split
  · exact hfp
  · exact hon

theorem Shows.say (h : Shows s j) (label message : Text) :
    ∃ s', logMessage label message s = some s' ∧ Shows s' (j.say label message) ∧
      s'.gFp = s.gFp ∧ s'.gLogDisable = s.gLogDisable := by
  refine ⟨_, logMessage_open h.accounts label message, ⟨h.sink, h.paths, ?_, h.accounts⟩,
    rfl, rfl⟩
  rw [Journal.say, h.printed, h.sink]

theorem sink_opened (hmatch : Matches logfile s) {n : ℕ} :
    s.gFp = some (.opened n) ↔ s.sink = some (.opened n) := by
  rw [Matches] at hmatch
  rw [State.sink]
  split at hmatch
  · rw [hmatch]
    cases s.gLogDisable <;> simp
  · rw [hmatch]
    cases s.gFp <;> simp

theorem Shows.leave (h : Shows s j) (hmatch : Matches logfile s) {fp : Option Stream}
    (hfp : ∀ n, fp ≠ some (.opened n)) :
    Accounts fp s.paths.length s.closed j.leave.lost ∧ j.leave.paths = j.paths ∧
      j.leave.printed = j.printed := by
  have hacc := h.accounts
  by_cases hopen : ∃ n, s.gFp = some (.opened n)
  · obtain ⟨n, hn⟩ := hopen
    have hsink := (sink_opened hmatch).mp hn
    rw [h.sink] at hsink
    obtain ⟨hlt, hnew⟩ := hacc.current n hn
    rw [Journal.leave, hsink]
    refine ⟨⟨hacc.nodup, ?_, ?_, ?_, List.nodup_cons.mpr ⟨hnew, hacc.distinct⟩⟩, rfl, rfl⟩
    · intro m
      rw [hacc.closed m, hn]
      simp only [List.mem_cons, not_or, ne_eq, Option.some.injEq, Stream.opened.injEq, hfp,
        not_false_eq_true, and_true]
      tauto
    · intro m hm
      exact absurd hm (hfp m)
    · intro m hm
      rcases List.mem_cons.mp hm with rfl | hm
      · exact hlt
      · exact hacc.below m hm
  · have hleave : j.leave = j := by
      rw [Journal.leave]
      split
      · next n hsink => exact absurd ⟨n, (sink_opened hmatch).mpr (h.sink.trans hsink)⟩ hopen
      · rfl
    rw [hleave]
    refine ⟨⟨hacc.nodup, ?_, ?_, hacc.below, hacc.distinct⟩, rfl, rfl⟩
    · intro m
      rw [hacc.closed m]
      have hm : s.gFp ≠ some (.opened m) := fun heq => hopen ⟨m, heq⟩
      simp [hm, hfp]
    · intro m hm
      exact absurd hm (hfp m)

theorem Accounts.fopen {opened : ℕ} {closed lost : List ℕ} (h : Accounts none opened closed lost) :
    Accounts (some (.opened opened)) (opened + 1) closed lost := by
  have hnew : opened ∉ lost := fun hm => Nat.lt_irrefl _ (h.below _ hm)
  refine ⟨h.nodup, ?_, ?_, fun m hm => Nat.lt_succ_of_lt (h.below m hm), h.distinct⟩
  · intro m
    rw [h.closed m]
    constructor
    · rintro ⟨hlt, hm, -⟩
      exact ⟨by omega, hm, fun heq => by cases heq; exact Nat.lt_irrefl _ hlt⟩
    · rintro ⟨hlt, hm, hne⟩
      have hother : m ≠ opened := fun heq => hne (by rw [heq])
      exact ⟨by omega, hm, by simp⟩
  · intro m hm
    cases hm
    exact ⟨Nat.lt_succ_self _, hnew⟩

theorem Shows.enter (h : Shows s j) (hmatch : Matches logfile s) (opens : Bool) :
    ∃ s', logInit logfile opens s = some s' ∧ Shows s' (j.enter logfile opens) ∧
      Matches logfile s' := by
  have hon : logfile ≠ "none".toList → s.gLogDisable = false := by
    intro hne
    rwa [Matches, if_neg hne] at hmatch
  rw [logInit, Journal.enter]
  by_cases hnone : logfile = "none".toList
  · rw [if_pos hnone, if_pos hnone]
    refine ⟨_, rfl, ⟨by simp [State.sink], h.paths, h.printed, h.accounts⟩, ?_⟩
    rwa [Matches, if_pos hnone] at hmatch ⊢
  · have hnoFile : ∀ n, some Stream.stderr ≠ some (.opened n) := by simp
    obtain ⟨hacc, hpaths, hprinted⟩ := h.leave hmatch hnoFile
    have hstderr : Shows { s with gFp := some .stderr } { j.leave with sink := some .stderr } :=
      ⟨by simp [State.sink, hon hnone], h.paths.trans hpaths.symm,
        h.printed.trans hprinted.symm, hacc⟩
    have hmatch' : ∀ s' : State, s'.gLogDisable = s.gLogDisable → Matches logfile s' := by
      intro s' hs'
      rw [Matches, if_neg hnone, hs', hon hnone]
    rw [if_neg hnone, if_neg hnone]
    by_cases herr : logfile = "stderr".toList
    · rw [if_pos herr, if_pos herr]
      exact ⟨_, rfl, hstderr, hmatch' _ rfl⟩
    · rw [if_neg herr, if_neg herr]
      cases opens with
      | true =>
        have hnone' : ∀ n, none ≠ some (Stream.opened n) := by simp
        obtain ⟨hacc', -, -⟩ := h.leave hmatch hnone'
        refine ⟨_, rfl, ⟨?_, congrArg (· ++ [logfile]) h.paths, h.printed.trans hprinted.symm, ?_⟩,
          hmatch' _ rfl⟩
        · simp [State.sink, hon hnone, h.paths]
        · simpa using hacc'.fopen
      | false =>
        obtain ⟨s', hs', hshows, -, hdisable⟩ := hstderr.say "RMT_ERROR:".toList
          "Unable to open the log file.\n".toList
        exact ⟨s', hs', hshows, hmatch' _ hdisable⟩

theorem Shows.exit (h : Shows s j) (hmatch : Matches logfile s) :
    ∃ s', logDeinit logfile s = some s' ∧ Shows s' { j with sink := some .stderr } ∧
      s'.gFp = none ∧ s'.gLogDisable = false := by
  have hacc := h.accounts
  rw [logDeinit]
  by_cases hnone : logfile = "none".toList
  · rw [Matches, if_pos hnone] at hmatch
    rw [if_pos hnone]
    exact ⟨_, rfl, ⟨by simp [State.sink, hmatch], h.paths, h.printed, hacc⟩, hmatch, rfl⟩
  · rw [Matches, if_neg hnone] at hmatch
    rw [if_neg hnone]
    cases hfp : s.gFp with
    | none =>
      exact ⟨s, rfl, ⟨by simp [State.sink, hmatch, hfp], h.paths, h.printed, hacc⟩, hfp, hmatch⟩
    | some fp =>
      cases fp with
      | stderr =>
        refine ⟨_, rfl, ⟨by simp [State.sink, hmatch], h.paths, h.printed, ?_⟩, rfl, hmatch⟩
        refine ⟨hacc.nodup, ?_, by simp, hacc.below, hacc.distinct⟩
        intro m
        rw [hacc.closed m, hfp]
        simp
      | opened n =>
        obtain ⟨hlt, hnew⟩ := hacc.current n hfp
        have hopen : n ∉ s.closed := fun hm => ((hacc.closed n).mp hm).2.2 hfp
        refine ⟨{ s with gFp := none, closed := n :: s.closed }, ?_,
          ⟨by simp [State.sink, hmatch], h.paths, h.printed, ?_⟩, rfl, hmatch⟩
        · simp [fclose, hopen]
        refine ⟨List.nodup_cons.mpr ⟨hopen, hacc.nodup⟩, ?_, by simp, hacc.below, hacc.distinct⟩
        intro m
        by_cases hm : m = n
        · subst hm
          simp [hlt, hnew]
        · have hother : s.gFp ≠ some (.opened m) := by
            rw [hfp]
            simpa using Ne.symm hm
          simp [hm, hacc.closed m, hother]

end Logger
