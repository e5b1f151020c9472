import RmtLibrary.GuardedExecution
import RmtLibrary.RmtServer
import Mathlib.Data.Finset.Card
import Mathlib.Data.Fintype.Card

/-! # The transport and its users

An API call is protected by the status, which no call passes while the receive thread restarts
the communication, and by `using_api`, which keeps the restart away while calls are in flight.
Both are read and written in separate steps, so the protection has conditions. -/
namespace ServerLifecycle

open GuardedExecution
open RmtServer

variable {n : ℕ} {autoDetect : Bool}

/-- The transport a call that passed its check uses: the one it has read, or else the one it is
going to read. -/
def transportUsed (info : ServerInfo) : ApiPc → Option (Option ℕ)
  | .idle => none
  | .checked => some info.transport
  | .incRead _ => some info.transport
  | .counted held => some (held.getD info.transport)
  | .decRead _ held => some (held.getD info.transport)

def Live (info : ServerInfo) (transport : Option ℕ) : Prop :=
  ∃ t, transport = some t ∧ t ∉ info.freed

/-- Behind the test of the status in the restart block, up to the new transport. -/
def restarting : RecvPc → Bool
  | .testUsing _ | .testTransfer _ | .testFree | .deinit | .clear | .configInit | .create => true
  | _ => false

/-- Behind all the tests of the restart block. -/
def tearingDown : RecvPc → Bool
  | .testFree | .deinit | .clear | .configInit | .create => true
  | _ => false

def noCall (s : State n) : Prop := ∀ i, s.api i = .idle

/-- When `using_api` is read as 0 and nothing else keeps the restart away, no call is behind its
check and before the end of its decrement. -/
def CountedCalls (s : State n) : Event n → Prop
  | .recv _ => ∀ found, s.recv = .testUsing found → s.info.usingApi = 0 → found = true →
      s.info.fileTransferring = false → noCall s
  | _ => True

/-- When `rmt_server_init` sets the status, the receive thread is not restarting. -/
def QuietStart (s : State n) : Event n → Prop
  | .main _ => s.main = .setRunning → restarting s.recv = false ∧ s.info.transport ≠ none
  | _ => True

/-- `rmt_server_deinit` does not find `NULL`, and no call is in flight when it frees. -/
def QuietEnd (s : State n) : Event n → Prop
  | .recv _ => s.recv = .loopTest → s.info.recvThreadStatus = false → s.info.transport ≠ none
  | .main _ => s.main = .deinitTransport → noCall s
  | _ => True

/-- No creation of a transport frees what it returns. -/
def CleanInit (s : State n) : Event n → Prop
  | .main outcome => s.main = .down → outcome ≠ .failed
  | .recv env => s.recv = .create → env.outcome ≠ .failed
  | _ => True

structure Protected (s : State n) (e : Event n) : Prop where
  countedCalls : CountedCalls s e
  quietStart : QuietStart s e
  quietEnd : QuietEnd s e
  cleanInit : CleanInit s e

def threaded : MainPc → Bool
  | .clearUsing | .setRunning | .up | .join | .deinitTransport => true
  | _ => false

def serving : MainPc → Bool
  | .up | .join | .deinitTransport => true
  | _ => false

/-- A call in flight holds the present transport, and the restart block is kept away. -/
structure InFlight (s : State n) (pc : ApiPc) : Prop where
  serving : serving s.main = true
  present : s.info.transport ≠ none
  calm : tearingDown s.recv = false
  kept : ∀ found, s.recv = .testTransfer found →
    s.info.fileTransferring = true ∨ found = false
  same : transportUsed s.info pc = some s.info.transport

structure Invariant (s : State n) : Prop where
  named : ∀ t, s.info.transport = some t ∨ t ∈ s.info.freed → t < s.info.nextTransport
  live : s.main ≠ .down → s.recv ≠ .clear → ∀ t, s.info.transport = some t → t ∉ s.info.freed
  alone : threaded s.main = false → s.recv = .absent
  gone : threaded s.main = true → s.recv = .absent → s.info.transport ≠ none
  joined : s.main = .deinitTransport → s.recv = .absent
  built : s.recv = .writeRunning → s.info.transport ≠ none
  running : serving s.main = true → s.info.status = .running →
    restarting s.recv = false ∧ s.info.transport ≠ none
  calls : ∀ i, s.api i ≠ .idle → InFlight s (s.api i)

theorem invariant_initial : Invariant (initial n) := by
  constructor <;> simp [initial, threaded, serving]

theorem tearingDown_of_restarting {pc : RecvPc} (h : restarting pc = false) :
    tearingDown pc = false ∧ ∀ found, pc ≠ .testTransfer found := by
  cases pc <;> simp_all [restarting, tearingDown]

theorem restarting_of_tearingDown {pc : RecvPc} (h : tearingDown pc = true) :
    restarting pc = true := by
  by_contra hnot
  have hcalm := (tearingDown_of_restarting (by simpa using hnot)).1
  rw [h] at hcalm
  cases hcalm

theorem Invariant.noCall_of_tearingDown {s : State n} (h : Invariant s)
    (htear : tearingDown s.recv = true) : noCall s := by
  intro i
  by_contra hcall
  have hcalm := (h.calls i hcall).calm
  rw [htear] at hcalm
  cases hcalm

theorem Invariant.threaded_of_recv {s : State n} (h : Invariant s) (hpc : s.recv ≠ .absent) :
    threaded s.main = true := by
  by_contra hnot
  exact hpc (h.alone (by simpa using hnot))

theorem Invariant.stopped_of_restarting {s : State n} (h : Invariant s)
    (hserve : serving s.main = true) (hrestart : restarting s.recv = true) :
    s.info.status ≠ .running := by
  intro hrun
  have hcalm := (h.running hserve hrun).1
  rw [hrestart] at hcalm
  cases hcalm

theorem transportUsed_congr {info info' : ServerInfo} (h : info'.transport = info.transport)
    (pc : ApiPc) : transportUsed info' pc = transportUsed info pc := by
  cases pc <;> simp only [transportUsed, h]

theorem Invariant.recvMove {s : State n} (h : Invariant s) (info : ServerInfo) (pc : RecvPc)
    (hpc : s.recv ≠ .absent) (hclear : s.recv ≠ .clear)
    (ht : info.transport = s.info.transport) (hf : info.freed = s.info.freed)
    (hn : info.nextTransport = s.info.nextTransport)
    (hgone : pc = .absent → s.info.transport ≠ none)
    (hbuilt : pc = .writeRunning → s.info.transport ≠ none)
    (hrunning : serving s.main = true → info.status = .running →
      restarting pc = false ∧ s.info.transport ≠ none)
    (hcalls : ∀ i, s.api i ≠ .idle → tearingDown pc = false ∧
      ∀ found, pc = .testTransfer found → info.fileTransferring = true ∨ found = false) :
    Invariant { s with info, recv := pc } := by
  have hthread := h.threaded_of_recv hpc
  constructor
  · rw [ht, hf, hn]
    exact h.named
  · intro hmain _
    rw [ht, hf]
    exact h.live hmain hclear
  · intro hnot
    exact absurd (hthread.symm.trans hnot) (by decide)
  · intro _ habsent
    rw [ht]
    exact hgone habsent
  · intro hend
    exact absurd (h.joined hend) hpc
  · intro hwrite
    rw [ht]
    exact hbuilt hwrite
  · intro hserve hrun
    rw [ht]
    exact hrunning hserve hrun
  · intro i hcall
    obtain ⟨hserve, hpresent, -, -, hsame⟩ := h.calls i hcall
    obtain ⟨hcalm, hkept⟩ := hcalls i hcall
    refine ⟨hserve, ?_, hcalm, hkept, ?_⟩
    · rw [ht]
      exact hpresent
    · rw [transportUsed_congr ht, ht]
      exact hsame

theorem Invariant.recvCalm {s : State n} (h : Invariant s) (info : ServerInfo) (pc : RecvPc)
    (hpc : s.recv ≠ .absent) (hclear : s.recv ≠ .clear)
    (ht : info.transport = s.info.transport) (hf : info.freed = s.info.freed)
    (hn : info.nextTransport = s.info.nextTransport) (hs : info.status = s.info.status)
    (hcalm : restarting pc = false) (hgone : pc = .absent → s.info.transport ≠ none)
    (hbuilt : pc = .writeRunning → s.info.transport ≠ none) :
    Invariant { s with info, recv := pc } := by
  obtain ⟨htear, hnot⟩ := tearingDown_of_restarting hcalm
  apply h.recvMove info pc hpc hclear ht hf hn hgone hbuilt
  · intro hserve hrun
    exact ⟨hcalm, (h.running hserve (hs.symm.trans hrun)).2⟩
  · intro i _
    exact ⟨htear, fun found he => absurd he (hnot found)⟩

/-- Behind the tests no call is in flight, so the transport may go or come. -/
theorem Invariant.recvReplace {s : State n} (h : Invariant s) (info : ServerInfo) (pc : RecvPc)
    (hpc : s.recv ≠ .absent) (hpc' : pc ≠ .absent) (hbuilt : pc ≠ .writeRunning)
    (htear : tearingDown s.recv = true) (hs : info.status = s.info.status)
    (hnamed : ∀ t, info.transport = some t ∨ t ∈ info.freed → t < info.nextTransport)
    (hlive : pc ≠ .clear → ∀ t, info.transport = some t → t ∉ info.freed) :
    Invariant { s with info, recv := pc } := by
  have hthread := h.threaded_of_recv hpc
  constructor
  · exact hnamed
  · intro _ hclear
    exact hlive hclear
  · intro hnot
    exact absurd (hthread.symm.trans hnot) (by decide)
  · intro _ habsent
    exact absurd habsent hpc'
  · intro hend
    exact absurd (h.joined hend) hpc
  · intro hwrite
    exact absurd hwrite hbuilt
  · intro hserve hrun
    have hstop := h.stopped_of_restarting hserve (restarting_of_tearingDown htear)
    exact absurd (hs.symm.trans hrun) hstop
  · intro i hcall
    exact absurd (h.noCall_of_tearingDown htear i) hcall

theorem Invariant.recvGoto {s : State n} (h : Invariant s) {pc : RecvPc}
    (hcalm : restarting pc = false) (hpc : s.recv ≠ .absent) (hclear : s.recv ≠ .clear)
    (hpc' : pc ≠ .absent) (hbuilt : pc ≠ .writeRunning) : Invariant { s with recv := pc } :=
  h.recvCalm s.info pc hpc hclear rfl rfl rfl rfl hcalm (absurd · hpc') (absurd · hbuilt)

theorem Invariant.main_ne_down {s : State n} (h : Invariant s) (hpc : s.recv ≠ .absent) :
    s.main ≠ .down := by
  intro hdown
  have hthread := h.threaded_of_recv hpc
  rw [hdown] at hthread
  cases hthread

theorem Invariant.named_free {s : State n} (h : Invariant s) {t : ℕ}
    (ht : s.info.transport = some t) (t' : ℕ)
    (ht' : s.info.transport = some t' ∨ t' ∈ t :: s.info.freed) : t' < s.info.nextTransport := by
  rcases ht' with ht' | ht'
  · exact h.named t' (Or.inl ht')
  · rcases List.mem_cons.mp ht' with rfl | ht'
    · exact h.named _ (Or.inl ht)
    · exact h.named t' (Or.inr ht')

theorem serverInit_named {info : ServerInfo} {outcome : InitOutcome}
    (h : ∀ t, info.transport = some t ∨ t ∈ info.freed → t < info.nextTransport)
    (hclean : outcome ≠ .failed) :
    (∀ t, (ddsTransportServerInit info outcome).transport = some t ∨
      t ∈ (ddsTransportServerInit info outcome).freed →
        t < (ddsTransportServerInit info outcome).nextTransport) ∧
    ∀ t, (ddsTransportServerInit info outcome).transport = some t →
      t ∉ (ddsTransportServerInit info outcome).freed := by
  cases outcome with
  | created =>
    constructor
    · rintro t (ht | ht)
      · obtain rfl := Option.some.inj ht
        exact Nat.lt_succ_self _
      · exact Nat.lt_succ_of_lt (h t (Or.inr ht))
    · intro t ht hfreed
      obtain rfl := Option.some.inj ht
      exact lt_irrefl _ (h _ (Or.inr hfreed))
  | noMemory =>
    constructor
    · rintro t (ht | ht)
      · cases ht
      · exact h t (Or.inr ht)
    · intro t ht
      cases ht
  | failed => exact absurd rfl hclean

theorem invariant_recv {s s' : State n} {env : RecvEnv} (h : Invariant s)
    (hok : Protected s (.recv env)) (hstep : recvStep autoDetect env s = some s') :
    Invariant s' := by
  obtain ⟨info, main, recv, api⟩ := s
  cases recv with
  | absent => cases hstep
  | loopTest =>
    obtain rfl := Option.some.inj hstep
    by_cases hrun : info.recvThreadStatus = true
    · simp only [if_pos hrun]
      exact h.recvGoto rfl nofun nofun nofun nofun
    · simp only [if_neg hrun]
      apply h.recvCalm info .absent nofun nofun rfl rfl rfl rfl rfl _ nofun
      intro _
      exact hok.quietEnd rfl (by simpa using hrun)
  | testTransport =>
    obtain rfl := Option.some.inj hstep
    split
    · exact h.recvGoto rfl nofun nofun nofun nofun
    · exact h.recvGoto rfl nofun nofun nofun nofun
  | update =>
    obtain rfl := Option.some.inj hstep
    exact h.recvGoto rfl nofun nofun nofun nofun
  | transfer =>
    obtain rfl := Option.some.inj hstep
    exact h.recvCalm _ .testInterface nofun nofun rfl rfl rfl rfl rfl nofun nofun
  | testInterface =>
    obtain rfl := Option.some.inj hstep
    split
    · exact h.recvGoto rfl nofun nofun nofun nofun
    · exact h.recvGoto rfl nofun nofun nofun nofun
  | testChanged changed found =>
    obtain rfl := Option.some.inj hstep
    split
    · exact h.recvGoto rfl nofun nofun nofun nofun
    · exact h.recvGoto rfl nofun nofun nofun nofun
  | testRunning found =>
    obtain rfl := Option.some.inj hstep
    by_cases hrun : info.status = .running
    · simp only [if_pos hrun]
      exact h.recvGoto rfl nofun nofun nofun nofun
    · simp only [if_neg hrun]
      apply h.recvMove info (.testUsing found) nofun nofun rfl rfl rfl nofun nofun
      · intro _ hrun'
        exact absurd hrun' hrun
      · intro i _
        exact ⟨rfl, nofun⟩
  | writeStop found =>
    obtain rfl := Option.some.inj hstep
    apply h.recvMove { info with status := .stop } (.testUsing found) nofun nofun rfl rfl rfl nofun
      nofun
    · intro _ hrun
      cases hrun
    · intro i _
      exact ⟨rfl, nofun⟩
  | testUsing found =>
    obtain rfl := Option.some.inj hstep
    by_cases hzero : info.usingApi = 0
    · simp only [if_pos hzero]
      apply h.recvMove info (.testTransfer found) nofun nofun rfl rfl rfl nofun nofun
      · intro hserve hrun
        exact absurd hrun (h.stopped_of_restarting hserve rfl)
      · intro i hcall
        refine ⟨rfl, ?_⟩
        intro found' he
        obtain rfl := RecvPc.testTransfer.inj he
        by_contra hopen
        rw [not_or, Bool.not_eq_true, Bool.not_eq_false] at hopen
        exact hcall (hok.countedCalls found rfl hzero hopen.2 hopen.1 i)
    · simp only [if_neg hzero]
      exact h.recvGoto rfl nofun nofun nofun nofun
  | testTransfer found =>
    obtain rfl := Option.some.inj hstep
    by_cases hkept : info.fileTransferring = true ∨ ¬ found = true
    · simp only [if_pos hkept]
      exact h.recvGoto rfl nofun nofun nofun nofun
    · simp only [if_neg hkept]
      apply h.recvMove info .testFree nofun nofun rfl rfl rfl nofun nofun
      · intro hserve hrun
        exact absurd hrun (h.stopped_of_restarting hserve rfl)
      · intro i hcall
        exact absurd (((h.calls i hcall).kept found rfl).imp id (by simp)) hkept
  | testFree =>
    obtain rfl := Option.some.inj hstep
    by_cases hnull : info.transport = none
    · simp only [if_pos hnull]
      apply h.recvReplace info .configInit nofun nofun nofun rfl rfl h.named
      intro _ t ht
      rw [hnull] at ht
      cases ht
    · simp only [if_neg hnull]
      apply h.recvReplace info .deinit nofun nofun nofun rfl rfl h.named
      intro _
      exact h.live (h.main_ne_down nofun) nofun
  | deinit =>
    obtain ⟨info', hfree, rfl⟩ := Option.map_eq_some_iff.mp hstep
    obtain ⟨t, ht, rfl⟩ := Option.map_eq_some_iff.mp hfree
    apply h.recvReplace { info with freed := t :: info.freed } .clear nofun nofun nofun rfl rfl
    · exact h.named_free ht
    · intro hclear
      exact absurd rfl hclear
  | clear =>
    obtain rfl := Option.some.inj hstep
    apply h.recvReplace { info with transport := none } .configInit nofun nofun nofun rfl rfl
    · intro t' ht'
      rcases ht' with ht' | ht'
      · cases ht'
      · exact h.named t' (Or.inr ht')
    · intro _ t' ht'
      cases ht'
  | configInit =>
    obtain rfl := Option.some.inj hstep
    have hlive := h.live (h.main_ne_down nofun) nofun
    split
    · apply h.recvReplace info .create nofun nofun nofun rfl rfl h.named
      intro _
      exact hlive
    · apply h.recvReplace info .loopTest nofun nofun nofun rfl rfl h.named
      intro _
      exact hlive
  | create =>
    obtain rfl := Option.some.inj hstep
    obtain ⟨hnamed, hlive⟩ := serverInit_named h.named (hok.cleanInit rfl)
    apply h.recvReplace (ddsTransportServerInit info env.outcome) .testCreated nofun nofun nofun
      rfl _ hnamed
    · intro _
      exact hlive
    · cases env.outcome <;> rfl
  | testCreated =>
    change (if info.transport = none then _ else _) = _ at hstep
    by_cases hnull : info.transport = none
    · rw [if_pos hnull] at hstep
      obtain rfl := Option.some.inj hstep
      exact h.recvGoto rfl nofun nofun nofun nofun
    · rw [if_neg hnull] at hstep
      obtain rfl := Option.some.inj hstep
      apply h.recvCalm { info with fileTransferring := false } .writeRunning nofun nofun rfl rfl rfl
        rfl rfl nofun
      intro _
      exact hnull
  | writeRunning =>
    obtain rfl := Option.some.inj hstep
    apply h.recvMove { info with status := .running } .loopTest nofun nofun rfl rfl rfl nofun nofun
    · intro _ _
      exact ⟨rfl, h.built rfl⟩
    · intro i _
      exact ⟨rfl, nofun⟩

theorem Invariant.mainMove {s : State n} (h : Invariant s) (info : ServerInfo) (main : MainPc)
    (hmain : s.main ≠ .down) (ht : info.transport = s.info.transport)
    (hf : info.freed = s.info.freed) (hn : info.nextTransport = s.info.nextTransport)
    (hft : info.fileTransferring = s.info.fileTransferring)
    (hthread : threaded main = threaded s.main)
    (hjoined : main = .deinitTransport → s.recv = .absent)
    (hrunning : serving main = true → info.status = .running →
      restarting s.recv = false ∧ s.info.transport ≠ none)
    (hserve : serving s.main = true → serving main = true) :
    Invariant { s with info, main } := by
  constructor
  · rw [ht, hf, hn]
    exact h.named
  · intro _ hclear
    rw [ht, hf]
    exact h.live hmain hclear
  · intro hnot
    exact h.alone (hthread.symm.trans hnot)
  · intro hthreaded habsent
    rw [ht]
    exact h.gone (hthread.symm.trans hthreaded) habsent
  · exact hjoined
  · intro hwrite
    rw [ht]
    exact h.built hwrite
  · intro hup hrun
    rw [ht]
    exact hrunning hup hrun
  · intro i hcall
    obtain ⟨hup, hpresent, hcalm, hkept, hsame⟩ := h.calls i hcall
    refine ⟨hserve hup, ?_, hcalm, ?_, ?_⟩
    · rw [ht]
      exact hpresent
    · rw [hft]
      exact hkept
    · rw [transportUsed_congr ht, ht]
      exact hsame

theorem Invariant.noCall_of_not_serving {s : State n} (h : Invariant s)
    (hnot : serving s.main = false) : noCall s := by
  intro i
  by_contra hcall
  have hserve := (h.calls i hcall).serving
  rw [hnot] at hserve
  cases hserve

theorem invariant_main {s s' : State n} {outcome : InitOutcome} (h : Invariant s)
    (hok : Protected s (.main outcome)) (hstep : mainStep outcome s = some s') :
    Invariant s' := by
  obtain ⟨info, main, recv, api⟩ := s
  cases main with
  | down =>
    obtain rfl := Option.some.inj hstep
    have hrecv : recv = .absent := h.alone rfl
    have hidle := h.noCall_of_not_serving rfl
    have hbefore : ∀ t, { info with fileTransferring := false }.transport = some t ∨
        t ∈ info.freed → t < info.nextTransport := h.named
    obtain ⟨hnamed, hlive⟩ := serverInit_named hbefore (hok.cleanInit rfl)
    refine ⟨hnamed, fun _ _ => hlive, fun _ => hrecv, nofun, nofun, ?_, nofun, ?_⟩
    · intro hwrite
      rw [hrecv] at hwrite
      cases hwrite
    · intro i hcall
      exact absurd (hidle i) hcall
  | testTransport =>
    obtain rfl := Option.some.inj hstep
    split
    · exact h.mainMove info .down nofun rfl rfl rfl rfl rfl nofun nofun nofun
    · exact h.mainMove info .writeThreadStatus nofun rfl rfl rfl rfl rfl nofun nofun nofun
  | writeThreadStatus =>
    obtain rfl := Option.some.inj hstep
    exact h.mainMove { info with recvThreadStatus := true } .createThread nofun rfl rfl rfl rfl
      rfl nofun nofun nofun
  | createThread =>
    obtain rfl := Option.some.inj hstep
    have hrecv : recv = .absent := h.alone rfl
    have hidle := h.noCall_of_not_serving rfl
    refine ⟨h.named, fun _ _ => ?_, nofun, nofun, nofun, nofun, nofun, ?_⟩
    · apply h.live nofun
      intro hclear
      rw [hrecv] at hclear
      cases hclear
    · intro i hcall
      exact absurd (hidle i) hcall
  | clearUsing =>
    obtain rfl := Option.some.inj hstep
    exact h.mainMove { info with usingApi := 0 } .setRunning nofun rfl rfl rfl rfl rfl nofun
      nofun nofun
  | setRunning =>
    obtain rfl := Option.some.inj hstep
    apply h.mainMove { info with status := .running } .up nofun rfl rfl rfl rfl rfl nofun
    · intro _ _
      exact hok.quietStart rfl
    · nofun
  | up =>
    obtain rfl := Option.some.inj hstep
    exact h.mainMove { info with recvThreadStatus := false } .join nofun rfl rfl rfl rfl rfl
      nofun h.running fun _ => rfl
  | join =>
    change (if recv = .absent then _ else _) = _ at hstep
    by_cases habsent : recv = .absent
    · rw [if_pos habsent] at hstep
      obtain rfl := Option.some.inj hstep
      exact h.mainMove info .deinitTransport nofun rfl rfl rfl rfl rfl (fun _ => habsent)
        h.running fun _ => rfl
    · rw [if_neg habsent] at hstep
      cases hstep
  | deinitTransport =>
    obtain ⟨info', hfree, rfl⟩ := Option.map_eq_some_iff.mp hstep
    obtain ⟨t, ht, rfl⟩ := Option.map_eq_some_iff.mp hfree
    have hrecv : recv = .absent := h.joined rfl
    refine ⟨?_, fun hup => absurd rfl hup, fun _ => hrecv, nofun, nofun, h.built, nofun, ?_⟩
    · exact h.named_free ht
    · intro i hcall
      exact absurd (hok.quietEnd rfl i) hcall

/-- What a step of an API call leaves alone, and which transport it uses behind the step. -/
structure ApiEffect (main : MainPc) (info : ServerInfo) (pc : ApiPc) (info' : ServerInfo)
    (pc' : ApiPc) : Prop where
  transport : info'.transport = info.transport
  freed : info'.freed = info.freed
  nextTransport : info'.nextTransport = info.nextTransport
  status : info'.status = info.status
  transferring : info.fileTransferring = true → info'.fileTransferring = true
  checked : pc = .idle → pc' ≠ .idle → main = .up ∧ info.status = .running
  same : pc' ≠ .idle → pc = .idle ∨ transportUsed info pc = some info.transport →
    transportUsed info' pc' = some info.transport

theorem apiStep_effect {main : MainPc} {info info' : ServerInfo} {pc pc' : ApiPc}
    {action : ApiAction} (h : apiStep main info pc action = some (info', pc')) :
    ApiEffect main info pc info' pc' := by
  cases pc with
  | idle =>
    cases action with
    | check =>
      change (if main = .up then _ else _) = _ at h
      by_cases hup : main = .up
      · rw [if_pos hup] at h
        by_cases hrun : info.status = .running
        · rw [if_pos hrun] at h
          obtain ⟨rfl, rfl⟩ := Prod.mk.inj (Option.some.inj h)
          exact ⟨rfl, rfl, rfl, rfl, id, fun _ _ => ⟨hup, hrun⟩, fun _ _ => rfl⟩
        · rw [if_neg hrun] at h
          obtain ⟨rfl, rfl⟩ := Prod.mk.inj (Option.some.inj h)
          exact ⟨rfl, rfl, rfl, rfl, id, fun _ hne => absurd rfl hne, fun hne => absurd rfl hne⟩
      · rw [if_neg hup] at h
        cases h
    | _ => cases h
  | checked =>
    cases action with
    | readInc =>
      obtain ⟨rfl, rfl⟩ := Prod.mk.inj (Option.some.inj h)
      exact ⟨rfl, rfl, rfl, rfl, id, nofun, fun _ _ => rfl⟩
    | _ => cases h
  | incRead value =>
    cases action with
    | writeInc =>
      obtain ⟨rfl, rfl⟩ := Prod.mk.inj (Option.some.inj h)
      exact ⟨rfl, rfl, rfl, rfl, id, nofun, fun _ _ => rfl⟩
    | _ => cases h
  | counted held =>
    cases action with
    | use starts =>
      obtain ⟨rfl, rfl⟩ := Prod.mk.inj (Option.some.inj h)
      refine ⟨rfl, rfl, rfl, rfl, fun hft => ?_, nofun, fun _ _ => rfl⟩
      simp [hft]
    | readDec =>
      obtain ⟨rfl, rfl⟩ := Prod.mk.inj (Option.some.inj h)
      exact ⟨rfl, rfl, rfl, rfl, id, nofun, fun _ hsame => hsame.resolve_left nofun⟩
    | _ => cases h
  | decRead value held =>
    cases action with
    | writeDec =>
      obtain ⟨rfl, rfl⟩ := Prod.mk.inj (Option.some.inj h)
      exact ⟨rfl, rfl, rfl, rfl, id, nofun, fun hne => absurd rfl hne⟩
    | _ => cases h

theorem invariant_api {s : State n} {i : Fin n} {info : ServerInfo} {pc : ApiPc}
    (h : Invariant s) (heffect : ApiEffect s.main s.info (s.api i) info pc) :
    Invariant { s with info, api := Function.update s.api i pc } := by
  obtain ⟨ht, hf, hn, hs, hft, hchecked, hsame⟩ := heffect
  constructor
  · rw [ht, hf, hn]
    exact h.named
  · rw [ht, hf]
    exact h.live
  · exact h.alone
  · rw [ht]
    exact h.gone
  · exact h.joined
  · rw [ht]
    exact h.built
  · rw [ht, hs]
    exact h.running
  · intro j hcall
    by_cases hj : j = i
    · subst hj
      simp only [Function.update_self] at hcall ⊢
      by_cases hidle : s.api j = .idle
      · -- the call has just passed its check
        obtain ⟨hup, hrun⟩ := hchecked hidle hcall
        have hserve : serving s.main = true := by rw [hup]; rfl
        obtain ⟨hcalm, hpresent⟩ := h.running hserve hrun
        obtain ⟨htear, hnot⟩ := tearingDown_of_restarting hcalm
        refine ⟨hserve, by rwa [ht], htear, fun found he => absurd he (hnot found), ?_⟩
        rw [ht]
        exact hsame hcall (Or.inl hidle)
      · obtain ⟨hserve, hpresent, hcalm, hkept, hused⟩ := h.calls j hidle
        refine ⟨hserve, by rwa [ht], hcalm, fun found he => (hkept found he).imp_left hft, ?_⟩
        rw [ht]
        exact hsame hcall (Or.inr hused)
    · simp only [Function.update_of_ne hj] at hcall ⊢
      obtain ⟨hserve, hpresent, hcalm, hkept, hused⟩ := h.calls j hcall
      refine ⟨hserve, by rwa [ht], hcalm, fun found he => (hkept found he).imp_left hft, ?_⟩
      rw [transportUsed_congr ht, ht]
      exact hused

theorem invariant_reinitServer {s : State n} (h : Invariant s) :
    Invariant { s with info := { s.info with status := .stop } } :=
  ⟨h.named, h.live, h.alone, h.gone, h.joined, h.built, nofun, fun i hcall =>
    ⟨(h.calls i hcall).serving, (h.calls i hcall).present, (h.calls i hcall).calm,
      (h.calls i hcall).kept, by
        rw [← (h.calls i hcall).same]
        exact transportUsed_congr rfl _⟩⟩

theorem invariant_step {s s' : State n} {e : Event n} (h : Invariant s) (hok : Protected s e)
    (hstep : step autoDetect s e = some s') : Invariant s' := by
  cases e with
  | main outcome => exact invariant_main h hok hstep
  | recv env => exact invariant_recv h hok hstep
  | api i action =>
    obtain ⟨r, hr, rfl⟩ := Option.map_eq_some_iff.mp hstep
    exact invariant_api h (apiStep_effect hr)
  | reinitServer =>
    cases hstep
    exact invariant_reinitServer h

theorem invariant_execution {s : State n}
    (h : Execution (step autoDetect) Protected (initial n) s) : Invariant s :=
  h.invariant invariant_initial fun _ _ _ hi hok hs => invariant_step hi hok hs

def counting : ApiPc → Bool
  | .counted _ | .decRead _ _ => true
  | _ => false

def readValue : ApiPc → Option (BitVec 64)
  | .incRead value | .decRead value _ => some value
  | _ => none

def countingCalls (s : State n) : Finset (Fin n) :=
  Finset.univ.filter fun i => counting (s.api i) = true

/-- A `++` or `--` begins when no other is halfway, and the counter does not wrap. -/
def SingleUpdate (s : State n) : Event n → Prop
  | .api i .readInc => ∀ j, j ≠ i → readValue (s.api j) = none
  | .api i .readDec => ∀ j, j ≠ i → readValue (s.api j) = none
  | .api _ .writeInc => s.info.usingApi + 1 ≠ 0
  | _ => True

/-- When `using_api` is read as 0, no call is between its check and its stored increment. -/
def NoneUncounted (s : State n) : Event n → Prop
  | .recv _ => ∀ found, s.recv = .testUsing found → s.info.usingApi = 0 →
      ∀ i, s.api i = .idle ∨ counting (s.api i) = true
  | _ => True

structure Sequential (s : State n) (e : Event n) : Prop where
  singleUpdate : SingleUpdate s e
  noneUncounted : NoneUncounted s e
  quietStart : QuietStart s e
  quietEnd : QuietEnd s e
  cleanInit : CleanInit s e

structure Counter (s : State n) : Prop where
  exact : s.info.usingApi.toNat = (countingCalls s).card
  current : ∀ i value, readValue (s.api i) = some value → value = s.info.usingApi
  single : ∀ i j, readValue (s.api i) ≠ none → readValue (s.api j) ≠ none → i = j

theorem mem_countingCalls (s : State n) (i : Fin n) :
    i ∈ countingCalls s ↔ counting (s.api i) = true := by simp [countingCalls]

theorem counter_of_same {s s' : State n} (h : Counter s)
    (husing : s'.info.usingApi = s.info.usingApi) (hapi : s'.api = s.api) : Counter s' := by
  constructor
  · rw [husing, countingCalls, hapi]
    exact h.exact
  · rw [husing, hapi]
    exact h.current
  · rw [hapi]
    exact h.single

theorem countingCalls_update (s : State n) (info : ServerInfo) (i : Fin n) (pc : ApiPc) :
    countingCalls { s with info, api := Function.update s.api i pc } =
      if counting pc = true then insert i (countingCalls s) else (countingCalls s).erase i := by
  ext j
  by_cases hj : j = i
  · subst hj
    split <;> simp_all [countingCalls]
  · split <;> simp [countingCalls, hj]

theorem Counter.apiMove {s : State n} (h : Counter s) {info : ServerInfo} {i : Fin n}
    {pc : ApiPc} (husing : info.usingApi = s.info.usingApi)
    (hcount : counting pc = counting (s.api i))
    (hread : readValue pc = none ∨ readValue pc = some s.info.usingApi ∧
      ∀ j, j ≠ i → readValue (s.api j) = none) :
    Counter { s with info, api := Function.update s.api i pc } := by
  have hsame : countingCalls { s with info, api := Function.update s.api i pc } =
      countingCalls s := by
    rw [countingCalls_update]
    split
    · next hpc =>
      apply Finset.insert_eq_of_mem
      rw [mem_countingCalls, ← hcount]
      exact hpc
    · next hpc =>
      apply Finset.erase_eq_of_notMem
      rw [mem_countingCalls, ← hcount]
      exact hpc
  constructor
  · rw [hsame, ← h.exact]
    exact congrArg BitVec.toNat husing
  · intro j value hvalue
    change value = info.usingApi
    rw [husing]
    by_cases hj : j = i
    · subst hj
      simp only [Function.update_self] at hvalue
      rcases hread with hnone | ⟨hcurrent, -⟩
      · simp [hnone] at hvalue
      · exact Option.some.inj (hvalue.symm.trans hcurrent)
    · simp only [Function.update_of_ne hj] at hvalue
      exact h.current j value hvalue
  · intro j k hjr hkr
    rcases hread with hnone | ⟨-, hothers⟩
    · by_cases hj : j = i
      · subst hj
        simp [hnone] at hjr
      · by_cases hk : k = i
        · subst hk
          simp [hnone] at hkr
        · simp only [Function.update_of_ne hj, Function.update_of_ne hk] at hjr hkr
          exact h.single j k hjr hkr
    · by_contra hne
      by_cases hj : j = i
      · have hk : k ≠ i := fun he => hne (hj.trans he.symm)
        simp only [Function.update_of_ne hk] at hkr
        exact hkr (hothers k hk)
      · simp only [Function.update_of_ne hj] at hjr
        exact hjr (hothers j hj)

theorem Counter.apiStore {s : State n} (h : Counter s) {info : ServerInfo} {i : Fin n}
    {pc : ApiPc} (hhalf : readValue (s.api i) ≠ none) (hread : readValue pc = none)
    (hcount : info.usingApi.toNat =
      (countingCalls { s with info, api := Function.update s.api i pc }).card) :
    Counter { s with info, api := Function.update s.api i pc } := by
  have hnone : ∀ j, readValue (Function.update s.api i pc j) = none := by
    intro j
    by_cases hj : j = i
    · subst hj
      simpa using hread
    · rw [Function.update_of_ne hj]
      by_contra hother
      exact hj (h.single j i hother hhalf)
  constructor
  · exact hcount
  · intro j value hvalue
    rw [hnone j] at hvalue
    cases hvalue
  · intro j k hjr
    exact absurd (hnone j) hjr

theorem counter_api {s : State n} {i : Fin n} {action : ApiAction} {info : ServerInfo}
    {pc : ApiPc} (h : Counter s) (hok : SingleUpdate s (.api i action))
    (hstep : apiStep s.main s.info (s.api i) action = some (info, pc)) :
    Counter { s with info, api := Function.update s.api i pc } := by
  cases hpc : s.api i with
  | idle =>
    rw [hpc] at hstep
    cases action with
    | check =>
      change (if s.main = .up then _ else _) = _ at hstep
      split at hstep
      · obtain ⟨rfl, rfl⟩ := Prod.mk.inj (Option.some.inj hstep)
        apply h.apiMove rfl
        · rw [hpc]
          split <;> rfl
        · left
          split <;> rfl
      · cases hstep
    | _ => cases hstep
  | checked =>
    rw [hpc] at hstep
    cases action with
    | readInc =>
      obtain ⟨rfl, rfl⟩ := Prod.mk.inj (Option.some.inj hstep)
      exact h.apiMove rfl (by rw [hpc]; rfl) (Or.inr ⟨rfl, hok⟩)
    | _ => cases hstep
  | incRead value =>
    rw [hpc] at hstep
    cases action with
    | writeInc =>
      obtain ⟨rfl, rfl⟩ := Prod.mk.inj (Option.some.inj hstep)
      have hcurrent := h.current i value (by rw [hpc]; rfl)
      subst hcurrent
      apply h.apiStore (by rw [hpc]; nofun) rfl
      have hnew : i ∉ countingCalls s := by
        rw [mem_countingCalls, hpc]
        nofun
      have hcounting : counting (.counted none) = true := rfl
      rw [countingCalls_update, if_pos hcounting, Finset.card_insert_of_notMem hnew, ← h.exact]
      have hfits : s.info.usingApi + 1 ≠ 0 := hok
      change (s.info.usingApi + 1).toNat = _
      bv_omega
    | _ => cases hstep
  | counted held =>
    rw [hpc] at hstep
    cases action with
    | use starts =>
      obtain ⟨rfl, rfl⟩ := Prod.mk.inj (Option.some.inj hstep)
      exact h.apiMove rfl (by rw [hpc]; rfl) (Or.inl rfl)
    | readDec =>
      obtain ⟨rfl, rfl⟩ := Prod.mk.inj (Option.some.inj hstep)
      exact h.apiMove rfl (by rw [hpc]; rfl) (Or.inr ⟨rfl, hok⟩)
    | _ => cases hstep
  | decRead value held =>
    rw [hpc] at hstep
    cases action with
    | writeDec =>
      obtain ⟨rfl, rfl⟩ := Prod.mk.inj (Option.some.inj hstep)
      have hcurrent := h.current i value (by rw [hpc]; rfl)
      subst hcurrent
      apply h.apiStore (by rw [hpc]; nofun) rfl
      have hmem : i ∈ countingCalls s := by
        rw [mem_countingCalls, hpc]
        rfl
      have hpos : 0 < (countingCalls s).card := Finset.card_pos.mpr ⟨i, hmem⟩
      rw [← h.exact] at hpos
      rw [countingCalls_update, if_neg (by simp [counting]), Finset.card_erase_of_mem hmem,
        ← h.exact]
      change (s.info.usingApi - 1).toNat = _
      bv_omega
    | _ => cases hstep

theorem recvStep_usingApi {s s' : State n} {env : RecvEnv}
    (hstep : recvStep autoDetect env s = some s') :
    s'.info.usingApi = s.info.usingApi ∧ s'.api = s.api := by
  obtain ⟨info, main, recv, api⟩ := s
  cases recv with
  | absent => cases hstep
  | deinit =>
    obtain ⟨info', hfree, rfl⟩ := Option.map_eq_some_iff.mp hstep
    obtain ⟨t, -, rfl⟩ := Option.map_eq_some_iff.mp hfree
    exact ⟨rfl, rfl⟩
  | create =>
    obtain rfl := Option.some.inj hstep
    refine ⟨?_, rfl⟩
    cases env.outcome <;> rfl
  | testCreated =>
    change (if info.transport = none then _ else _) = _ at hstep
    split at hstep
    · obtain rfl := Option.some.inj hstep
      exact ⟨rfl, rfl⟩
    · obtain rfl := Option.some.inj hstep
      exact ⟨rfl, rfl⟩
  | _ =>
    obtain rfl := Option.some.inj hstep
    exact ⟨rfl, rfl⟩

theorem mainStep_usingApi {s s' : State n} {outcome : InitOutcome}
    (hmain : s.main ≠ .clearUsing) (hstep : mainStep outcome s = some s') :
    s'.info.usingApi = s.info.usingApi ∧ s'.api = s.api := by
  obtain ⟨info, main, recv, api⟩ := s
  cases main with
  | clearUsing => exact absurd rfl hmain
  | down =>
    obtain rfl := Option.some.inj hstep
    refine ⟨?_, rfl⟩
    cases outcome <;> rfl
  | join =>
    change (if recv = .absent then _ else _) = _ at hstep
    split at hstep
    · obtain rfl := Option.some.inj hstep
      exact ⟨rfl, rfl⟩
    · cases hstep
  | deinitTransport =>
    obtain ⟨info', hfree, rfl⟩ := Option.map_eq_some_iff.mp hstep
    obtain ⟨t, -, rfl⟩ := Option.map_eq_some_iff.mp hfree
    exact ⟨rfl, rfl⟩
  | _ =>
    obtain rfl := Option.some.inj hstep
    exact ⟨rfl, rfl⟩

theorem counter_clearUsing {s : State n} (hinv : Invariant s) (hmain : s.main = .clearUsing) :
    Counter { s with info := { s.info with usingApi := 0 }, main := .setRunning } := by
  have hidle : noCall s := hinv.noCall_of_not_serving (by rw [hmain]; rfl)
  have hread : ∀ i, readValue (s.api i) = none := by
    intro i
    rw [hidle i]
    rfl
  have hempty : countingCalls { s with
      info := { s.info with usingApi := 0 }, main := .setRunning } = ∅ := by
    ext i
    simp [mem_countingCalls, hidle i, counting]
  constructor
  · rw [hempty]
    rfl
  · intro i value hvalue
    exact absurd ((hread i).symm.trans hvalue) nofun
  · intro i _ hi
    exact absurd (hread i) hi

theorem counter_step {s s' : State n} {e : Event n} (h : Counter s) (hinv : Invariant s)
    (hok : SingleUpdate s e) (hstep : step autoDetect s e = some s') : Counter s' := by
  cases e with
  | main outcome =>
    by_cases hmain : s.main = .clearUsing
    · have hstep' : mainStep outcome s = some s' := hstep
      rw [mainStep, hmain] at hstep'
      obtain rfl := Option.some.inj hstep'
      exact counter_clearUsing hinv hmain
    · obtain ⟨husing, hapi⟩ := mainStep_usingApi hmain hstep
      exact counter_of_same h husing hapi
  | recv env =>
    obtain ⟨husing, hapi⟩ := recvStep_usingApi hstep
    exact counter_of_same h husing hapi
  | api i action =>
    obtain ⟨r, hr, rfl⟩ := Option.map_eq_some_iff.mp hstep
    exact counter_api h hok hr
  | reinitServer =>
    cases hstep
    exact counter_of_same h rfl rfl

theorem counter_initial : Counter (initial n) := by
  constructor
  · simp [initial, countingCalls, counting]
  · simp [initial, readValue]
  · simp [initial, readValue]

/-- Where no two updates of `using_api` overlap, it counts the calls between their stored
increment and their stored decrement, so only the calls behind their check that are not yet
counted can be missed. -/
theorem sequential_protected {s : State n}
    (h : Execution (step autoDetect) Sequential (initial n) s) :
    Execution (step autoDetect) Protected (initial n) s ∧ Counter s := by
  induction h with
  | refl => exact ⟨.refl, counter_initial⟩
  | @tail s s' e _ hok hstep ih =>
    obtain ⟨hrun, hcounter⟩ := ih
    have hinv := invariant_execution hrun
    have hcounted : CountedCalls s e := by
      cases e with
      | recv env =>
        intro found hrecv hzero _ _ i
        rcases hok.noneUncounted found hrecv hzero i with hidle | hcounting
        · exact hidle
        · have hmem := (mem_countingCalls s i).mpr hcounting
          have hpos := Finset.card_pos.mpr ⟨i, hmem⟩
          rw [← hcounter.exact, hzero] at hpos
          exact absurd hpos (by decide)
      | _ => trivial
    have hprotected : Protected s e :=
      ⟨hcounted, hok.quietStart, hok.quietEnd, hok.cleanInit⟩
    exact ⟨.tail hrun hprotected hstep, counter_step hcounter hinv hok.singleUpdate hstep⟩

/-- In every run whose steps are protected, a call that passed its check uses a transport that is
not freed, and so does `rmt_server_deinit`. -/
theorem transport_live_while_used {s : State n}
    (h : Execution (step autoDetect) Protected (initial n) s) :
    (∀ i transport, transportUsed s.info (s.api i) = some transport → Live s.info transport) ∧
    (s.main = .deinitTransport → Live s.info s.info.transport) := by
  have hinv := invariant_execution h
  have hlive : s.main ≠ .down → s.recv ≠ .clear → s.info.transport ≠ none →
      Live s.info s.info.transport := by
    intro hup hclear hpresent
    obtain ⟨t, ht⟩ := Option.ne_none_iff_exists'.mp hpresent
    exact ⟨t, ht, hinv.live hup hclear t ht⟩
  constructor
  · intro i transport hused
    have hcall : s.api i ≠ .idle := by
      intro hidle
      rw [hidle] at hused
      cases hused
    obtain ⟨hserve, hpresent, hcalm, -, hsame⟩ := hinv.calls i hcall
    obtain rfl : s.info.transport = transport := Option.some.inj (hsame.symm.trans hused)
    apply hlive
    · intro hdown
      rw [hdown] at hserve
      cases hserve
    · intro hclear
      rw [hclear] at hcalm
      cases hcalm
    · exact hpresent
  · intro hend
    have habsent := hinv.joined hend
    apply hlive
    · rw [hend]
      nofun
    · rw [habsent]
      nofun
    · exact hinv.gone (by rw [hend]; rfl) habsent

instance (s : State n) : Decidable (noCall s) := by
  unfold noCall
  infer_instance

instance (s : State n) (e : Event n) : Decidable (CountedCalls s e) := by
  cases e <;> unfold CountedCalls <;> infer_instance

instance (s : State n) (e : Event n) : Decidable (QuietStart s e) := by
  cases e <;> unfold QuietStart <;> infer_instance

instance (s : State n) (e : Event n) : Decidable (QuietEnd s e) := by
  cases e <;> unfold QuietEnd <;> infer_instance

instance (s : State n) (e : Event n) : Decidable (CleanInit s e) := by
  cases e <;> unfold CleanInit <;> infer_instance

instance (s : State n) (e : Event n) : Decidable (Protected s e) :=
  decidable_of_iff (CountedCalls s e ∧ QuietStart s e ∧ QuietEnd s e ∧ CleanInit s e)
    ⟨fun ⟨hc, hs, he, hi⟩ => ⟨hc, hs, he, hi⟩,
      fun h => ⟨h.countedCalls, h.quietStart, h.quietEnd, h.cleanInit⟩⟩

def interfaceChanged : RecvEnv := ⟨false, true, true, true, .created⟩

def startServer : List (Event n) := List.replicate 6 (.main .created)

/-- The interface changes during a call. The receive thread stops the server and then leaves the
transport alone. -/
theorem transport_live_while_used_interface_change :
    ∃ s, runEvents (guarded (step true) Protected) (initial 1)
        (startServer ++ [.api 0 .check, .api 0 .readInc, .api 0 .writeInc, .api 0 (.use false)] ++
          List.replicate 9 (.recv interfaceChanged)) = some s ∧
      s.info.status = .stop ∧ s.recv = .loopTest ∧
      transportUsed s.info (s.api 0) = some (some 0) ∧ Live s.info (some 0) := by
  obtain ⟨s, hs, hexec, hstop, hrecv, hused⟩ := exists_execution (step true) Protected
    (initial 1) (fun s => s.info.status = .stop ∧ s.recv = .loopTest ∧
      transportUsed s.info (s.api 0) = some (some 0))
    (startServer ++ [.api 0 .check, .api 0 .readInc, .api 0 .writeInc, .api 0 (.use false)] ++
      List.replicate 9 (.recv interfaceChanged)) (by decide)
  obtain ⟨hlive, -⟩ := transport_live_while_used hexec
  exact ⟨s, hs, hstop, hrecv, hused, hlive 0 (some 0) hused⟩

instance (info : ServerInfo) (transport : Option ℕ) : Decidable (Live info transport) :=
  match transport with
  | none => isFalse fun ⟨_, ht, _⟩ => nomatch ht
  | some t => decidable_of_iff (t ∉ info.freed)
      ⟨fun ht => ⟨t, rfl, ht⟩, fun ⟨_, he, ht⟩ => Option.some.inj he ▸ ht⟩

def TornDown (s : State n) : Prop :=
  ∃ i, ∃ transport ∈ transportUsed s.info (s.api i), ¬ Live s.info transport

instance (s : State n) : Decidable (TornDown s) := by
  unfold TornDown
  infer_instance

/-- Four runs that lose the transport: during a call that is checked and not counted; during one
whose increment was overwritten; because the restart began before `rmt_server_init` set the
status; and because the re-creation failed before `rmt_server_deinit`. -/
theorem transport_lost :
    (∃ s, Reachable (step true) (initial 1) s ∧ TornDown s) ∧
    (∃ s, Reachable (step true) (initial 2) s ∧
      (counting (s.api 1) = true ∧ s.info.usingApi = 0 ∧ TornDown s)) ∧
    (∃ s, Reachable (step true) (initial 1) s ∧
      (s.main = .up ∧ s.info.status = .running ∧ TornDown s)) ∧
    ∃ s, Reachable (step true) (initial 1) s ∧
      (s.main = .deinitTransport ∧ ¬ Live s.info s.info.transport) := by
  refine ⟨?_, ?_, ?_, ?_⟩
  · apply exists_reachable _
      (startServer ++ [.api 0 .check] ++ List.replicate 12 (.recv interfaceChanged))
    decide
  · apply exists_reachable _ (startServer ++ [.api 0 .check, .api 1 .check, .api 0 .readInc,
      .api 1 .readInc, .api 0 .writeInc, .api 1 .writeInc, .api 0 .readDec, .api 0 .writeDec] ++
      List.replicate 12 (.recv interfaceChanged))
    decide
  · apply exists_reachable _ (List.replicate 5 (.main .created) ++
      List.replicate 7 (.recv interfaceChanged) ++ [.main .created, .api 0 .check] ++
      List.replicate 4 (.recv interfaceChanged))
    decide
  · apply exists_reachable _ (startServer ++
      List.replicate 16 (.recv { interfaceChanged with outcome := .noMemory }) ++
      [.main .created, .recv interfaceChanged, .main .created])
    decide

end ServerLifecycle
