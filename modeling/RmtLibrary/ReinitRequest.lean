import RmtLibrary.CString
import RmtLibrary.GuardedExecution
import RmtLibrary.RmtServer

/-! # Requests to set up the server again

`rmt_reinit_server` and the loop of `recv_thread_func` in steps that read or write
`g_svr_info.status` or select the interface. The request and its acknowledgement are plain
writes to one field. -/
namespace ReinitRequest

open CString (Text)
open RmtServer (ServerStatus)
open GuardedExecution

/-- Where the receive thread stands. The selected interface and its IP are local variables of
one iteration. -/
inductive RecvPc where
  | loopTest
  | testStatus
  | select
  | testChanged (interface ip : Text)
  | testRunning (interface ip : Text)
  | writeStop (interface ip : Text)
  | testIdle (interface ip : Text)
  | create (interface ip : Text)
  | writeRunning (interface ip : Text)
  | left
  deriving DecidableEq, Repr

/-- In front of the creation, and between a successful creation and the end of the iteration. -/
def RecvPc.creates : RecvPc → Bool
  | .create _ _ => true
  | _ => false

def RecvPc.created : RecvPc → Bool
  | .writeRunning _ _ => true
  | _ => false

/-- The status, the thread and `g_rmt_runtime_cfg`. The code does not keep the time, the times
of the calls of `rmt_reinit_server` and that of the latest interface selection. -/
structure State where
  status : ServerStatus
  recv : RecvPc
  netInterface : Text
  netIp : Text
  now : ℕ
  calls : List ℕ
  selection : ℕ
  deriving DecidableEq, Repr

def initial (netInterface netIp : Text) : State :=
  ⟨.running, .loopTest, netInterface, netIp, 1, [], 0⟩

/-- What the receive thread meets: whether it is to go on, the interface and the IP it finds,
whether no API call is inside and no file is transferred, and whether the two creations work. -/
structure RecvEnv where
  goesOn : Bool
  interface : Text
  ip : Text
  idle : Bool
  configOk : Bool
  created : Bool

def recvStep (autoDetect : Bool) (env : RecvEnv) (s : State) : Option State :=
  match s.recv with
  | .left => none
  | .loopTest =>
    some { s with recv := if env.goesOn then (if autoDetect then .select else .testStatus)
      else .left }
  | .testStatus => some { s with recv := if s.status = .stop then .select else .loopTest }
  | .select => some { s with recv := .testChanged env.interface env.ip, selection := s.now }
  | .testChanged interface ip =>
    some { s with recv := if interface ≠ s.netInterface ∨ ip ≠ s.netIp ∨ s.status = .stop
      then .testRunning interface ip else .loopTest }
  | .testRunning interface ip =>
    some { s with recv := if s.status = .running then .writeStop interface ip
      else .testIdle interface ip }
  | .writeStop interface ip => some { s with status := .stop, recv := .testIdle interface ip }
  | .testIdle interface ip =>
    some { s with recv := if env.idle ∧ interface ≠ [] then .create interface ip else .loopTest }
  | .create interface ip =>
    some { s with recv := if env.configOk ∧ env.created then .writeRunning interface ip
      else .loopTest }
  | .writeRunning interface ip =>
    some { s with
      status := .running
      recv := .loopTest
      netInterface := interface
      netIp := ip }

inductive Event where
  | recv (env : RecvEnv)
  | reinitServer

def step (autoDetect : Bool) (s : State) (e : Event) : Option State :=
  match e with
  | .recv env => (recvStep autoDetect env s).map fun s' => { s' with now := s.now + 1 }
  | .reinitServer =>
    some { s with status := .stop, now := s.now + 1, calls := s.now :: s.calls }

def Pending (s : State) : Prop := ∃ c ∈ s.calls, s.selection ≤ c

instance (s : State) : Decidable (Pending s) :=
  inferInstanceAs (Decidable (∃ c ∈ s.calls, s.selection ≤ c))

/-- No call comes between a successful creation and the store of `SVR_STAT_RUNNING`, and no
creation succeeds in an iteration in which a call came after the interface selection. -/
def Ok (s : State) : Event → Prop
  | .recv env => s.recv.creates = true → env.configOk = true ∧ env.created = true → ¬ Pending s
  | .reinitServer => s.recv.created = false

instance (s : State) : (e : Event) → Decidable (Ok s e)
  | .recv _ => inferInstanceAs (Decidable (_ → _ → _))
  | .reinitServer => inferInstanceAs (Decidable (_ = _))

/-- A call that no selection has followed yet is still visible in the status, and there is none
once the creation has succeeded. -/
structure Invariant (s : State) : Prop where
  past : s.selection < s.now ∧ ∀ c ∈ s.calls, c < s.now
  visible : Pending s → s.status = .stop
  served : s.recv.created = true → ¬ Pending s

theorem invariant_initial (netInterface netIp : Text) :
    Invariant (initial netInterface netIp) where
  past := by simp [initial]
  visible := by simp [Pending, initial]
  served := by simp [Pending, initial]

theorem invariant_reinitServer {s : State} (hinv : Invariant s) (hok : s.recv.created = false) :
    Invariant { s with status := .stop, now := s.now + 1, calls := s.now :: s.calls } := by
  constructor
  · refine ⟨Nat.lt_succ_of_lt hinv.past.1, ?_⟩
    intro c hc
    rcases List.mem_cons.mp hc with rfl | hc
    · exact Nat.lt_succ_self _
    · exact Nat.lt_succ_of_lt (hinv.past.2 c hc)
  · exact fun _ => rfl
  · intro hcreated
    simp only [hok] at hcreated
    cases hcreated

theorem Invariant.move {s : State} (hinv : Invariant s) (recv : RecvPc)
    (hserved : recv.created = true → ¬ Pending s) :
    Invariant { s with recv, now := s.now + 1 } where
  past := ⟨Nat.lt_succ_of_lt hinv.past.1, fun c hc => Nat.lt_succ_of_lt (hinv.past.2 c hc)⟩
  visible := hinv.visible
  served := hserved

theorem Invariant.select {s : State} (hinv : Invariant s) (interface ip : Text) :
    Invariant { s with
      recv := .testChanged interface ip, selection := s.now, now := s.now + 1 } := by
  have hnone : ¬ Pending { s with
      recv := .testChanged interface ip, selection := s.now, now := s.now + 1 } := by
    rintro ⟨c, hc, hle⟩
    have hlt := hinv.past.2 c hc
    simp only at hle
    omega
  constructor
  · exact ⟨Nat.lt_succ_self _, fun c hc => Nat.lt_succ_of_lt (hinv.past.2 c hc)⟩
  · exact fun h => absurd h hnone
  · exact fun _ => hnone

theorem invariant_step {autoDetect : Bool} {s s' : State} {e : Event} (hinv : Invariant s)
    (hok : Ok s e) (hstep : step autoDetect s e = some s') : Invariant s' := by
  cases e with
  | reinitServer =>
    obtain rfl := Option.some.inj hstep
    exact invariant_reinitServer hinv hok
  | recv env =>
    obtain ⟨s₁, hrecv, rfl⟩ := Option.map_eq_some_iff.mp hstep
    rw [recvStep] at hrecv
    cases hpc : s.recv with
    | left => simp [hpc] at hrecv
    | loopTest =>
      rw [hpc] at hrecv
      obtain rfl := Option.some.inj hrecv
      exact hinv.move _ (by split <;> [split; skip] <;> simp [RecvPc.created])
    | testStatus =>
      rw [hpc] at hrecv
      obtain rfl := Option.some.inj hrecv
      exact hinv.move _ (by split <;> simp [RecvPc.created])
    | select =>
      rw [hpc] at hrecv
      obtain rfl := Option.some.inj hrecv
      exact hinv.select env.interface env.ip
    | testChanged interface ip =>
      rw [hpc] at hrecv
      obtain rfl := Option.some.inj hrecv
      exact hinv.move _ (by split <;> simp [RecvPc.created])
    | testRunning interface ip =>
      rw [hpc] at hrecv
      obtain rfl := Option.some.inj hrecv
      exact hinv.move _ (by split <;> simp [RecvPc.created])
    | writeStop interface ip =>
      rw [hpc] at hrecv
      obtain rfl := Option.some.inj hrecv
      have hmove := hinv.move (.testIdle interface ip) (by simp [RecvPc.created])
      exact ⟨hmove.past, fun _ => rfl, hmove.served⟩
    | testIdle interface ip =>
      rw [hpc] at hrecv
      obtain rfl := Option.some.inj hrecv
      exact hinv.move _ (by split <;> simp [RecvPc.created])
    | create interface ip =>
      rw [hpc] at hrecv
      obtain rfl := Option.some.inj hrecv
      by_cases hsuccess : env.configOk = true ∧ env.created = true
      · have hnone : ¬ Pending s := hok (by rw [hpc]; rfl) hsuccess
        exact hinv.move _ fun _ => hnone
      · rw [if_neg hsuccess]
        exact hinv.move .loopTest (by simp [RecvPc.created])
    | writeRunning interface ip =>
      rw [hpc] at hrecv
      obtain rfl := Option.some.inj hrecv
      have hnone : ¬ Pending s := hinv.served (by rw [hpc]; rfl)
      have hmove := hinv.move .loopTest (by simp [RecvPc.created])
      exact ⟨hmove.past, fun h => absurd h hnone, fun _ => hnone⟩

theorem invariant_execution {autoDetect : Bool} {netInterface netIp : Text} {s : State}
    (h : Execution (step autoDetect) Ok (initial netInterface netIp) s) : Invariant s :=
  h.invariant (invariant_initial netInterface netIp)
    fun _ _ _ hinv hok hstep => invariant_step hinv hok hstep

/-- Only the last step of an iteration stores `SVR_STAT_RUNNING`. -/
theorem becomes_running {autoDetect : Bool} {s s' : State} {e : Event}
    (hstep : step autoDetect s e = some s') (hstop : s.status = .stop)
    (hrun : s'.status = .running) : s.recv.created = true := by
  cases e with
  | reinitServer =>
    obtain rfl := Option.some.inj hstep
    cases hrun
  | recv env =>
    obtain ⟨s₁, hrecv, rfl⟩ := Option.map_eq_some_iff.mp hstep
    rw [recvStep] at hrecv
    cases hpc : s.recv <;> rw [hpc] at hrecv
    case left => cases hrecv
    case writeRunning => rfl
    case writeStop =>
      obtain rfl := Option.some.inj hrecv
      cases hrun
    all_goals
      obtain rfl := Option.some.inj hrecv
      simp only [hstop] at hrun
      cases hrun

/-- In every run inside the condition a call of `rmt_reinit_server` is visible until the next
interface selection, and the status becomes `SVR_STAT_RUNNING` only through a re-initialisation
that selected the interface after every call so far. -/
theorem no_request_lost (autoDetect : Bool) (netInterface netIp : Text) {s : State}
    (h : Execution (step autoDetect) Ok (initial netInterface netIp) s) :
    ((∃ c ∈ s.calls, s.selection ≤ c) → s.status = .stop) ∧
    ∀ e s', step autoDetect s e = some s' → s.status = .stop → s'.status = .running →
      ∀ c ∈ s'.calls, c < s'.selection := by
  have hinv := invariant_execution h
  refine ⟨hinv.visible, ?_⟩
  intro e s' hstep hstop hrun
  have hcreated := becomes_running hstep hstop hrun
  have hnone := hinv.served hcreated
  cases e with
  | reinitServer =>
    obtain rfl := Option.some.inj hstep
    cases hrun
  | recv env =>
    obtain ⟨s₁, hrecv, rfl⟩ := Option.map_eq_some_iff.mp hstep
    rw [recvStep] at hrecv
    cases hpc : s.recv <;> rw [hpc] at hrecv hcreated <;> try cases hcreated
    obtain rfl := Option.some.inj hrecv
    intro c hc
    by_contra hle
    exact hnone ⟨c, hc, Nat.le_of_not_lt hle⟩

def smooth : RecvEnv :=
  { goesOn := true, interface := "eth0".toList, ip := "10.0.0.2".toList, idle := true,
    configOk := true, created := true }

theorem no_request_lost_served : ∃ s s',
    step true s (.recv smooth) = some s' ∧ s'.status = .running ∧
      ∀ c ∈ s'.calls, c < s'.selection := by
  obtain ⟨s, -, h, hstop, hrun⟩ := exists_execution (step true) Ok
    (initial "eth0".toList "10.0.0.2".toList)
    (fun s => s.status = .stop ∧ (step true s (.recv smooth)).any (·.status = .running) = true)
    [.reinitServer, .recv smooth, .recv smooth, .recv smooth, .recv smooth, .recv smooth,
      .recv smooth] (by decide)
  obtain ⟨s', hstep, hstatus⟩ := (Option.any_eq_true _ _).mp hrun
  have hrunning : s'.status = .running := of_decide_eq_true hstatus
  exact ⟨s, s', hstep, hrunning,
    (no_request_lost true _ _ h).2 _ s' hstep hstop hrunning⟩

/-- The server is set up again for one call, another call comes while the transport is created,
and the store at the end of the iteration wipes it out. -/
theorem request_wiped_out : ∃ s,
    Reachable (step true) (initial "eth0".toList "10.0.0.2".toList) s ∧
    ∃ s', step true s (.recv smooth) = some s' ∧ s.status = .stop ∧ s'.status = .running ∧
      ∃ c ∈ s'.calls, s'.selection < c := by
  obtain ⟨s, hs, hstop, hrun⟩ := @exists_reachable _ _ (step true)
    (initial "eth0".toList "10.0.0.2".toList)
    (fun s => s.status = .stop ∧ (step true s (.recv smooth)).any (fun s' =>
      s'.status = .running ∧ ∃ c ∈ s'.calls, s'.selection < c) = true) _
    [.reinitServer, .recv smooth, .recv smooth, .recv smooth, .recv smooth, .recv smooth,
      .recv smooth, .reinitServer] (by decide)
  obtain ⟨s', hstep, hchecks⟩ := (Option.any_eq_true _ _).mp hrun
  obtain ⟨hrunning, hcall⟩ := of_decide_eq_true hchecks
  exact ⟨s, hs, s', hstep, hstop, hrunning, hcall⟩

end ReinitRequest
