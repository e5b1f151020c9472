import RmtLibrary.FairRuns
import RmtLibrary.ServerLifecycle

/-! # The server comes back

Safety says that no user loses its transport. Here is the other half: when interface changes and
requests to set up the server again cease, the receive thread brings the server back, unless
`using_api` is left above 0 with no call inside. -/
namespace RestartProgress

open Filter
open GuardedExecution
open FairRuns
open RmtServer
open ServerLifecycle

variable {n : ℕ} {autoDetect : Bool}

/-- No request to set up the server again and no `rmt_server_deinit`. The interface is there and
does not change, and a re-creation works. -/
def Calm (autoDetect : Bool) : Event n → Prop
  | .recv env => (autoDetect = true → env.changed = false) ∧ env.found = true ∧
      env.configOk = true ∧ env.outcome = .created
  | .api _ _ => True
  | _ => False

def isRecv : Event n → Prop
  | .recv _ => True
  | _ => False

/-- The receive thread keeps running, API calls return, file transfers end, and from some time on
nothing disturbs the server. -/
structure CalmsDown (autoDetect : Bool) (state : ℕ → State n) (event : ℕ → Event n) : Prop where
  calm : ∀ᶠ t in atTop, Calm autoDetect (event t)
  up : ∃ᶠ t in atTop, (state t).main = .up
  scheduled : ∃ᶠ t in atTop, isRecv (event t)
  returns : ∀ i, ∃ᶠ t in atTop, (state t).api i = .idle
  transfersEnd : ∃ᶠ t in atTop, (state t).info.fileTransferring = false

def Serving (transport : ℕ) (s : State n) : Prop :=
  s.info.status = .running ∧ s.info.transport = some transport ∧ transport ∉ s.info.freed

/-- No call is inside, but the counter says so, and no call can enter. -/
def ShutOut (s : State n) : Prop :=
  s.info.status = .stop ∧ noCall s ∧ s.info.usingApi ≠ 0

def attending : MainPc → Bool
  | .createThread | .clearUsing | .setRunning | .up => true
  | _ => false

structure Attended (s : State n) : Prop where
  told : attending s.main = true → s.info.recvThreadStatus = true
  present : attending s.main = true → s.main ≠ .createThread → s.recv ≠ .absent
  holds : s.recv = .deinit → s.info.transport ≠ none

theorem attended_initial : Attended (initial n) where
  told := nofun
  present := nofun
  holds := nofun

/-- What a step of the receive thread leaves alone, and when it ends or frees. -/
structure RecvEffect (s s' : State n) : Prop where
  main : s'.main = s.main
  told : s'.info.recvThreadStatus = s.info.recvThreadStatus
  left : s'.recv = .absent → s.info.recvThreadStatus = false
  holds : s'.recv = .deinit → s'.info.transport ≠ none

theorem recvStep_effect {s s' : State n} {env : RecvEnv}
    (hstep : recvStep autoDetect env s = some s') : RecvEffect s s' := by
  obtain ⟨info, main, recv, api⟩ := s
  cases recv with
  | absent => cases hstep
  | loopTest =>
    obtain rfl := Option.some.inj hstep
    by_cases htold : info.recvThreadStatus = true
    · simp only [if_pos htold]
      exact ⟨rfl, rfl, nofun, nofun⟩
    · simp only [if_neg htold]
      exact ⟨rfl, rfl, fun _ => by simpa using htold, nofun⟩
  | testFree =>
    obtain rfl := Option.some.inj hstep
    by_cases hnone : info.transport = none
    · simp only [if_pos hnone]
      exact ⟨rfl, rfl, nofun, nofun⟩
    · simp only [if_neg hnone]
      exact ⟨rfl, rfl, nofun, fun _ => hnone⟩
  | deinit =>
    obtain ⟨info', hfree, rfl⟩ := Option.map_eq_some_iff.mp hstep
    obtain ⟨t, -, rfl⟩ := Option.map_eq_some_iff.mp hfree
    exact ⟨rfl, rfl, nofun, nofun⟩
  | create =>
    obtain rfl := Option.some.inj hstep
    refine ⟨rfl, ?_, nofun, nofun⟩
    cases env.outcome <;> rfl
  | testCreated =>
    change (if info.transport = none then _ else _) = _ at hstep
    split at hstep
    · obtain rfl := Option.some.inj hstep
      exact ⟨rfl, rfl, nofun, nofun⟩
    · obtain rfl := Option.some.inj hstep
      exact ⟨rfl, rfl, nofun, nofun⟩
  | testTransport | testInterface | testChanged | testRunning | testUsing | testTransfer
  | configInit =>
    obtain rfl := Option.some.inj hstep
    split <;> exact ⟨rfl, rfl, nofun, nofun⟩
  | _ =>
    obtain rfl := Option.some.inj hstep
    exact ⟨rfl, rfl, nofun, nofun⟩

theorem apiStep_told {main : MainPc} {info info' : ServerInfo} {pc pc' : ApiPc}
    {action : ApiAction} (h : apiStep main info pc action = some (info', pc')) :
    info'.recvThreadStatus = info.recvThreadStatus := by
  cases pc <;> cases action <;> try cases h
  case idle.check =>
    change (if main = .up then _ else _) = _ at h
    split at h
    · obtain ⟨rfl, -⟩ := Prod.mk.inj (Option.some.inj h)
      rfl
    · cases h
  all_goals rfl

theorem attended_main {s s' : State n} {outcome : InitOutcome} (h : Attended s)
    (hinv : Invariant s) (hstep : mainStep outcome s = some s') : Attended s' := by
  obtain ⟨info, main, recv, api⟩ := s
  cases main with
  | down =>
    obtain rfl := Option.some.inj hstep
    have habsent : recv = .absent := hinv.alone rfl
    exact ⟨nofun, nofun, fun hfree => absurd (habsent.symm.trans hfree) nofun⟩
  | testTransport =>
    obtain rfl := Option.some.inj hstep
    refine ⟨?_, ?_, h.holds⟩ <;>
    · change attending (if _ then _ else _) = true → _
      split <;> exact nofun
  | writeThreadStatus =>
    obtain rfl := Option.some.inj hstep
    exact ⟨fun _ => rfl, fun _ hne => absurd rfl hne, h.holds⟩
  | createThread =>
    obtain rfl := Option.some.inj hstep
    exact ⟨fun _ => h.told rfl, fun _ _ => nofun, nofun⟩
  | clearUsing =>
    obtain rfl := Option.some.inj hstep
    exact ⟨fun _ => h.told rfl, fun _ _ => h.present rfl nofun, h.holds⟩
  | setRunning =>
    obtain rfl := Option.some.inj hstep
    exact ⟨fun _ => h.told rfl, fun _ _ => h.present rfl nofun, h.holds⟩
  | up =>
    obtain rfl := Option.some.inj hstep
    exact ⟨nofun, nofun, h.holds⟩
  | join =>
    change (if recv = .absent then _ else _) = _ at hstep
    split at hstep
    · obtain rfl := Option.some.inj hstep
      exact ⟨nofun, nofun, h.holds⟩
    · cases hstep
  | deinitTransport =>
    obtain ⟨info', hfree, rfl⟩ := Option.map_eq_some_iff.mp hstep
    obtain ⟨t, -, rfl⟩ := Option.map_eq_some_iff.mp hfree
    exact ⟨nofun, nofun, h.holds⟩

theorem attended_step {s s' : State n} {e : Event n} (h : Attended s) (hinv : Invariant s)
    (hstep : step autoDetect s e = some s') : Attended s' := by
  cases e with
  | main outcome => exact attended_main h hinv hstep
  | recv env =>
    obtain ⟨hmain, htold, hleft, hholds⟩ := recvStep_effect hstep
    refine ⟨?_, ?_, hholds⟩
    · rw [hmain, htold]
      exact h.told
    · rw [hmain]
      intro hattend _ hgone
      exact absurd ((h.told hattend).symm.trans (hleft hgone)) nofun
  | api i action =>
    obtain ⟨r, hr, rfl⟩ := Option.map_eq_some_iff.mp hstep
    have heffect := apiStep_effect hr
    refine ⟨?_, h.present, ?_⟩
    · change attending s.main = true → r.1.recvThreadStatus = true
      rw [apiStep_told hr]
      exact h.told
    · change s.recv = .deinit → r.1.transport ≠ none
      rw [heffect.transport]
      exact h.holds
  | reinitServer =>
    cases hstep
    exact ⟨h.told, h.present, h.holds⟩

theorem attended_execution {s : State n}
    (h : Execution (step autoDetect) Protected (initial n) s) : Invariant s ∧ Attended s := by
  induction h with
  | refl => exact ⟨invariant_initial, attended_initial⟩
  | tail _ hok hstep ih => exact ⟨invariant_step ih.1 hok hstep, attended_step ih.2 ih.1 hstep⟩

def steady : RecvPc → Bool
  | .loopTest | .testTransport | .update | .transfer | .testInterface | .testCreated
  | .writeRunning => true
  | .testChanged changed _ => !changed
  | _ => false

def Settled (s : State n) : Prop := s.info.status = .running ∧ steady s.recv = true

theorem calm_main {s s' : State n} {e : Event n} (hcalm : Calm autoDetect e)
    (hstep : step autoDetect s e = some s') : s'.main = s.main := by
  cases e with
  | main outcome => exact hcalm.elim
  | reinitServer => exact hcalm.elim
  | recv env => exact (recvStep_effect hstep).main
  | api i action =>
    obtain ⟨r, -, rfl⟩ := Option.map_eq_some_iff.mp hstep
    rfl

theorem Attended.told_up {s : State n} (h : Attended s) (hup : s.main = .up) :
    s.info.recvThreadStatus = true := h.told (by rw [hup]; rfl)

theorem recv_settled {s s' : State n} {env : RecvEnv} (hinv : Invariant s) (hatt : Attended s)
    (hup : s.main = .up) (hcalm : autoDetect = true → env.changed = false) (hset : Settled s)
    (hstep : recvStep autoDetect env s = some s') :
    Settled s' ∧ s'.info.transport = s.info.transport := by
  have htold := hatt.told_up hup
  have hpresent := (hinv.running (by rw [hup]; rfl) hset.1).2
  obtain ⟨info, main, recv, api⟩ := s
  obtain ⟨hrun, hsteady⟩ := hset
  cases recv with
  | loopTest =>
    obtain rfl := Option.some.inj hstep
    exact ⟨⟨hrun, by simp only [if_pos htold]; rfl⟩, rfl⟩
  | testTransport =>
    obtain rfl := Option.some.inj hstep
    exact ⟨⟨hrun, by simp only [if_neg hpresent]; rfl⟩, rfl⟩
  | update | transfer =>
    obtain rfl := Option.some.inj hstep
    exact ⟨⟨hrun, rfl⟩, rfl⟩
  | testInterface =>
    obtain rfl := Option.some.inj hstep
    refine ⟨⟨hrun, ?_⟩, rfl⟩
    by_cases hauto : autoDetect = true
    · simp only [hauto, true_or, if_true, steady, hcalm hauto, Bool.not_false]
    · have hskip : ¬ (autoDetect = true ∨ info.status = .stop) := by
        rintro (h | h)
        · exact hauto h
        · exact absurd (hrun.symm.trans h) nofun
      simp only [if_neg hskip]
      rfl
  | testChanged changed found =>
    obtain rfl := Option.some.inj hstep
    refine ⟨⟨hrun, ?_⟩, rfl⟩
    have hskip : ¬ (changed = true ∨ info.status = .stop) := by
      rintro (h | h)
      · simp [steady, h] at hsteady
      · exact absurd (hrun.symm.trans h) nofun
    simp only [if_neg hskip]
    rfl
  | testCreated =>
    change (if info.transport = none then _ else _) = _ at hstep
    rw [if_neg hpresent] at hstep
    obtain rfl := Option.some.inj hstep
    exact ⟨⟨hrun, rfl⟩, rfl⟩
  | writeRunning =>
    obtain rfl := Option.some.inj hstep
    exact ⟨⟨rfl, rfl⟩, rfl⟩
  | _ => cases hsteady

theorem settled_step {s s' : State n} {e : Event n} (hinv : Invariant s) (hatt : Attended s)
    (hup : s.main = .up) (hcalm : Calm autoDetect e) (hset : Settled s)
    (hstep : step autoDetect s e = some s') :
    Settled s' ∧ s'.info.transport = s.info.transport := by
  cases e with
  | main outcome => exact hcalm.elim
  | reinitServer => exact hcalm.elim
  | recv env => exact recv_settled hinv hatt hup hcalm.1 hset hstep
  | api i action =>
    obtain ⟨r, hr, rfl⟩ := Option.map_eq_some_iff.mp hstep
    have heffect := apiStep_effect hr
    exact ⟨⟨heffect.status.trans hset.1, hset.2⟩, heffect.transport⟩

def toStop : RecvPc → ℕ
  | .testChanged _ _ => 3
  | .testRunning _ => 2
  | .writeStop _ => 1
  | _ => 0

def Stopping (s : State n) : Prop := s.info.status = .running ∧ steady s.recv = false

theorem recv_stopping {s s' : State n} {env : RecvEnv} (hinv : Invariant s)
    (hup : s.main = .up) (hstopping : Stopping s)
    (hstep : recvStep autoDetect env s = some s') :
    s'.info.status = .stop ∨ Stopping s' ∧ toStop s'.recv < toStop s.recv := by
  have hcalm := (hinv.running (by rw [hup]; rfl) hstopping.1).1
  obtain ⟨info, main, recv, api⟩ := s
  obtain ⟨hrun, hsteady⟩ := hstopping
  cases recv with
  | testChanged changed found =>
    obtain rfl := Option.some.inj hstep
    have hchanged : changed = true := by simpa [steady] using hsteady
    simp only [hchanged, true_or, if_true]
    exact Or.inr ⟨⟨hrun, rfl⟩, by simp [toStop]⟩
  | testRunning found =>
    obtain rfl := Option.some.inj hstep
    have hrun' : info.status = .running := hrun
    simp only [if_pos hrun']
    exact Or.inr ⟨⟨hrun, rfl⟩, by simp [toStop]⟩
  | writeStop found =>
    obtain rfl := Option.some.inj hstep
    exact Or.inl rfl
  | absent => cases hstep
  | loopTest | testTransport | update | transfer | testInterface | testCreated | writeRunning =>
    cases hsteady
  | _ => cases hcalm

theorem stopping_step {s s' : State n} {e : Event n} (hinv : Invariant s)
    (hup : s.main = .up) (hcalm : Calm autoDetect e) (hstopping : Stopping s)
    (hstep : step autoDetect s e = some s') :
    s'.info.status = .stop ∨ Stopping s' ∧ toStop s'.recv ≤ toStop s.recv ∧
      (isRecv e → toStop s'.recv < toStop s.recv) := by
  cases e with
  | main outcome => exact hcalm.elim
  | reinitServer => exact hcalm.elim
  | recv env =>
    rcases recv_stopping hinv hup hstopping hstep with h | ⟨h, hlt⟩
    · exact Or.inl h
    · exact Or.inr ⟨h, hlt.le, fun _ => hlt⟩
  | api i action =>
    obtain ⟨r, hr, rfl⟩ := Option.map_eq_some_iff.mp hstep
    have heffect := apiStep_effect hr
    exact Or.inr ⟨⟨heffect.status.trans hstopping.1, hstopping.2⟩, le_rfl, fun h => h.elim⟩

/-- A stopped server runs again only through the end of the restart block. -/
theorem stop_step {s s' : State n} {e : Event n} (hcalm : Calm autoDetect e)
    (hstop : s.info.status = .stop) (hstep : step autoDetect s e = some s') :
    s'.info.status = .stop ∨ Settled s' := by
  cases e with
  | main outcome => exact hcalm.elim
  | reinitServer => exact hcalm.elim
  | api i action =>
    obtain ⟨r, hr, rfl⟩ := Option.map_eq_some_iff.mp hstep
    exact Or.inl ((apiStep_effect hr).status.trans hstop)
  | recv env =>
    have hstep' : recvStep autoDetect env s = some s' := hstep
    obtain ⟨info, main, recv, api⟩ := s
    cases recv with
    | absent => cases hstep'
    | deinit =>
      obtain ⟨info', hfree, rfl⟩ := Option.map_eq_some_iff.mp hstep'
      obtain ⟨t, -, rfl⟩ := Option.map_eq_some_iff.mp hfree
      exact Or.inl hstop
    | create =>
      obtain rfl := Option.some.inj hstep'
      left
      cases env.outcome <;> exact hstop
    | testCreated =>
      change (if info.transport = none then _ else _) = _ at hstep'
      split at hstep' <;>
      · obtain rfl := Option.some.inj hstep'
        exact Or.inl hstop
    | writeStop found =>
      obtain rfl := Option.some.inj hstep'
      exact Or.inl rfl
    | writeRunning =>
      obtain rfl := Option.some.inj hstep'
      exact Or.inr ⟨rfl, rfl⟩
    | _ =>
      obtain rfl := Option.some.inj hstep'
      exact Or.inl hstop

theorem idle_step {s s' : State n} {e : Event n} (hcalm : Calm autoDetect e)
    (hstop : s.info.status = .stop) (hstep : step autoDetect s e = some s') {i : Fin n}
    (hidle : s.api i = .idle) : s'.api i = .idle := by
  cases e with
  | main outcome => exact hcalm.elim
  | reinitServer => exact hcalm.elim
  | recv env =>
    rw [(recvStep_usingApi hstep).2]
    exact hidle
  | api j action =>
    obtain ⟨r, hr, rfl⟩ := Option.map_eq_some_iff.mp hstep
    by_cases hij : i = j
    · subst hij
      change Function.update s.api i r.2 i = .idle
      rw [Function.update_self]
      by_contra hcall
      have hrun := ((apiStep_effect hr).checked hidle hcall).2
      exact absurd (hstop.symm.trans hrun) nofun
    · change Function.update s.api j r.2 i = .idle
      rw [Function.update_of_ne hij]
      exact hidle

theorem refused_call {s s' : State n} {i : Fin n} {action : ApiAction}
    (hstop : s.info.status = .stop) (hidle : s.api i = .idle)
    (hstep : step autoDetect s (.api i action) = some s') : s' = s := by
  obtain ⟨r, hr, rfl⟩ := Option.map_eq_some_iff.mp hstep
  rw [hidle] at hr
  cases action with
  | check =>
    change (if s.main = .up then _ else _) = _ at hr
    split at hr
    · obtain rfl := Option.some.inj hr
      have hnot : ¬ s.info.status = .running := fun h => absurd (hstop.symm.trans h) nofun
      simp only [if_neg hnot]
      rw [← hidle, Function.update_eq_self]
    · cases hr
  | _ => cases hr

structure Free (s : State n) : Prop where
  stopped : s.info.status = .stop
  calls : noCall s
  transfer : s.info.fileTransferring = false
  count : s.info.usingApi = 0

def laps (s : State n) : ℕ :=
  match s.recv with
  | .testChanged _ found | .testRunning found | .writeStop found | .testUsing found
  | .testTransfer found => if found then 0 else 1
  | .testCreated => if s.info.transport = none then 1 else 0
  | _ => 0

def position : RecvPc → ℕ
  | .loopTest => 19
  | .testTransport => 18
  | .update => 17
  | .transfer => 16
  | .testInterface => 15
  | .testChanged _ _ => 14
  | .testRunning _ => 13
  | .writeStop _ => 12
  | .testUsing _ => 11
  | .testTransfer _ => 10
  | .testFree => 9
  | .deinit => 8
  | .clear => 7
  | .configInit => 6
  | .create => 5
  | .testCreated => 4
  | .writeRunning => 3
  | .absent => 0

def rank (s : State n) : ℕ := 20 * laps s + position s.recv

theorem Free.goto {s : State n} (h : Free s) (recv : RecvPc) : Free { s with recv } :=
  ⟨h.stopped, h.calls, h.transfer, h.count⟩

theorem recv_free {s s' : State n} {env : RecvEnv} (hatt : Attended s) (hup : s.main = .up)
    (hcalm : Calm autoDetect (.recv env : Event n)) (hfree : Free s)
    (hstep : recvStep autoDetect env s = some s') :
    Settled s' ∨ Free s' ∧ rank s' < rank s := by
  have htold := hatt.told_up hup
  obtain ⟨-, hfound, hconfig, hcreated⟩ := hcalm
  obtain ⟨info, main, recv, api⟩ := s
  have hstop : info.status = .stop := hfree.stopped
  have hnot : ¬ info.status = .running := fun h => absurd (hstop.symm.trans h) nofun
  cases recv with
  | absent => cases hstep
  | loopTest =>
    obtain rfl := Option.some.inj hstep
    simp only [if_pos htold]
    exact Or.inr ⟨hfree.goto _, by simp [rank, laps, position]⟩
  | testTransport =>
    obtain rfl := Option.some.inj hstep
    refine Or.inr ⟨hfree.goto _, ?_⟩
    by_cases hnone : info.transport = none <;> simp [rank, laps, position, hnone]
  | update | clear =>
    obtain rfl := Option.some.inj hstep
    exact Or.inr ⟨⟨hstop, hfree.calls, hfree.transfer, hfree.count⟩,
      by simp [rank, laps, position]⟩
  | transfer =>
    obtain rfl := Option.some.inj hstep
    have hended : info.fileTransferring = false := hfree.transfer
    refine Or.inr ⟨⟨hstop, hfree.calls, ?_, hfree.count⟩, by simp [rank, laps, position]⟩
    simp only [hended, Bool.false_and]
  | testInterface =>
    obtain rfl := Option.some.inj hstep
    simp only [hstop, or_true, if_true, hfound]
    exact Or.inr ⟨hfree.goto _, by simp [rank, laps, position]⟩
  | testChanged changed found =>
    obtain rfl := Option.some.inj hstep
    simp only [hstop, or_true, if_true]
    exact Or.inr ⟨hfree.goto _, by simp [rank, laps, position]⟩
  | testRunning found =>
    obtain rfl := Option.some.inj hstep
    simp only [if_neg hnot]
    exact Or.inr ⟨hfree.goto _, by simp [rank, laps, position]⟩
  | writeStop found =>
    obtain rfl := Option.some.inj hstep
    exact Or.inr ⟨⟨rfl, hfree.calls, hfree.transfer, hfree.count⟩,
      by simp [rank, laps, position]⟩
  | testUsing found =>
    obtain rfl := Option.some.inj hstep
    have hzero : info.usingApi = 0 := hfree.count
    simp only [if_pos hzero]
    exact Or.inr ⟨hfree.goto _, by simp [rank, laps, position]⟩
  | testTransfer found =>
    obtain rfl := Option.some.inj hstep
    refine Or.inr ⟨hfree.goto _, ?_⟩
    have hended : info.fileTransferring = false := hfree.transfer
    cases found <;> simp [rank, laps, position, hended]
  | testFree =>
    obtain rfl := Option.some.inj hstep
    refine Or.inr ⟨hfree.goto _, ?_⟩
    by_cases hnone : info.transport = none <;> simp [rank, laps, position, hnone]
  | deinit =>
    obtain ⟨info', hfreed, rfl⟩ := Option.map_eq_some_iff.mp hstep
    obtain ⟨t, -, rfl⟩ := Option.map_eq_some_iff.mp hfreed
    exact Or.inr ⟨⟨hstop, hfree.calls, hfree.transfer, hfree.count⟩,
      by simp [rank, laps, position]⟩
  | configInit =>
    obtain rfl := Option.some.inj hstep
    simp only [if_pos hconfig]
    exact Or.inr ⟨hfree.goto _, by simp [rank, laps, position]⟩
  | create =>
    obtain rfl := Option.some.inj hstep
    simp only [hcreated, ddsTransportServerInit]
    exact Or.inr ⟨⟨hstop, hfree.calls, hfree.transfer, hfree.count⟩,
      by simp [rank, laps, position]⟩
  | testCreated =>
    change (if info.transport = none then _ else _) = _ at hstep
    by_cases hnone : info.transport = none
    · rw [if_pos hnone] at hstep
      obtain rfl := Option.some.inj hstep
      exact Or.inr ⟨hfree.goto _, by simp [rank, laps, position, hnone]⟩
    · rw [if_neg hnone] at hstep
      obtain rfl := Option.some.inj hstep
      exact Or.inr ⟨⟨hstop, hfree.calls, rfl, hfree.count⟩,
        by simp [rank, laps, position, hnone]⟩
  | writeRunning =>
    obtain rfl := Option.some.inj hstep
    exact Or.inl ⟨rfl, rfl⟩

theorem free_step {s s' : State n} {e : Event n} (hatt : Attended s) (hup : s.main = .up)
    (hcalm : Calm autoDetect e) (hfree : Free s) (hstep : step autoDetect s e = some s') :
    Settled s' ∨ Free s' ∧ rank s' ≤ rank s ∧ (isRecv e → rank s' < rank s) := by
  cases e with
  | main outcome => exact hcalm.elim
  | reinitServer => exact hcalm.elim
  | recv env =>
    rcases recv_free hatt hup hcalm hfree hstep with h | ⟨h, hlt⟩
    · exact Or.inl h
    · exact Or.inr ⟨h, hlt.le, fun _ => hlt⟩
  | api i action =>
    obtain rfl := refused_call hfree.stopped (hfree.calls i) hstep
    exact Or.inr ⟨hfree, le_rfl, fun h => h.elim⟩

theorem recv_transfer {s s' : State n} {env : RecvEnv}
    (hended : s.info.fileTransferring = false) (hstep : recvStep autoDetect env s = some s') :
    s'.info.fileTransferring = false := by
  obtain ⟨info, main, recv, api⟩ := s
  have hended' : info.fileTransferring = false := hended
  cases recv with
  | absent => cases hstep
  | transfer =>
    obtain rfl := Option.some.inj hstep
    simp only [hended', Bool.false_and]
  | deinit =>
    obtain ⟨info', hfree, rfl⟩ := Option.map_eq_some_iff.mp hstep
    obtain ⟨t, -, rfl⟩ := Option.map_eq_some_iff.mp hfree
    exact hended
  | create =>
    obtain rfl := Option.some.inj hstep
    cases env.outcome <;> exact hended
  | testCreated =>
    change (if info.transport = none then _ else _) = _ at hstep
    split at hstep
    · obtain rfl := Option.some.inj hstep
      exact hended
    · obtain rfl := Option.some.inj hstep
      rfl
  | _ =>
    obtain rfl := Option.some.inj hstep
    exact hended

theorem transfer_step {s s' : State n} {e : Event n} (hcalm : Calm autoDetect e)
    (hstop : s.info.status = .stop) (hidle : noCall s)
    (hended : s.info.fileTransferring = false) (hstep : step autoDetect s e = some s') :
    s'.info.fileTransferring = false := by
  cases e with
  | main outcome => exact hcalm.elim
  | reinitServer => exact hcalm.elim
  | recv env => exact recv_transfer hended hstep
  | api i action =>
    obtain rfl := refused_call hstop (hidle i) hstep
    exact hended

structure Course (autoDetect : Bool) (state : ℕ → State n) (event : ℕ → Event n) : Prop where
  next : ∀ t, step autoDetect (state t) (event t) = some (state (t + 1))
  invariant : ∀ t, Invariant (state t)
  attended : ∀ t, Attended (state t)

theorem course_of_run {state : ℕ → State n} {event : ℕ → Event n}
    (h : Run (step autoDetect) Protected (initial n) state event) :
    Course autoDetect state event where
  next := h.next
  invariant t := (attended_execution (h.execution t)).1
  attended t := (attended_execution (h.execution t)).2

section Course

variable {state : ℕ → State n} {event : ℕ → Event n}

theorem Course.eventually_up (h : Course autoDetect state event)
    (hcalm : CalmsDown autoDetect state event) : ∀ᶠ t in atTop, (state t).main = .up := by
  apply eventually_of_frequently _ hcalm.up
  filter_upwards [hcalm.calm] with t hc hup
  exact (calm_main hc (h.next t)).trans hup

theorem Course.serves (h : Course autoDetect state event)
    (hcalm : CalmsDown autoDetect state event) (hset : ∃ᶠ t in atTop, Settled (state t)) :
    ∃ transport, ∀ᶠ t in atTop, Serving transport (state t) := by
  obtain ⟨a, ha⟩ := eventually_atTop.mp (hcalm.calm.and (h.eventually_up hcalm))
  obtain ⟨b, hab, hb⟩ := frequently_atTop.mp hset a
  have hstays : ∀ t, b ≤ t →
      Settled (state t) ∧ (state t).info.transport = (state b).info.transport := by
    intro t ht
    induction t, ht using Nat.le_induction with
    | base => exact ⟨hb, rfl⟩
    | succ t hbt ih =>
      obtain ⟨hc, hup⟩ := ha t (hab.trans hbt)
      obtain ⟨hset', hsame⟩ :=
        settled_step (h.invariant t) (h.attended t) hup hc ih.1 (h.next t)
      exact ⟨hset', hsame.trans ih.2⟩
  have hserve : ∀ t, b ≤ t → serving (state t).main = true := by
    intro t ht
    rw [(ha t (hab.trans ht)).2]
    rfl
  have hpresent := ((h.invariant b).running (hserve b le_rfl) hb.1).2
  obtain ⟨transport, htransport⟩ := Option.ne_none_iff_exists'.mp hpresent
  refine ⟨transport, eventually_atTop.mpr ⟨b, fun t ht => ?_⟩⟩
  obtain ⟨hset', hsame⟩ := hstays t ht
  refine ⟨hset'.1, hsame.trans htransport, ?_⟩
  apply (h.invariant t).live
  · rw [(ha t (hab.trans ht)).2]
    nofun
  · intro hclear
    have hsteady := hset'.2
    rw [hclear] at hsteady
    cases hsteady
  · exact hsame.trans htransport

theorem Course.eventually_stopped (h : Course autoDetect state event)
    (hcalm : CalmsDown autoDetect state event) (hnever : ∀ᶠ t in atTop, ¬ Settled (state t)) :
    ∀ᶠ t in atTop, (state t).info.status = .stop := by
  have hnext : ∀ᶠ t in atTop, ¬ Settled (state (t + 1)) :=
    (tendsto_add_atTop_nat 1).eventually hnever
  apply eventually_of_frequently
  · filter_upwards [hcalm.calm, hnext] with t hc hnot hstop
    exact (stop_step hc hstop (h.next t)).resolve_right hnot
  · obtain ⟨a, ha⟩ := eventually_atTop.mp
      ((hcalm.calm.and (h.eventually_up hcalm)).and hnever)
    refine frequently_atTop.mpr fun b => ?_
    by_cases hstop : (state (max a b)).info.status = .stop
    · exact ⟨_, le_max_right a b, hstop⟩
    have hrun : (state (max a b)).info.status = .running := by
      cases hstatus : (state (max a b)).info.status with
      | stop => exact absurd hstatus hstop
      | running => rfl
    have hstopping : Stopping (state (max a b)) := by
      refine ⟨hrun, ?_⟩
      by_contra hsteady
      exact (ha _ (le_max_left a b)).2 ⟨hrun, by simpa using hsteady⟩
    obtain ⟨u, hu, hstopped⟩ := @exists_of_rank (fun t => Stopping (state t))
      (fun t => (state t).info.status = .stop) (fun t => isRecv (event t))
      (fun t => toStop (state t).recv) _ hstopping hcalm.scheduled fun u hu hs =>
        stopping_step (h.invariant u) (ha u ((le_max_left a b).trans hu)).1.2
          (ha u ((le_max_left a b).trans hu)).1.1 hs (h.next u)
    exact ⟨u, (le_max_right a b).trans hu, hstopped⟩

/-- A server that never settles is stopped with its counter above 0 and no call inside. -/
theorem Course.shutOut (h : Course autoDetect state event)
    (hcalm : CalmsDown autoDetect state event) (hnever : ∀ᶠ t in atTop, ¬ Settled (state t)) :
    ∀ᶠ t in atTop, ShutOut (state t) := by
  have hstop := h.eventually_stopped hcalm hnever
  have hidle : ∀ᶠ t in atTop, noCall (state t) := by
    refine eventually_all.mpr fun i => eventually_of_frequently ?_ (hcalm.returns i)
    filter_upwards [hcalm.calm, hstop] with t hc hs hi
    exact idle_step hc hs (h.next t) hi
  have htransfer : ∀ᶠ t in atTop, (state t).info.fileTransferring = false := by
    apply eventually_of_frequently _ hcalm.transfersEnd
    filter_upwards [hcalm.calm, hstop, hidle] with t hc hs hi ht
    exact transfer_step hc hs hi ht (h.next t)
  have hcount : ∀ᶠ t in atTop, (state t).info.usingApi ≠ 0 := by
    by_contra hzero
    have hzero' : ∃ᶠ t in atTop, (state t).info.usingApi = 0 := by
      simpa [Filter.Frequently] using hzero
    obtain ⟨a, ha⟩ := eventually_atTop.mp ((hcalm.calm.and (h.eventually_up hcalm)).and hnever)
    obtain ⟨b, hb⟩ := eventually_atTop.mp (hstop.and (hidle.and htransfer))
    obtain ⟨t, ht, hz⟩ := frequently_atTop.mp hzero' (max a b)
    obtain ⟨hs, hi, hf⟩ := hb t ((le_max_right a b).trans ht)
    have hat : a ≤ t := (le_max_left a b).trans ht
    obtain ⟨u, hu, hset⟩ := @exists_of_rank (fun t => Free (state t))
      (fun t => Settled (state t)) (fun t => isRecv (event t))
      (fun t => rank (state t)) _ ⟨hs, hi, hf, hz⟩ hcalm.scheduled fun u hu hfree =>
        free_step (h.attended u) (ha u (hat.trans hu)).1.2 (ha u (hat.trans hu)).1.1 hfree
          (h.next u)
    exact (ha u (hat.trans hu)).2 hset
  filter_upwards [hstop, hidle, hcount] with t hs hi hc
  exact ⟨hs, hi, hc⟩

end Course

/-- Where no two updates of `using_api` overlap and no call is missed, a server that is left in
peace comes back: from some time on it runs with one transport, which is not freed. -/
theorem server_recovers {state : ℕ → State n} {event : ℕ → Event n}
    (hrun : Run (step autoDetect) Sequential (initial n) state event)
    (hcalm : CalmsDown autoDetect state event) :
    ∃ transport, ∀ᶠ t in atTop, Serving transport (state t) := by
  have hreach := fun t => sequential_protected (hrun.execution t)
  have hcourse : Course autoDetect state event :=
    ⟨hrun.next, fun t => (attended_execution (hreach t).1).1,
      fun t => (attended_execution (hreach t).1).2⟩
  apply hcourse.serves hcalm
  by_contra hnever
  obtain ⟨t, -, hidle, hcount⟩ := (hcourse.shutOut hcalm (not_frequently.mp hnever)).exists
  have hempty : countingCalls (state t) = ∅ := by
    ext i
    simp [mem_countingCalls, hidle i, counting]
  have hexact := (hreach t).2.exact
  rw [hempty, Finset.card_empty] at hexact
  exact hcount (BitVec.eq_of_toNat_eq hexact)

def before : RecvPc → Bool
  | .testTransfer _ | .testFree | .deinit | .clear | .configInit | .create | .testCreated
  | .writeRunning => false
  | _ => true

theorem recv_shutOut {s s' : State n} {env : RecvEnv} (hshut : ShutOut s)
    (hbefore : before s.recv = true) (hstep : recvStep autoDetect env s = some s') :
    ShutOut s' ∧ before s'.recv = true := by
  obtain ⟨hcount, hapi⟩ := recvStep_usingApi hstep
  have hidle : noCall s' := by
    intro i
    rw [hapi]
    exact hshut.2.1 i
  have hcount' : s'.info.usingApi ≠ 0 := by
    rw [hcount]
    exact hshut.2.2
  obtain ⟨info, main, recv, api⟩ := s
  have hstop : info.status = .stop := hshut.1
  cases recv with
  | absent => cases hstep
  | testUsing found =>
    obtain rfl := Option.some.inj hstep
    have hnot : ¬ info.usingApi = 0 := hshut.2.2
    exact ⟨⟨hstop, hidle, hcount'⟩, by simp only [if_neg hnot]; rfl⟩
  | writeStop found =>
    obtain rfl := Option.some.inj hstep
    exact ⟨⟨rfl, hidle, hcount'⟩, rfl⟩
  | loopTest | testTransport | testInterface | testChanged | testRunning =>
    obtain rfl := Option.some.inj hstep
    refine ⟨⟨hstop, hidle, hcount'⟩, ?_⟩
    change before (if _ then _ else _) = true
    split <;> rfl
  | update | transfer =>
    obtain rfl := Option.some.inj hstep
    exact ⟨⟨hstop, hidle, hcount'⟩, rfl⟩
  | _ => cases hbefore

/-- A server that is left in peace comes back or stays shut out, and the second happens exactly
with `using_api` above 0 and no call inside. -/
theorem recovers_iff {state : ℕ → State n} {event : ℕ → Event n}
    (hrun : Run (step autoDetect) Protected (initial n) state event)
    (hcalm : CalmsDown autoDetect state event) :
    (∃ transport, ∀ᶠ t in atTop, Serving transport (state t)) ↔
      ¬ ∀ᶠ t in atTop, ShutOut (state t) := by
  constructor
  · rintro ⟨transport, hserves⟩ hshut
    obtain ⟨t, hserve, hstop, -⟩ := (hserves.and hshut).exists
    exact absurd (hserve.1.symm.trans hstop) nofun
  · intro hnot
    have hcourse := course_of_run hrun
    apply hcourse.serves hcalm
    by_contra hnever
    exact hnot (hcourse.shutOut hcalm (not_frequently.mp hnever))

def peace : RecvEnv := ⟨true, false, true, true, .created⟩

structure Quiet (s : State n) : Prop where
  invariant : Invariant s
  attended : Attended s
  up : s.main = .up
  calls : noCall s
  transfer : s.info.fileTransferring = false

theorem recv_enabled {s : State n} (hatt : Attended s) (hup : s.main = .up) (env : RecvEnv) :
    ∃ s', recvStep autoDetect env s = some s' := by
  have hthere := hatt.present (by rw [hup]; rfl) (by rw [hup]; nofun)
  have hholds := hatt.holds
  obtain ⟨info, main, recv, api⟩ := s
  cases recv with
  | absent => exact absurd rfl hthere
  | deinit =>
    obtain ⟨t, ht⟩ := Option.ne_none_iff_exists'.mp (hholds rfl)
    have ht' : info.transport = some t := ht
    simp [recvStep, ddsTransportDeinit, ht']
  | testCreated =>
    by_cases hnone : info.transport = none <;> simp [recvStep, hnone]
  | _ => exact ⟨_, rfl⟩

/-- The receive thread can always take the next step, inside both conditions. -/
theorem quiet_enabled (autoDetect : Bool) {s : State n} (h : Quiet s) :
    Protected s (.recv peace) ∧ Sequential s (.recv peace) ∧
      ∃ s', step autoDetect s (.recv peace) = some s' ∧ Quiet s' := by
  have hend : QuietEnd s (.recv peace : Event n) := by
    intro _ htold
    exact absurd ((h.attended.told_up h.up).symm.trans htold) nofun
  have hclean : CleanInit s (.recv peace : Event n) := fun _ => nofun
  have hprotected : Protected s (.recv peace) :=
    ⟨fun _ _ _ _ _ => h.calls, trivial, hend, hclean⟩
  obtain ⟨s', hstep⟩ := @recv_enabled n autoDetect s h.attended h.up peace
  have hidle : noCall s' := by
    intro i
    rw [(recvStep_usingApi hstep).2]
    exact h.calls i
  have hquiet : Quiet s' :=
    ⟨invariant_step h.invariant hprotected hstep,
      attended_step h.attended h.invariant (e := .recv peace) hstep,
      (recvStep_effect hstep).main.trans h.up, hidle, recv_transfer h.transfer hstep⟩
  exact ⟨hprotected, ⟨trivial, fun _ _ _ i => Or.inl (h.calls i), trivial, hend, hclean⟩,
    s', hstep, hquiet⟩

theorem calmsDown_of_quiet (autoDetect : Bool) {state : ℕ → State n} {event : ℕ → Event n} {a : ℕ}
    (h : ∀ t, a ≤ t → Quiet (state t) ∧ event t = .recv peace) :
    CalmsDown autoDetect state event := by
  have hquiet : ∀ᶠ t in atTop, Quiet (state t) ∧ event t = .recv peace :=
    eventually_atTop.mpr ⟨a, h⟩
  constructor
  · filter_upwards [hquiet] with t ht
    rw [ht.2]
    exact ⟨fun _ => rfl, rfl, rfl, rfl⟩
  · exact (hquiet.mono fun t ht => ht.1.up).frequently
  · refine (hquiet.mono fun t ht => ?_).frequently
    rw [ht.2]
    trivial
  · exact fun i => (hquiet.mono fun t ht => ht.1.calls i).frequently
  · exact (hquiet.mono fun t ht => ht.1.transfer).frequently

instance (s : State n) : (e : Event n) → Decidable (SingleUpdate s e)
  | .api i .readInc => inferInstanceAs (Decidable (∀ j, j ≠ i → readValue (s.api j) = none))
  | .api i .readDec => inferInstanceAs (Decidable (∀ j, j ≠ i → readValue (s.api j) = none))
  | .api _ .writeInc => inferInstanceAs (Decidable (_ ≠ _))
  | .api _ .check | .api _ (.use _) | .api _ .writeDec => isTrue trivial
  | .main _ | .recv _ | .reinitServer => isTrue trivial

instance (s : State n) : (e : Event n) → Decidable (NoneUncounted s e)
  | .recv _ => inferInstanceAs (Decidable (∀ found, s.recv = .testUsing found →
      s.info.usingApi = 0 → ∀ i, s.api i = .idle ∨ counting (s.api i) = true))
  | .main _ | .api _ _ | .reinitServer => isTrue trivial

instance (s : State n) (e : Event n) : Decidable (Sequential s e) :=
  decidable_of_iff
    (SingleUpdate s e ∧ NoneUncounted s e ∧ QuietStart s e ∧ QuietEnd s e ∧ CleanInit s e)
    ⟨fun ⟨hs, hn, hq, he, hi⟩ => ⟨hs, hn, hq, he, hi⟩,
      fun h => ⟨h.singleUpdate, h.noneUncounted, h.quietStart, h.quietEnd, h.cleanInit⟩⟩

/-- A request to set up the server again comes when `rmt_server_init` has returned. -/
theorem server_recovers_request : ∃ state : ℕ → State 1, ∃ event,
    Run (step false) Sequential (initial 1) state event ∧ (state 7).info.status = .stop ∧
      ∃ transport, ∀ᶠ t in atTop, Serving transport (state t) := by
  obtain ⟨s, hs, hexec, hstop, hup, hcalls, htransfer⟩ := exists_execution (step false) Sequential
    (initial 1) (fun s => s.info.status = .stop ∧ s.main = .up ∧ noCall s ∧
      s.info.fileTransferring = false) (startServer ++ [.reinitServer]) (by decide)
  obtain ⟨hinv, hatt⟩ := attended_execution (sequential_protected hexec).1
  obtain ⟨state, event, hrun, hmid, hquiet⟩ := exists_run hs
    (⟨hinv, hatt, hup, hcalls, htransfer⟩ : Quiet s)
    fun s hs => (quiet_enabled false hs).2
  have hstate : (state 7).info.status = .stop := by
    rw [show state 7 = s from hmid]
    exact hstop
  exact ⟨state, event, hrun, hstate, server_recovers hrun (calmsDown_of_quiet false hquiet)⟩

/-- Two calls read the counter before either of them writes its decrement. Nothing is torn down,
and the server never comes back. -/
theorem recovers_iff_lost_decrement : ∃ state : ℕ → State 2, ∃ event,
    Run (step false) Protected (initial 2) state event ∧
      ¬ ∃ transport, ∀ᶠ t in atTop, Serving transport (state t) := by
  obtain ⟨s, hs, hexec, hup, htransfer, hshut, hbefore⟩ := exists_execution (step false) Protected
    (initial 2) (fun s => s.main = .up ∧ s.info.fileTransferring = false ∧
      (s.info.status = .stop ∧ noCall s ∧ s.info.usingApi ≠ 0) ∧ before s.recv = true)
    (startServer ++ [.api 0 .check, .api 0 .readInc, .api 0 .writeInc, .api 1 .check,
      .api 1 .readInc, .api 1 .writeInc, .api 0 .readDec, .api 1 .readDec, .api 0 .writeDec,
      .api 1 .writeDec, .reinitServer]) (by decide)
  obtain ⟨hinv, hatt⟩ := attended_execution hexec
  obtain ⟨state, event, hrun, -, hquiet⟩ := @exists_run _ _ (step false) Protected
    (fun s => Quiet s ∧ ShutOut s ∧ before s.recv = true) _ (.recv peace) _ _ _ hs
    ⟨⟨hinv, hatt, hup, hshut.2.1, htransfer⟩, hshut, hbefore⟩
    fun s ⟨hs, hshut, hbefore⟩ => by
      obtain ⟨hprotected, -, s', hstep, hquiet⟩ := quiet_enabled false hs
      exact ⟨hprotected, s', hstep, hquiet, recv_shutOut hshut hbefore hstep⟩
  have hcalm := calmsDown_of_quiet false fun t ht =>
    ⟨(hquiet t ht).1.1, (hquiet t ht).2⟩
  refine ⟨state, event, hrun, fun hserves => ?_⟩
  have hnot := (recovers_iff hrun hcalm).mp hserves
  exact hnot (eventually_atTop.mpr ⟨_, fun t ht => (hquiet t ht).1.2.1⟩)

end RestartProgress
