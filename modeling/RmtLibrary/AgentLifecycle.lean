import RmtLibrary.GuardedExecution
import RmtLibrary.RmtAgent

/-! # Whether the agent uses a live transport

A session after `rmt_agent_init` has returned 0: calls of `rmt_agent_running`, then
`rmt_agent_deinit`. Whether `g_transport` is live at every use depends on what the network and
the initialisations did before, which a history of the inputs says. -/
namespace AgentLifecycle

open CString (Text)
open DevinfoAgent (RmtCfg)
open RmtAgent
open GuardedExecution

structure Session where
  globals : Globals
  closed : Bool

inductive Event where
  | running (d : Detected) (configured : Bool) (outcome : InitOutcome)
  | deinit

/-- The calls of one event that use `g_transport`. Nothing is called in a closed session. -/
def calls (cfg : RmtCfg) (s : Session) (e : Event) : Trace :=
  if s.closed then []
  else match e with
    | .running d configured outcome => (rmtAgentRunning cfg d configured outcome s.globals).1
    | .deinit => (rmtAgentDeinit s.globals).1

def step (cfg : RmtCfg) (s : Session) (e : Event) : Option Session :=
  if s.closed then some s
  else match e with
    | .running d configured outcome =>
      (rmtAgentRunning cfg d configured outcome s.globals).2.map fun (g, _) => ⟨g, false⟩
    | .deinit => (rmtAgentDeinit s.globals).2.map fun g => ⟨g, true⟩

/-- `g_transport` is the result of the latest successful initialisation and is not freed. -/
def Live (g : Globals) : Prop :=
  ∃ t, g.transport = some t ∧ g.created = some t ∧ t ∉ g.heap.freed

def UsesLive (cfg : RmtCfg) (s : Session) (e : Event) : Prop :=
  ∀ call ∈ calls cfg s e, Live call.2

inductive Attempt where
  | succeeded
  | failed
  | freedAtExit
  deriving DecidableEq, Repr

/-- The interface and the IP of the latest attempt that succeeded, and the latest attempt. -/
structure History where
  interface : Text
  ip : Text
  attempt : Attempt
  closed : Bool

def attemptOf (configured : Bool) : InitOutcome → Attempt
  | .created => if configured then .succeeded else .failed
  | .noMemory => .failed
  | .failed => if configured then .freedAtExit else .failed

def History.changed (cfg : RmtCfg) (h : History) (d : Detected) : Bool :=
  cfg.autoDetectInterface ∧ (d.interface ≠ h.interface ∨ d.ipText ≠ h.ip)

def History.next (cfg : RmtCfg) (h : History) : Event → History
  | .running d configured outcome =>
    if h.closed = false ∧ h.changed cfg d then
      match attemptOf configured outcome with
      | .failed => { h with attempt := .failed }
      | attempt => { h with interface := d.interface, ip := d.ipText, attempt }
    else h
  | .deinit => { h with closed := true }

/-- An event that leaves the transport alone, or gives it up, needs one. An event that creates
it again must not end in the exit that frees it, and must not find one freed there. -/
def History.Ok (cfg : RmtCfg) (h : History) (e : Event) : Prop :=
  h.closed = true ∨ match e with
    | .running d configured outcome =>
      if h.changed cfg d then
        h.attempt ≠ .freedAtExit ∧ attemptOf configured outcome ≠ .freedAtExit
      else h.attempt = .succeeded
    | .deinit => h.attempt = .succeeded

instance (cfg : RmtCfg) (h : History) : (e : Event) → Decidable (h.Ok cfg e)
  | .running _ _ _ => inferInstanceAs (Decidable (_ ∨ ite _ _ _))
  | .deinit => inferInstanceAs (Decidable (_ ∨ _))

def Leaves (g : Globals) : Attempt → Prop
  | .succeeded => Live g
  | .failed => g.transport = none
  | .freedAtExit => ∃ t, g.transport = some t ∧ t ∈ g.heap.freed

structure Follows (s : Session) (h : History) : Prop where
  closed : s.closed = h.closed
  interface : s.globals.netInterface = h.interface
  ip : s.globals.netIp = h.ip
  transport : s.closed = false → Leaves s.globals h.attempt

theorem Live.usable {g : Globals} (h : Live g) : g.usable = true := by
  obtain ⟨t, ht, -, hfreed⟩ := h
  simp [Globals.usable, ht, hfreed]

theorem not_live_of_freed {g : Globals} {t : ℕ} (ht : g.transport = some t)
    (hfreed : t ∈ g.heap.freed) : ¬ Live g := by
  rintro ⟨u, hu, -, hlive⟩
  obtain rfl : t = u := Option.some.inj (ht.symm.trans hu)
  exact hlive hfreed

theorem not_live_of_null {g : Globals} (h : g.transport = none) : ¬ Live g := by
  rintro ⟨t, ht, -⟩
  rw [h] at ht
  cases ht

theorem update_uses_live (g : Globals) : (∀ call ∈ (update g).1, Live call.2) ↔ Live g := by
  simp [update]

theorem update_of_live {g : Globals} (h : Live g) : (update g).2 = some (g, 0) := by
  simp [update, h.usable]

theorem live_iff_succeeded {g : Globals} {attempt : Attempt} (h : Leaves g attempt) :
    Live g ↔ attempt = .succeeded := by
  cases attempt with
  | succeeded => exact iff_of_true h rfl
  | failed => exact iff_of_false (not_live_of_null h) (by simp)
  | freedAtExit =>
    obtain ⟨t, ht, hfreed⟩ := h
    exact iff_of_false (not_live_of_freed ht hfreed) (by simp)

theorem freeTransport_spec {g : Globals} {attempt : Attempt} (h : Leaves g attempt)
    (hattempt : attempt ≠ .freedAtExit) :
    ∃ calls g', freeTransport g = (calls, some g') ∧ (∀ call ∈ calls, Live call.2) ∧
      g'.transport = none ∧ g'.netInterface = g.netInterface ∧ g'.netIp = g.netIp := by
  cases attempt with
  | succeeded =>
    have hlive : Live g := h
    obtain ⟨t, ht, -⟩ := id hlive
    refine ⟨[(.ddsTransportDeinit, g)], { g with transport := none, heap := g.heap.free t }, ?_,
      by simpa using hlive, rfl, rfl, rfl⟩
    simp [freeTransport, ht, hlive.usable]
  | failed =>
    have hnull : g.transport = none := h
    exact ⟨[], g, by simp [freeTransport, hnull], by simp, hnull, rfl, rfl⟩
  | freedAtExit => exact absurd rfl hattempt

theorem freeTransport_freed {g : Globals} (h : Leaves g .freedAtExit) :
    ∃ result, freeTransport g = ([(.ddsTransportDeinit, g)], result) := by
  obtain ⟨t, ht, -⟩ := h
  exact ⟨_, by rw [freeTransport, ht]⟩

theorem recreate_spec (d : Detected) (configured : Bool) (outcome : InitOutcome) {g : Globals}
    (h : g.transport = none) {attempt : Attempt} (ha : attempt = attemptOf configured outcome) :
    ∃ g', Leaves g' attempt ∧
      recreate d configured outcome g = (g', if attempt = .failed then -1 else 0) ∧
      (g'.netInterface, g'.netIp) =
        if attempt = .failed then (g.netInterface, g.netIp) else (d.interface, d.ipText) := by
  subst ha
  cases configured with
  | false =>
    have hfailed : attemptOf false outcome = .failed := by cases outcome <;> rfl
    rw [hfailed]
    exact ⟨g, h, rfl, rfl⟩
  | true =>
    cases outcome with
    | created =>
      refine ⟨_, ⟨g.heap.next, rfl, rfl, ?_⟩, rfl, rfl⟩
      intro hmem
      exact absurd (g.heap.fresh _ hmem) (lt_irrefl _)
    | noMemory => exact ⟨{ g with transport := none }, rfl, rfl, rfl⟩
    | failed => exact ⟨_, ⟨g.heap.next, rfl, List.mem_cons_self⟩, rfl, rfl⟩

theorem changed_eq {s : Session} {h : History} (hf : Follows s h) (cfg : RmtCfg) (d : Detected) :
    interfaceChanged cfg d s.globals = h.changed cfg d := by
  rw [interfaceChanged, History.changed, hf.interface, hf.ip]

theorem running_changed {cfg : RmtCfg} {d : Detected} {g : Globals} {attempt : Attempt}
    (hchanged : interfaceChanged cfg d g = true) (h : Leaves g attempt)
    (hattempt : attempt ≠ .freedAtExit) (configured : Bool) (outcome : InitOutcome)
    {attempt' : Attempt} (ha : attempt' = attemptOf configured outcome) :
    ∃ before g', (∀ call ∈ before, Live call.2) ∧ Leaves g' attempt' ∧
      rmtAgentRunning cfg d configured outcome g =
        (if attempt' = .failed then (before, some (g', -1))
        else (before ++ (update g').1, (update g').2)) ∧
      (g'.netInterface, g'.netIp) =
        if attempt' = .failed then (g.netInterface, g.netIp) else (d.interface, d.ipText) := by
  obtain ⟨before, g₁, hfree, hbefore, hnull, hiface, hip⟩ := freeTransport_spec h hattempt
  obtain ⟨g₂, hleaves, hrec, hnames⟩ := recreate_spec d configured outcome hnull ha
  refine ⟨before, g₂, hbefore, hleaves, ?_, by rw [hnames, hiface, hip]⟩
  by_cases hfailed : attempt' = .failed
  · rw [if_pos hfailed] at hrec ⊢
    simp [rmtAgentRunning, hchanged, hfree, hrec]
  · rw [if_neg hfailed] at hrec ⊢
    simp [rmtAgentRunning, hchanged, hfree, hrec]

theorem running_unchanged {cfg : RmtCfg} {d : Detected} {g : Globals}
    (h : interfaceChanged cfg d g = false) (configured : Bool) (outcome : InitOutcome) :
    rmtAgentRunning cfg d configured outcome g = update g := by
  simp [rmtAgentRunning, h]

theorem uses_live_iff (cfg : RmtCfg) (s : Session) (h : History) (e : Event)
    (hf : Follows s h) : UsesLive cfg s e ↔ h.Ok cfg e := by
  by_cases hclosed : s.closed = true
  · have hh : h.closed = true := by rw [← hf.closed, hclosed]
    simp [UsesLive, calls, hclosed, History.Ok, hh]
  · have hopen : s.closed = false := Bool.eq_false_iff.mpr hclosed
    have hh : h.closed = false := by rw [← hf.closed, hopen]
    have hleaves := hf.transport hopen
    cases e with
    | deinit =>
      have hlive := live_iff_succeeded hleaves
      simp [UsesLive, calls, hopen, History.Ok, hh, rmtAgentDeinit, hlive]
    | running d configured outcome =>
      have hsame := changed_eq hf cfg d
      simp only [UsesLive, calls, hopen, History.Ok, hh, Bool.false_eq_true, if_false, false_or]
      by_cases hchanged : h.changed cfg d = true
      · rw [if_pos hchanged]
        rw [hchanged] at hsame
        by_cases hfreed : h.attempt = .freedAtExit
        · -- the deletion at the start of the call already meets the freed transport
          rw [hfreed] at hleaves
          obtain ⟨result, hfree⟩ := freeTransport_freed hleaves
          have hdead : ¬ Live s.globals := by
            obtain ⟨t, ht, hmem⟩ := hleaves
            exact not_live_of_freed ht hmem
          have hfirst : (.ddsTransportDeinit, s.globals) ∈
              (rmtAgentRunning cfg d configured outcome s.globals).1 := by
            rw [rmtAgentRunning, if_pos hsame, hfree]
            cases result with
            | none => exact List.mem_singleton_self _
            | some g =>
              simp only
              split <;> simp
          constructor
          · intro hall
            exact absurd (hall _ hfirst) hdead
          · intro hok
            exact absurd hfreed hok.1
        · obtain ⟨before, g', hbefore, hleaves', hrun, -⟩ :=
            running_changed hsame hleaves hfreed configured outcome rfl
          have hlive := live_iff_succeeded hleaves'
          rw [hrun]
          cases ha : attemptOf configured outcome with
          | failed => simpa [hfreed] using hbefore
          | succeeded =>
            rw [ha] at hlive
            have hg' : Live g' := hlive.mpr rfl
            simp only [reduceCtorEq, if_false, List.forall_mem_append, update_uses_live]
            exact iff_of_true ⟨hbefore, hg'⟩ ⟨hfreed, by simp⟩
          | freedAtExit =>
            rw [ha] at hlive
            have hdead : ¬ Live g' := fun hlive' => by simpa using hlive.mp hlive'
            simp only [reduceCtorEq, if_false, List.forall_mem_append, update_uses_live]
            exact iff_of_false (fun hall => hdead hall.2) (fun hok => hok.2 rfl)
      · have hkeep : interfaceChanged cfg d s.globals = false := by
          rw [hsame]
          exact Bool.eq_false_iff.mpr hchanged
        rw [if_neg hchanged, running_unchanged hkeep, update_uses_live]
        exact live_iff_succeeded hleaves

theorem step_follows (cfg : RmtCfg) (s : Session) (h : History) (e : Event)
    (hf : Follows s h) (hok : h.Ok cfg e) :
    ∃ s', step cfg s e = some s' ∧ Follows s' (h.next cfg e) := by
  by_cases hclosed : s.closed = true
  · have hh : h.closed = true := by rw [← hf.closed, hclosed]
    refine ⟨s, by simp [step, hclosed], ?_⟩
    cases e with
    | running d configured outcome => simpa [History.next, hh] using hf
    | deinit =>
      rw [History.next, ← hh]
      exact hf
  · have hopen : s.closed = false := Bool.eq_false_iff.mpr hclosed
    have hh : h.closed = false := by rw [← hf.closed, hopen]
    have hleaves := hf.transport hopen
    simp only [History.Ok, hh, Bool.false_eq_true, false_or] at hok
    cases e with
    | deinit =>
      have hlive : Live s.globals := (live_iff_succeeded hleaves).mpr hok
      obtain ⟨t, ht, -⟩ := id hlive
      refine ⟨⟨{ s.globals with heap := s.globals.heap.free t }, true⟩, ?_, ?_⟩
      · simp [step, hopen, rmtAgentDeinit, hlive.usable, ht]
      · exact ⟨rfl, hf.interface, hf.ip, by simp⟩
    | running d configured outcome =>
      have hsame := changed_eq hf cfg d
      simp only at hok
      by_cases hchanged : h.changed cfg d = true
      · rw [if_pos hchanged] at hok
        rw [hchanged] at hsame
        obtain ⟨hfreed, hexit⟩ := hok
        obtain ⟨before, g', -, hleaves', hrun, hnames⟩ :=
          running_changed hsame hleaves hfreed configured outcome rfl
        refine ⟨⟨g', false⟩, ?_, ?_⟩
        · cases ha : attemptOf configured outcome with
          | failed => simp [step, hopen, hrun, ha]
          | freedAtExit => exact absurd ha hexit
          | succeeded =>
            rw [ha] at hleaves'
            simp [step, hopen, hrun, ha, update_of_live hleaves']
        · cases ha : attemptOf configured outcome with
          | freedAtExit => exact absurd ha hexit
          | failed =>
            simp only [ha, if_true, Prod.mk.injEq] at hnames hleaves'
            simp only [History.next, hh, hchanged, and_self, if_true, ha]
            exact ⟨rfl, hnames.1.trans hf.interface, hnames.2.trans hf.ip,
              fun _ => hleaves'⟩
          | succeeded =>
            simp only [ha, reduceCtorEq, if_false, Prod.mk.injEq] at hnames hleaves'
            simp only [History.next, hh, hchanged, and_self, if_true, ha]
            exact ⟨rfl, hnames.1, hnames.2, fun _ => hleaves'⟩
      · have hkeep : interfaceChanged cfg d s.globals = false := by
          rw [hsame]
          exact Bool.eq_false_iff.mpr hchanged
        rw [if_neg hchanged] at hok
        have hlive : Live s.globals := (live_iff_succeeded hleaves).mpr hok
        refine ⟨⟨s.globals, false⟩, ?_, ?_⟩
        · simp [step, hopen, running_unchanged hkeep, update_of_live hlive]
        · rw [History.next, if_neg (by simp [hchanged])]
          exact ⟨hh.symm, hf.interface, hf.ip, fun _ => hleaves⟩

theorem leaves_init {cfg : RmtCfg} {d : Detected} {configured : Bool} {outcome : InitOutcome}
    {g g' : Globals} (hinit : rmtAgentInit cfg d configured outcome g = (g', 0)) :
    Leaves g' (attemptOf configured outcome) := by
  cases configured with
  | false => simp [rmtAgentInit] at hinit
  | true =>
    cases outcome with
    | noMemory => simp [rmtAgentInit, ddsTransportAgentInit] at hinit
    | created =>
      obtain ⟨rfl, -⟩ := Prod.mk.inj hinit
      refine ⟨_, rfl, rfl, ?_⟩
      intro hmem
      exact absurd ((rmtConfigRuntimeInit cfg d g).heap.fresh _ hmem) (lt_irrefl _)
    | failed =>
      obtain ⟨rfl, -⟩ := Prod.mk.inj hinit
      exact ⟨_, rfl, List.mem_cons_self⟩

def startHistory (g : Globals) (configured : Bool) (outcome : InitOutcome) : History :=
  ⟨g.netInterface, g.netIp, attemptOf configured outcome, false⟩

/-- Every use of `g_transport` in a session meets a live transport exactly if no attempt frees
what it returns, and no event between a failed attempt and the next successful one needs a
transport: no call that sees the recorded interface and IP again, and no deinitialisation. -/
theorem uses_live_transport_iff (cfg : RmtCfg) (d : Detected) (configured : Bool)
    (outcome : InitOutcome) (g g' : Globals)
    (hinit : rmtAgentInit cfg d configured outcome g = (g', 0)) (es : List Event) :
    AllSteps (step cfg) (UsesLive cfg) ⟨g', false⟩ es ↔
      RunsWithin (History.next cfg) (History.Ok cfg) (startHistory g' configured outcome) es := by
  apply allSteps_iff_runsWithin (R := Follows)
  · exact uses_live_iff cfg
  · exact step_follows cfg
  · exact ⟨rfl, rfl, rfl, fun _ => leaves_init hinit⟩

def roamingCfg : RmtCfg :=
  { netInterface := [], autoDetectInterface := true, deviceId := 7, devinfoSize := 8 }

def wifi : Detected := ⟨"wlan0".toList, "10.0.0.2".toList⟩

def wifiStart : Globals := (rmtAgentInit roamingCfg wifi true .created initial).1

/-- The interface is lost and comes back with another IP, then the session ends. -/
theorem uses_live_transport_iff_new_ip :
    AllSteps (step roamingCfg) (UsesLive roamingCfg) ⟨wifiStart, false⟩
      [.running ⟨[], []⟩ false .created, .running ⟨"wlan0".toList, "10.0.0.3".toList⟩ true .created,
        .deinit] :=
  (uses_live_transport_iff roamingCfg wifi true .created initial wifiStart rfl _).mpr (by decide)

/-- The interface is lost, the communication cannot be set up without it, and the same interface
with the same IP comes back: the updates get `NULL`. -/
theorem null_transport_used_after_outage :
    rmtAgentInit roamingCfg wifi true .created initial = (wifiStart, 0) ∧
    ¬ AllSteps (step roamingCfg) (UsesLive roamingCfg) ⟨wifiStart, false⟩
      [.running ⟨[], []⟩ false .created, .running wifi true .created] := by
  refine ⟨rfl, ?_⟩
  intro h
  have hlast := @AllSteps.last _ _ _ _ _ _ [_] _ h rfl
  exact not_live_of_null rfl (hlast (.devinfoAgentUpdate, _) List.mem_cons_self)

end AgentLifecycle
