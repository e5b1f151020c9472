import RmtLibrary.GuardedExecution
import RmtLibrary.RmtAgent
import RmtLibrary.ChangeDetection

/-! # Whether the agent is announced on its transport

The transport and the change flag together, over several sessions of one process. The flag
knows nothing of transports that are replaced, of new sessions and of writes that fail. -/
namespace AgentAnnouncement

open CString (Text nul)
open Idl (DeviceInfoMsg)
open DevinfoAgent
open RmtAgent (Globals Detected InitOutcome interfaceChanged)
open ChangeDetection
open GuardedExecution

/-- The globals of both files, the successful writes of device information with the transport
they went to, newest first, and what the code does not keep: the texts of the update before,
with the devinfo text a session starts with, and whether an update was made since the transport
was created and the session began. -/
structure State where
  cfg : RmtCfg
  globals : Globals
  devinfo : DevinfoAgent.State
  written : List (ℕ × DeviceInfoMsg)
  before : Texts
  settled : Bool

inductive Event where
  | init (cfg : RmtCfg) (agentDevinfoFunc : Bool) (d : Detected) (configured : Bool)
      (outcome : InitOutcome)
  | running (d : Detected) (configured : Bool) (outcome : InitOutcome) (o : Observation)
      (writes : Bool)
  | deinit

def initial (cfg : RmtCfg) : State :=
  { cfg
    globals := RmtAgent.initial
    devinfo := DevinfoAgent.initial
    written := []
    before := Texts.empty
    settled := false }

def record (transport : Option ℕ) (writes : Bool) (msg : Option DeviceInfoMsg)
    (written : List (ℕ × DeviceInfoMsg)) : List (ℕ × DeviceInfoMsg) :=
  match transport, msg with
  | some t, some m => if writes then (t, m) :: written else written
  | _, _ => written

/-- `rmt_agent_running` with what it does to the device information. -/
def running (projectVersion : Text) (d : Detected) (configured : Bool) (outcome : InitOutcome)
    (o : Observation) (writes : Bool) (s : State) : Option (State × ℤ) := do
  let (globals, ret) ← (RmtAgent.rmtAgentRunning s.cfg d configured outcome s.globals).2
  if ret = 0 then
    let (devinfo, msg) ←
      devinfoAgentUpdate projectVersion s.cfg.devinfoSize globals.netInterface o s.devinfo
    let before := observe s.devinfo.agentDevinfoFunc globals.netInterface o s.before
    let written := record globals.transport writes msg s.written
    some ({ s with globals, devinfo, written, before, settled := true }, 0)
  else some ({ s with globals, settled := false }, ret)

def step (projectVersion : Text) (s : State) : Event → Option State
  | .init cfg agentDevinfoFunc d configured outcome =>
    let (globals, _) := RmtAgent.rmtAgentInit cfg d configured outcome s.globals
    let devinfo := devinfoAgentInit cfg agentDevinfoFunc s.devinfo
    let before := { s.before with devinfo := [] }
    some { s with cfg, globals, devinfo, before, settled := false }
  | .running d configured outcome o writes =>
    (running projectVersion d configured outcome o writes s).map Prod.fst
  | .deinit => do
    let globals ← (RmtAgent.rmtAgentDeinit s.globals).2
    some { s with globals, devinfo := devinfoAgentDeinit s.devinfo }

/-- The latest successful write went to the current transport and carries what was observed. -/
def Announced (o : Observation) (s : State) : Prop :=
  ∃ t m, s.globals.transport = some t ∧ s.written.head? = some (t, m) ∧
    m.host = o.hostname ∧ m.mac = o.mac ∧
    (s.globals.netInterface ≠ [] → m.ip = o.ip) ∧
    m.devinfo = if s.devinfo.agentDevinfoFunc then o.devinfo else []

def Fits (devinfoSize : ℕ) (o : Observation) : Prop :=
  (nul ∉ o.hostname ∧ o.hostname.length < 1024) ∧ (nul ∉ o.ip ∧ o.ip.length < 40) ∧
  (nul ∉ o.mac ∧ o.mac.length < 20) ∧ (nul ∉ o.devinfo ∧ o.devinfo.length < devinfoSize)

def Reaches (s : State) (d : Detected) (configured : Bool) (outcome : InitOutcome) : Prop :=
  interfaceChanged s.cfg d s.globals = true → configured = true ∧ outcome ≠ .noMemory

def observed (s : State) (d : Detected) (o : Observation) : Texts :=
  observe s.devinfo.agentDevinfoFunc
    (if interfaceChanged s.cfg d s.globals then d.interface else s.globals.netInterface) o s.before

/-- A write that is made succeeds. A call that makes none, because the texts are those of the
update before, finds a transport on which that update was made. -/
def Ok (s : State) : Event → Prop
  | .running d configured outcome o writes =>
    Fits s.cfg.devinfoSize o ∧ (Reaches s d configured outcome →
      if s.devinfo.infoChange = true ∨ observed s d o ≠ s.before then writes = true
      else s.settled = true ∧ interfaceChanged s.cfg d s.globals = false)
  | _ => True

instance (devinfoSize : ℕ) (o : Observation) : Decidable (Fits devinfoSize o) :=
  inferInstanceAs (Decidable (_ ∧ _))

instance (s : State) (d : Detected) (configured : Bool) (outcome : InitOutcome) :
    Decidable (Reaches s d configured outcome) := inferInstanceAs (Decidable (_ → _))

instance (s : State) : (e : Event) → Decidable (Ok s e)
  | .running _ _ _ _ _ => inferInstanceAs (Decidable (_ ∧ (_ → ite _ _ _)))
  | .init _ _ _ _ _ => inferInstanceAs (Decidable True)
  | .deinit => inferInstanceAs (Decidable True)

structure Invariant (s : State) : Prop where
  device : HoldsDevice s.before s.devinfo.dev
  devinfo : ∀ m, s.devinfo.devinfo = some m → 0 < s.cfg.devinfoSize →
    CString.cstr m 0 = some s.before.devinfo
  announced : s.settled = true → ∃ t m, s.globals.transport = some t ∧
    s.written.head? = some (t, m) ∧ Texts.ofMsg m = s.before

theorem invariant_initial (cfg : RmtCfg) : Invariant (initial cfg) where
  device := holdsDevice_initial
  devinfo m hm := by cases hm
  announced h := by cases h

theorem update_returns {g g' : Globals} {ret : ℤ}
    (h : (RmtAgent.update g).2 = some (g', ret)) : g' = g ∧ ret = 0 ∧ g.usable = true := by
  by_cases huse : g.usable = true
  · rw [RmtAgent.update, if_pos huse] at h
    obtain ⟨hg, hret⟩ := Prod.mk.inj (Option.some.inj h)
    exact ⟨hg.symm, hret.symm, huse⟩
  · rw [RmtAgent.update, if_neg huse] at h
    cases h

theorem recreate_returns_zero {d : Detected} {configured : Bool} {outcome : InitOutcome}
    {g g' : Globals} (h : RmtAgent.recreate d configured outcome g = (g', 0)) :
    configured = true ∧ outcome ≠ .noMemory ∧ g'.netInterface = d.interface := by
  cases configured with
  | false => simp [RmtAgent.recreate] at h
  | true =>
    cases outcome with
    | noMemory => simp [RmtAgent.recreate, RmtAgent.ddsTransportAgentInit] at h
    | created =>
      obtain ⟨rfl, -⟩ := Prod.mk.inj h
      exact ⟨rfl, by simp, rfl⟩
    | failed =>
      obtain ⟨rfl, -⟩ := Prod.mk.inj h
      exact ⟨rfl, by simp, rfl⟩

theorem running_returns_zero {cfg : RmtCfg} {d : Detected} {configured : Bool}
    {outcome : InitOutcome} {g g' : Globals}
    (h : (RmtAgent.rmtAgentRunning cfg d configured outcome g).2 = some (g', 0)) :
    g'.usable = true ∧
      if interfaceChanged cfg d g = true then
        configured = true ∧ outcome ≠ .noMemory ∧ g'.netInterface = d.interface
      else g' = g := by
  by_cases hchanged : interfaceChanged cfg d g = true
  · rw [if_pos hchanged]
    rw [RmtAgent.rmtAgentRunning, if_pos hchanged] at h
    rcases hfree : RmtAgent.freeTransport g with ⟨calls, _ | g₁⟩
    · simp [hfree] at h
    · rcases hrec : RmtAgent.recreate d configured outcome g₁ with ⟨g₂, ret⟩
      simp only [hfree, hrec] at h
      split at h
      · next heq =>
        obtain ⟨rfl, rfl⟩ := Prod.mk.inj heq
        obtain ⟨rfl, -, huse⟩ := update_returns h
        exact ⟨huse, recreate_returns_zero hrec⟩
      · next hne heq =>
        obtain ⟨rfl, rfl⟩ := Prod.mk.inj heq
        obtain ⟨-, hret⟩ := Prod.mk.inj (Option.some.inj h)
        exact absurd hret hne
  · rw [if_neg hchanged]
    rw [RmtAgent.rmtAgentRunning, if_neg hchanged] at h
    obtain ⟨rfl, -, huse⟩ := update_returns h
    exact ⟨huse, rfl⟩

theorem within_of_fits {devinfoSize : ℕ} {o : Observation} (hfits : Fits devinfoSize o)
    {t : Texts} {dev : DeviceInfo} (h : HoldsDevice t dev) (agentDevinfoFunc : Bool)
    (netInterface : Text) : (observe agentDevinfoFunc netInterface o t).Within devinfoSize := by
  obtain ⟨hhost, hip, hmac, hnul, hlen⟩ := hfits
  refine ⟨hhost, ?_, hmac, ?_⟩
  · by_cases hi : netInterface = []
    · simp only [observe, if_pos hi]
      exact ⟨h.ipNul, h.ipSize⟩
    · simp only [observe, if_neg hi]
      exact hip
  · cases agentDevinfoFunc
    · exact ⟨by simp [observe], by simp only [observe]; exact Nat.zero_lt_of_lt hlen⟩
    · exact ⟨hnul, hlen⟩

theorem announced_of_texts {o : Observation} {s : State} {t : ℕ} {m : DeviceInfoMsg}
    (before : Texts) (ht : s.globals.transport = some t) (hm : s.written.head? = some (t, m))
    (htexts : Texts.ofMsg m =
      observe s.devinfo.agentDevinfoFunc s.globals.netInterface o before) : Announced o s := by
  obtain ⟨hhost, hip, hmac, hdevinfo⟩ := Texts.mk.inj htexts
  refine ⟨t, m, ht, hm, hhost, hmac, ?_, hdevinfo⟩
  intro hi
  rw [hip, if_neg hi]

theorem running_spec {projectVersion : Text} {s s' : State} {d : Detected} {configured : Bool}
    {outcome : InitOutcome} {o : Observation} {writes : Bool} {ret : ℤ} (hinv : Invariant s)
    (hok : Ok s (.running d configured outcome o writes))
    (hrun : running projectVersion d configured outcome o writes s = some (s', ret)) :
    Invariant s' ∧ (ret = 0 → Announced o s') := by
  obtain ⟨⟨g, ret'⟩, hglobals, hrun⟩ := Option.bind_eq_some_iff.mp hrun
  by_cases hret : ret' = 0
  · subst hret
    simp only [if_true] at hrun
    obtain ⟨⟨dev, msg⟩, hupdate, hrun⟩ := Option.bind_eq_some_iff.mp hrun
    obtain ⟨rfl, rfl⟩ := Prod.mk.inj (Option.some.inj hrun)
    obtain ⟨huse, hglobal⟩ := running_returns_zero hglobals
    obtain ⟨hfits, hclause⟩ := hok
    obtain ⟨t, ht⟩ : ∃ t, g.transport = some t := by
      cases htr : g.transport with
      | none => simp [RmtAgent.Globals.usable, htr] at huse
      | some t => exact ⟨t, rfl⟩
    have hreaches : Reaches s d configured outcome := by
      intro hchanged
      rw [if_pos hchanged] at hglobal
      exact ⟨hglobal.1, hglobal.2.1⟩
    have hiface : (if interfaceChanged s.cfg d s.globals = true then d.interface
        else s.globals.netInterface) = g.netInterface := by
      by_cases hchanged : interfaceChanged s.cfg d s.globals = true
      · rw [if_pos hchanged] at hglobal ⊢
        exact hglobal.2.2.symm
      · rw [if_neg hchanged] at hglobal ⊢
        rw [hglobal]
    have hclause := hclause hreaches
    rw [observed, hiface] at hclause
    cases hbuffer : s.devinfo.devinfo with
    | none => simp [devinfoAgentUpdate, getDeviceInfo, hbuffer] at hupdate
    | some buffer =>
      have hsize : 0 < s.cfg.devinfoSize := Nat.zero_lt_of_lt hfits.2.2.2.2
      have hholds : Holds s.before s.devinfo :=
        ⟨hinv.device, buffer, hbuffer, hinv.devinfo buffer hbuffer hsize⟩
      obtain ⟨dev', msg', hspec, hholds', hfunc, -, hmsg⟩ := devinfoAgentUpdate_spec hholds
        projectVersion g.netInterface o (within_of_fits hfits hinv.device _ _)
      obtain ⟨rfl, rfl⟩ := Prod.mk.inj (Option.some.inj (hupdate.symm.trans hspec))
      obtain ⟨m, hhead, htexts⟩ : ∃ m,
          (record g.transport writes msg s.written).head? = some (t, m) ∧ Texts.ofMsg m =
            observe s.devinfo.agentDevinfoFunc g.netInterface o s.before := by
        by_cases hwrite : s.devinfo.infoChange = true ∨
            observe s.devinfo.agentDevinfoFunc g.netInterface o s.before ≠ s.before
        · rw [if_pos hwrite] at hclause hmsg
          obtain ⟨m, rfl, hm⟩ := Option.map_eq_some_iff.mp hmsg
          exact ⟨m, by simp [record, ht, hclause], hm⟩
        · -- nothing is written: the update before was made on this transport
          rw [if_neg hwrite] at hclause hmsg
          rw [if_neg (by simp [hclause.2])] at hglobal
          obtain ⟨t', m, ht', hhead, hm⟩ := hinv.announced hclause.1
          obtain rfl : t = t' := by
            rw [hglobal, ht'] at ht
            exact (Option.some.inj ht).symm
          have hsame : observe s.devinfo.agentDevinfoFunc g.netInterface o s.before = s.before :=
            not_not.mp (not_or.mp hwrite).2
          rw [Option.map_eq_none_iff] at hmsg
          exact ⟨m, by simp [record, hmsg, hhead], by rw [hm, hsame]⟩
      constructor
      · constructor
        · exact hholds'.toHoldsDevice
        · intro b hb _
          obtain ⟨b', hb', htext⟩ := hholds'.devinfo
          obtain rfl : b = b' := Option.some.inj (hb.symm.trans hb')
          exact htext
        · exact fun _ => ⟨t, m, ht, hhead, htexts⟩
      · intro _
        refine announced_of_texts s.before ht hhead ?_
        rw [htexts]
        simp only [hfunc]
  · simp only [if_neg hret] at hrun
    obtain ⟨rfl, rfl⟩ := Prod.mk.inj (Option.some.inj hrun)
    exact ⟨⟨hinv.device, hinv.devinfo, by simp⟩, fun h => absurd h hret⟩

theorem invariant_step {projectVersion : Text} {s s' : State} {e : Event} (hinv : Invariant s)
    (hok : Ok s e) (hstep : step projectVersion s e = some s') : Invariant s' := by
  cases e with
  | init cfg agentDevinfoFunc d configured outcome =>
    obtain rfl := Option.some.inj hstep
    refine ⟨?_, ?_, by simp⟩
    · -- the texts that `g_dev` holds do not change
      have h := hinv.device
      exact ⟨h.host, h.hostSize, h.hostEnd, h.ip, h.ipNul, h.ipSize, h.mac, h.macSize⟩
    intro m hm hsize
    obtain rfl := Option.some.inj hm
    exact cstr_zeros hsize
  | running d configured outcome o writes =>
    obtain ⟨⟨s₁, ret⟩, hrun, rfl⟩ := Option.map_eq_some_iff.mp hstep
    exact (running_spec hinv hok hrun).1
  | deinit =>
    obtain ⟨g, hdeinit, hs⟩ := Option.bind_eq_some_iff.mp hstep
    obtain rfl := Option.some.inj hs
    refine ⟨hinv.device, (fun m hm => by cases hm), ?_⟩
    intro hsettled
    obtain ⟨t, m, ht, hhead, htexts⟩ := hinv.announced hsettled
    refine ⟨t, m, ?_, hhead, htexts⟩
    have hsame : g.transport = s.globals.transport := by
      rw [RmtAgent.rmtAgentDeinit] at hdeinit
      split at hdeinit
      · rw [ht] at hdeinit ⊢
        obtain rfl := Option.some.inj hdeinit
        rfl
      · cases hdeinit
    exact hsame.trans ht

theorem invariant_execution {projectVersion : Text} {cfg : RmtCfg} {s : State}
    (h : Execution (step projectVersion) Ok (initial cfg) s) : Invariant s :=
  h.invariant (invariant_initial cfg) fun _ _ _ hinv hok hstep => invariant_step hinv hok hstep

/-- In every run inside the condition the agent is announced whenever `rmt_agent_running`
returns 0. -/
theorem running_announces (projectVersion : Text) (cfg : RmtCfg) {s s' : State} {d : Detected}
    {configured : Bool} {outcome : InitOutcome} {o : Observation} {writes : Bool}
    (h : Execution (step projectVersion) Ok (initial cfg) s)
    (hok : Ok s (.running d configured outcome o writes))
    (hrun : running projectVersion d configured outcome o writes s = some (s', 0)) :
    Announced o s' :=
  (running_spec (invariant_execution h) hok hrun).2 rfl

def roverCfg : RmtCfg :=
  { netInterface := [], autoDetectInterface := true, deviceId := 7, devinfoSize := 8 }

def lan : Detected := ⟨"eth0".toList, "10.0.0.2".toList⟩

def roaming : Detected := ⟨"wlan0".toList, "10.0.0.3".toList⟩

def onLan : Observation :=
  ⟨"rover".toList, "10.0.0.2".toList, "00:30:64:0a:0b:0c".toList, "ok".toList, []⟩

def onRoaming : Observation :=
  ⟨"rover".toList, "10.0.0.3".toList, "00:30:64:0d:0e:0f".toList, "ok".toList, []⟩

theorem running_announces_roaming : ∃ s s',
    running "0.9.8".toList roaming true .created onRoaming true s = some (s', 0) ∧
      Announced onRoaming s' := by
  obtain ⟨s, -, h, hok, hret⟩ := exists_execution (step "0.9.8".toList) Ok (initial roverCfg)
    (fun s => Ok s (.running roaming true .created onRoaming true) ∧
      (running "0.9.8".toList roaming true .created onRoaming true s).any (·.2 = 0) = true)
    [.init roverCfg true lan true .created, .running lan true .created onLan true]
    (by decide +kernel)
  obtain ⟨⟨s', ret⟩, hrun, hzero⟩ := (Option.any_eq_true _ _).mp hret
  obtain rfl : ret = 0 := by simpa using hzero
  exact ⟨s, s', hrun, running_announces "0.9.8".toList roverCfg h hok hrun⟩

/-- In a second session with the information of the first, and without a function of the user,
`rmt_agent_running` returns 0 and nothing was ever written to the transport in use. -/
theorem second_session_not_announced : ∃ s, Reachable (step "0.9.8".toList) (initial roverCfg) s ∧
    ∃ s', running "0.9.8".toList lan true .created onLan true s = some (s', 0) ∧
      ∃ t, s'.globals.transport = some t ∧ s'.globals.created = some t ∧
        ∀ m, (t, m) ∉ s'.written := by
  obtain ⟨s, hs, hP⟩ := @exists_reachable _ _ (step "0.9.8".toList) (initial roverCfg)
    (fun s => (running "0.9.8".toList lan true .created onLan true s).any
      (fun r => r.2 = 0 ∧ r.1.globals.transport = some 1 ∧ r.1.globals.created = some 1 ∧
        r.1.written.map Prod.fst = [0]) = true) _
    [.init roverCfg false lan true .created, .running lan true .created onLan true, .deinit,
      .init roverCfg false lan true .created]
    (by decide +kernel)
  obtain ⟨⟨s', ret⟩, hrun, hchecks⟩ := (Option.any_eq_true _ _).mp hP
  obtain ⟨rfl, htransport, hcreated, hwritten⟩ := of_decide_eq_true hchecks
  refine ⟨s, hs, s', hrun, 1, htransport, hcreated, ?_⟩
  intro m hm
  have hname : 1 ∈ s'.written.map Prod.fst := List.mem_map_of_mem hm
  rw [hwritten] at hname
  simp at hname

end AgentAnnouncement
