import RmtLibrary.DevinfoAgent

/-! # Which updates write a message

The comparison of buffers in `get_device_info` against the comparison of the texts that were
observed. The kept buffers are not determined by the kept texts: what lies behind a terminator
depends on the whole past. -/
namespace ChangeDetection

open CString (Text Memory nul)
open DevinfoAgent
open Idl (DeviceInfoMsg)

/-- The observed information, without what is not compared. -/
@[ext] structure Texts where
  host : Text
  ip : Text
  mac : Text
  devinfo : Text
  deriving DecidableEq, Repr

def Texts.empty : Texts := ⟨[], [], [], []⟩

def Texts.Within (devinfoSize : ℕ) (t : Texts) : Prop :=
  (nul ∉ t.host ∧ t.host.length < 1024) ∧ (nul ∉ t.ip ∧ t.ip.length < 40) ∧
  (nul ∉ t.mac ∧ t.mac.length < 20) ∧ (nul ∉ t.devinfo ∧ t.devinfo.length < devinfoSize)

instance (devinfoSize : ℕ) (t : Texts) : Decidable (t.Within devinfoSize) :=
  inferInstanceAs (Decidable (_ ∧ _))

/-- What a call observes. Without an interface the IP query fails and the text before stays. -/
def observe (agentDevinfoFunc : Bool) (netInterface : Text) (o : Observation) (before : Texts) :
    Texts :=
  { host := o.hostname
    ip := if netInterface = [] then before.ip else o.ip
    mac := o.mac
    devinfo := if agentDevinfoFunc then o.devinfo else [] }

def Texts.ofMsg (msg : DeviceInfoMsg) : Texts := ⟨msg.host, msg.ip, msg.mac, msg.devinfo⟩

/-- The buffers of `g_dev` hold the texts. The last character of the host name is a terminator,
which is why clearing it changes nothing, and the IP is padded to its end. -/
structure HoldsDevice (t : Texts) (dev : DeviceInfo) : Prop where
  host : CString.cstr dev.hostname 0 = some t.host
  hostSize : dev.hostname.length = 1024
  hostEnd : dev.hostname[1023]? = some nul
  ip : dev.ip = t.ip ++ zeros (40 - t.ip.length)
  ipNul : nul ∉ t.ip
  ipSize : t.ip.length < 40
  mac : CString.cstr dev.mac 0 = some t.mac
  macSize : dev.mac.length = 20

structure Holds (t : Texts) (s : State) : Prop extends HoldsDevice t s.dev where
  devinfo : ∃ m, s.devinfo = some m ∧ CString.cstr m 0 = some t.devinfo

theorem cstr_zeros {n : ℕ} (hn : 0 < n) : CString.cstr (zeros n) 0 = some [] := by
  obtain ⟨k, rfl⟩ : ∃ k, n = k + 1 := ⟨n - 1, by omega⟩
  exact CString.cstr_after (List.not_mem_nil (a := nul)) [] (zeros k)

theorem holdsDevice_initial : HoldsDevice Texts.empty initial.dev where
  host := cstr_zeros (by omega)
  hostSize := List.length_replicate
  hostEnd := List.getElem?_replicate_of_lt (by omega)
  ip := rfl
  ipNul := by simp [Texts.empty]
  ipSize := by simp [Texts.empty]
  mac := cstr_zeros (by omega)
  macSize := List.length_replicate

theorem HoldsDevice.clear_end {t : Texts} {dev : DeviceInfo} (h : HoldsDevice t dev) :
    dev.hostname.set 1023 nul = dev.hostname := by
  have hlt : 1023 < dev.hostname.length := by rw [h.hostSize]; omega
  have hend : dev.hostname[1023] = nul := by
    have hget := h.hostEnd
    rw [List.getElem?_eq_getElem hlt] at hget
    exact Option.some.inj hget
  rw [← hend, List.set_getElem_self]

theorem padded_inj {a b : Text} (ha : nul ∉ a) (hb : nul ∉ b) {m n : ℕ}
    (hm : 0 < m) (hn : 0 < n) (h : a ++ zeros m = b ++ zeros n) : a = b := by
  obtain ⟨i, rfl⟩ : ∃ i, m = i + 1 := ⟨m - 1, by omega⟩
  obtain ⟨j, rfl⟩ : ∃ j, n = j + 1 := ⟨n - 1, by omega⟩
  have hreadA := CString.cstr_after ha [] (zeros i)
  have hreadB := CString.cstr_after hb [] (zeros j)
  simp only [zeros, List.replicate_succ, List.nil_append, List.length_nil] at h hreadA hreadB
  rw [h, hreadB] at hreadA
  exact (Option.some.inj hreadA).symm

theorem netGetIp_eq {interface observed : Text} (hi : interface ≠ []) {ip : Memory}
    (hsize : ip.length = 40) (hlen : observed.length < 40) :
    (netGetIp interface observed ip).1 = observed ++ zeros (40 - observed.length) := by
  obtain ⟨c, hc⟩ : ∃ c, ip.drop 39 = [c] := by
    apply List.length_eq_one_iff.mp
    rw [List.length_drop, hsize]
  have htake : observed.take 39 = observed := List.take_of_length_le (by omega)
  have hlast : zeros (40 - observed.length) = zeros (39 - observed.length) ++ [nul] := by
    rw [zeros, zeros, ← List.replicate_succ']
    congr 1
    omega
  have hset := CString.set_after (observed ++ zeros (39 - observed.length)) c nul []
  have hindex : (observed ++ zeros (39 - observed.length)).length = 39 := by
    rw [List.length_append, zeros, List.length_replicate]
    omega
  rw [hindex] at hset
  simp only [netGetIp, if_neg hi, hsize, CString.strncpy, Nat.reduceSub, htake, hc]
  rw [show List.replicate (39 - observed.length) nul = zeros (39 - observed.length) from rfl,
    hset, hlast, List.append_assoc]

/-- The three queries rewrite the buffers so that they hold the observed texts, and leave them
as they were if the texts are the old ones. -/
theorem queryDevice_spec {t : Texts} {s : State} (h : HoldsDevice t s.dev) (netInterface : Text)
    (o : Observation) {devinfoSize : ℕ} {t' : Texts}
    (ht : t' = observe s.agentDevinfoFunc netInterface o t) (hin' : t'.Within devinfoSize) :
    let dev := queryDevice netInterface o s.dev
    dev.model = s.dev.model ∧ dev.hostname = CString.writeText s.dev.hostname t'.host ∧
    dev.ip = t'.ip ++ zeros (40 - t'.ip.length) ∧
    dev.mac = CString.writeText s.dev.mac t'.mac ∧
    (s.dev = dev ↔ t'.host = t.host ∧ t'.ip = t.ip ∧ t'.mac = t.mac) := by
  obtain ⟨⟨hhostNul, hhost⟩, ⟨hipNul, hip⟩, ⟨hmacNul, hmac⟩, -⟩ := hin'
  have hhostEq : (queryDevice netInterface o s.dev).hostname =
      CString.writeText s.dev.hostname t'.host := by
    have hfit : o.hostname.length < s.dev.hostname.length := by
      rw [h.hostSize]
      rw [ht] at hhost
      exact hhost
    rw [queryDevice, gethostname, if_pos hfit, ht]
    rfl
  have hmacEq : (queryDevice netInterface o s.dev).mac = CString.writeText s.dev.mac t'.mac := by
    have hfit : o.mac.length < s.dev.mac.length := by
      rw [h.macSize]
      rw [ht] at hmac
      exact hmac
    rw [queryDevice, netGetMac, CString.snprintf_eq hfit, ht]
    rfl
  have hipEq : (queryDevice netInterface o s.dev).ip = t'.ip ++ zeros (40 - t'.ip.length) := by
    have hsize : s.dev.ip.length = 40 := by
      have hlt := h.ipSize
      rw [h.ip, List.length_append, zeros, List.length_replicate]
      omega
    by_cases hi : netInterface = []
    · have hsame : t'.ip = t.ip := by rw [ht, observe, if_pos hi]
      rw [queryDevice, netGetIp, if_pos hi, hsame]
      exact h.ip
    · have hnew : t'.ip = o.ip := by rw [ht, observe, if_neg hi]
      rw [hnew] at hip ⊢
      exact netGetIp_eq hi hsize hip
  refine ⟨rfl, hhostEq, hipEq, hmacEq, ?_⟩
  have hhostSame := CString.writeText_eq_self_iff hhostNul s.dev.hostname
  have hmacSame := CString.writeText_eq_self_iff hmacNul s.dev.mac
  rw [h.host, ← hhostEq] at hhostSame
  rw [h.mac, ← hmacEq] at hmacSame
  constructor
  · intro he
    have hpad := hipEq
    rw [← he, h.ip] at hpad
    have hlt := h.ipSize
    exact ⟨(Option.some.inj (hhostSame.mp (congrArg _ he).symm)).symm,
      (padded_inj h.ipNul hipNul (by omega) (by omega) hpad).symm,
      (Option.some.inj (hmacSame.mp (congrArg _ he).symm)).symm⟩
  · rintro ⟨hhostText, hipText, hmacText⟩
    have hhost' := hhostSame.mpr (congrArg some hhostText.symm)
    have hmac' := hmacSame.mpr (congrArg some hmacText.symm)
    have hip' : s.dev.ip = (queryDevice netInterface o s.dev).ip := by rw [hipEq, hipText, h.ip]
    cases hd : s.dev with
    | mk model hostname ip mac =>
      rw [hd] at hhost' hmac' hip'
      rw [DeviceInfo.mk.injEq]
      exact ⟨rfl, hhost'.symm, hip', hmac'.symm⟩

theorem queryDevinfo_spec {s : State} {o : Observation} {devinfoSize : ℕ} {netInterface : Text}
    {t t' : Texts} (ht : t' = observe s.agentDevinfoFunc netInterface o t)
    (hnul : nul ∉ t'.devinfo) (hlen : t'.devinfo.length < devinfoSize) :
    ∃ m, queryDevinfo devinfoSize o s = some m ∧ CString.cstr m 0 = some t'.devinfo := by
  by_cases hf : s.agentDevinfoFunc
  · have hnew : t'.devinfo = o.devinfo := by rw [ht, observe, if_pos hf]
    rw [hnew] at hnul hlen ⊢
    refine ⟨_, ?_, CString.cstr_writeText hnul (zeros devinfoSize)⟩
    rw [queryDevinfo, if_pos hf, CString.strcpy, if_pos (by simpa [zeros] using hlen)]
  · have hnew : t'.devinfo = [] := by rw [ht, observe, if_neg hf]
    rw [hnew] at hlen ⊢
    exact ⟨_, by rw [queryDevinfo, if_neg hf], cstr_zeros hlen⟩

theorem HoldsDevice.congr {t : Texts} {dev dev' : DeviceInfo} (h : HoldsDevice t dev)
    (hhost : dev'.hostname = dev.hostname) (hip : dev'.ip = dev.ip) (hmac : dev'.mac = dev.mac) :
    HoldsDevice t dev' where
  host := by rw [hhost]; exact h.host
  hostSize := by rw [hhost]; exact h.hostSize
  hostEnd := by rw [hhost]; exact h.hostEnd
  ip := by rw [hip]; exact h.ip
  ipNul := h.ipNul
  ipSize := h.ipSize
  mac := by rw [hmac]; exact h.mac
  macSize := by rw [hmac]; exact h.macSize

theorem writeText_end {t : Text} {dst : Memory} (hend : dst[1023]? = some nul)
    (hlen : t.length < 1024) :
    (CString.writeText dst t)[1023]? = some nul := by
  by_cases hlast : t.length = 1023
  · rw [CString.writeText, List.getElem?_append_right (by omega), hlast, Nat.sub_self]
    rfl
  · have hdrop : (dst.drop (t.length + 1))[1023 - (t.length + 1)]? = some nul := by
      rw [List.getElem?_drop, ← hend]
      congr 1
      omega
    rw [CString.writeText, List.getElem?_append_right (by omega),
      show 1023 - t.length = 1023 - (t.length + 1) + 1 by omega, List.getElem?_cons_succ]
    exact hdrop

theorem getDeviceInfo_spec {t : Texts} {s : State} (h : Holds t s) {devinfoSize : ℕ}
    (netInterface : Text) (o : Observation)
    (hin' : (observe s.agentDevinfoFunc netInterface o t).Within devinfoSize) :
    let t' := observe s.agentDevinfoFunc netInterface o t
    ∃ s', getDeviceInfo devinfoSize netInterface o s = some s' ∧ Holds t' s' ∧
      (∃ model, CString.cstr s'.dev.model 0 = some model) ∧
      s'.agentDevinfoFunc = s.agentDevinfoFunc ∧ s'.deviceID = s.deviceID ∧
      s'.infoChange = (s.infoChange || decide (t' ≠ t)) := by
  obtain ⟨t', ht⟩ : ∃ t', t' = observe s.agentDevinfoFunc netInterface o t := ⟨_, rfl⟩
  rw [← ht] at hin' ⊢
  obtain ⟨-, hhost, hip, hmac, hsame⟩ := queryDevice_spec h.toHoldsDevice netInterface o ht hin'
  obtain ⟨⟨hhostNul, hhostLen⟩, ⟨hipNul, hipLen⟩, ⟨hmacNul, hmacLen⟩, hdevNul, hdevLen⟩ := hin'
  obtain ⟨old, hold, holdText⟩ := h.devinfo
  obtain ⟨new, hnew, hnewText⟩ := queryDevinfo_spec ht hdevNul hdevLen
  have hmodel : nul ∈ CString.snprintf (zeros 256) o.model := by
    simp [CString.snprintf, CString.writeText]
  have hdev : { s.dev with hostname := s.dev.hostname.set 1023 nul } = s.dev := by
    rw [h.clear_end]
  have hcopy : CString.strcpy (zeros devinfoSize) t'.devinfo =
      some (CString.writeText (zeros devinfoSize) t'.devinfo) := by
    rw [CString.strcpy, if_pos (by simpa [zeros] using hdevLen)]
  simp only [getDeviceInfo, hold, hnew, holdText, hnewText, hdev, Option.bind_eq_bind,
    Option.bind_some]
  by_cases hchange : t' = t
  · have hkeep : s.dev = queryDevice netInterface o s.dev :=
      hsame.mpr ⟨by rw [hchange], by rw [hchange], by rw [hchange]⟩
    have htext : t.devinfo = t'.devinfo := by rw [hchange]
    rw [if_neg (by rw [← hkeep, htext]; simp)]
    refine ⟨_, rfl, ?_, CString.cstr_isSome hmodel, rfl, rfl, by simp [hchange]⟩
    rw [hchange]
    exact ⟨h.congr h.clear_end rfl rfl, old, rfl, holdText⟩
  · have hdiffer : s.dev ≠ queryDevice netInterface o s.dev ∨ t.devinfo ≠ t'.devinfo := by
      by_contra hno
      push Not at hno
      obtain ⟨hhost', hip', hmac'⟩ := hsame.mp hno.1
      exact hchange (Texts.ext hhost' hip' hmac' hno.2.symm)
    rw [if_pos hdiffer, hcopy]
    have hlenHost : t'.host.length < s.dev.hostname.length := by
      rw [h.hostSize]
      exact hhostLen
    have hlenMac : t'.mac.length < s.dev.mac.length := by
      rw [h.macSize]
      exact hmacLen
    refine ⟨_, rfl, ?_, CString.cstr_isSome hmodel, rfl, rfl, by simp [hchange]⟩
    refine ⟨?_, _, rfl, CString.cstr_writeText hdevNul _⟩
    constructor
    · rw [hhost]
      exact CString.cstr_writeText hhostNul _
    · rw [hhost, CString.length_writeText hlenHost, h.hostSize]
    · rw [hhost]
      exact writeText_end h.hostEnd hhostLen
    · exact hip
    · exact hipNul
    · exact hipLen
    · rw [hmac]
      exact CString.cstr_writeText hmacNul _
    · rw [hmac, CString.length_writeText hlenMac, h.macSize]

/-- What one update writes: a message with the observed texts, if the flag was still raised or
the texts are not the old ones. -/
theorem devinfoAgentUpdate_spec {t : Texts} {s : State} (h : Holds t s) (projectVersion : Text)
    {devinfoSize : ℕ} (netInterface : Text) (o : Observation)
    (hin' : (observe s.agentDevinfoFunc netInterface o t).Within devinfoSize) :
    let t' := observe s.agentDevinfoFunc netInterface o t
    ∃ s' msg, devinfoAgentUpdate projectVersion devinfoSize netInterface o s = some (s', msg) ∧
      Holds t' s' ∧ s'.agentDevinfoFunc = s.agentDevinfoFunc ∧ s'.infoChange = false ∧
      msg.map Texts.ofMsg = if s.infoChange ∨ t' ≠ t then some t' else none := by
  obtain ⟨t', ht⟩ : ∃ t', t' = observe s.agentDevinfoFunc netInterface o t := ⟨_, rfl⟩
  obtain ⟨s', hrun, hholds, ⟨model, hmodel⟩, hfunc, -, hflag⟩ :=
    getDeviceInfo_spec h netInterface o hin'
  rw [← ht] at hholds hflag ⊢
  obtain ⟨m, hm, hdevinfo⟩ := hholds.devinfo
  have hread : CString.cstr s'.dev.ip 0 = some t'.ip := by
    have hlt := hholds.ipSize
    obtain ⟨k, hk⟩ : ∃ k, 40 - t'.ip.length = k + 1 := ⟨39 - t'.ip.length, by omega⟩
    rw [hholds.ip, hk]
    exact CString.cstr_after hholds.ipNul [] (zeros k)
  simp only [devinfoAgentUpdate, hrun, Option.bind_eq_bind, Option.bind_some]
  by_cases hwrite : s.infoChange ∨ t' ≠ t
  · have hraised : s'.infoChange = true := by
      rw [hflag]
      rcases hwrite with h | h <;> simp [h]
    rw [if_pos hraised, if_pos hwrite]
    refine ⟨{ s' with infoChange := false },
      some ⟨s'.deviceID, model, t'.host, t'.ip, t'.mac, projectVersion, t'.devinfo⟩, ?_,
      ⟨hholds.toHoldsDevice, hholds.devinfo⟩, hfunc, rfl, rfl⟩
    simp only [message, hmodel, hholds.host, hread, hholds.mac, hm, hdevinfo,
      Option.bind_eq_bind, Option.bind_some]
  · have hlow : s'.infoChange = false := by
      rw [hflag]
      push Not at hwrite
      simp [hwrite.2, Bool.eq_false_iff.mpr hwrite.1]
    rw [if_neg (by simp [hlow]), if_neg hwrite]
    exact ⟨s', none, rfl, hholds, hfunc, hlow, rfl⟩

structure Call where
  netInterface : Text
  observation : Observation

/-- The message each call hands to `dds_transport_send`, if it does. -/
def runUpdates (projectVersion : Text) (devinfoSize : ℕ) :
    List Call → State → Option (State × List (Option DeviceInfoMsg))
  | [], s => some (s, [])
  | call :: calls, s => do
    let (s, msg) ← devinfoAgentUpdate projectVersion devinfoSize call.netInterface
      call.observation s
    let (s, msgs) ← runUpdates projectVersion devinfoSize calls s
    some (s, msg :: msgs)

def observedTexts (agentDevinfoFunc : Bool) : Texts → List Call → List Texts
  | _, [] => []
  | before, call :: calls =>
    let t := observe agentDevinfoFunc call.netInterface call.observation before
    t :: observedTexts agentDevinfoFunc t calls

@[simp] theorem length_observedTexts (agentDevinfoFunc : Bool) (before : Texts)
    (calls : List Call) :
    (observedTexts agentDevinfoFunc before calls).length = calls.length := by
  induction calls generalizing before with
  | nil => rfl
  | cons call calls ih => simp [observedTexts, ih]

theorem runUpdates_spec (projectVersion : Text) {devinfoSize : ℕ} {calls : List Call}
    {t : Texts} {s : State} (h : Holds t s)
    (hcalls : ∀ t' ∈ observedTexts s.agentDevinfoFunc t calls, t'.Within devinfoSize) :
    let texts := observedTexts s.agentDevinfoFunc t calls
    ∃ s' msgs, runUpdates projectVersion devinfoSize calls s = some (s', msgs) ∧
      msgs.length = calls.length ∧
      ∀ i t', texts[i]? = some t' → ∃ msg, msgs[i]? = some msg ∧
        (msg.isSome ↔ i = 0 ∧ s.infoChange ∨ (t :: texts)[i]? ≠ some t') ∧
        ∀ m ∈ msg, Texts.ofMsg m = t' := by
  induction calls generalizing t s with
  | nil => exact ⟨s, [], rfl, rfl, by simp [observedTexts]⟩
  | cons call calls ih =>
    simp only [observedTexts, List.forall_mem_cons] at hcalls
    obtain ⟨s₁, msg, hrun, hholds, hfunc, hlow, hmsg⟩ := devinfoAgentUpdate_spec h projectVersion
      call.netInterface call.observation hcalls.1
    obtain ⟨s₂, msgs, hruns, hlen, hrest⟩ :=
      ih hholds (by rw [hfunc]; exact hcalls.2)
    refine ⟨s₂, msg :: msgs, by simp [runUpdates, hrun, hruns], by simp [hlen], ?_⟩
    intro i t' hi
    cases i with
    | zero =>
      simp only [observedTexts, List.getElem?_cons_zero, Option.some.injEq] at hi
      rw [hi] at hmsg
      refine ⟨msg, rfl, ?_, ?_⟩
      · have hsome : msg.isSome = (msg.map Texts.ofMsg).isSome := by simp
        have hother : some t ≠ some t' ↔ t' ≠ t := by
          rw [ne_eq, Option.some.injEq]
          exact ne_comm
        rw [hsome, hmsg, Option.isSome_ite, List.getElem?_cons_zero, and_iff_right rfl, hother]
      · intro m hm
        rw [Option.mem_def.mp hm, Option.map_some] at hmsg
        split at hmsg
        · exact Option.some.inj hmsg
        · cases hmsg
    | succ i =>
      obtain ⟨msg', hget, hiff, htexts⟩ := hrest i t' (by simpa [observedTexts, hfunc] using hi)
      refine ⟨msg', by simpa using hget, ?_, htexts⟩
      rw [hiff, hlow, hfunc]
      simp [observedTexts]

/-- From the start of the process a message is written at the first call and at each call that
observes other texts than the call before, and it carries the observed texts. -/
theorem updates_write_exactly_on_change (cfg : RmtCfg) (agentDevinfoFunc : Bool)
    (projectVersion : Text) (calls : List Call)
    (hcalls : ∀ t ∈ observedTexts agentDevinfoFunc Texts.empty calls,
      t.Within cfg.devinfoSize) :
    let texts := observedTexts agentDevinfoFunc Texts.empty calls
    ∃ s msgs, runUpdates projectVersion cfg.devinfoSize calls
        (devinfoAgentInit cfg agentDevinfoFunc initial) = some (s, msgs) ∧
      texts.length = calls.length ∧ msgs.length = calls.length ∧
      ∀ i t, texts[i]? = some t → ∃ msg, msgs[i]? = some msg ∧
        (msg.isSome ↔ i = 0 ∨ texts[i - 1]? ≠ some t) ∧ ∀ m ∈ msg, Texts.ofMsg m = t := by
  cases calls with
  | nil => exact ⟨_, [], rfl, rfl, rfl, by simp [observedTexts]⟩
  | cons call calls =>
    have hsize : 0 < cfg.devinfoSize := by
      have hfirst := hcalls _ List.mem_cons_self
      have hlt := hfirst.2.2.2.2
      omega
    have hstart : Holds Texts.empty (devinfoAgentInit cfg agentDevinfoFunc initial) :=
      ⟨holdsDevice_initial, _, rfl, cstr_zeros hsize⟩
    obtain ⟨s, msgs, hrun, hlen, hwritten⟩ := runUpdates_spec projectVersion hstart hcalls
    refine ⟨s, msgs, hrun, length_observedTexts _ _ _, hlen, ?_⟩
    intro i t hi
    obtain ⟨msg, hget, hiff, htexts⟩ := hwritten i t hi
    refine ⟨msg, hget, ?_, htexts⟩
    rw [hiff]
    cases i with
    | zero => simp [devinfoAgentInit, initial]
    | succ i =>
      simp only [Nat.succ_ne_zero, false_and, false_or, List.getElem?_cons_succ,
        Nat.add_one_sub_one]
      rfl

def pocketCfg : RmtCfg :=
  { netInterface := "wlan0".toList, autoDetectInterface := true, deviceId := 7, devinfoSize := 8 }

def shrinkingCalls : List Call :=
  [⟨"wlan0".toList, ⟨"robot-arm".toList, "10.0.0.2".toList, "00:30:64".toList, [], []⟩⟩,
    ⟨"wlan0".toList, ⟨"arm".toList, "10.0.0.2".toList, "00:30:64".toList, [], []⟩⟩,
    ⟨[], ⟨"arm".toList, "0.0.0.0".toList, "00:30:64".toList, [], []⟩⟩]

theorem updates_write_exactly_on_change_shrinking :
    ∃ s msgs, runUpdates "0.9.8".toList 8 shrinkingCalls
        (devinfoAgentInit pocketCfg true initial) = some (s, msgs) ∧
      msgs.map Option.isSome = [true, true, false] := by
  obtain ⟨s, msgs, hrun, -, hlen, hwritten⟩ := updates_write_exactly_on_change pocketCfg true
    "0.9.8".toList shrinkingCalls (by decide)
  refine ⟨s, msgs, hrun, ?_⟩
  obtain ⟨m₀, h₀, hw₀, -⟩ := hwritten 0 _ rfl
  obtain ⟨m₁, h₁, hw₁, -⟩ := hwritten 1 _ rfl
  obtain ⟨m₂, h₂, hw₂, -⟩ := hwritten 2 _ rfl
  match msgs, hlen with
  | [a, b, c], _ =>
    obtain rfl : a = m₀ := Option.some.inj h₀
    obtain rfl : b = m₁ := Option.some.inj h₁
    obtain rfl : c = m₂ := Option.some.inj h₂
    have ha : a.isSome = true := hw₀.mpr (Or.inl rfl)
    have hb : b.isSome = true := hw₁.mpr (Or.inr (by decide))
    have hc : c.isSome = false := by
      rw [Bool.eq_false_iff]
      intro h
      exact absurd (hw₂.mp h) (by decide)
    simp [ha, hb, hc]

end ChangeDetection
