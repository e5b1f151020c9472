import RmtLibrary.ConfigFrame
import RmtLibrary.ConfigWidths
import RmtLibrary.Network
import Mathlib.Data.List.MinMax

/-! # The generated device ID

Two start-ups of an agent on one machine should generate the same ID. The first listed interface
of maximal priority gives it, so that the order of the list decides between equals. A start-up
that selects no interface stops before it generates one. -/
namespace GeneratedId

open ByteBlock (littleEndian ofLittleEndian read write)
open ConfigFields
open ConfigFrame (length_rmtConfigInit)
open ConfigLines (Sized arrays sized_arrays)
open ConfigWidths (number)
open CString (Text Memory nul)
open Network
open RmtConfig

structure Startup where
  file : Option Text
  buffers : Buffers
  gRmtCfg : Memory
  runtimeCfg : Memory
  observed : Observed

def Startup.run (zenoh : Bool) (s : Startup) : Option (Globals × Memory) := do
  let g ← rmtConfigInit zenoh s.file s.buffers ⟨.notInit, s.gRmtCfg⟩
  rmtConfigRuntimeInit s.observed g s.runtimeCfg

def Startup.devices (s : Startup) : List NetDevice := s.observed.ifNameindex.getD []

/-- The file configures no device ID, there are interfaces, and every address query succeeds. -/
structure Startup.Unconfigured (zenoh : Bool) (s : Startup) (g : Globals) : Prop where
  sized : Sized s.buffers
  init : rmtConfigInit zenoh s.file s.buffers ⟨.notInit, s.gRmtCfg⟩ = some g
  deviceId : number .deviceId g.gRmtCfg = 0
  runtimeCfg : s.runtimeCfg.length = 80
  devices : s.devices ≠ []
  queried : ∀ d ∈ s.devices, d.hwaddr.isSome

/-- The same names with the same addresses. Flags and order may differ. -/
def SameMachine (s s' : Startup) : Prop := ∀ pair : Text × Option HwAddr,
  pair ∈ s.devices.map (fun d => (d.ifName, d.hwaddr)) ↔
    pair ∈ s'.devices.map (fun d => (d.ifName, d.hwaddr))

def address (d : NetDevice) : HwAddr := d.hwaddr.getD (Vector.replicate 6 0)

def priority (d : NetDevice) : ℕ := tmpPriority d.ifName (address d)

def ownId (d : NetDevice) : ℕ := hwaddrId (address d)

def Maximal (nidxs : List NetDevice) (d : NetDevice) : Prop :=
  d ∈ nidxs ∧ ∀ e ∈ nidxs, priority e ≤ priority d

/-- Both start-ups leave the same device ID, that of an interface of maximal priority. -/
def SameId (zenoh : Bool) (s s' : Startup) : Prop := ∃ r r', s.run zenoh = some r ∧
  s'.run zenoh = some r' ∧ number .deviceId r.1.gRmtCfg = number .deviceId r'.1.gRmtCfg ∧
  ∃ d, Maximal s.devices d ∧ number .deviceId r.1.gRmtCfg = ownId d

def NameFits (g : Globals) : Prop := ∀ t ∈ CString.cstr g.gRmtCfg 0, t.length < 80
  deriving Decidable

def Usable (d : NetDevice) : Prop := ∃ f ∈ d.flags, f.usable = true
  deriving Decidable

/-- An interface is configured, or one other than loopback is up and running. -/
def Selects (g : Globals) (s : Startup) : Prop :=
  CString.cstr g.gRmtCfg 0 ≠ some [] ∨ ∃ d ∈ s.devices, Usable d
  deriving Decidable

def firstId (s : Startup) : ℕ := (s.devices.argmax priority).elim 0 ownId

/-- Both start-ups generate an ID from the same bytes. Or these bytes are zero, which is also what
a start-up leaves that stops early. -/
def Agree (g : Globals) (s : Startup) (g' : Globals) (s' : Startup) : Prop :=
  (Selects g s ∧ Selects g' s' ∧ firstId s = firstId s') ∨
  ((∃ d, Maximal s.devices d ∧ ownId d = 0) ∧ (Selects g s → firstId s = 0) ∧
    (Selects g' s' → firstId s' = 0))

theorem hwaddrId_lt (hwaddr : HwAddr) : hwaddrId hwaddr < 2 ^ 24 := by
  have hfold : ∀ (digits : List UInt8) (id : ℕ), digits.foldl
      (fun id digit => (id <<< 8) + digit.toNat) id < (id + 1) * 256 ^ digits.length := by
    intro digits
    induction digits with
    | nil => simp
    | cons digit digits ih =>
      intro id
      have hdigit := digit.toNat_lt
      have hrest := ih ((id <<< 8) + digit.toNat)
      have hbase : (id <<< 8) + digit.toNat + 1 ≤ (id + 1) * 256 := by
        rw [Nat.shiftLeft_eq]
        omega
      calc (digit :: digits).foldl (fun id digit => (id <<< 8) + digit.toNat) id
          < ((id <<< 8) + digit.toNat + 1) * 256 ^ digits.length := hrest
        _ ≤ (id + 1) * 256 * 256 ^ digits.length := Nat.mul_le_mul_right _ hbase
        _ = (id + 1) * 256 ^ (digit :: digits).length := by
          rw [List.length_cons, pow_succ']
          ring
  have hlt := hfold (hwaddr.toList.drop 3) 0
  have hlen : (hwaddr.toList.drop 3).length = 3 := by simp
  rw [hlen] at hlt
  exact hlt

theorem foldl_generateStep {nidxs : List NetDevice} (hq : ∀ d ∈ nidxs, d.hwaddr.isSome)
    (ifr : HwAddr) :
    (nidxs.foldl generateStep ⟨-1, 0, ifr⟩).priority =
      (nidxs.argmax priority).elim (-1) (fun d => (priority d : ℤ)) ∧
    (nidxs.foldl generateStep ⟨-1, 0, ifr⟩).retId = (nidxs.argmax priority).elim 0 ownId := by
  induction nidxs using List.reverseRecOn with
  | nil => exact ⟨rfl, rfl⟩
  | append_singleton nidxs d ih =>
    obtain ⟨hpriority, hid⟩ := ih fun e he => hq e (List.mem_append_left _ he)
    have hlast : d.hwaddr.getD (nidxs.foldl generateStep ⟨-1, 0, ifr⟩).ifr = address d := by
      obtain ⟨a, ha⟩ := Option.isSome_iff_exists.mp (hq d (by simp))
      rw [address, ha, Option.getD_some, Option.getD_some]
    rw [List.foldl_append, List.foldl_cons, List.foldl_nil, generateStep, hlast, hpriority,
      List.argmax_concat, ← priority]
    cases hbest : nidxs.argmax priority with
    | none =>
      rw [Option.elim_none, if_pos (by omega)]
      exact ⟨rfl, rfl⟩
    | some best =>
      rw [hbest] at hid
      rw [Option.elim_some]
      dsimp only
      by_cases hlt : priority best < priority d
      · rw [if_pos hlt, if_pos (Nat.cast_lt.mpr hlt)]
        exact ⟨rfl, rfl⟩
      · rw [if_neg hlt, if_neg (mt Nat.cast_lt.mp hlt)]
        exact ⟨rfl, hid⟩

theorem netGenerateId_first {s : Startup} (hq : ∀ d ∈ s.devices, d.hwaddr.isSome) :
    netGenerateId s.observed = firstId s := by
  rw [netGenerateId, firstId]
  cases hlist : s.observed.ifNameindex with
  | none => simp [Startup.devices, hlist]
  | some nidxs =>
    have hdevices : s.devices = nidxs := by rw [Startup.devices, hlist, Option.getD_some]
    rw [hdevices] at hq ⊢
    exact (foldl_generateStep hq s.observed.ifr).2

theorem firstId_maximal {s : Startup} (hne : s.devices ≠ []) :
    ∃ d, Maximal s.devices d ∧ firstId s = ownId d := by
  have hsome : s.devices.argmax priority ≠ none := fun h => hne (List.argmax_eq_none.mp h)
  obtain ⟨d, hd⟩ := Option.ne_none_iff_exists'.mp hsome
  refine ⟨d, ⟨List.argmax_mem hd, fun e he => List.le_of_mem_argmax he hd⟩, ?_⟩
  rw [firstId, hd]
  rfl

theorem usable_or_stale {d : NetDevice} {ifr : IfFlags} (h : (d.flags.getD ifr).usable = true) :
    Usable d ∨ ifr.usable = true := by
  cases hf : d.flags with
  | none =>
    rw [hf] at h
    exact Or.inr h
  | some f =>
    rw [hf] at h
    exact Or.inl ⟨f, hf, h⟩

theorem not_usable {d : NetDevice} {ifr : IfFlags} (h : (d.flags.getD ifr).usable ≠ true) :
    ¬ Usable d := by
  rintro ⟨f, hf, hu⟩
  rw [Option.mem_def.mp hf] at h
  exact h hu

/-- The search leaves the buffer as it is and finds nothing, or leaves the name of an interface. -/
theorem selectLoop_spec (nidxs : List NetDevice) (ifr : IfFlags) {interface : Memory}
    (hlen : interface.length = 80) (ret : ℤ) :
    ∃ interface' ret', selectLoop nidxs ifr interface ret = some (interface', ret') ∧
      interface'.length = 80 ∧
      (interface' = interface ∧ ret' = ret ∧ (∀ d ∈ nidxs, ¬ Usable d) ∨
        ret' = 0 ∧ (∃ d ∈ nidxs, CString.cstr interface' 0 = some d.ifName) ∧
          ((∃ d ∈ nidxs, Usable d) ∨ ifr.usable = true)) := by
  induction nidxs generalizing ifr interface ret with
  | nil => exact ⟨interface, ret, rfl, hlen, Or.inl ⟨rfl, rfl, by simp⟩⟩
  | cons d nidxs ih =>
    rw [selectLoop]
    by_cases hu : (d.flags.getD ifr).usable = true
    · have hmem := List.mem_cons_self (a := d) (l := nidxs)
      have hused : (∃ e ∈ d :: nidxs, Usable e) ∨ ifr.usable = true :=
        (usable_or_stale hu).imp_left fun h => ⟨d, hmem, h⟩
      have hfits : d.ifName.length < interface.length := by
        have hshort := d.short
        omega
      have hcopy : (CString.writeText interface d.ifName).length = 80 :=
        (CString.length_writeText hfits).trans hlen
      have hread := CString.cstr_writeText d.terminated interface
      rw [if_pos hu, CString.strcpy, if_pos hfits]
      simp only [Option.bind_eq_bind, Option.bind_some]
      split
      · exact ⟨_, 0, rfl, hcopy, Or.inr ⟨rfl, ⟨d, hmem, hread⟩, hused⟩⟩
      · obtain ⟨interface', ret', hs, hlen', ⟨rfl, rfl, -⟩ | ⟨rfl, ⟨e, he, hname⟩, -⟩⟩ :=
          ih (d.flags.getD ifr) hcopy 0
        · exact ⟨_, _, hs, hlen', Or.inr ⟨rfl, ⟨d, hmem, hread⟩, hused⟩⟩
        · exact ⟨_, _, hs, hlen', Or.inr ⟨rfl, ⟨e, List.mem_cons_of_mem _ he, hname⟩, hused⟩⟩
    · rw [if_neg hu]
      obtain ⟨interface', ret', hs, hlen', ⟨heq, hret, hnone⟩ | ⟨hret, ⟨e, he, hname⟩, hused⟩⟩ :=
        ih (d.flags.getD ifr) hlen ret
      · refine ⟨_, _, hs, hlen', Or.inl ⟨heq, hret, ?_⟩⟩
        intro e he
        rcases List.mem_cons.mp he with rfl | he
        · exact not_usable hu
        · exact hnone e he
      · refine ⟨_, _, hs, hlen', Or.inr ⟨hret, ⟨e, List.mem_cons_of_mem _ he, hname⟩, Or.inl ?_⟩⟩
        rcases hused with ⟨e, he, huse⟩ | hstale
        · exact ⟨e, List.mem_cons_of_mem _ he, huse⟩
        · exact absurd hstale hu

/-- A search that starts without an interface ends with one exactly if one is usable. -/
theorem netSelectInterface_spec (s : Startup) {runtime : Memory} (hlen : runtime.length = 80) :
    ∃ runtime' ret, netSelectInterface s.observed runtime = some (runtime', ret) ∧
      runtime'.length = 80 ∧
      (ret = -1 ∧ (∀ d ∈ s.devices, ¬ Usable d) ∨
        ret = 0 ∧ (∃ d ∈ s.devices, Usable d) ∧
          ∃ name, CString.cstr runtime' 0 = some name ∧ name ≠ []) := by
  rw [netSelectInterface, Startup.devices]
  cases s.observed.ifNameindex with
  | none => exact ⟨runtime, -1, rfl, hlen, Or.inl ⟨rfl, by simp⟩⟩
  | some nidxs =>
    obtain ⟨runtime', ret, hs, hlen', ⟨-, hret, hnone⟩ | ⟨hret, ⟨d, -, hname⟩, hused⟩⟩ :=
      selectLoop_spec nidxs ⟨false, false, false⟩ hlen (-1)
    · exact ⟨runtime', ret, hs, hlen', Or.inl ⟨hret, hnone⟩⟩
    · rcases hused with hused | hstale
      · exact ⟨runtime', ret, hs, hlen', Or.inr ⟨hret, hused, d.ifName, hname, d.named⟩⟩
      · cases hstale

theorem nul_of_toNat {c : Char} (h : c.toNat = 0) : c = nul := by
  rw [← Char.ofNat_toNat c, h]
  rfl

theorem configured_name {zenoh : Bool} {cfg : Memory} (hlen : cfg.length = sizeofRmtConfig zenoh)
    (hid : number .deviceId cfg = 0) : ∃ t, CString.cstr cfg 0 = some t ∧ nul ∉ t := by
  have hlong : Field.deviceId.offset + 8 ≤ cfg.length := by
    rw [hlen]
    cases zenoh <;> decide
  have hcells : (bytes .deviceId cfg).length = 8 := ByteBlock.length_read hlong
  have hne : bytes .deviceId cfg ≠ [] := by
    intro h
    rw [h] at hcells
    cases hcells
  obtain ⟨c, cs, hcs⟩ := List.exists_cons_of_ne_nil hne
  rw [number, hcs, ofLittleEndian] at hid
  have hc : c = nul := nul_of_toNat (by omega)
  have hmem : nul ∈ cfg := by
    have hin : c ∈ bytes .deviceId cfg := by simp [hcs]
    rw [hc] at hin
    exact List.mem_of_mem_drop (List.mem_of_mem_take hin)
  obtain ⟨t, ht⟩ := CString.cstr_isSome hmem
  exact ⟨t, ht, CString.cstr_nul_free ht⟩

theorem number_stored {zenoh : Bool} {cfg : Memory} (hlen : cfg.length = sizeofRmtConfig zenoh)
    {n : ℕ} (hn : n < 2 ^ 24) : number .deviceId (storeNumber 8 .deviceId n cfg) = n := by
  have hlong : Field.deviceId.offset + (littleEndian 8 n).length ≤ cfg.length := by
    rw [hlen, ByteBlock.length_littleEndian]
    cases zenoh <;> decide
  have hself := ByteBlock.read_write_self hlong
  rw [ByteBlock.length_littleEndian] at hself
  rw [number, bytes, storeNumber, Field.size, hself, ByteBlock.ofLittleEndian_littleEndian,
    Nat.mod_eq_of_lt (by omega)]

variable {zenoh : Bool} {s s' : Startup} {g g' : Globals}

theorem setupIpAndId_id (h : s.Unconfigured zenoh g) {runtime : Memory} {name : Text}
    (hname : CString.cstr runtime 0 = some name) (hne : name ≠ []) :
    ∃ r, setupIpAndId s.observed g runtime = some r ∧
      number .deviceId r.1.gRmtCfg = firstId s := by
  have hzero : ofLittleEndian (read g.gRmtCfg Field.deviceId.offset 8) = 0 := h.deviceId
  have hlt : firstId s < 2 ^ 24 := by
    obtain ⟨d, -, hd⟩ := firstId_maximal h.devices
    rw [hd]
    exact hwaddrId_lt _
  rw [setupIpAndId, hname]
  simp only [Option.bind_eq_bind, Option.bind_some, DevinfoAgent.netGetIp, if_neg hne, hzero]
  refine ⟨_, rfl, ?_⟩
  rw [netGenerateId_first h.queried]
  exact number_stored (length_rmtConfigInit h.sized h.init) hlt

theorem run_id (h : s.Unconfigured zenoh g) (hfits : NameFits g) :
    ∃ r, s.run zenoh = some r ∧ (Selects g s ∧ number .deviceId r.1.gRmtCfg = firstId s ∨
      ¬ Selects g s ∧ number .deviceId r.1.gRmtCfg = 0) := by
  obtain ⟨t, ht, hnul⟩ := configured_name (length_rmtConfigInit h.sized h.init) h.deviceId
  have hread : CString.cstr g.gRmtCfg Field.netInterface.offset = some t := ht
  rw [Startup.run, h.init]
  simp only [Option.bind_eq_bind, Option.bind_some, rmtConfigRuntimeInit, hread]
  by_cases hconfigured : t = []
  · rw [if_neg (not_not.mpr hconfigured)]
    obtain ⟨runtime, ret, hs, -, ⟨rfl, hnone⟩ | ⟨rfl, hused, name, hname, hne⟩⟩ :=
      netSelectInterface_spec s h.runtimeCfg
    · rw [hs]
      refine ⟨_, rfl, Or.inr ⟨?_, h.deviceId⟩⟩
      rintro (hne | ⟨d, hd, hu⟩)
      · exact hne (by rw [ht, hconfigured])
      · exact hnone d hd hu
    · rw [hs]
      obtain ⟨r, hr, hid⟩ := setupIpAndId_id h hname hne
      exact ⟨r, hr, Or.inl ⟨Or.inr hused, hid⟩⟩
  · have hlt : t.length < s.runtimeCfg.length := by
      rw [h.runtimeCfg]
      exact hfits t ht
    rw [if_pos hconfigured, CString.strcpy, if_pos hlt]
    obtain ⟨r, hr, hid⟩ := setupIpAndId_id h (CString.cstr_writeText hnul s.runtimeCfg)
      hconfigured
    refine ⟨r, hr, Or.inl ⟨Or.inl ?_, hid⟩⟩
    rw [ht]
    simpa using hconfigured

theorem run_overflow (h : s.Unconfigured zenoh g) (hlong : ¬ NameFits g) :
    s.run zenoh = none := by
  obtain ⟨t, ht, -⟩ := configured_name (length_rmtConfigInit h.sized h.init) h.deviceId
  have hread : CString.cstr g.gRmtCfg Field.netInterface.offset = some t := ht
  have hover : ¬ t.length < 80 := fun hlt => hlong fun t' ht' => by
    obtain rfl := Option.some.inj (ht.symm.trans ht')
    exact hlt
  have hne : t ≠ [] := by
    rintro rfl
    exact hover (by decide)
  rw [Startup.run, h.init]
  simp only [Option.bind_eq_bind, Option.bind_some, rmtConfigRuntimeInit, hread]
  rw [if_pos hne, CString.strcpy, if_neg (by rwa [h.runtimeCfg])]
  rfl

theorem fits_of_run (h : s.Unconfigured zenoh g) {r : Globals × Memory}
    (hr : s.run zenoh = some r) : NameFits g := by
  by_contra hlong
  rw [run_overflow h hlong] at hr
  cases hr

theorem SameId.agree (hs : s.Unconfigured zenoh g) (hs' : s'.Unconfigured zenoh g')
    (h : SameId zenoh s s') : NameFits g ∧ NameFits g' ∧ Agree g s g' s' := by
  obtain ⟨r, r', hr, hr', hsame, d, hmax, hd⟩ := h
  have hfits := fits_of_run hs hr
  have hfits' := fits_of_run hs' hr'
  refine ⟨hfits, hfits', ?_⟩
  obtain ⟨_, heq, hid⟩ := run_id hs hfits
  obtain rfl := Option.some.inj (hr.symm.trans heq)
  obtain ⟨_, heq', hid'⟩ := run_id hs' hfits'
  obtain rfl := Option.some.inj (hr'.symm.trans heq')
  rcases hid with ⟨hsel, hid⟩ | ⟨hsel, hid⟩
  · rcases hid' with ⟨hsel', hid'⟩ | ⟨hsel', hid'⟩
    · exact Or.inl ⟨hsel, hsel', hid.symm.trans (hsame.trans hid')⟩
    · have hzero := hsame.trans hid'
      exact Or.inr ⟨⟨d, hmax, hd.symm.trans hzero⟩, fun _ => hid.symm.trans hzero,
        fun h => absurd h hsel'⟩
  · refine Or.inr ⟨⟨d, hmax, hd.symm.trans hid⟩, fun h => absurd h hsel, ?_⟩
    intro h
    rcases hid' with ⟨-, hid'⟩ | ⟨hsel', -⟩
    · exact hid'.symm.trans (hsame.symm.trans hid)
    · exact absurd h hsel'

/-- Two start-ups agree on the ID of an interface of maximal priority exactly if both configured
names fit, and both generate the ID of the same bytes or leave zero for an address of zeros. -/
theorem same_id_iff (hs : s.Unconfigured zenoh g) (hs' : s'.Unconfigured zenoh g') :
    SameId zenoh s s' ↔ NameFits g ∧ NameFits g' ∧ Agree g s g' s' := by
  refine ⟨fun h => h.agree hs hs', ?_⟩
  rintro ⟨hfits, hfits', hagree⟩
  obtain ⟨r, hr, hid⟩ := run_id hs hfits
  obtain ⟨r', hr', hid'⟩ := run_id hs' hfits'
  rcases hagree with ⟨hsel, hsel', hsame⟩ | ⟨⟨d, hmax, hd⟩, hzero, hzero'⟩
  · have hfirst := (hid.resolve_right fun h => h.1 hsel).2
    have hfirst' := (hid'.resolve_right fun h => h.1 hsel').2
    obtain ⟨d, hmax, hd⟩ := firstId_maximal hs.devices
    exact ⟨r, r', hr, hr', by rw [hfirst, hfirst', hsame], d, hmax, hfirst.trans hd⟩
  · have hleft : number .deviceId r.1.gRmtCfg = 0 := by
      rcases hid with ⟨hsel, hid⟩ | ⟨-, hid⟩
      · exact hid.trans (hzero hsel)
      · exact hid
    have hright : number .deviceId r'.1.gRmtCfg = 0 := by
      rcases hid' with ⟨hsel, hid⟩ | ⟨-, hid⟩
      · exact hid.trans (hzero' hsel)
      · exact hid
    exact ⟨r, r', hr, hr', by rw [hleft, hright], d, hmax, by rw [hleft, hd]⟩

def lo : NetDevice where
  ifName := "lo".toList
  hwaddr := some (Vector.replicate 6 0)
  flags := some ⟨true, true, true⟩
  named := by decide
  short := by decide
  terminated := by decide

def eth0 (running : Bool) : NetDevice where
  ifName := "eth0".toList
  hwaddr := some #v[0x00, 0x30, 0x64, 0x01, 0x02, 0x03]
  flags := some ⟨true, running, false⟩
  named := by decide
  short := by decide
  terminated := by decide

def eth1 : NetDevice where
  ifName := "eth1".toList
  hwaddr := some #v[0x00, 0x30, 0x64, 0x01, 0x02, 0x04]
  flags := some ⟨true, true, false⟩
  named := by decide
  short := by decide
  terminated := by decide

def startup (nidxs : List NetDevice) : Startup :=
  ⟨none, arrays, [], List.replicate 80 nul, ⟨some nidxs, "10.0.0.1".toList, Vector.replicate 6 0⟩⟩

set_option maxRecDepth 4000 in
theorem startup_unconfigured {nidxs : List NetDevice} (hne : nidxs ≠ [])
    (hq : ∀ d ∈ nidxs, d.hwaddr.isSome) :
    (startup nidxs).Unconfigured false ⟨.init, initRmtCfg false⟩ :=
  ⟨sized_arrays, rfl, by decide, List.length_replicate, hne, hq⟩

theorem same_id_reordered : SameId false (startup [lo, eth0 true]) (startup [eth0 true, lo]) := by
  have hs : (startup [lo, eth0 true]).Unconfigured false ⟨.init, initRmtCfg false⟩ :=
    startup_unconfigured (by simp) (by decide)
  have hs' : (startup [eth0 true, lo]).Unconfigured false ⟨.init, initRmtCfg false⟩ :=
    startup_unconfigured (by simp) (by decide)
  exact (same_id_iff hs hs').mpr ⟨by decide, by decide, Or.inl ⟨by decide, by decide, by decide⟩⟩

/-- A start-up with the cable out leaves the ID 0. With two equal interfaces the ID depends on
the order. -/
theorem ids_differ :
    (startup [lo, eth0 false]).Unconfigured false ⟨.init, initRmtCfg false⟩ ∧
    (startup [lo, eth0 true]).Unconfigured false ⟨.init, initRmtCfg false⟩ ∧
    SameMachine (startup [lo, eth0 false]) (startup [lo, eth0 true]) ∧
    ¬ SameId false (startup [lo, eth0 false]) (startup [lo, eth0 true]) ∧
    (startup [eth0 true, eth1]).Unconfigured false ⟨.init, initRmtCfg false⟩ ∧
    (startup [eth1, eth0 true]).Unconfigured false ⟨.init, initRmtCfg false⟩ ∧
    SameMachine (startup [eth0 true, eth1]) (startup [eth1, eth0 true]) ∧
    ¬ SameId false (startup [eth0 true, eth1]) (startup [eth1, eth0 true]) := by
  have h₁ : (startup [lo, eth0 false]).Unconfigured false ⟨.init, initRmtCfg false⟩ :=
    startup_unconfigured (by simp) (by decide)
  have h₂ : (startup [lo, eth0 true]).Unconfigured false ⟨.init, initRmtCfg false⟩ :=
    startup_unconfigured (by simp) (by decide)
  have h₃ : (startup [eth0 true, eth1]).Unconfigured false ⟨.init, initRmtCfg false⟩ :=
    startup_unconfigured (by simp) (by decide)
  have h₄ : (startup [eth1, eth0 true]).Unconfigured false ⟨.init, initRmtCfg false⟩ :=
    startup_unconfigured (by simp) (by decide)
  refine ⟨h₁, h₂, fun _ => Iff.rfl, ?_, h₃, h₄, ?_, ?_⟩
  · intro h
    rcases (h.agree h₁ h₂).2.2 with ⟨hsel, -⟩ | ⟨-, -, hzero⟩
    · revert hsel
      decide
    · have h0 := hzero (by decide)
      revert h0
      decide
  · intro pair
    simp [startup, Startup.devices, or_comm]
  · intro h
    rcases (h.agree h₃ h₄).2.2 with ⟨-, -, hsame⟩ | ⟨-, hzero, -⟩
    · revert hsame
      decide
    · have h0 := hzero (by decide)
      revert h0
      decide

end GeneratedId
