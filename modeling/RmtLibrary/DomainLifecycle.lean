import Mathlib.Algebra.Group.Nat.Defs
import Mathlib.Data.Int.Notation
import Mathlib.Data.List.Basic
import RmtLibrary.CString
import RmtLibrary.GuardedExecution

/-! # The domain of a process

`dds_transport_config_init`, the two transport initialisations and `dds_transport_deinit` as far
as they touch `g_domain`, `g_domain_id` and `g_participant_num`, over the domains that exist in
the process. Every creation succeeds, except that of a domain that is there already. -/
namespace DomainLifecycle

open CString (Text)
open GuardedExecution

def preconditionNotMet : ℤ := -4

/-- A domain that exists. `interface` is the one it was created for by `dds_create_domain`, or
`none` for a domain that the first participant brought up. -/
structure Domain where
  handle : ℕ
  id : ℕ
  interface : Option Text
  deriving DecidableEq, Repr

structure Transport where
  name : ℕ
  domainId : ℕ
  deriving DecidableEq, Repr

/-- The three globals, the live transports, the domains of the process and the next handle. -/
structure State where
  domain : ℤ
  domainId : ℕ
  participantNum : BitVec 32
  transports : List Transport
  domains : List Domain
  nextHandle : ℕ
  deriving DecidableEq, Repr

def initial : State := ⟨0, 0, 0, [], [], 1⟩

def ddsCreateDomain (id : ℕ) (interface : Text) (s : State) : State × ℤ :=
  if s.domains.any (·.id == id) then (s, preconditionNotMet)
  else
    ({ s with
        domains := ⟨s.nextHandle, id, some interface⟩ :: s.domains
        nextHandle := s.nextHandle + 1 }, s.nextHandle)

def ddsCreateParticipant (id : ℕ) (s : State) : State :=
  { s with
    transports := ⟨s.nextHandle, id⟩ :: s.transports
    domains := if s.domains.any (·.id == id) then s.domains
      else ⟨s.nextHandle + 1, id, none⟩ :: s.domains
    nextHandle := s.nextHandle + 2 }

/-- The last participant takes a domain with it that was not created by `dds_create_domain`. -/
def ddsDeleteParticipant (transport : Transport) (s : State) : State :=
  let transports := s.transports.erase transport
  { s with
    transports
    domains := s.domains.filter fun d =>
      d.interface.isSome || transports.any (·.domainId == d.id) }

def ddsDeleteDomain (handle : ℤ) (s : State) : State :=
  { s with
    transports := s.transports.filter fun t =>
      !s.domains.any fun d => (d.handle : ℤ) == handle && d.id == t.domainId
    domains := s.domains.filter fun d => (d.handle : ℤ) != handle }

/-- The error code of a domain that exists goes into `g_domain` and is not an error. -/
def ddsTransportConfigInit (interface : Text) (id : ℕ) (s : State) : State × ℤ :=
  let (s, domain) := ddsCreateDomain id interface { s with domainId := id }
  ({ s with domain }, if domain < 0 ∧ domain ≠ preconditionNotMet then -1 else 0)

def ddsTransportInit (s : State) : State :=
  let s := ddsCreateParticipant s.domainId s
  { s with participantNum := s.participantNum + 1 }

/-- Only topics, readers and writers of its participant are added. -/
def ddsTransportServerInit (s : State) : State := ddsTransportInit s

def ddsTransportAgentInit (s : State) : State := ddsTransportInit s

def releaseDomain (s : State) : State :=
  if s.participantNum = 0 ∧ 0 < s.domain then { ddsDeleteDomain s.domain s with domain := 0 }
  else s

def ddsTransportDeinit (transport : Transport) (s : State) : State :=
  let s := ddsDeleteParticipant transport s
  releaseDomain { s with participantNum := s.participantNum - 1 }

inductive Event where
  | configInit (interface : Text) (id : ℕ)
  | serverInit
  | agentInit
  | deinit (transport : Transport)
  deriving DecidableEq

/-- A transport is given back once. -/
def step (s : State) : Event → Option State
  | .configInit interface id => some (ddsTransportConfigInit interface id s).1
  | .serverInit => some (ddsTransportServerInit s)
  | .agentInit => some (ddsTransportAgentInit s)
  | .deinit transport =>
    if transport ∈ s.transports then some (ddsTransportDeinit transport s) else none

def CreatesDomain (s : State) (interface : Text) (id : ℕ) : Prop :=
  let (s', ret) := ddsTransportConfigInit interface id s
  ret = 0 ∧ ∃ d ∈ s'.domains, d.id = id ∧ d.interface = some interface ∧ s'.domain = d.handle ∧
    d ∉ s.domains

/-- No configuration comes while a domain of an earlier one exists, and the transports can be
counted in 32 bits. -/
def Ok (s : State) : Event → Prop
  | .configInit _ _ => ∀ d ∈ s.domains, d.interface = none
  | .serverInit => s.transports.length + 1 < 2 ^ 32
  | .agentInit => s.transports.length + 1 < 2 ^ 32
  | .deinit _ => True

instance (s : State) : (e : Event) → Decidable (Ok s e)
  | .configInit _ _ => inferInstanceAs (Decidable (∀ _ ∈ _, _))
  | .serverInit => inferInstanceAs (Decidable (_ < _))
  | .agentInit => inferInstanceAs (Decidable (_ < _))
  | .deinit _ => inferInstanceAs (Decidable True)

/-- A created domain is the one whose handle is kept, and any other domain has a participant. -/
structure Invariant (s : State) : Prop where
  count : s.participantNum.toNat = s.transports.length
  held : ∀ d ∈ s.domains, d.interface ≠ none → s.domain = d.handle
  positive : 0 < s.nextHandle ∧ ∀ d ∈ s.domains, 0 < d.handle
  inUse : ∀ d ∈ s.domains, d.interface = none → ∃ t ∈ s.transports, t.domainId = d.id

theorem invariant_initial : Invariant initial where
  count := rfl
  held := by simp [initial]
  positive := by simp [initial]
  inUse := by simp [initial]

/-- A configuration of a domain that exists only loses the handle that was kept. -/
theorem configInit_of_there {s : State} {id : ℕ} (hthere : s.domains.any (·.id == id) = true)
    (interface : Text) : (ddsTransportConfigInit interface id s).1 =
      { s with domainId := id, domain := preconditionNotMet } := by
  simp [ddsTransportConfigInit, ddsCreateDomain, hthere]

theorem configInit_of_new {s : State} {id : ℕ} (hnew : ¬ s.domains.any (·.id == id) = true)
    (interface : Text) : (ddsTransportConfigInit interface id s).1 =
      { s with
        domainId := id
        domain := s.nextHandle
        domains := ⟨s.nextHandle, id, some interface⟩ :: s.domains
        nextHandle := s.nextHandle + 1 } := by
  simp [ddsTransportConfigInit, ddsCreateDomain, hnew]

theorem invariant_configInit {s : State} (hinv : Invariant s) {interface : Text} {id : ℕ}
    (hok : ∀ d ∈ s.domains, d.interface = none) :
    Invariant (ddsTransportConfigInit interface id s).1 := by
  by_cases hthere : s.domains.any (·.id == id)
  · rw [configInit_of_there hthere]
    exact ⟨hinv.count, fun d hd hne => absurd (hok d hd) hne, hinv.positive, hinv.inUse⟩
  · rw [configInit_of_new hthere]
    constructor
    · exact hinv.count
    · intro d hd hne
      rcases List.mem_cons.mp hd with rfl | hd
      · rfl
      · exact absurd (hok d hd) hne
    · refine ⟨Nat.succ_pos _, ?_⟩
      intro d hd
      rcases List.mem_cons.mp hd with rfl | hd
      · exact hinv.positive.1
      · exact hinv.positive.2 d hd
    · intro d hd hnone
      rcases List.mem_cons.mp hd with rfl | hd
      · cases hnone
      · exact hinv.inUse d hd hnone

theorem invariant_transportInit {s : State} (hinv : Invariant s)
    (hok : s.transports.length + 1 < 2 ^ 32) : Invariant (ddsTransportInit s) := by
  constructor
  · have hcount := hinv.count
    have hone : (1 : BitVec 32).toNat = 1 := rfl
    simp only [ddsTransportInit, ddsCreateParticipant, List.length_cons, BitVec.toNat_add, hone]
    omega
  · intro d hd hne
    simp only [ddsTransportInit, ddsCreateParticipant] at hd ⊢
    split at hd
    · exact hinv.held d hd hne
    · rcases List.mem_cons.mp hd with rfl | hd
      · exact absurd rfl hne
      · exact hinv.held d hd hne
  · refine ⟨by simp [ddsTransportInit, ddsCreateParticipant], ?_⟩
    intro d hd
    simp only [ddsTransportInit, ddsCreateParticipant] at hd
    split at hd
    · exact hinv.positive.2 d hd
    · rcases List.mem_cons.mp hd with rfl | hd
      · exact Nat.succ_pos _
      · exact hinv.positive.2 d hd
  · intro d hd hnone
    simp only [ddsTransportInit, ddsCreateParticipant] at hd ⊢
    split at hd
    · obtain ⟨t, ht, hid⟩ := hinv.inUse d hd hnone
      exact ⟨t, List.mem_cons_of_mem _ ht, hid⟩
    · rcases List.mem_cons.mp hd with rfl | hd
      · exact ⟨_, List.mem_cons_self, rfl⟩
      · obtain ⟨t, ht, hid⟩ := hinv.inUse d hd hnone
        exact ⟨t, List.mem_cons_of_mem _ ht, hid⟩

theorem participantNum_sub {s : State} (hinv : Invariant s) {transport : Transport}
    (ht : transport ∈ s.transports) :
    (s.participantNum - 1).toNat = (s.transports.erase transport).length := by
  have hcount := hinv.count
  have hlen := List.length_erase_of_mem ht
  have hpos : 0 < s.transports.length := List.length_pos_of_mem ht
  have hword := s.participantNum.isLt
  have hone : (1 : BitVec 32).toNat = 1 := rfl
  rw [BitVec.toNat_sub, hone, hlen]
  omega

theorem invariant_deleteParticipant {s : State} (hinv : Invariant s) {transport : Transport}
    (ht : transport ∈ s.transports) :
    Invariant { ddsDeleteParticipant transport s with participantNum := s.participantNum - 1 } := by
  constructor
  · exact participantNum_sub hinv ht
  · intro d hd hne
    exact hinv.held d (List.mem_filter.mp hd).1 hne
  · refine ⟨hinv.positive.1, ?_⟩
    intro d hd
    exact hinv.positive.2 d (List.mem_filter.mp hd).1
  · intro d hd hnone
    have huse := (List.mem_filter.mp hd).2
    simpa [hnone, ddsDeleteParticipant] using huse

theorem domains_nil {s : State} (hinv : Invariant s) (hnone : s.transports = [])
    (hdomain : s.domain ≤ 0) : s.domains = [] := by
  apply List.eq_nil_iff_forall_not_mem.mpr
  intro d hd
  cases hi : d.interface with
  | none =>
    obtain ⟨t, ht, -⟩ := hinv.inUse d hd hi
    rw [hnone] at ht
    cases ht
  | some interface =>
    have hheld := hinv.held d hd (by simp [hi])
    have hpos := hinv.positive.2 d hd
    omega

theorem transports_nil_iff {s : State} (hinv : Invariant s) :
    s.participantNum = 0 ↔ s.transports = [] := by
  have hcount := hinv.count
  constructor
  · intro hzero
    rw [hzero] at hcount
    exact List.length_eq_zero_iff.mp hcount.symm
  · intro hnil
    rw [hnil] at hcount
    exact BitVec.eq_of_toNat_eq hcount

theorem releaseDomain_eq (s : State) : releaseDomain s =
    if s.participantNum = 0 ∧ 0 < s.domain then { ddsDeleteDomain s.domain s with domain := 0 }
    else s := rfl

theorem invariant_releaseDomain {s : State} (hinv : Invariant s) :
    Invariant (releaseDomain s) ∧
      ((releaseDomain s).transports = [] → (releaseDomain s).domains = []) := by
  rw [releaseDomain_eq]
  by_cases hlast : s.participantNum = 0 ∧ 0 < s.domain
  · rw [if_pos hlast]
    have hnil : s.transports = [] := (transports_nil_iff hinv).mp hlast.1
    have hgone : ∀ d ∈ (ddsDeleteDomain s.domain s).domains, False := by
      intro d hd
      obtain ⟨hd, hother⟩ := List.mem_filter.mp hd
      cases hi : d.interface with
      | none =>
        obtain ⟨t, ht, -⟩ := hinv.inUse d hd hi
        rw [hnil] at ht
        cases ht
      | some interface =>
        have hheld := hinv.held d hd (by simp [hi])
        simp only [bne_iff_ne, ne_eq] at hother
        exact hother hheld.symm
    refine ⟨⟨?_, ?_, ?_, ?_⟩, fun _ => List.eq_nil_iff_forall_not_mem.mpr hgone⟩
    · have hcount := hinv.count
      simp only [ddsDeleteDomain, hnil, List.filter_nil, List.length_nil] at hcount ⊢
      exact hcount
    · exact fun d hd => (hgone d hd).elim
    · exact ⟨hinv.positive.1, fun d hd => (hgone d hd).elim⟩
    · exact fun d hd => (hgone d hd).elim
  · rw [if_neg hlast]
    refine ⟨hinv, ?_⟩
    intro hnil
    apply domains_nil hinv hnil
    by_contra hpos
    exact hlast ⟨(transports_nil_iff hinv).mpr hnil, by omega⟩

theorem invariant_deinit {s : State} (hinv : Invariant s) {transport : Transport}
    (ht : transport ∈ s.transports) :
    Invariant (ddsTransportDeinit transport s) ∧
      ((ddsTransportDeinit transport s).transports = [] →
        (ddsTransportDeinit transport s).domains = []) :=
  invariant_releaseDomain (invariant_deleteParticipant hinv ht)

theorem invariant_step {s s' : State} {e : Event} (hinv : Invariant s) (hok : Ok s e)
    (hstep : step s e = some s') : Invariant s' := by
  cases e with
  | configInit interface id =>
    obtain rfl := Option.some.inj hstep
    exact invariant_configInit hinv hok
  | serverInit =>
    obtain rfl := Option.some.inj hstep
    exact invariant_transportInit hinv hok
  | agentInit =>
    obtain rfl := Option.some.inj hstep
    exact invariant_transportInit hinv hok
  | deinit transport =>
    rw [step] at hstep
    split at hstep
    · next ht =>
      obtain rfl := Option.some.inj hstep
      exact (invariant_deinit hinv ht).1
    · cases hstep

theorem invariant_execution {s : State} (h : Execution step Ok initial s) : Invariant s :=
  h.invariant invariant_initial fun _ _ _ hinv hok hstep => invariant_step hinv hok hstep

theorem createsDomain_of_nil {s : State} (hnil : s.domains = []) (interface : Text) (id : ℕ) :
    CreatesDomain s interface id := by
  have hpos : ¬ ((s.nextHandle : ℤ) < 0) := by omega
  simp [CreatesDomain, ddsTransportConfigInit, ddsCreateDomain, hnil, hpos]

/-- In every run inside the condition the counter is the number of live transports, and the
deinitialisation of the last one has deleted every domain: the next configuration creates one
for its own interface. -/
theorem domain_lifecycle {s : State} (h : Execution step Ok initial s) :
    s.participantNum.toNat = s.transports.length ∧
    ∀ transport s', step s (.deinit transport) = some s' → s'.transports = [] →
      s'.domains = [] ∧ ∀ interface id, CreatesDomain s' interface id := by
  have hinv := invariant_execution h
  refine ⟨hinv.count, ?_⟩
  intro transport s' hstep hlast
  rw [step] at hstep
  split at hstep
  · next ht =>
    obtain rfl := Option.some.inj hstep
    have hnil := (invariant_deinit hinv ht).2 hlast
    exact ⟨hnil, createsDomain_of_nil hnil⟩
  · cases hstep

/-- A server and an agent that share one configuration, then another interface. -/
theorem domain_lifecycle_shared : ∃ s s', step s (.deinit ⟨2, 0⟩) = some s' ∧
    s'.domains = [] ∧ CreatesDomain s' "eth1".toList 0 := by
  obtain ⟨s, -, h, hrun⟩ := exists_execution step Ok initial
    (fun s => (step s (.deinit ⟨2, 0⟩)).any (·.transports = []) = true)
    [.configInit "eth0".toList 0, .serverInit, .agentInit, .deinit ⟨4, 0⟩] (by decide)
  obtain ⟨s', hstep, hlast⟩ := (Option.any_eq_true _ _).mp hrun
  obtain ⟨hnil, hcreates⟩ := (domain_lifecycle h).2 ⟨2, 0⟩ s' hstep (of_decide_eq_true hlast)
  exact ⟨s, s', hstep, hnil, hcreates _ _⟩

structure Lost (d : Domain) (s : State) : Prop where
  there : d ∈ s.domains
  created : d.interface ≠ none
  notHeld : s.domain ≠ d.handle
  positive : 0 < d.handle
  old : d.handle < s.nextHandle

/-- A second configuration for a domain that was created loses its handle. -/
theorem lost_of_configInit {s : State} {d : Domain} (hd : d ∈ s.domains)
    (hi : d.interface ≠ none) (hpos : 0 < d.handle) (hnext : d.handle < s.nextHandle)
    (interface : Text) : Lost d (ddsTransportConfigInit interface d.id s).1 := by
  have hthere : s.domains.any (·.id == d.id) = true :=
    List.any_eq_true.mpr ⟨d, hd, by simp⟩
  rw [configInit_of_there hthere]
  refine ⟨hd, hi, ?_, hpos, hnext⟩
  simp only [preconditionNotMet]
  omega

theorem lost_transportInit {s : State} {d : Domain} (hlost : Lost d s) :
    Lost d (ddsTransportInit s) := by
  obtain ⟨hd, hi, hhandle, hpos, hnext⟩ := hlost
  refine ⟨?_, hi, hhandle, hpos, ?_⟩
  · simp only [ddsTransportInit, ddsCreateParticipant]
    split
    · exact hd
    · exact List.mem_cons_of_mem _ hd
  · simp only [ddsTransportInit, ddsCreateParticipant]
    omega

theorem lost_releaseDomain {s : State} {d : Domain} (hlost : Lost d s) :
    Lost d (releaseDomain s) := by
  obtain ⟨hd, hi, hhandle, hpos, hnext⟩ := hlost
  rw [releaseDomain_eq]
  split
  · refine ⟨List.mem_filter.mpr ⟨hd, ?_⟩, hi, ?_, hpos, hnext⟩
    · simpa using fun he => hhandle he.symm
    · simp only
      omega
  · exact ⟨hd, hi, hhandle, hpos, hnext⟩

theorem lost_step {s s' : State} {d : Domain} {e : Event} (hlost : Lost d s)
    (hstep : step s e = some s') : Lost d s' := by
  cases e with
  | configInit interface id =>
    obtain rfl := Option.some.inj hstep
    obtain ⟨hd, hi, hhandle, hpos, hnext⟩ := hlost
    by_cases hthere : s.domains.any (·.id == id)
    · rw [configInit_of_there hthere]
      refine ⟨hd, hi, ?_, hpos, hnext⟩
      simp only [preconditionNotMet]
      omega
    · rw [configInit_of_new hthere]
      refine ⟨List.mem_cons_of_mem _ hd, hi, ?_, hpos, Nat.lt_succ_of_lt hnext⟩
      simp only
      omega
  | serverInit =>
    obtain rfl := Option.some.inj hstep
    exact lost_transportInit hlost
  | agentInit =>
    obtain rfl := Option.some.inj hstep
    exact lost_transportInit hlost
  | deinit transport =>
    rw [step] at hstep
    split at hstep
    · obtain rfl := Option.some.inj hstep
      obtain ⟨hd, hi, hhandle, hpos, hnext⟩ := hlost
      have hsome : d.interface.isSome = true := Option.isSome_iff_ne_none.mpr hi
      have hkeep : d ∈ (ddsDeleteParticipant transport s).domains :=
        List.mem_filter.mpr ⟨hd, by simp [hsome]⟩
      exact lost_releaseDomain ⟨hkeep, hi, hhandle, hpos, hnext⟩
    · cases hstep

/-- A server and an agent in one process, each with its configuration, as the test suite starts
them: the domain outlives both, and the next configuration finds it bound to the old interface. -/
theorem domain_outlives_transports : ∃ s, Reachable step initial s ∧
    ∃ transport s', step s (.deinit transport) = some s' ∧ s'.transports = [] ∧
      s'.participantNum = 0 ∧ s'.domains = [⟨1, 0, some "eth0".toList⟩] ∧
      (ddsTransportConfigInit "eth1".toList 0 s').1.domains = [⟨1, 0, some "eth0".toList⟩] := by
  obtain ⟨s, hs, hrun⟩ := @exists_reachable _ _ step initial
    (fun s => (step s (.deinit ⟨4, 0⟩)).any (fun s' => s'.transports = [] ∧
      s'.participantNum = 0 ∧ s'.domains = [⟨1, 0, some "eth0".toList⟩] ∧
      (ddsTransportConfigInit "eth1".toList 0 s').1.domains = [⟨1, 0, some "eth0".toList⟩]) = true)
    _ [.configInit "eth0".toList 0, .serverInit, .configInit "eth0".toList 0, .agentInit,
      .deinit ⟨2, 0⟩] (by decide)
  obtain ⟨s', hstep, hchecks⟩ := (Option.any_eq_true _ _).mp hrun
  exact ⟨s, hs, ⟨4, 0⟩, s', hstep, of_decide_eq_true hchecks⟩

end DomainLifecycle
