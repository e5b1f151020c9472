import RmtLibrary.CallStatements
import RmtLibrary.GuardedExecution

/-! # Which calls do not mix their replies

Replies stay with their calls as long as no sequence is drawn twice and no thread changes a record
that another one is filling in or reading. -/
namespace OutstandingRequests

open ConcurrentCalls
open GuardedExecution

variable {ρ : Type}

theorem takeInstance_spec {key : ℕ} {reader rest : List Reply} {r : Reply}
    (h : takeInstance key reader = some (r, rest)) :
    r ∈ reader ∧ r.reply.randomSeq = key ∧ ∀ r' ∈ rest, r' ∈ reader := by
  obtain ⟨r', hfind, h⟩ := Option.map_eq_some_iff.mp h
  obtain ⟨rfl, rfl⟩ := Prod.mk.inj h
  refine ⟨List.mem_of_find?_eq_some hfind, by simpa using List.find?_some hfind, ?_⟩
  intro r' hr'
  exact List.mem_of_mem_eraseP hr'

@[simp]
theorem judge_process (s : System ρ) (p : ℕ) (taker : Option ℕ) (isFor : Bool) (r : Reply) :
    (judge s p taker isFor r).process = s.process := by
  unfold judge
  split
  · rfl
  · split <;> rfl

@[simp]
theorem judge_calls (s : System ρ) (p : ℕ) (taker : Option ℕ) (isFor : Bool) (r : Reply) :
    (judge s p taker isFor r).calls = s.calls := by
  unfold judge
  split
  · rfl
  · split <;> rfl

@[simp]
theorem judge_requests (s : System ρ) (p : ℕ) (taker : Option ℕ) (isFor : Bool) (r : Reply) :
    (judge s p taker isFor r).requests = s.requests := by
  unfold judge
  split
  · rfl
  · split <;> rfl

/-- No call recorded a reply to the request of another call, and no outstanding call lost a reply
to another one of its process. -/
structure Unmixed (s : System ρ) : Prop where
  recorded : ∀ e ∈ s.recorded, e.1 = some e.2
  lost : s.lost = []

theorem Unmixed.judge {s : System ρ} (h : Unmixed s) {p : ℕ} {taker : Option ℕ} {isFor : Bool}
    {r : Reply} (hfor : isFor = true → taker = some r.owner)
    (hother : OutstandingIn s p r.owner → taker = some r.owner) :
    Unmixed (judge s p taker isFor r) := by
  unfold ConcurrentCalls.judge
  split
  · next hyes =>
    refine ⟨?_, h.lost⟩
    intro e he
    rcases List.mem_append.mp he with he | he
    · exact h.recorded e he
    · obtain rfl := List.mem_singleton.mp he
      exact hfor hyes
  · split
    · next hlost => exact absurd (hother hlost.2) hlost.1
    · exact h

theorem outstandingIn_from {s : System ρ} {p owner : ℕ} {type : Idl.DataInfoType}
    {randomSeq : ℕ} (h : OutstandingIn s p owner) (hfrom : From s.calls owner type randomSeq) :
    ∃ c, s.calls[owner]? = some c ∧ c.drawn = some randomSeq ∧ c.process = p ∧
      Outstanding (s.process p) owner c := by
  obtain ⟨c, hc, hp, hout⟩ := h
  obtain ⟨d, hd, hdrawn, -⟩ := hfrom
  obtain rfl := Option.some.inj (hd.symm.trans hc)
  exact ⟨d, hd, hdrawn, hp, hout⟩

/-- A call that has taken a reply keeps it if and only if the reply is its own. -/
theorem Invariant.call_judges {s : System ρ} (h : Invariant s) {i : ℕ} {c : Call} {r : Reply}
    (hc : s.calls[i]? = some c) (hpc : c.pc = .received r) :
    (ReplyCollection.isFor ((s.process c.process).static c.args.fn) r.reply = true →
      i = r.owner) ∧ (OutstandingIn s c.process r.owner → i = r.owner) := by
  have hcall := h.call i c hc
  have hdrawn : c.drawn = some r.reply.randomSeq := by
    rw [hcall.taken r hpc]
    exact hcall.key (by simp [hpc, keyed])
  have hsource := h.received i c r hc hpc
  constructor
  · intro hfor
    have htype : r.reply.type = c.args.fn.type := by
      rw [← hcall.type (by simp [hpc, typed])]
      simp only [ReplyCollection.isFor, decide_eq_true_eq] at hfor
      exact hfor.1
    obtain ⟨d, hd, hdd, hdtype⟩ := hsource
    have hfn := Fn.type_injective (hdtype.trans htype)
    exact h.distinct i r.owner c d _ hc hd hdrawn hdd hfn.symm
  · intro hout
    obtain ⟨d, hd, hdd, hp, hout⟩ := outstandingIn_from hout hsource
    rw [← hp] at hout
    refine h.apart i r.owner c d _ hc hd hdrawn hdd hp.symm ⟨by simp [hdrawn], Or.inl ?_⟩ hout
    simp [hpc]

theorem unpublished_of_not_filling {pc : Pc} (hf : filling pc ≠ true) (hr : pc ≠ .returned) :
    unpublished pc = true := by
  cases pc <;> simp_all [filling, unpublished]

theorem Invariant.poll_judges {s : System ρ} (h : Invariant s) {p key k : ℕ} {r : Reply}
    (hpoll : (s.process p).poll = .received key k r) (hwhole : WholeRecord s p) :
    (TransferEffects.isFor (s.process p).stat r.reply = true →
      (s.process p).owner = some r.owner) ∧
    (OutstandingIn s p r.owner → (s.process p).owner = some r.owner) := by
  have hproc := h.process p
  have hkey := hproc.taken key k r hpoll
  have hsource := h.replies p r (Or.inr (Or.inr ⟨key, k, hpoll⟩))
  constructor
  · intro hfor
    simp only [TransferEffects.isFor, decide_eq_true_eq] at hfor
    obtain ⟨w, hw⟩ := Option.ne_none_iff_exists'.mp
      (hproc.polling (Or.inr (by simp [hpoll, draining])))
    obtain ⟨d, hd, hdp, hfilled⟩ := hproc.record w hw
    have hmid := forall_calls (hwhole (by simp [hpoll, holding])) hd hdp
    have hdrawn : d.drawn = some r.reply.randomSeq := by
      rw [hfor.2]
      apply hfilled.seq
      cases hpc : d.pc <;> simp_all [midway, unsequenced]
    obtain ⟨e, he, hed, hetype⟩ := hsource
    have hfn := Fn.type_injective
      ((hfilled.type hmid).symm.trans (hfor.1.symm.trans hetype.symm))
    rw [hw, h.distinct w r.owner d e _ hd he hdrawn hed hfn]
  · intro hout
    obtain ⟨d, hd, hdd, hp, hout⟩ := outstandingIn_from hout hsource
    rcases hout.2 with hactive | hrun
    · have hcall := h.call_in hd hp
      by_cases hf : filling d.pc = true
      · exact hcall.filling hf
      · have hne := (hcall.unpublished (unpublished_of_not_filling hf hactive) _ hdd).2
        rw [hpoll, hkey] at hne
        exact absurd rfl hne
    · exact hproc.running _ hrun

/-- What the poll, or the arrival of a reply, does to a process. -/
structure ProcessMoves (P P' : Process ρ) : Prop where
  static : P'.static = P.static
  statSeq : P'.stat.randomSeq = P.stat.randomSeq
  statType : P'.stat.type = P.stat.type
  owner : P'.owner = P.owner
  running : ∀ i ∈ P'.running, i ∈ P.running
  idle : P'.stat.status = 0 → P.stat.status = 0 ∨ P'.running = []
  polling : P'.stat.status ≠ 0 ∨ draining P'.poll = true →
    P.stat.status ≠ 0 ∨ draining P.poll = true
  key : ∀ key, P'.poll.key = some key → P.stat.randomSeq = key ∨ P.poll.key = some key
  taken : ∀ key i r, P'.poll = .received key i r → r.reply.randomSeq = key
  has : ∀ r, Has P' r → Has P r

theorem CallInv.process {P P' : Process ρ} (hm : ProcessMoves P P') {i : ℕ} {c : Call}
    (h : CallInv P i c) : CallInv P' i c := by
  refine ⟨h.undrawn, ?_, ?_, h.key, h.taken, ?_, ?_⟩
  · rw [hm.static]
    exact h.type
  · rw [hm.static]
    exact h.static
  · rw [hm.owner]
    exact h.filling
  · intro hpc randomSeq hd
    obtain ⟨hstat, hkey⟩ := h.unpublished hpc randomSeq hd
    rw [hm.statSeq]
    refine ⟨hstat, ?_⟩
    intro hk
    rcases hm.key _ hk with he | he
    · exact hstat he
    · exact hkey he

theorem ProcessInv.process {calls : List Call} {p : ℕ} {P P' : Process ρ}
    (hm : ProcessMoves P P') (h : ProcessInv calls p P) : ProcessInv calls p P' := by
  constructor
  · intro i hi
    rw [hm.owner]
    exact h.running i (hm.running i hi)
  · intro hzero
    rcases hm.idle hzero with hz | hnone
    · apply List.eq_nil_iff_forall_not_mem.mpr
      intro i hi
      have hi' := hm.running i hi
      rw [h.idle hz] at hi'
      cases hi'
    · exact hnone
  · intro hp
    rw [hm.owner]
    exact h.polling (hm.polling hp)
  · intro i hi
    rw [hm.owner] at hi
    obtain ⟨c, hc, hp, hbegun, hseq, htype⟩ := h.record i hi
    refine ⟨c, hc, hp, hbegun, ?_, ?_⟩
    · rw [hm.statSeq]
      exact hseq
    · rw [hm.statType]
      exact htype
  · exact hm.taken

theorem Invariant.processMove {s s' : System ρ} (h : Invariant s) {p : ℕ} {P : Process ρ}
    (hm : ProcessMoves (s.process p) P) (hcalls : s'.calls = s.calls)
    (hself : s'.process p = P) (hother : ∀ q, q ≠ p → s'.process q = s.process q)
    (hreqs : s'.requests = s.requests) : Invariant s' := by
  have hout : ∀ {i : ℕ} {c : Call}, Outstanding (s'.process c.process) i c →
      Outstanding (s.process c.process) i c := by
    intro i c ho
    by_cases hq : c.process = p
    · rw [hq, hself] at ho
      rw [hq]
      exact ⟨ho.1, ho.2.imp_right (hm.running i)⟩
    · rwa [hother _ hq] at ho
  constructor
  · intro i c hc
    rw [hcalls] at hc
    by_cases hq : c.process = p
    · rw [hq, hself]
      exact (h.call_in hc hq).process hm
    · rw [hother _ hq]
      exact h.call i c hc
  · intro q
    rw [hcalls]
    by_cases hq : q = p
    · rw [hq, hself]
      exact (h.process p).process hm
    · rw [hother q hq]
      exact h.process q
  · rw [hcalls]
    exact h.distinct
  · rw [hcalls]
    intro i j c d randomSeq hc hd hcd hdd hp hoc hod
    exact h.apart i j c d randomSeq hc hd hcd hdd hp (hout hoc) (hout hod)
  · rw [hcalls, hreqs]
    exact h.requests
  · intro q r hr
    rw [hcalls]
    by_cases hq : q = p
    · rw [hq, hself] at hr
      exact h.replies p r (hm.has r hr)
    · rw [hother q hq] at hr
      exact h.replies q r hr
  · rw [hcalls]
    exact h.received

theorem ProcessMoves.poll (P : Process ρ) (poll : PollPc) (idList : Option (List ℕ))
    (idNum recvNum : ℕ)
    (hpolling : draining poll = true → P.stat.status ≠ 0 ∨ draining P.poll = true)
    (hkey : ∀ key, poll.key = some key → P.stat.randomSeq = key ∨ P.poll.key = some key)
    (htaken : holding poll = false) :
    ProcessMoves P { P with poll, stat := { P.stat with idList, idNum, recvNum } } := by
  refine ⟨rfl, rfl, rfl, rfl, fun _ hi => hi, Or.inl, ?_, hkey, ?_, ?_⟩
  · rintro (hs | hd)
    · exact Or.inl hs
    · exact hpolling hd
  · rintro key i r rfl
    cases htaken
  · rintro r (hr | hr | ⟨key, i, rfl⟩)
    · exact Or.inl hr
    · exact Or.inr (Or.inl hr)
    · cases htaken

theorem ProcessMoves.leave (P : Process ρ) (poll : PollPc) (idList : Option (List ℕ))
    (idNum recvNum : ℕ) (hdrain : draining poll = false) (hkey : poll.key = none) :
    ProcessMoves P { P with poll, stat := { P.stat with idList, idNum, recvNum } } := by
  apply ProcessMoves.poll
  · intro hd
    rw [hdrain] at hd
    cases hd
  · intro key hk
    rw [hkey] at hk
    cases hk
  · cases poll <;> first | rfl | cases hkey

theorem ProcessMoves.finish (P : Process ρ) (poll : PollPc) (hdrain : draining poll = false)
    (hkey : poll.key = none) : ProcessMoves P
      { P with stat := { P.stat with status := 0 }, running := [], poll } := by
  refine ⟨rfl, rfl, rfl, rfl, nofun, fun _ => Or.inr rfl, ?_, ?_, ?_, ?_⟩
  · rintro (hs | hd)
    · exact absurd rfl hs
    · rw [hdrain] at hd
      cases hd
  · intro key hk
    rw [hkey] at hk
    cases hk
  · rintro key i r rfl
    cases hkey
  · rintro r (hr | hr | ⟨key, i, rfl⟩)
    · exact Or.inl hr
    · exact Or.inr (Or.inl hr)
    · cases hkey

theorem processMoves_take {P : Process ρ} {key i : ℕ} (hpoll : P.poll = .drain key i)
    {r : Reply} {reader : List Reply} (ht : takeInstance key P.reader = some (r, reader)) :
    ProcessMoves P { P with reader, poll := .received key i r } := by
  obtain ⟨hmem, hseq, hrest⟩ := takeInstance_spec ht
  refine ⟨rfl, rfl, rfl, rfl, fun _ hi => hi, Or.inl, ?_, ?_, ?_, ?_⟩
  · intro _
    exact Or.inr (by simp [hpoll, draining])
  · intro k hk
    exact Or.inr (by rw [hpoll]; exact hk)
  · rintro _ _ _ ⟨⟩
    exact hseq
  · rintro r' (hr | hr | ⟨_, _, ⟨⟩⟩)
    · exact Or.inl hr
    · exact Or.inr (Or.inl (hrest r' hr))
    · exact Or.inr (Or.inl hmem)

theorem pollStep_moves {replyTimeout now : ℤ} {P P' : Process ρ}
    (h : pollStep replyTimeout now P = some P') : ProcessMoves P P' := by
  unfold pollStep at h
  cases hpoll : P.poll with
  | idle =>
    simp only [hpoll, Option.some.injEq] at h
    obtain rfl := h
    apply ProcessMoves.poll P (.test P.stat.randomSeq) _ _ _
    · intro hd
      cases hd
    · intro key hk
      exact Or.inl (Option.some.inj hk)
    · rfl
  | test key =>
    simp only [hpoll, Option.some.injEq] at h
    obtain rfl := h
    split
    · next hone =>
      apply ProcessMoves.poll P (.init key) _ _ _
      · intro _
        exact Or.inl (by omega)
      · intro k hk
        exact Or.inr (by rw [hpoll]; exact hk)
      · rfl
    · exact .leave P .idle _ _ _ rfl rfl
  | init key =>
    simp only [hpoll, Option.some.injEq] at h
    obtain rfl := h
    apply ProcessMoves.poll P (.loop key P.stat.recvNum) _ _ _
    · intro _
      exact Or.inr (by simp [hpoll, draining])
    · intro k hk
      exact Or.inr (by rw [hpoll]; exact hk)
    · rfl
  | loop key i =>
    simp only [hpoll, Option.some.injEq] at h
    obtain rfl := h
    split
    · apply ProcessMoves.poll P (.drain key i) _ _ _
      · intro _
        exact Or.inr (by simp [hpoll, draining])
      · intro k hk
        exact Or.inr (by rw [hpoll]; exact hk)
      · rfl
    · exact .leave P .count _ _ _ rfl rfl
  | drain key i =>
    simp only [hpoll] at h
    cases ht : takeInstance key P.reader with
    | none =>
      simp only [ht, Option.some.injEq] at h
      obtain rfl := h
      apply ProcessMoves.poll P (.loop key (i + 1)) _ _ _
      · intro _
        exact Or.inr (by simp [hpoll, draining])
      · intro k hk
        exact Or.inr (by rw [hpoll]; exact hk)
      · rfl
    | some taken =>
      simp only [ht, Option.some.injEq] at h
      obtain rfl := h
      exact processMoves_take hpoll ht
  | received key i r => simp [hpoll] at h
  | count =>
    simp only [hpoll, Option.some.injEq] at h
    obtain rfl := h
    split
    · exact .leave P .done _ _ _ rfl rfl
    · exact .leave P .deadline _ _ _ rfl rfl
  | done =>
    simp only [hpoll, Option.some.injEq] at h
    obtain rfl := h
    exact .finish P .deadline rfl rfl
  | deadline =>
    simp only [hpoll, Option.some.injEq] at h
    obtain rfl := h
    split
    · exact .leave P .expire _ _ _ rfl rfl
    · exact .leave P .free _ _ _ rfl rfl
  | expire =>
    simp only [hpoll, Option.some.injEq] at h
    obtain rfl := h
    exact .finish P .free rfl rfl
  | free =>
    simp only [hpoll, Option.some.injEq] at h
    obtain rfl := h
    split
    · exact .leave P .clearIdList _ _ _ rfl rfl
    · exact .leave P .idle _ _ _ rfl rfl
  | clearIdList =>
    simp only [hpoll, Option.some.injEq] at h
    obtain rfl := h
    exact .leave P .clearIdNum _ _ _ rfl rfl
  | clearIdNum =>
    simp only [hpoll, Option.some.injEq] at h
    obtain rfl := h
    exact .leave P .idle _ _ _ rfl rfl

theorem arrive_moves {P P' : Process ρ} {j : ℕ} (hinv : ∀ key i r,
    P.poll = .received key i r → r.reply.randomSeq = key) (h : P.arrive j = some P') :
    ProcessMoves P P' := by
  obtain ⟨r, hr, rfl⟩ := Option.map_eq_some_iff.mp h
  refine ⟨rfl, rfl, rfl, rfl, fun _ hi => hi, Or.inl, fun hp => hp, fun _ hk => Or.inr hk,
    hinv, ?_⟩
  rintro r' (hr' | hr' | hr')
  · exact Or.inl (List.mem_of_mem_eraseIdx hr')
  · rcases List.mem_append.mp hr' with hr' | hr'
    · exact Or.inr (Or.inl hr')
    · rw [List.mem_singleton.mp hr']
      exact Or.inl (List.mem_of_getElem? hr)
  · exact Or.inr (Or.inr hr')

theorem Invariant.answer {s : System ρ} (h : Invariant s) {req : ℕ × Idl.DataInfoRequest}
    (hreq : req ∈ s.requests) {deviceID : ℕ} {msg : CString.Text} {binary : List UInt8}
    {r : Reply} (hr : answerTo req deviceID msg binary = some r) :
    Invariant { s with process := fun p =>
      { s.process p with inFlight := (s.process p).inFlight ++ [r] } } := by
  have hsource : Sourced s.calls r := by
    unfold answerTo at hr
    split at hr
    · cases hr
      exact h.requests req hreq
    · cases hr
  constructor
  · intro i c hc
    have hcall := h.call i c hc
    exact ⟨hcall.undrawn, hcall.type, hcall.static, hcall.key, hcall.taken, hcall.filling,
      hcall.unpublished⟩
  · intro p
    obtain ⟨hrunning, hidle, hpolling, hrecord, htaken⟩ := h.process p
    refine ⟨hrunning, hidle, hpolling, ?_, htaken⟩
    intro i hi
    obtain ⟨c, hc, hp, hbegun, hseq, htype⟩ := hrecord i hi
    exact ⟨c, hc, hp, hbegun, hseq, htype⟩
  · exact h.distinct
  · exact h.apart
  · exact h.requests
  · rintro p r' (hr' | hr' | hr')
    · rcases List.mem_append.mp hr' with hr' | hr'
      · exact h.replies p r' (Or.inl hr')
      · rw [List.mem_singleton.mp hr']
        exact hsource
    · exact h.replies p r' (Or.inr (Or.inl hr'))
    · exact h.replies p r' (Or.inr (Or.inr hr'))
  · exact h.received

theorem getElem?_append_cases {calls : List Call} {i : ℕ} {c d : Call}
    (h : (calls ++ [c])[i]? = some d) :
    calls[i]? = some d ∨ (i = calls.length ∧ d = c) := by
  by_cases hi : i < calls.length
  · rw [List.getElem?_append_left hi] at h
    exact Or.inl h
  · have hlt := (List.getElem?_eq_some_iff.mp h).1
    have he : i = calls.length := by
      rw [List.length_append, List.length_singleton] at hlt
      omega
    subst he
    rw [List.getElem?_append_right le_rfl, Nat.sub_self] at h
    exact Or.inr ⟨rfl, (Option.some.inj h).symm⟩

theorem getElem?_append_some {calls : List Call} {i : ℕ} {c d : Call}
    (h : calls[i]? = some d) : (calls ++ [c])[i]? = some d := by
  rw [List.getElem?_append_left (List.getElem?_eq_some_iff.mp h).1]
  exact h

theorem From.append {calls : List Call} {owner randomSeq : ℕ} {type : Idl.DataInfoType}
    (h : From calls owner type randomSeq) (c : Call) :
    From (calls ++ [c]) owner type randomSeq := by
  obtain ⟨d, hd, hdd, htype⟩ := h
  exact ⟨d, getElem?_append_some hd, hdd, htype⟩

theorem begin_inv (P : Process ρ) (i process : ℕ) (args : ServerCall) :
    CallInv P i (begin process args) := by
  unfold begin
  split <;> exact ⟨fun _ => rfl, nofun, nofun, nofun, nofun, nofun, nofun⟩

theorem Invariant.begin {s : System ρ} (h : Invariant s) (process : ℕ) (args : ServerCall) :
    Invariant { s with calls := s.calls ++ [begin process args] } := by
  have hnew : (ConcurrentCalls.begin process args).drawn = none := rfl
  constructor
  · intro i c hc
    rcases getElem?_append_cases hc with hc | ⟨rfl, rfl⟩
    · exact h.call i c hc
    · exact begin_inv _ _ _ _
  · intro p
    obtain ⟨hrunning, hidle, hpolling, hrecord, htaken⟩ := h.process p
    refine ⟨hrunning, hidle, hpolling, ?_, htaken⟩
    intro i hi
    obtain ⟨c, hc, hfilled⟩ := hrecord i hi
    exact ⟨c, getElem?_append_some hc, hfilled⟩
  · intro i j c d randomSeq hc hd hcd hdd hfn
    rcases getElem?_append_cases hc with hc | ⟨rfl, rfl⟩
    · rcases getElem?_append_cases hd with hd | ⟨rfl, rfl⟩
      · exact h.distinct i j c d randomSeq hc hd hcd hdd hfn
      · cases hdd
    · cases hcd
  · intro i j c d randomSeq hc hd hcd hdd hp hoc hod
    rcases getElem?_append_cases hc with hc | ⟨rfl, rfl⟩
    · rcases getElem?_append_cases hd with hd | ⟨rfl, rfl⟩
      · exact h.apart i j c d randomSeq hc hd hcd hdd hp hoc hod
      · cases hdd
    · cases hcd
  · intro req hreq
    exact (h.requests req hreq).append _
  · intro p r hr
    exact (h.replies p r hr).append _
  · intro i c r hc hpc
    rcases getElem?_append_cases hc with hc | ⟨rfl, rfl⟩
    · exact (h.received i c r hc hpc).append _
    · unfold ConcurrentCalls.begin at hpc
      split at hpc <;> cases hpc

theorem Invariant.drainMoves {s : System ρ} (h : Invariant s) {i : ℕ} {c : Call}
    (hc : s.calls[i]? = some c) (hpc : c.pc = .drain) {r : Reply} {reader : List Reply}
    (ht : takeInstance c.instanceKey (s.process c.process).reader = some (r, reader)) :
    Moves s i c { s.process c.process with reader } (c.goto (.received r)) := by
  obtain ⟨hmem, hseq, hrest⟩ := takeInstance_spec ht
  apply h.quiet hc
  · refine ⟨⟨rfl, rfl, rfl, rfl, rfl, hrest, rfl, rfl⟩, fun _ => rfl, fun _ => rfl⟩
  · rw [hpc]
    constructor <;> simp [Call.goto, beforeDraw, typed, needsStatic, keyed, filling, unsequenced,
      midway, unpublished]
  · rfl
  · rfl
  · rfl
  · rfl
  · rintro _ ⟨⟩
    exact ⟨hseq, h.replies c.process r (Or.inr (Or.inl hmem))⟩

theorem callStep_spec {G : RandLib ρ} {replyTimeout now : ℤ} {s s' : System ρ} (h : Invariant s)
    (hu : Unmixed s) {i : ℕ} {c : Call} (hc : s.calls[i]? = some c) (hfresh : FreshSeq G s c)
    (hstatic : FreeStatic s c) (hfree : FreeRecord s c)
    (hstep : callStep G replyTimeout now i c s = some s') : Invariant s' ∧ Unmixed s' := by
  have hview := SameView.refl (s.process c.process)
  unfold callStep at hstep
  cases hpc : c.pc with
  | drain =>
    simp only [hpc] at hstep
    cases ht : takeInstance c.instanceKey (s.process c.process).reader with
    | none =>
      simp only [ht, Option.some.injEq] at hstep
      subst hstep
      have hm : Moves s i c (s.process c.process) (c.goto .nowTime) := by
        apply h.goto hc hpc
        · constructor <;> decide
        · simp
        · exact hview
      exact ⟨h.move hc hm rfl rfl (fun _ _ => rfl) fun _ => Or.inl, hu.recorded, hu.lost⟩
    | some taken =>
      obtain ⟨r, reader⟩ := taken
      simp only [ht, Option.some.injEq] at hstep
      subst hstep
      have hm := h.drainMoves hc hpc ht
      refine ⟨h.move hc hm rfl ?_ ?_ fun _ => Or.inl, hu.recorded, hu.lost⟩
      · exact Function.update_self _ _ _
      · intro p hp
        exact Function.update_of_ne hp _ _
  | received r =>
    simp only [hpc, Option.some.injEq] at hstep
    subst hstep
    obtain ⟨hfor, hother⟩ := h.call_judges hc hpc
    have hm : ∀ num, Moves s i c (s.process c.process) { c with num, pc := .drain } := by
      intro num
      apply h.goto hc hpc
      · constructor <;> simp [beforeDraw, typed, needsStatic, keyed, filling, unsequenced, midway,
          unpublished]
      · simp
      · exact hview
    constructor
    · apply h.move hc (hm _)
      · rw [System.setCall, judge_calls]
      · simp [System.setCall]
      · intro p _
        simp [System.setCall]
      · intro req hreq
        exact Or.inl (by simpa [System.setCall] using hreq)
    · have hj := hu.judge (fun hf => congrArg some (hfor hf))
        (fun ho => congrArg some (hother ho))
      exact ⟨hj.recorded, hj.lost⟩
  | _ =>
    simp only [hpc] at hstep
    obtain ⟨⟨P, c'⟩, hop, rfl⟩ := Option.map_eq_some_iff.mp hstep
    have hm := h.opMoves hc hfresh hstatic hfree hop
    refine ⟨h.move hc hm rfl ?_ ?_ ?_, hu.recorded, hu.lost⟩
    · exact Function.update_self _ _ _
    · intro p hp
      exact Function.update_of_ne hp _ _
    · intro req hreq
      exact (List.mem_append.mp hreq).imp_right (h.written_from hc req)

theorem pollProcess_spec {replyTimeout now : ℤ} {s s' : System ρ} (h : Invariant s)
    (hu : Unmixed s) {p : ℕ} (hwhole : WholeRecord s p)
    (hstep : pollProcess replyTimeout now p s = some s') : Invariant s' ∧ Unmixed s' := by
  unfold pollProcess at hstep
  cases hpoll : (s.process p).poll with
  | received key i r =>
    simp only [hpoll, Option.some.injEq] at hstep
    subst hstep
    obtain ⟨hfor, hother⟩ := h.poll_judges hpoll hwhole
    constructor
    · have hm : ∀ recvNum, ProcessMoves (s.process p) { s.process p with
          stat := { (s.process p).stat with recvNum }, poll := .drain key i } := by
        intro recvNum
        apply ProcessMoves.poll
        · intro _
          exact Or.inr (by simp [hpoll, draining])
        · intro k hk
          exact Or.inr (by rw [hpoll]; exact hk)
        · rfl
      apply h.processMove (hm _)
      · simp [System.setProcess]
      · exact Function.update_self _ _ _
      · intro q hq
        simp [System.setProcess, Function.update_of_ne hq]
      · simp [System.setProcess]
    · have hj := hu.judge hfor hother
      exact ⟨hj.recorded, hj.lost⟩
  | _ =>
    simp only [hpoll] at hstep
    obtain ⟨P, hP, rfl⟩ := Option.map_eq_some_iff.mp hstep
    refine ⟨h.processMove (pollStep_moves hP) rfl ?_ ?_ rfl, hu.recorded, hu.lost⟩
    · exact Function.update_self _ _ _
    · intro q hq
      exact Function.update_of_ne hq _ _

theorem invariant_step {G : RandLib ρ} {replyTimeout : ℤ} {s s' : System ρ} {e : Event}
    (h : Invariant s) (hu : Unmixed s) (hok : Apart G s e)
    (hstep : step G replyTimeout s e = some s') : Invariant s' ∧ Unmixed s' := by
  cases e with
  | call process args =>
    cases hstep
    exact ⟨h.begin process args, hu.recorded, hu.lost⟩
  | op i now =>
    obtain ⟨c, hc, hstep⟩ := Option.bind_eq_some_iff.mp hstep
    obtain ⟨hfresh, hstatic, hfree⟩ := hok c hc
    exact callStep_spec h hu hc hfresh hstatic hfree hstep
  | poll p now => exact pollProcess_spec h hu hok hstep
  | answer k deviceID msg binary =>
    obtain ⟨req, hreq, hstep⟩ := Option.bind_eq_some_iff.mp hstep
    obtain ⟨r, hr, hstep⟩ := Option.bind_eq_some_iff.mp hstep
    cases hstep
    exact ⟨h.answer (List.mem_of_getElem? hreq) hr, hu.recorded, hu.lost⟩
  | deliver p j =>
    obtain ⟨P, hP, rfl⟩ := Option.map_eq_some_iff.mp hstep
    refine ⟨h.processMove (arrive_moves (h.process p).taken hP) rfl ?_ ?_ rfl, hu.recorded,
      hu.lost⟩
    · exact Function.update_self _ _ _
    · intro q hq
      exact Function.update_of_ne hq _ _

/-- In every run in which no two outstanding requests can be taken for each other, no reply gets
to another call than its own. -/
theorem replies_unmixed (G : RandLib ρ) (replyTimeout : ℤ) {s : System ρ}
    (h : Execution (step G replyTimeout) (Apart G) (initial G) s) : Unmixed s := by
  have hboth : Invariant s ∧ Unmixed s := by
    apply h.invariant ⟨invariant_initial G, nofun, rfl⟩
    rintro s e s' ⟨hinv, hu⟩ hok hstep
    exact invariant_step hinv hu hok hstep
  exact hboth.2

/-- The example of `rand` and `srand` in the C standard. -/
def portableRand : RandLib ℕ where
  srand seed := (seed % 2 ^ 32).toNat
  rand next :=
    let next := (next * 1103515245 + 12345) % 2 ^ 64
    (next / 65536 % 32768, next)

def statements (i n : ℕ) (now : ℤ) : List Event := List.replicate n (.op i now)

/-- A file transfer and a query of one process, drawn in different seconds, get their replies. -/
theorem replies_unmixed_overlap : ∃ s,
    Execution (step portableRand 3) (Apart portableRand) (initial portableRand) s ∧
      s.recorded = [(some 0, 0), (some 1, 1)] ∧ Unmixed s := by
  let run : List Event :=
    [.call 0 (.sendFile [1] ['f'] [] []), .call 0 (.getInfo [1] ['k', ';'])] ++
    statements 0 9 6 ++ statements 1 9 7 ++ statements 0 7 7 ++
    [.answer 0 1 ['0'] [], .deliver 0 0, .answer 1 1 ['k', ':', ';'] [], .deliver 0 0] ++
    List.replicate 6 (.poll 0 8) ++ statements 1 4 8
  obtain ⟨s, -, hrun, hrec⟩ := exists_execution (step portableRand 3) (Apart portableRand)
    (initial portableRand) (fun s => s.recorded = [(some 0, 0), (some 1, 1)]) run
    (by decide +kernel)
  exact ⟨s, hrun, hrec, replies_unmixed portableRand 3 hrun⟩

/-- Two servers ask different devices in one second, and the second one records the reply to the
first. Two threads of a server call in one second, and the second one throws the reply to the
first away. -/
theorem same_second_mixes :
    (∃ s, Reachable (step portableRand 3) (initial portableRand) s ∧ (some 1, 0) ∈ s.recorded) ∧
    ∃ s, Reachable (step portableRand 3) (initial portableRand) s ∧ s.lost = [0] := by
  constructor
  · exact exists_reachable _ ([.call 0 (.getInfo [1] ['k', ';']),
      .call 1 (.getInfo [2] ['k', ';'])] ++ statements 0 9 7 ++ statements 1 9 7 ++
      statements 1 2 8 ++ [.answer 0 1 ['k', ':', ';'] [], .deliver 1 0] ++ statements 1 2 8)
      (by decide +kernel)
  · exact exists_reachable _ ([.call 0 (.getInfo [1] ['k', ';']),
      .call 0 (.setInfo [⟨1, ['k', ':', 'v', ';']⟩])] ++ statements 0 9 7 ++ statements 1 9 7 ++
      statements 1 2 8 ++ [.answer 0 1 ['k', ':', ';'] [], .deliver 0 0] ++ statements 1 2 8)
      (by decide +kernel)

end OutstandingRequests
