import RmtLibrary.TransferHistory

/-! # Deadline and isolation of file transfers -/
namespace TransferDeadline

open DeviceRegistry
open DevinfoServer
open FileTransfer
open GuardedExecution
open HeapChain (Owned)
open Idl (DataInfoReply)
open TransferEffects
open TransferHistory

/-- A transfer that starts has a random sequence no earlier one had. -/
def FreshSeq (s : Tracked) (e : Event) : Prop :=
  ∀ r ∈ startOf e, s.server.gFileTransferStat.status = 0 → r.2.1 ∉ s.history.used

instance (s : Tracked) (e : Event) : Decidable (FreshSeq s e) := by
  unfold FreshSeq
  infer_instance

structure Invariant (s : Tracked) : Prop extends Sound s where
  latest : s.server.gFileTransferStat.status = 1 →
    ∃ earlier, s.history.used = s.server.gFileTransferStat.randomSeq :: earlier
  distinct : s.history.used.Nodup

theorem invariant_initial : Invariant initial where
  toSound := sound_initial
  latest h := by simp [initial, datainfoServerInit] at h
  distinct := List.nodup_nil

theorem invariant_step (replyTimeout : ℤ) {s s' : Tracked} {e : Event} (h : Invariant s)
    (hfresh : FreshSeq s e) (hstep : step replyTimeout s e = some s') : Invariant s' := by
  have hsound := sound_step h.toSound hstep
  obtain ⟨t, ht⟩ := h.table
  obtain ⟨t', -, heffect⟩ := step_effect h.toSound ht hstep
  cases heffect with
  | unchanged => exact h
  | started hstart hidle _ hseq _ _ _ _ =>
    refine ⟨hsound, fun _ => ⟨s.history.used, ?_⟩, ?_⟩
    · rw [hseq]
      rfl
    · exact List.nodup_cons.mpr ⟨hfresh _ hstart hidle, h.distinct⟩
  | polled hrun hseq _ _ =>
    refine ⟨hsound, fun _ => ?_, h.distinct⟩
    rw [hseq]
    exact h.latest hrun
  | arrived => exact ⟨hsound, h.latest, h.distinct⟩
  | added => exact ⟨hsound, h.latest, h.distinct⟩
  | deleted => exact ⟨hsound, h.latest, h.distinct⟩

theorem invariant_execution {replyTimeout : ℤ} {s : Tracked}
    (h : Execution (step replyTimeout) FreshSeq initial s) : Invariant s :=
  h.invariant invariant_initial fun _ _ _ hi hg hs => invariant_step replyTimeout hi hg hs

/-- The poll may change this device: a reply of the transfer for it is there, or the deadline has
passed and the device is one of the transfer's and still runs. -/
def MayChange (replyTimeout : ℤ) (env : PollEnv) (s : Tracked) (dev : DevList) : Prop :=
  let stat := s.server.gFileTransferStat
  stat.status = 1 ∧
    ((∃ sample ∈ s.server.reader, sample.validData ∧ sample.data.deviceID = dev.info.deviceID ∧
      sample.data.type = stat.type ∧ sample.data.randomSeq = stat.randomSeq ∧
      sample.data.randomSeq ∉ s.history.used.tail) ∨
    (env.now - stat.startTime > replyTimeout ∧ dev.info.deviceID ∈ s.history.started ∧
      dev.agentTransferStatus = .running))

/-- In every run whose transfers have different random sequences, a running transfer has the ID
list and the time it was started with, and every poll ends without a fault. A poll changes status
or result of a device only for a reply of the running transfer that carries its ID, or because
the deadline has passed while the device was running; and past the deadline it ends the transfer
and leaves no device of it running. -/
theorem deadline_and_isolation {replyTimeout : ℤ} {s : Tracked}
    (h : Execution (step replyTimeout) FreshSeq initial s) :
    let stat := s.server.gFileTransferStat
    (stat.status = 1 → stat.idList = some s.history.started ∧
      s.history.started.length = stat.idNum ∧ stat.startTime = s.history.startedAt) ∧
    ∀ env, ∃ s' t t', dataserverInfoFileTransferThread replyTimeout env s.server = some s' ∧
      Owned s.server.registry.heap s.server.registry.gDevHead t ∧
      Owned s'.registry.heap s'.registry.gDevHead t' ∧
      List.Forall₂ (fun dev dev' => dev'.info = dev.info ∧ dev'.internalId = dev.internalId ∧
        ((dev'.agentTransferStatus, dev'.transferResult) ≠
          (dev.agentTransferStatus, dev.transferResult) → MayChange replyTimeout env s dev))
        t t' ∧
      (stat.status = 1 → env.now - stat.startTime > replyTimeout →
        s'.gFileTransferStat.status = 0 ∧ s'.gFileTransferStat.idNum = 0 ∧
        ∀ id ∈ s.history.started, ∃ st res,
          devinfoServerGetStatusById id s'.registry = some (st, res) ∧ st ≠ .running) := by
  intro stat
  have hinv := invariant_execution h
  refine ⟨fun hrun => ⟨(hinv.idList hrun).1, (hinv.idList hrun).2, hinv.startTime hrun⟩,
    fun env => ?_⟩
  obtain ⟨t, ht⟩ := hinv.table
  rcases hinv.status with hidle | hrun
  · have hnot : s.server.gFileTransferStat.status ≠ 1 := by omega
    refine ⟨s.server, t, t, poll_idle replyTimeout env hnot, ht.owned, ht.owned, ?_, ?_⟩
    · exact List.forall₂_same.mpr fun dev _ => ⟨rfl, rfl, fun hne => absurd rfl hne⟩
    · intro hrun
      exact absurd hrun hnot
  · obtain ⟨hlist, hlen⟩ := hinv.idList hrun
    obtain ⟨earlier, hused⟩ := hinv.latest hrun
    obtain ⟨s', hpoll, ht', hnum', hstat⟩ := poll_running replyTimeout env ht hrun hlist hlen
    have hreply : ∀ dev : DevList,
        (∃ reply ∈ counted stat s.server.reader, reply.deviceID = dev.info.deviceID) →
        MayChange replyTimeout env s dev := by
      rintro dev ⟨reply, hr, hid⟩
      obtain ⟨hmem, hfor⟩ := List.mem_filter.mp hr
      simp only [isFor, decide_eq_true_eq] at hfor
      refine ⟨hrun, Or.inl ⟨⟨true, reply⟩, mem_pollTaken hmem, rfl, hid, hfor.1, hfor.2, ?_⟩⟩
      have hnew := hinv.distinct
      rw [hused, List.nodup_cons] at hnew
      rw [hfor.2, hused]
      exact hnew.1
    have hchanged : Changed (MayChange replyTimeout env s) t
        (polledTable replyTimeout env s.server s.history.started t) := by
      have hfirst := changed_replies env s.server.registry.gDevNum.toNat
        (counted stat s.server.reader) t
      by_cases hdead : env.now - stat.startTime > replyTimeout
      · rw [polledTable, if_pos hdead]
        -- a device that runs at the deadline ran before, unless a reply changed it
        apply hfirst.trans (changed_expire _ _ _) hreply
        intro dev hd
        exact ⟨hrun, Or.inr ⟨hdead, hd.1, hd.2⟩⟩
      · rw [polledTable, if_neg hdead]
        exact hfirst.mono hreply
    refine ⟨s', t, _, hpoll, ht.owned, ht'.owned, ?_, ?_⟩
    · exact hchanged.imp fun dev dev' hd => ⟨hd.1, hd.2.1, fun hne =>
        hd.2.2.resolve_left fun he => hne (by rw [he])⟩
    · intro _ hdead
      have hover : stat.recvNum + (counted stat s.server.reader).length = stat.idNum ∨
          env.now - stat.startTime > replyTimeout := Or.inr hdead
      refine ⟨?_, ?_, ?_⟩
      · rw [hstat]
        exact if_pos hover
      · rw [hstat]
        exact if_pos hover
      · intro id hid
        refine ⟨_, _, getStatusById_table ht' id, ?_⟩
        rw [hnum', polledTable, if_pos hdead]
        intro hstill
        exact (running_tableExpire hstill).1 hid

/-- Device 5 is sent a file at time 100 and never answers: the poll at 200 gives it up. -/
theorem deadline_and_isolation_silent_device :
    ∃ s, runEvents (guarded (step 10) FreshSeq) initial
        [announceDevice 5, .sendFile [5] ['c'] ['f'] [] 3 100] = some s ∧
      (devinfoServerGetStatusById 5 s.server.registry).map Prod.fst = some .running ∧
      ∃ s', dataserverInfoFileTransferThread 10 ⟨200, fun _ => true, emptyResult⟩ s.server =
          some s' ∧ s'.gFileTransferStat.status = 0 ∧
        ∃ st res, devinfoServerGetStatusById 5 s'.registry = some (st, res) ∧ st ≠ .running := by
  obtain ⟨s, hs, hexec, hstatus, hstart, hids, hbefore⟩ := exists_execution (step 10) FreshSeq
    initial (fun s => s.server.gFileTransferStat.status = 1 ∧
      s.server.gFileTransferStat.startTime = 100 ∧ s.history.started = [5] ∧
      (devinfoServerGetStatusById 5 s.server.registry).map Prod.fst = some .running)
    [announceDevice 5, .sendFile [5] ['c'] ['f'] [] 3 100] (by decide)
  obtain ⟨-, hpolls⟩ := deadline_and_isolation hexec
  obtain ⟨s', -, -, hpoll, -, -, -, hend⟩ := hpolls ⟨200, fun _ => true, emptyResult⟩
  obtain ⟨hidle, -, hdone⟩ := hend hstatus (by rw [hstart]; decide)
  exact ⟨s, hs, hbefore, s', hpoll, hidle, hdone 5 (by simp [hids])⟩

end TransferDeadline
