import RmtLibrary.TransferHistory

/-! # Completion of file transfers

A transfer ends by count or by its deadline. The count says how many replies came, not which
devices sent them, so an end by count settles the devices of the transfer only if each of them
was heard. -/
namespace TransferCompletion

open DeviceRegistry
open DevinfoServer
open FileTransfer
open GuardedExecution
open HeapChain (updateFirst)
open Idl (DataInfoReply)
open TransferEffects
open TransferHistory

def runs (t : List DevList) (id : ℕ) : Prop := (tableGetStatus t.length id t).1 = .running

theorem tableGetStatus_all (t : List DevList) (id : ℕ) : tableGetStatus t.length id t =
    match t.find? (hasId id) with
    | none => (.agentError, emptyResult)
    | some dev => (dev.agentTransferStatus, dev.transferResult) := by
  have htake : t.take t.length = t := List.take_length
  cases hf : t.find? (hasId id) with
  | none => simp [tableGetStatus, htake, hf]
  | some dev => simp [tableGetStatus, htake, hf]

theorem any_take_of_ids {t t' : List DevList} (h : ids t' = ids t) (num id : ℕ) :
    (t'.take num).any (hasId id) = (t.take num).any (hasId id) := by
  have hcontains : ∀ u : List DevList,
      (u.take num).any (hasId id) = ((ids u).take num).any (· == id) := by
    intro u
    rw [ids, ← List.map_take, List.any_map]
    rfl
  rw [hcontains, hcontains, h]

theorem length_of_ids {t t' : List DevList} (h : ids t' = ids t) : t'.length = t.length := by
  have hlen := congrArg List.length h
  rwa [ids, ids, List.length_map, List.length_map] at hlen

theorem ids_tableMark (num : ℕ) (idList : List ℕ) (t : List DevList) :
    ids (tableMark num idList t) = ids t := by
  induction idList generalizing t with
  | nil => rfl
  | cons id idList ih => exact (ih _).trans (changed_set num id _ _ t).ids

theorem ids_polledTable (replyTimeout : ℤ) (env : PollEnv) (s : FileServer) (idList : List ℕ)
    (t : List DevList) : ids (polledTable replyTimeout env s idList t) = ids t := by
  have hreplies := (changed_replies env s.registry.gDevNum.toNat
    (counted s.gFileTransferStat s.reader) t).ids
  rw [polledTable]
  split
  · exact (changed_expire _ _ _).ids.trans hreplies
  · exact hreplies

theorem running_tableMark (num id : ℕ) (idList : List ℕ) (t : List DevList) :
    (tableGetStatus num id (tableMark num idList t)).1 = .running ↔
      (id ∈ idList ∧ (t.take num).any (hasId id) = true) ∨
        (tableGetStatus num id t).1 = .running := by
  induction idList generalizing t with
  | nil => simp [tableMark]
  | cons id₁ idList ih =>
    have hany := any_take_of_ids (changed_set num id₁ .running emptyResult t).ids num id
    rw [tableMark, List.foldl_cons, ← tableMark, ih, hany, tableGetStatus_set]
    by_cases hset : id = id₁ ∧ (t.take num).any (hasId id₁) = true
    · obtain ⟨rfl, hfound⟩ := hset
      simp [hfound]
    · rw [if_neg hset]
      by_cases he : id = id₁
      · subst he
        simp only [true_and, Bool.not_eq_true] at hset
        simp [hset]
      · simp [he]

theorem replyStatus_ne_running (env : PollEnv) (reply : DataInfoReply) :
    (replyStatus env reply).1 ≠ .running := by
  unfold replyStatus
  split
  · simp
  · split <;> simp
  · simp

theorem running_applyReplies (env : PollEnv) (num id : ℕ) (replies : List DataInfoReply)
    (t : List DevList) :
    (tableGetStatus num id (applyReplies env num replies t)).1 = .running ↔
      (tableGetStatus num id t).1 = .running ∧
        id ∉ replies.map DataInfoReply.deviceID := by
  induction replies generalizing t with
  | nil => simp [applyReplies]
  | cons reply replies ih =>
    rw [applyReplies, List.foldl_cons, ← applyReplies, ih, tableGetStatus_set]
    by_cases he : id = reply.deviceID
    · subst he
      by_cases hfound : (t.take num).any (hasId reply.deviceID) = true
      · simp [hfound, replyStatus_ne_running]
      · have hidle : (tableGetStatus num reply.deviceID t).1 ≠ .running :=
          fun hrun => hfound (any_of_running hrun)
        rw [if_neg fun h => hfound h.2]
        simp [hidle]
    · simp [he]

theorem status_tableAdd {t : List DevList} {id : ℕ} (hid : id ∈ ids t) (chunk : Chunk)
    (info : DeviceInfo) (arg : ℕ) :
    tableGetStatus (tableAdd chunk info arg t).length id (tableAdd chunk info arg t) =
      tableGetStatus t.length id t := by
  rw [tableGetStatus_all, tableGetStatus_all]
  by_cases he : id = info.deviceID
  · subst he
    obtain ⟨dev, hdev⟩ := find?_of_any ((any_hasId _ _).mpr hid)
    rw [find?_tableAdd_known hdev, hdev]
    simp only [reannounce]
  · rw [find?_tableAdd_of_ne he]

theorem status_tableDel {t : List DevList} (hd : (ids t).Nodup) {internalId id : ℕ}
    (hid : id ∈ ids (tableDel internalId t)) :
    tableGetStatus (tableDel internalId t).length id (tableDel internalId t) =
      tableGetStatus t.length id t := by
  obtain ⟨dev, hdev⟩ := find?_of_any ((any_hasId _ _).mpr hid)
  obtain ⟨hmem, rfl⟩ := find?_hasId_some hdev
  have hbefore := find?_hasId_mem hd (List.mem_of_mem_eraseP hmem)
  rw [tableGetStatus_all, tableGetStatus_all, hdev, hbefore]

theorem runs_tableAdd {t : List DevList} {id : ℕ} (hid : id ∈ ids t) (chunk : Chunk)
    (info : DeviceInfo) (arg : ℕ) : runs (tableAdd chunk info arg t) id ↔ runs t id := by
  rw [runs, runs, status_tableAdd hid]

theorem runs_tableDel {t : List DevList} (hd : (ids t).Nodup) {internalId id : ℕ}
    (hid : id ∈ ids (tableDel internalId t)) :
    runs (tableDel internalId t) id ↔ runs t id := by
  rw [runs, runs, status_tableDel hd hid]

def CounterFits (s : Tracked) : Event → Prop
  | .addDevice _ msg _ => registered s.server.registry msg.deviceID = true ∨
      s.server.registry.gDevNum + 1 ≠ 0
  | _ => True

/-- A poll that ends the transfer by count before the deadline has heard all its devices that are
still there. -/
def AllHeard (replyTimeout : ℤ) (s : Tracked) : Event → Prop
  | .poll env => s.server.gFileTransferStat.status = 1 → countReached s.server →
      ¬ deadlinePassed replyTimeout env s.server → ∀ id ∈ s.history.stayed,
        id ∈ s.history.replied ++ (counted s.server.gFileTransferStat s.server.reader).map
          DataInfoReply.deviceID
  | _ => True

def Completes (replyTimeout : ℤ) (s : Tracked) (e : Event) : Prop :=
  CounterFits s e ∧ AllHeard replyTimeout s e

instance (s : FileServer) : Decidable (countReached s) := by
  unfold countReached
  infer_instance

instance (replyTimeout : ℤ) (env : PollEnv) (s : FileServer) :
    Decidable (deadlinePassed replyTimeout env s) := by
  unfold deadlinePassed
  infer_instance

instance (replyTimeout : ℤ) (s : Tracked) (e : Event) : Decidable (Completes replyTimeout s e) := by
  unfold Completes CounterFits AllHeard
  cases e <;> infer_instance

/-- While the transfer runs, exactly those of its devices that were not heard run. -/
structure Kept (s : Tracked) (t : List DevList) : Prop where
  small : t.length < 2 ^ 32
  distinct : (ids t).Nodup
  stayed : ∀ id ∈ s.history.stayed, id ∈ s.history.started ∧ id ∈ ids t
  ended : ∀ id ∈ s.history.ended, id ∈ ids t ∧ ¬ runs t id
  unheard : s.server.gFileTransferStat.status = 1 → ∀ id ∈ s.history.stayed,
    runs t id ↔ id ∉ s.history.replied
  finished : s.server.gFileTransferStat.status = 0 → ∀ id ∈ s.history.stayed, ¬ runs t id

theorem kept_initial : Kept initial [] where
  small := by decide
  distinct := List.nodup_nil
  stayed := by simp [initial]
  ended := by simp [initial]
  unheard := by simp [initial]
  finished := by simp [initial]

theorem runs_tableMark {t : List DevList} {idList : List ℕ} {id : ℕ} :
    runs (tableMark t.length idList t) id ↔ (id ∈ idList ∧ id ∈ ids t) ∨ runs t id := by
  have hmark := running_tableMark t.length id idList t
  rw [List.take_length, any_hasId] at hmark
  rw [runs, length_of_ids (ids_tableMark _ _ _)]
  exact hmark

theorem runs_of_polled {replyTimeout : ℤ} {env : PollEnv} {s : FileServer} {idList : List ℕ}
    {t : List DevList} {id : ℕ} (hcount : s.registry.gDevNum.toNat = t.length)
    (h : runs (polledTable replyTimeout env s idList t) id) :
    runs t id ∧ id ∉ (counted s.gFileTransferStat s.reader).map DataInfoReply.deviceID ∧
      (deadlinePassed replyTimeout env s → id ∉ idList) := by
  rw [runs, length_of_ids (ids_polledTable _ _ _ _ _), polledTable, hcount] at h
  by_cases hdead : env.now - s.gFileTransferStat.startTime > replyTimeout
  · rw [if_pos hdead] at h
    obtain ⟨hnot, hrun⟩ := running_tableExpire h
    obtain ⟨hbefore, hheard⟩ := (running_applyReplies _ _ _ _ _).mp hrun
    exact ⟨hbefore, hheard, fun _ => hnot⟩
  · rw [if_neg hdead] at h
    obtain ⟨hbefore, hheard⟩ := (running_applyReplies _ _ _ _ _).mp h
    exact ⟨hbefore, hheard, fun h => absurd h hdead⟩

theorem runs_polled {replyTimeout : ℤ} {env : PollEnv} {s : FileServer} {idList : List ℕ}
    {t : List DevList} {id : ℕ} (hcount : s.registry.gDevNum.toNat = t.length)
    (hdead : ¬ deadlinePassed replyTimeout env s) :
    runs (polledTable replyTimeout env s idList t) id ↔
      runs t id ∧ id ∉ (counted s.gFileTransferStat s.reader).map DataInfoReply.deviceID := by
  have hkeep : polledTable replyTimeout env s idList t =
      applyReplies env t.length (counted s.gFileTransferStat s.reader) t := by
    rw [polledTable, hcount]
    exact if_neg hdead
  rw [runs, length_of_ids (ids_polledTable _ _ _ _ _), hkeep]
  exact running_applyReplies _ _ _ _ _

theorem length_tableAdd_lt {registry : Registry} {t : List DevList} (h : HoldsTable registry t)
    (hsmall : t.length < 2 ^ 32) (chunk : Chunk) (info : DeviceInfo) (arg : ℕ)
    (hfits : info.deviceID ∈ ids t ∨ registry.gDevNum + 1 ≠ 0) :
    (tableAdd chunk info arg t).length < 2 ^ 32 := by
  have hids := congrArg List.length (ids_tableAdd chunk info arg t)
  rw [ids, List.length_map] at hids
  rw [hids]
  by_cases hknown : info.deviceID ∈ ids t
  · rw [if_pos hknown, ids, List.length_map]
    exact hsmall
  · rw [if_neg hknown, List.length_cons, ids, List.length_map]
    have hnext : t.length + 1 ≠ 2 ^ 32 := by
      intro hfull
      apply hfits.resolve_left hknown
      have hone : BitVec.ofNat 32 t.length + 1 = BitVec.ofNat 32 (t.length + 1) :=
        (BitVec.ofNat_add _ _).symm
      rw [h.counted, hone, hfull]
      rfl
    omega

theorem kept_started {s : Tracked} {t : List DevList} (ht : HoldsTable s.server.registry t)
    (hk : Kept s t) (hidle : s.server.gFileTransferStat.status = 0) {server : FileServer}
    (hrun : server.gFileTransferStat.status = 1) (idList : List ℕ) (randomSeq : ℕ) (now : ℤ) :
    Kept ⟨server, s.history.start s.server.registry idList randomSeq now⟩
      (tableMark t.length idList t) := by
  constructor
  · rw [length_of_ids (ids_tableMark _ _ _)]
    exact hk.small
  · rw [ids_tableMark]
    exact hk.distinct
  · intro id hid
    obtain ⟨hmem, hreg⟩ := List.mem_filter.mp hid
    rw [registered_table ht, any_hasId] at hreg
    rw [ids_tableMark]
    exact ⟨hmem, hreg⟩
  · intro id hid
    obtain ⟨hmem, hother⟩ := List.mem_filter.mp hid
    have hbefore : id ∈ ids t ∧ ¬ runs t id := by
      rcases List.mem_append.mp hmem with hended | hstayed
      · exact hk.ended id hended
      · exact ⟨(hk.stayed id hstayed).2, hk.finished hidle id hstayed⟩
    rw [ids_tableMark, runs_tableMark]
    refine ⟨hbefore.1, ?_⟩
    rintro (hnew | hstill)
    · exact (of_decide_eq_true hother) hnew.1
    · exact hbefore.2 hstill
  · intro _ id hid
    obtain ⟨hmem, hreg⟩ := List.mem_filter.mp hid
    rw [registered_table ht, any_hasId] at hreg
    rw [runs_tableMark]
    simp [hmem, hreg, History.start]
  · intro hidle'
    exact absurd (hidle'.symm.trans hrun) zero_ne_one

theorem kept_polled {replyTimeout : ℤ} {env : PollEnv} {s : Tracked} {t : List DevList}
    (hk : Kept s t) (hnum : s.server.registry.gDevNum.toNat = t.length)
    (hrun : s.server.gFileTransferStat.status = 1) (hheard : AllHeard replyTimeout s (.poll env))
    {server : FileServer}
    (hend : (countReached s.server ∨ deadlinePassed replyTimeout env s.server) ∧
        server.gFileTransferStat.status = 0 ∨
      ¬ (countReached s.server ∨ deadlinePassed replyTimeout env s.server) ∧
        server.gFileTransferStat.status = 1) :
    Kept ⟨server, { s.history with replied := s.history.replied ++
        (counted s.server.gFileTransferStat s.server.reader).map DataInfoReply.deviceID }⟩
      (polledTable replyTimeout env s.server s.history.started t) := by
  have hids := ids_polledTable replyTimeout env s.server s.history.started t
  constructor
  · rw [length_of_ids hids]
    exact hk.small
  · rw [hids]
    exact hk.distinct
  · intro id hid
    rw [hids]
    exact hk.stayed id hid
  · intro id hid
    obtain ⟨hreg, hidle⟩ := hk.ended id hid
    rw [hids]
    exact ⟨hreg, fun h => hidle (runs_of_polled hnum h).1⟩
  · intro hrun' id hid
    rcases hend with ⟨-, hidle⟩ | ⟨hgoes, -⟩
    · exact absurd (hidle.symm.trans hrun') zero_ne_one
    · rw [runs_polled hnum fun hdead => hgoes (Or.inr hdead), hk.unheard hrun id hid,
        List.mem_append, not_or]
  · intro hidle' id hid hstill
    obtain ⟨hbefore, hsilent, hnot⟩ := runs_of_polled hnum hstill
    by_cases hdead : deadlinePassed replyTimeout env s.server
    · exact hnot hdead (hk.stayed id hid).1
    · rcases hend with ⟨hover, -⟩ | ⟨-, hrun'⟩
      · have hall := hheard hrun (hover.resolve_right hdead) hdead id hid
        rcases List.mem_append.mp hall with hearlier | hnow
        · exact (hk.unheard hrun id hid).mp hbefore hearlier
        · exact hsilent hnow
      · exact absurd (hidle'.symm.trans hrun') zero_ne_one

theorem kept_added {s : Tracked} {t : List DevList} (ht : HoldsTable s.server.registry t)
    (hk : Kept s t) {chunk : Chunk} {msg : Idl.DeviceInfoMsg} {arg : ℕ}
    (hfits : CounterFits s (.addDevice chunk msg arg)) (registry : Registry) :
    Kept { s with server := { s.server with registry } }
      (tableAdd chunk (copyInfo msg) arg t) := by
  have hstill : ∀ id ∈ ids t, id ∈ ids (tableAdd chunk (copyInfo msg) arg t) := by
    intro id hid
    rw [ids_tableAdd]
    split
    · exact hid
    · exact List.mem_cons_of_mem _ hid
  constructor
  · apply length_tableAdd_lt ht hk.small
    rw [← any_hasId, ← registered_table ht]
    exact hfits
  · rw [ids_tableAdd]
    split
    · exact hk.distinct
    · next hnew => exact List.nodup_cons.mpr ⟨hnew, hk.distinct⟩
  · intro id hid
    obtain ⟨hmem, hreg⟩ := hk.stayed id hid
    exact ⟨hmem, hstill id hreg⟩
  · intro id hid
    obtain ⟨hreg, hidle⟩ := hk.ended id hid
    rw [runs_tableAdd hreg]
    exact ⟨hstill id hreg, hidle⟩
  · intro hrun id hid
    rw [runs_tableAdd (hk.stayed id hid).2]
    exact hk.unheard hrun id hid
  · intro hidle id hid
    rw [runs_tableAdd (hk.stayed id hid).2]
    exact hk.finished hidle id hid

theorem kept_deleted {s : Tracked} {t : List DevList} (hk : Kept s t) {internalId : ℕ}
    {registry : Registry} (hdel : HoldsTable registry (tableDel internalId t)) :
    Kept ⟨{ s.server with registry }, { s.history with
        stayed := s.history.stayed.filter (registered registry)
        ended := s.history.ended.filter (registered registry) }⟩ (tableDel internalId t) := by
  have hsub : (tableDel internalId t).Sublist t := List.eraseP_sublist
  have hreg : ∀ {id : ℕ}, registered registry id = true → id ∈ ids (tableDel internalId t) := by
    intro id h
    rwa [registered_table hdel, any_hasId] at h
  constructor
  · exact lt_of_le_of_lt hsub.length_le hk.small
  · exact hk.distinct.sublist (hsub.map _)
  · intro id hid
    obtain ⟨hmem, hr⟩ := List.mem_filter.mp hid
    exact ⟨(hk.stayed id hmem).1, hreg hr⟩
  · intro id hid
    obtain ⟨hmem, hr⟩ := List.mem_filter.mp hid
    rw [runs_tableDel hk.distinct (hreg hr)]
    exact ⟨hreg hr, (hk.ended id hmem).2⟩
  · intro hrun id hid
    obtain ⟨hmem, hr⟩ := List.mem_filter.mp hid
    rw [runs_tableDel hk.distinct (hreg hr)]
    exact hk.unheard hrun id hmem
  · intro hidle id hid
    obtain ⟨hmem, hr⟩ := List.mem_filter.mp hid
    rw [runs_tableDel hk.distinct (hreg hr)]
    exact hk.finished hidle id hmem

theorem kept_step {replyTimeout : ℤ} {s s' : Tracked} {e : Event} {t t' : List DevList}
    (ht : HoldsTable s.server.registry t) (hk : Kept s t) (hok : Completes replyTimeout s e)
    (heffect : Effect replyTimeout s t e s' t') : Kept s' t' := by
  have hnum := ht.count hk.small
  cases heffect with
  | unchanged => exact hk
  | started _ hidle hrun _ _ _ _ _ =>
    rw [hnum]
    exact kept_started ht hk hidle hrun _ _ _
  | polled hrun _ hend _ =>
    exact kept_polled hk hnum hrun hok.2
      (hend.imp (fun h => ⟨h.1, h.2.1⟩) fun h => ⟨h.1, h.2.1⟩)
  | arrived => exact ⟨hk.small, hk.distinct, hk.stayed, hk.ended, hk.unheard, hk.finished⟩
  | added => exact kept_added ht hk hok.1 _
  | deleted hdel => exact kept_deleted hk hdel

theorem kept_execution {replyTimeout : ℤ} {s : Tracked}
    (h : Execution (step replyTimeout) (Completes replyTimeout) initial s) :
    Sound s ∧ ∃ t, HoldsTable s.server.registry t ∧ Kept s t := by
  have h₀ : Sound initial ∧ ∃ t, HoldsTable initial.server.registry t ∧ Kept initial t :=
    ⟨sound_initial, [], holdsTable_init, kept_initial⟩
  apply h.invariant (I := fun s => Sound s ∧ ∃ t, HoldsTable s.server.registry t ∧ Kept s t) h₀
  rintro s e s' ⟨hsound, t, ht, hk⟩ hok hstep
  obtain ⟨t', ht', heffect⟩ := step_effect hsound ht hstep
  exact ⟨sound_step hsound hstep, t', ht', kept_step ht hk hok heffect⟩

/-- What `rmt_server_get_result` would answer is not `STATUS_RUNNING`. -/
def Settled (registry : Registry) (id : ℕ) : Prop :=
  ∃ st res, devinfoServerGetStatusById id registry = some (st, res) ∧ st ≠ .running

theorem settled_iff {registry : Registry} {t : List DevList} (h : HoldsTable registry t)
    (hsmall : t.length < 2 ^ 32) (id : ℕ) : Settled registry id ↔ ¬ runs t id := by
  rw [Settled, getStatusById_table h, h.count hsmall, runs]
  constructor
  · rintro ⟨st, res, he, hne⟩
    have hst : tableGetStatus t.length id t = (st, res) := Option.some.inj he
    rw [hst]
    exact hne
  · intro hne
    exact ⟨(tableGetStatus t.length id t).1, (tableGetStatus t.length id t).2, rfl, hne⟩

/-- In every run whose steps complete, a device that stayed registered does not run once its
transfer is idle, and never again until it is in a new transfer. A poll that ends the transfer
leaves none of its devices running exactly when it does so past the deadline or has heard all of
them. -/
theorem ends_when_over {replyTimeout : ℤ} {s : Tracked}
    (h : Execution (step replyTimeout) (Completes replyTimeout) initial s) :
    (∀ id ∈ s.history.ended, Settled s.server.registry id) ∧
    (s.server.gFileTransferStat.status = 0 →
      ∀ id ∈ s.history.stayed, Settled s.server.registry id) ∧
    ∀ env, ∃ s', dataserverInfoFileTransferThread replyTimeout env s.server = some s' ∧
      (s.server.gFileTransferStat.status = 1 → s'.gFileTransferStat.status = 0 →
        ((∀ id ∈ s.history.stayed, Settled s'.registry id) ↔
          AllHeard replyTimeout s (.poll env))) := by
  obtain ⟨hsound, t, ht, hk⟩ := kept_execution h
  have hnum := ht.count hk.small
  refine ⟨?_, ?_, fun env => ?_⟩
  · intro id hid
    exact (settled_iff ht hk.small id).mpr (hk.ended id hid).2
  · intro hidle id hid
    exact (settled_iff ht hk.small id).mpr (hk.finished hidle id hid)
  · rcases hsound.status with hidle | hrun
    · refine ⟨s.server, poll_idle replyTimeout env (by omega), fun hrun => ?_⟩
      omega
    · obtain ⟨hlist, hlen⟩ := hsound.idList hrun
      obtain ⟨s', hpoll, ht', -, hstat⟩ := poll_running replyTimeout env ht hrun hlist hlen
      refine ⟨s', hpoll, fun _ hend => ?_⟩
      have hids := ids_polledTable replyTimeout env s.server s.history.started t
      have hsmall : (polledTable replyTimeout env s.server s.history.started t).length <
          2 ^ 32 := by
        rw [length_of_ids hids]
        exact hk.small
      have hover : countReached s.server ∨ deadlinePassed replyTimeout env s.server := by
        by_contra hgoes
        rw [hstat] at hend
        simp only at hend
        exact one_ne_zero ((if_neg hgoes).symm.trans hend)
      constructor
      · intro hsettled _ _ hdead id hid
        have hdone := (settled_iff ht' hsmall id).mp (hsettled id hid)
        rw [runs_polled hnum hdead, hk.unheard hrun id hid, ← not_or, not_not,
          ← List.mem_append] at hdone
        exact hdone
      · intro hheard id hid
        rw [settled_iff ht' hsmall]
        intro hstill
        obtain ⟨hbefore, hsilent, hnot⟩ := runs_of_polled hnum hstill
        by_cases hdead : deadlinePassed replyTimeout env s.server
        · exact hnot hdead (hk.stayed id hid).1
        · have hall := hheard hrun (hover.resolve_right hdead) hdead id hid
          rcases List.mem_append.mp hall with hearlier | hnow
          · exact (hk.unheard hrun id hid).mp hbefore hearlier
          · exact hsilent hnow

def importReply (id randomSeq : ℕ) : DdsTransport.Sample DataInfoReply :=
  ⟨true, ⟨id, .importFile, randomSeq, ['0'], []⟩⟩

/-- Devices 5 and 6 are sent a file and both answer in time. -/
theorem ends_when_over_two_devices :
    ∃ s, runEvents (guarded (step 10) (Completes 10)) initial
        [announceDevice 5, announceDevice 6, .sendFile [5, 6] ['c'] ['f'] [] 3 100,
          .replyArrives (importReply 5 3), .replyArrives (importReply 6 3),
          .poll ⟨105, fun _ => true, emptyResult⟩] = some s ∧
      s.server.gFileTransferStat.status = 0 ∧ s.history.stayed = [5, 6] ∧
      Settled s.server.registry 5 ∧ Settled s.server.registry 6 := by
  obtain ⟨s, hs, hexec, hidle, hstayed⟩ := exists_execution (step 10) (Completes 10)
    initial (fun s => s.server.gFileTransferStat.status = 0 ∧ s.history.stayed = [5, 6])
    [announceDevice 5, announceDevice 6, .sendFile [5, 6] ['c'] ['f'] [] 3 100,
      .replyArrives (importReply 5 3), .replyArrives (importReply 6 3),
      .poll ⟨105, fun _ => true, emptyResult⟩] (by decide)
  obtain ⟨-, hsettled, -⟩ := ends_when_over hexec
  exact ⟨s, hs, hidle, hstayed, hsettled hidle 5 (by simp [hstayed]),
    hsettled hidle 6 (by simp [hstayed])⟩

/-- Two replies that carry ID 5 end the transfer of devices 5 and 6 while device 6 runs. -/
theorem two_replies_of_one_id :
    ∃ s s', Reachable (step 10) initial s ∧ s.server.gFileTransferStat.status = 1 ∧
      step 10 s (.poll ⟨105, fun _ => true, emptyResult⟩) = some s' ∧
      s'.server.gFileTransferStat.status = 0 ∧ 6 ∈ s'.history.stayed ∧
      ¬ Settled s'.server.registry 6 := by
  let run := runEvents (step 10) initial
    [announceDevice 5, announceDevice 6, .sendFile [5, 6] ['c'] ['f'] [] 3 100,
      .replyArrives (importReply 5 3), .replyArrives (importReply 5 3)]
  let polled := run.bind fun s => step 10 s (.poll ⟨105, fun _ => true, emptyResult⟩)
  have hrun : run.map (fun s => s.server.gFileTransferStat.status) = some 1 := by decide
  have hpolled : polled.map (fun s => (s.server.gFileTransferStat.status, s.history.stayed,
      (devinfoServerGetStatusById 6 s.server.registry).map Prod.fst)) =
      some (0, [5, 6], some .running) := by decide
  obtain ⟨s, hs, hstatus⟩ := Option.map_eq_some_iff.mp hrun
  obtain ⟨s', hs', hfacts⟩ := Option.map_eq_some_iff.mp hpolled
  have hstep : step 10 s (.poll ⟨105, fun _ => true, emptyResult⟩) = some s' := by
    simpa only [polled, hs, Option.bind_some] using hs'
  rw [Prod.mk.injEq, Prod.mk.injEq] at hfacts
  obtain ⟨hidle, hstayed, hsix⟩ := hfacts
  refine ⟨s, s', reachable_of_runEvents .refl hs, hstatus, hstep, hidle, by simp [hstayed], ?_⟩
  rintro ⟨st, res, hget, hne⟩
  rw [hget, Option.map_some, Option.some.injEq] at hsix
  exact hne hsix

end TransferCompletion
