import RmtLibrary.FairRuns
import RmtLibrary.ServerSafety

/-! # Every transfer ends

While a server stays up and its receive thread polls as time passes, no transfer runs for ever,
and a server that was told to stop comes back once nothing tells it so any more. -/
namespace TransferProgress

open DefinedOutputs (Shadow)
open DeviceRegistry
open DevinfoServer
open Filter
open FairRuns
open FileTransfer (FileServer FileTransferStat checkCount checkDeadline expireRunning freeResource
  readIdList recvFileTransferReply replyStatus)
open GuardedExecution
open Idl (DataInfoReply)
open ServerCalls (Memory Op drainReplies_keeps poll recvReply)
open ServerSafety
open TransferEffects

variable {replyTimeout : ℤ}

theorem checkCount_recvNum (stat : FileTransferStat) :
    (checkCount stat).recvNum = stat.recvNum := by
  rw [checkCount]
  split <;> rfl

theorem freeResource_recvNum (stat : FileTransferStat) :
    (freeResource stat).recvNum = stat.recvNum := by
  rw [freeResource]
  split <;> rfl

theorem recvReply_keeps (now : ℤ) (mallocOk : ℕ → ℕ → Bool) (memory : ℕ → Memory)
    (stat : FileTransferStat) (msg : DataInfoReply) (acc : (FileTransferStat × Registry) × ℕ)
    (h : (∃ n, acc.1.1 = { stat with recvNum := n }) ∧ ∃ t, HoldsTable acc.1.2 t) :
    ∃ r, recvReply now mallocOk memory msg acc = some r ∧
      (∃ n, r.1.1.1 = { stat with recvNum := n }) ∧ ∃ t, HoldsTable r.1.1.2 t := by
  obtain ⟨⟨stat', registry⟩, k⟩ := acc
  obtain ⟨⟨n, rfl⟩, t, ht⟩ := h
  rw [recvReply, recvFileTransferReply]
  split
  · exact ⟨_, rfl, ⟨n, rfl⟩, t, ht⟩
  · obtain ⟨registry', hset, ht', -⟩ := setStatusById_table ht msg.deviceID
      (replyStatus ⟨now, mallocOk k, (memory k).result⟩ msg).1
      (replyStatus ⟨now, mallocOk k, (memory k).result⟩ msg).2
    simp only [hset, Option.bind_eq_bind, Option.bind_some, Option.map_some]
    exact ⟨_, rfl, ⟨n + 1, rfl⟩, _, ht'⟩

/-- A poll that ends a transfer has counted as many replies as it has devices, or it leaves none
of these running. -/
theorem poll_settles {now : ℤ} {mallocOk : ℕ → ℕ → Bool} {fails : ℕ → Option ℕ}
    {memory : ℕ → Memory} {files files' : FileServer} {t : List DevList}
    (ht : HoldsTable files.registry t) (hrun : files.gFileTransferStat.status = 1)
    {idList : List ℕ} (hlist : files.gFileTransferStat.idList = some idList)
    (hlen : files.gFileTransferStat.idNum = idList.length)
    (hpoll : poll replyTimeout now mallocOk fails memory files = some files')
    (hend : files'.gFileTransferStat.status = 0) :
    files'.gFileTransferStat.recvNum = idList.length ∨ ∀ id ∈ idList, ∀ st res,
      devinfoServerGetStatusById id files'.registry = some (st, res) → st ≠ .running := by
  obtain ⟨⟨reader, ⟨stat, registry⟩, k⟩, hdrain, ⟨n, hstat⟩, t₁, ht₁⟩ := drainReplies_keeps
    (recvReply_keeps now mallocOk memory files.gFileTransferStat)
    files.gFileTransferStat.randomSeq fails
    (files.gFileTransferStat.idNum - files.gFileTransferStat.recvNum) files.reader
    (b := ((files.gFileTransferStat, files.registry), 0)) ⟨⟨_, rfl⟩, t, ht⟩
  obtain rfl : stat = { files.gFileTransferStat with recvNum := n } := hstat
  simp only [poll, if_pos hrun, hdrain, Option.bind_eq_bind, Option.bind_some] at hpoll
  obtain ⟨⟨stat, registry'⟩, hdeadline, hfiles⟩ := Option.bind_eq_some_iff.mp hpoll
  obtain rfl := Option.some.inj hfiles
  rw [checkDeadline] at hdeadline
  by_cases hn : n = files.gFileTransferStat.idNum
  · left
    have hcount : stat.recvNum = n := by
      split at hdeadline
      · obtain ⟨_, -, he⟩ := Option.map_eq_some_iff.mp hdeadline
        rw [← (Prod.mk.inj he).1]
        exact checkCount_recvNum _
      · rw [← (Prod.mk.inj (Option.some.inj hdeadline)).1]
        exact checkCount_recvNum _
    rw [freeResource_recvNum, hcount, hn, hlen]
  · right
    rw [checkCount, if_neg hn] at hdeadline
    split at hdeadline
    · obtain ⟨registry₂, hexpire, he⟩ := Option.map_eq_some_iff.mp hdeadline
      obtain ⟨-, rfl⟩ := Prod.mk.inj he
      have hread : readIdList { files.gFileTransferStat with recvNum := n } = some idList := by
        rw [readIdList]
        simp only [hlist, hlen, Option.bind_eq_bind, Option.bind_some, le_refl, if_true,
          List.take_length]
        split
        · next hzero => rw [List.length_eq_zero_iff.mp hzero]
        · rfl
      obtain ⟨registry₃, hfold, ht₃, hnum⟩ := expire_table idList ht₁
      rw [expireRunning, hread, Option.bind_eq_bind, Option.bind_some, hfold] at hexpire
      obtain rfl := Option.some.inj hexpire
      intro id hid st res hget hstill
      rw [getStatusById_table ht₃ id, hnum] at hget
      have hrunning := congrArg Prod.fst (Option.some.inj hget)
      exact (running_tableExpire (hrunning.trans hstill)).1 hid
    · obtain ⟨rfl, -⟩ := Prod.mk.inj (Option.some.inj hdeadline)
      simp only [freeResource, hrun, one_ne_zero, if_false] at hend

def PollsPast (time : ℤ) (op : Op) : Prop :=
  ∃ now mallocOk fails, op = .poll now mallocOk fails ∧ time < now

/-- A transfer that goes on is the same, and no poll was past its deadline. -/
structure GoesOn (replyTimeout : ℤ) (op : Op) (stat stat' : FileTransferStat) : Prop where
  status : stat'.status = 1
  startTime : stat'.startTime = stat.startTime
  idList : stat'.idList = stat.idList
  early : ¬ PollsPast (stat.startTime + replyTimeout) op

structure Over (stat : FileTransferStat) (files' : FileServer) : Prop where
  status : files'.gFileTransferStat.status = 0
  settled : ∀ idList ∈ stat.idList, files'.gFileTransferStat.recvNum = idList.length ∨
    ∀ id ∈ idList, ∀ st res,
      devinfoServerGetStatusById id files'.registry = some (st, res) → st ≠ .running

theorem running_step {s s' : Session} {sh : Shadow} {e : Event} (h : Tracks s sh)
    (hintended : Intended s e) (hstep : step replyTimeout s e = some s')
    (hup : s.up = true) (hup' : s'.up = true)
    (hrun : s.server.files.gFileTransferStat.status = 1) :
    Over s.server.files.gFileTransferStat s'.server.files ∨
      GoesOn replyTimeout e.op s.server.files.gFileTransferStat
        s'.server.files.gFileTransferStat := by
  obtain ⟨sh', htracks, hbehind, heffect⟩ := tracks_step h hintended hstep
  obtain ⟨memory, op⟩ := e
  have hrun' : sh.stat.status = 1 := h.knows.stat ▸ hrun
  have hopen : sh.transport = .opened := h.sane.opened hup (.inr hrun')
  have hsame : sh'.stat = sh.stat → ¬ PollsPast (sh.stat.startTime + replyTimeout) op →
      GoesOn replyTimeout op s.server.files.gFileTransferStat
        s'.server.files.gFileTransferStat := by
    intro hstat hearly
    rw [h.knows.stat, htracks.knows.stat, hstat]
    exact ⟨hrun', rfl, rfl, hearly⟩
  cases heffect with
  | kept hordinary hkept hpoll =>
    refine .inr (hsame hkept.stat ?_)
    rintro ⟨_, _, _, rfl, -⟩
    rcases hpoll rfl with hnot | hnull
    · exact hnot hrun'
    · cases hnull.symm.trans hopen
  | stopped => exact .inr (hsame rfl (by rintro ⟨_, _, _, ⟨⟩, -⟩))
  | @polled now mallocOk fails _ _ _ hpolled =>
    rcases hpolled.ends with hidle | ⟨hearly, hgoes, htime, hlist, -⟩
    · left
      have hstatus := htracks.knows.stat.symm ▸ hidle
      obtain ⟨r, hserver, rfl⟩ := Option.map_eq_some_iff.mp hstep
      simp only [ServerCalls.step, h.knows.transport.trans hopen] at hserver
      obtain ⟨files', hpoll, rfl⟩ := Option.map_eq_some_iff.mp hserver
      refine ⟨hstatus, fun idList hlist => ?_⟩
      obtain ⟨t, ht, -⟩ := h.knows.devices
      obtain ⟨idList', hlist', hlen⟩ := h.sane.idList hrun'
      rw [h.knows.stat] at hlist
      obtain rfl : idList' = idList := Option.some.inj (hlist'.symm.trans hlist)
      rw [← h.knows.stat] at hlist hlen
      exact poll_settles ht hrun hlist hlen hpoll hstatus
    · right
      rw [h.knows.stat, htracks.knows.stat]
      refine ⟨hgoes, htime, hlist, ?_⟩
      rintro ⟨_, _, _, ⟨⟩, hpast⟩
      omega
  | started _ _ _ _ hidle => exact absurd (hidle.symm.trans hrun') zero_ne_one
  | reinit hreinit =>
    cases hreinit with
    | skipped => exact .inr (hsame rfl (by rintro ⟨_, _, _, ⟨⟩, -⟩))
    | failed _ hidle => exact absurd (hidle.symm.trans hrun') zero_ne_one
    | created _ hidle => exact absurd (hidle.symm.trans hrun') zero_ne_one
  | inited => cases hintended.1.symm.trans hup
  | closed => cases hbehind.symm.trans hup'

variable {state : ℕ → Session} {event : ℕ → Event}

/-- From `t` on the server is up, and the receive thread polls it again and again as time
passes. -/
structure Attended (state : ℕ → Session) (event : ℕ → Event) (t : ℕ) : Prop where
  up : ∀ u, t ≤ u → (state u).up = true
  polls : ∀ time, ∃ᶠ u in atTop, PollsPast time (event u).op

theorem Attended.later {t u : ℕ} (h : Attended state event t) (htu : t ≤ u) :
    Attended state event u := ⟨fun v huv => h.up v (htu.trans huv), h.polls⟩

def transfer (s : Session) : FileTransferStat := s.server.files.gFileTransferStat

theorem tracks_run (hrun : Run (step replyTimeout) Intended initial state event) (t : ℕ) :
    ∃ sh, Tracks (state t) sh := tracks_execution (hrun.execution t)

theorem transfer_over (hrun : Run (step replyTimeout) Intended initial state event) {t : ℕ}
    (hatt : Attended state event t) (hstart : (transfer (state t)).status = 1) : ∃ u, t ≤ u ∧
      (∀ v, t ≤ v → v ≤ u → (transfer (state v)).status = 1 ∧
        (transfer (state v)).idList = (transfer (state t)).idList) ∧
      Over (transfer (state t)) (state (u + 1)).server.files := by
  let P : ℕ → Prop := fun v => (transfer (state v)).status = 1 ∧
    (transfer (state v)).startTime = (transfer (state t)).startTime ∧
    (transfer (state v)).idList = (transfer (state t)).idList
  let Q : ℕ → Prop := fun v => Over (transfer (state t)) (state v).server.files
  have hstep : ∀ v, t ≤ v → P v → Q (v + 1) ∨ P (v + 1) ∧
      ¬ PollsPast ((transfer (state t)).startTime + replyTimeout) (event v).op := by
    rintro v htv ⟨hstatus, htime, hlist⟩
    obtain ⟨sh, htracks⟩ := tracks_run hrun v
    rcases running_step htracks (hrun.guard v) (hrun.next v) (hatt.up v htv)
      (hatt.up (v + 1) (Nat.le_succ_of_le htv)) hstatus with hover | hgoes
    · exact .inl ⟨hover.status, fun idList hmem => hover.settled idList (hlist ▸ hmem)⟩
    · refine .inr ⟨⟨hgoes.status, hgoes.startTime.trans htime, hgoes.idList.trans hlist⟩, ?_⟩
      rw [← htime]
      exact hgoes.early
  obtain ⟨w, htw, hpast⟩ := frequently_atTop.mp
    (hatt.polls ((transfer (state t)).startTime + replyTimeout)) t
  have hP : P t := ⟨hstart, rfl, rfl⟩
  have hreached := @reached_or_kept P Q t (w + 1) hP (Nat.le_succ_of_le htw) fun v htv hv =>
    (hstep v htv hv).imp_right And.left
  rcases hreached with ⟨u, htu, hbefore, hover⟩ | hkept
  · exact ⟨u, htu, fun v htv hvu => ⟨(hbefore v htv hvu).1, (hbefore v htv hvu).2.2⟩, hover⟩
  · rcases hstep w htw (hkept w htw (Nat.le_succ w)) with hover | ⟨-, hearly⟩
    · exact ⟨w, htw, fun v htv hvw => ⟨(hkept v htv (Nat.le_succ_of_le hvw)).1,
        (hkept v htv (Nat.le_succ_of_le hvw)).2.2⟩, hover⟩
    · exact absurd hpast hearly

theorem serving_step {s s' : Session} {sh : Shadow} {e : Event} (h : Tracks s sh)
    (hintended : Intended s e) (hstep : step replyTimeout s e = some s') (hup : s.up = true)
    (hup' : s'.up = true) (hcalm : e.op ≠ .stop) (hserving : s.server.status = .running) :
    s'.server.status = .running := by
  obtain ⟨sh', htracks, hbehind, heffect⟩ := tracks_step h hintended hstep
  obtain ⟨memory, op⟩ := e
  rw [h.knows.status] at hserving
  rw [htracks.knows.status]
  cases heffect with
  | kept _ hkept => exact hkept.status.trans hserving
  | stopped => exact absurd rfl hcalm
  | polled _ _ hpolled => exact hpolled.status.trans hserving
  | started _ _ hsame => exact hsame.trans hserving
  | reinit hreinit =>
    cases hreinit with
    | skipped => exact hserving
    | failed hstop => exact absurd hserving hstop
    | created _ _ hserving' => exact hserving'
  | inited => cases hintended.1.symm.trans hup
  | closed => cases hbehind.symm.trans hup'

def Waiting (s : Session) : Prop := s.server.status ≠ .running ∧ (transfer s).status = 0

theorem waiting_step {s s' : Session} {sh : Shadow} {e : Event} (h : Tracks s sh)
    (hintended : Intended s e) (hstep : step replyTimeout s e = some s') (hup : s.up = true)
    (hup' : s'.up = true) (hcalm : e.op ≠ .stop) (hwaiting : Waiting s) :
    s'.server.status = .running ∨ Waiting s' ∧ e.op ≠ .reinit true true .created := by
  obtain ⟨sh', htracks, hbehind, heffect⟩ := tracks_step h hintended hstep
  obtain ⟨memory, op⟩ := e
  rw [Waiting, transfer, h.knows.status, h.knows.stat] at hwaiting
  rw [Waiting, transfer, htracks.knows.status, htracks.knows.stat]
  obtain ⟨hstop, hidle⟩ := hwaiting
  cases heffect with
  | kept hordinary hkept =>
    rw [hkept.status, hkept.stat]
    refine .inr ⟨⟨hstop, hidle⟩, ?_⟩
    rintro rfl
    cases hordinary
  | stopped => exact absurd rfl hcalm
  | polled _ hrun => exact absurd (hidle.symm.trans hrun) zero_ne_one
  | started _ hserving => exact absurd hserving hstop
  | reinit hreinit =>
    cases hreinit with
    | skipped hskip =>
      refine .inr ⟨⟨hstop, hidle⟩, ?_⟩
      rintro ⟨⟩
      simp [hstop, hidle] at hskip
    | failed _ _ hfail hsame _ hstat =>
      rw [hsame, hstat]
      refine .inr ⟨⟨hstop, hidle⟩, ?_⟩
      rintro ⟨⟩
      simp at hfail
    | created _ _ hserving => exact .inl hserving
  | inited => cases hintended.1.symm.trans hup
  | closed => cases hbehind.symm.trans hup'

/-- No stop comes any more, and the receive thread goes on to find the interface and to create the
transport. -/
structure CalmsDown (event : ℕ → Event) : Prop where
  calm : ∀ᶠ u in atTop, (event u).op ≠ .stop
  created : ∃ᶠ u in atTop, (event u).op = .reinit true true .created

theorem serving_again (hrun : Run (step replyTimeout) Intended initial state event) {t : ℕ}
    (hatt : Attended state event t) (hcalm : ∀ u, t ≤ u → (event u).op ≠ .stop)
    (hcreated : ∃ᶠ u in atTop, (event u).op = .reinit true true .created) :
    ∃ u, t ≤ u ∧ (state u).server.status = .running := by
  by_contra hnever
  have hstop : ∀ u, t ≤ u → (state u).server.status ≠ .running :=
    fun u htu hserving => hnever ⟨u, htu, hserving⟩
  have hidle : ∃ u, t ≤ u ∧ (transfer (state u)).status = 0 := by
    obtain ⟨sh, htracks⟩ := tracks_run hrun t
    have hstatus := htracks.sane.status
    rw [← htracks.knows.stat] at hstatus
    rcases hstatus with hidle | hrunning
    · exact ⟨t, le_rfl, hidle⟩
    · obtain ⟨u, htu, -, hover⟩ := transfer_over hrun hatt hrunning
      exact ⟨u + 1, Nat.le_succ_of_le htu, hover.status⟩
  obtain ⟨u, htu, hidle⟩ := hidle
  have hstep : ∀ v, u ≤ v → Waiting (state v) →
      Waiting (state (v + 1)) ∧ (event v).op ≠ .reinit true true .created := by
    intro v huv hwaiting
    have htv := htu.trans huv
    obtain ⟨sh, htracks⟩ := tracks_run hrun v
    exact (waiting_step htracks (hrun.guard v) (hrun.next v) (hatt.up v htv)
      (hatt.up (v + 1) (Nat.le_succ_of_le htv)) (hcalm v htv) hwaiting).resolve_left
      (hstop (v + 1) (Nat.le_succ_of_le htv))
  have hwaiting : ∀ v, u ≤ v → Waiting (state v) := by
    intro v huv
    induction v, huv using Nat.le_induction with
    | base => exact ⟨hstop u htu, hidle⟩
    | succ v huv ih => exact (hstep v huv ih).1
  obtain ⟨w, huw, hreinit⟩ := frequently_atTop.mp hcreated u
  exact (hstep w huw (hwaiting w huw)).2 hreinit

/-- While the server stays up and its receive thread polls as time passes, every transfer ends:
the poll that ends it has counted as many replies as it has devices, or it leaves none of these
running. And once things calm down, the server runs for good over an open transport. -/
theorem server_progress (hrun : Run (step replyTimeout) Intended initial state event) {t : ℕ}
    (hatt : Attended state event t) :
    (∀ u, t ≤ u → (transfer (state u)).status = 1 → ∃ v, u ≤ v ∧
      (∀ w, u ≤ w → w ≤ v → (transfer (state w)).status = 1 ∧
        (transfer (state w)).idList = (transfer (state u)).idList) ∧
      (transfer (state (v + 1))).status = 0 ∧ ∀ idList ∈ (transfer (state u)).idList,
        (transfer (state (v + 1))).recvNum = idList.length ∨ ∀ id ∈ idList, ∀ st res,
          devinfoServerGetStatusById id (state (v + 1)).server.files.registry = some (st, res) →
            st ≠ .running) ∧
    (CalmsDown event → ∀ᶠ u in atTop, (state u).server.status = .running ∧
      (state u).server.transport = .opened) := by
  constructor
  · intro u htu hstart
    obtain ⟨v, huv, hbefore, hover⟩ := transfer_over hrun (hatt.later htu) hstart
    exact ⟨v, huv, hbefore, hover.status, hover.settled⟩
  · intro hcalms
    obtain ⟨a, hcalm⟩ := eventually_atTop.mp hcalms.calm
    have hserving : ∀ᶠ u in atTop, (state u).server.status = .running := by
      apply eventually_of_frequently
      · refine eventually_atTop.mpr ⟨max t a, fun u hu hserving => ?_⟩
        have htu := (le_max_left t a).trans hu
        obtain ⟨sh, htracks⟩ := tracks_run hrun u
        exact serving_step htracks (hrun.guard u) (hrun.next u) (hatt.up u htu)
          (hatt.up (u + 1) (Nat.le_succ_of_le htu)) (hcalm u ((le_max_right t a).trans hu))
          hserving
      · refine frequently_atTop.mpr fun b => ?_
        obtain ⟨u, hu, hserving⟩ := serving_again hrun
          (hatt.later ((le_max_left t a).trans (le_max_left _ b)))
          (fun u hu => hcalm u ((le_max_right t a).trans ((le_max_left _ b).trans hu)))
          hcalms.created
        exact ⟨u, (le_max_right _ b).trans hu, hserving⟩
    filter_upwards [hserving, eventually_ge_atTop t] with u hrunning htu
    obtain ⟨sh, htracks⟩ := tracks_run hrun u
    have hopened := htracks.sane.opened (hatt.up u htu)
    rw [← htracks.knows.status, ← htracks.knows.transport] at hopened
    exact ⟨hrunning, hopened (.inl hrunning)⟩

def silentDevice : List Event :=
  [.init .created, .announced ⟨true, 9, ⟨5, [], [], [], [], [], []⟩⟩,
    .update HeapChain.Malloc.bump none, .sendFile [5] ['c'] ['f'] [1, 2] 7 100, .stop].map
    fun op => ⟨fun _ => DefinedOutputs.zeros, op⟩

def rounds (t : ℕ) : Event :=
  ⟨fun _ => DefinedOutputs.zeros,
    if t % 2 = 0 then .poll t (fun _ _ => true) fun _ => none else .reinit true true .created⟩

theorem rounds_enabled (t : ℕ) (s : Session) (h : (∃ sh, Tracks s sh) ∧ s.up = true) :
    Intended s (rounds t) ∧ ∃ s', step replyTimeout s (rounds t) = some s' ∧
      (∃ sh, Tracks s' sh) ∧ s'.up = true := by
  obtain ⟨⟨sh, htracks⟩, hup⟩ := h
  have hspec : Intended s (rounds t) ∧ ¬ Fatal s.server (rounds t).op ∧
      ∀ transport, upBehind s.up transport (rounds t).op = true := by
    rw [rounds, Intended]
    split
    · exact ⟨hup, id, fun _ => hup⟩
    · exact ⟨⟨hup, by decide⟩, id, fun _ => hup⟩
  obtain ⟨hintended, hsafe, hbehind⟩ := hspec
  rcases step_cases replyTimeout htracks hintended with
    ⟨hfatal, -⟩ | ⟨-, s', sh', hstep, htracks', hup', -⟩
  · exact absurd hfatal hsafe
  · exact ⟨hintended, s', hstep, ⟨sh', htracks'⟩, hup'.trans (hbehind _)⟩

theorem server_progress_silent_device : ∃ state event,
    Run (step 10) Intended initial state event ∧ (transfer (state 5)).status = 1 ∧
      (state 5).server.status = .stop ∧ (∃ v, 5 ≤ v ∧ (transfer (state (v + 1))).status = 0) ∧
      ∀ᶠ u in atTop, (state u).server.status = .running := by
  obtain ⟨s, hs, hexec, hup, hstart, hstop⟩ := exists_execution (step 10) Intended initial
    (fun s => s.up = true ∧ (transfer s).status = 1 ∧ s.server.status = .stop) silentDevice
    (by decide)
  obtain ⟨state, event, hrun, hmid, htail⟩ := exists_run_after hs
    (⟨tracks_execution hexec, hup⟩ : (∃ sh, Tracks s sh) ∧ s.up = true) rounds_enabled
  have hmid : state 5 = s := hmid
  have hevent : ∀ t, event (t + 5) = rounds t := fun t => (htail t).2
  have hatt : Attended state event 5 := by
    constructor
    · intro u hu
      obtain ⟨t, rfl⟩ := Nat.exists_eq_add_of_le' hu
      exact (htail t).1.2
    · refine fun time => frequently_atTop.mpr fun b => ?_
      refine ⟨2 * (b + time.toNat + 1) + 5, by omega, ?_⟩
      rw [hevent, rounds, if_pos (Nat.mul_mod_right 2 _)]
      exact ⟨_, _, _, rfl, by push_cast; omega⟩
  have hcalms : CalmsDown event := by
    constructor
    · refine eventually_atTop.mpr ⟨5, fun u hu => ?_⟩
      obtain ⟨t, rfl⟩ := Nat.exists_eq_add_of_le' hu
      rw [hevent, rounds]
      split <;> rintro ⟨⟩
    · refine frequently_atTop.mpr fun b => ⟨2 * b + 1 + 5, by omega, ?_⟩
      rw [hevent, rounds, if_neg (by omega)]
  obtain ⟨hends, hreturns⟩ := server_progress hrun hatt
  obtain ⟨v, hv, -, hidle, -⟩ := hends 5 le_rfl (hmid ▸ hstart)
  exact ⟨state, event, hrun, hmid ▸ hstart, hmid ▸ hstop, ⟨v, hv, hidle⟩,
    (hreturns hcalms).mono fun _ h => h.1⟩

end TransferProgress
