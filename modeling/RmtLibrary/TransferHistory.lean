import RmtLibrary.GuardedExecution
import RmtLibrary.TransferEffects

/-! # Runs of file transfers with their history

Runs of starts, polls, arriving replies and device changes, together with a history that the
code does not keep: which random sequences were used, and what became of the devices of the
latest transfer and of those before it. -/
namespace TransferHistory

open DeviceRegistry
open DevinfoServer
open FileTransfer
open GuardedExecution
open Idl (DataInfoReply)
open TransferEffects

/-- `used` has the random sequences of all transfers, the latest first, `started` the IDs of the
latest and `startedAt` its time. Those of the IDs that were registered then and ever since are in
`stayed`, and `replied` has the IDs of the replies counted for it. `ended` has the devices of
earlier transfers that stayed registered ever since and are in no later one. -/
structure History where
  used : List ℕ
  started : List ℕ
  startedAt : ℤ
  stayed : List ℕ
  replied : List ℕ
  ended : List ℕ

structure Tracked where
  server : FileServer
  history : History

def initial : Tracked := ⟨datainfoServerInit, ⟨[], [], 0, [], [], []⟩⟩

def registered (registry : Registry) (id : ℕ) : Bool :=
  match HeapChain.find (hasId id) registry.heap registry.heap.keys.card registry.gDevHead with
  | some (some _) => true
  | _ => false

def startOf : Event → Option (List ℕ × ℕ × ℤ)
  | .sendFile idList _ _ _ randomSeq now => some (idList, randomSeq, now)
  | .recvFile id _ _ randomSeq now => some ([id], randomSeq, now)
  | _ => none

def History.start (h : History) (registry : Registry) (idList : List ℕ) (randomSeq : ℕ)
    (now : ℤ) : History :=
  ⟨randomSeq :: h.used, idList, now, idList.filter (registered registry), [],
    (h.ended ++ h.stayed).filter (· ∉ idList)⟩

def historyStep (s s' : FileServer) (h : History) (e : Event) : History :=
  match startOf e with
  | some (idList, randomSeq, now) =>
    if s.gFileTransferStat.status ≠ 0 then h else h.start s.registry idList randomSeq now
  | none =>
    match e with
    | .poll _ =>
      if s.gFileTransferStat.status = 1 then
        { h with replied := h.replied ++
            (counted s.gFileTransferStat s.reader).map DataInfoReply.deviceID }
      else h
    | .delDevice _ =>
      { h with
        stayed := h.stayed.filter (registered s'.registry)
        ended := h.ended.filter (registered s'.registry) }
    | _ => h

def step (replyTimeout : ℤ) (s : Tracked) (e : Event) : Option Tracked :=
  (serverStep replyTimeout s.server e).map fun server =>
    ⟨server, historyStep s.server server s.history e⟩

theorem registered_table {registry : Registry} {t : List DevList} (h : HoldsTable registry t)
    (id : ℕ) : registered registry id = t.any (hasId id) := by
  cases ha : t.any (hasId id) with
  | false =>
    have hnone : ∀ dev ∈ t, hasId id dev = false := by simpa using ha
    simp only [registered, h.owned.find_none hnone]
  | true =>
    have hsome : ∃ dev ∈ t, hasId id dev = true := List.any_eq_true.mp ha
    obtain ⟨-, a, -, -, -, -, -, -, hfind, -⟩ := h.owned.find_some hsome
    simp only [registered, hfind]

structure Sound (s : Tracked) : Prop where
  table : ∃ t, HoldsTable s.server.registry t
  status : s.server.gFileTransferStat.status = 0 ∨ s.server.gFileTransferStat.status = 1
  idList : s.server.gFileTransferStat.status = 1 →
    s.server.gFileTransferStat.idList = some s.history.started ∧
      s.history.started.length = s.server.gFileTransferStat.idNum
  startTime : s.server.gFileTransferStat.status = 1 →
    s.server.gFileTransferStat.startTime = s.history.startedAt

theorem sound_initial : Sound initial where
  table := ⟨[], holdsTable_init⟩
  status := Or.inl rfl
  idList h := by simp [initial, datainfoServerInit] at h
  startTime h := by simp [initial, datainfoServerInit] at h

def tableMark (num : ℕ) (idList : List ℕ) (t : List DevList) : List DevList :=
  idList.foldl (fun t id => tableSetStatus num id .running emptyResult t) t

def countReached (s : FileServer) : Prop :=
  s.gFileTransferStat.recvNum + (counted s.gFileTransferStat s.reader).length =
    s.gFileTransferStat.idNum

def deadlinePassed (replyTimeout : ℤ) (env : PollEnv) (s : FileServer) : Prop :=
  env.now - s.gFileTransferStat.startTime > replyTimeout

inductive Effect (replyTimeout : ℤ) (s : Tracked) (t : List DevList) :
    Event → Tracked → List DevList → Prop
  | unchanged {e} : (∀ env, e = .poll env → s.server.gFileTransferStat.status = 0) →
      Effect replyTimeout s t e s t
  | started {e server idList randomSeq now} : startOf e = some (idList, randomSeq, now) →
      s.server.gFileTransferStat.status = 0 → server.gFileTransferStat.status = 1 →
      server.gFileTransferStat.randomSeq = randomSeq →
      server.gFileTransferStat.startTime = now →
      server.gFileTransferStat.idList = some idList →
      server.gFileTransferStat.idNum = idList.length →
      server.registry.gDevNum = s.server.registry.gDevNum →
      Effect replyTimeout s t e ⟨server, s.history.start s.server.registry idList randomSeq now⟩
        (tableMark s.server.registry.gDevNum.toNat idList t)
  | polled {env server} : s.server.gFileTransferStat.status = 1 →
      server.gFileTransferStat.randomSeq = s.server.gFileTransferStat.randomSeq →
      ((countReached s.server ∨ deadlinePassed replyTimeout env s.server) ∧
        server.gFileTransferStat.status = 0 ∧ server.gFileTransferStat.idNum = 0 ∨
      ¬ (countReached s.server ∨ deadlinePassed replyTimeout env s.server) ∧
        server.gFileTransferStat.status = 1 ∧
        server.gFileTransferStat.idList = s.server.gFileTransferStat.idList ∧
        server.gFileTransferStat.idNum = s.server.gFileTransferStat.idNum ∧
        server.gFileTransferStat.startTime = s.server.gFileTransferStat.startTime) →
      server.registry.gDevNum = s.server.registry.gDevNum →
      Effect replyTimeout s t (.poll env)
        ⟨server, { s.history with replied := s.history.replied ++
          (counted s.server.gFileTransferStat s.server.reader).map DataInfoReply.deviceID }⟩
        (polledTable replyTimeout env s.server s.history.started t)
  | arrived {sample} : Effect replyTimeout s t (.replyArrives sample)
      { s with server := { s.server with reader := s.server.reader ++ [sample] } } t
  | added {chunk msg arg registry} : Effect replyTimeout s t (.addDevice chunk msg arg)
      { s with server := { s.server with registry } } (tableAdd chunk (copyInfo msg) arg t)
  | deleted {internalId registry} : HoldsTable registry (tableDel internalId t) →
      Effect replyTimeout s t (.delDevice internalId)
        ⟨{ s.server with registry }, { s.history with
          stayed := s.history.stayed.filter (registered registry)
          ended := s.history.ended.filter (registered registry) }⟩ (tableDel internalId t)

theorem markRunning_table (ids : List ℕ) {registry : Registry} {t : List DevList}
    (h : HoldsTable registry t) : ∃ registry', markRunning ids registry = some registry' ∧
      HoldsTable registry' (tableMark registry.gDevNum.toNat ids t) ∧
      registry'.gDevNum = registry.gDevNum := by
  induction ids generalizing registry t with
  | nil => exact ⟨registry, rfl, h, rfl⟩
  | cons id ids ih =>
    obtain ⟨reg₁, hset, ht₁, hnum₁⟩ := setStatusById_table h id .running emptyResult
    obtain ⟨reg₂, hrest, ht₂, hnum₂⟩ := ih ht₁
    rw [hnum₁] at ht₂
    refine ⟨reg₂, ?_, ht₂, hnum₂.trans hnum₁⟩
    rw [markRunning, List.foldlM_cons, hset]
    exact hrest

theorem start_spec (replyTimeout : ℤ) {s s' : FileServer} {e : Event} {idList : List ℕ}
    {randomSeq : ℕ} {now : ℤ} (hstart : startOf e = some (idList, randomSeq, now))
    (hstep : serverStep replyTimeout s e = some s') :
    (s.gFileTransferStat.status ≠ 0 ∧ s' = s) ∨
    (s.gFileTransferStat.status = 0 ∧ markRunning idList s.registry = some s'.registry ∧
      s'.reader = s.reader ∧ s'.gFileTransferStat.status = 1 ∧
      s'.gFileTransferStat.randomSeq = randomSeq ∧ s'.gFileTransferStat.startTime = now ∧
      s'.gFileTransferStat.recvNum = 0 ∧
      s'.gFileTransferStat.idList = some idList ∧
      s'.gFileTransferStat.idNum = idList.length) := by
  have htrigger : ∀ (req : Idl.DataInfoRequest) (now : ℤ) (s₁ : FileServer),
      triggerTransfer req now s = some s₁ →
        markRunning req.idList s.registry = some s₁.registry ∧ s₁.reader = s.reader ∧
        s₁.gFileTransferStat = ⟨1, now, req.type, req.randomSeq, some req.idList,
          req.idList.length, 0⟩ := by
    intro req now s₁ h
    obtain ⟨registry, hmark, h⟩ := Option.bind_eq_some_iff.mp h
    cases h
    exact ⟨hmark, rfl, rfl⟩
  cases e with
  | sendFile ids callbackname filename pFile seq now =>
    cases hstart
    obtain ⟨r, hsend, rfl⟩ := Option.map_eq_some_iff.mp hstep
    rcases sendFile_cases hsend with ⟨hbusy, rfl⟩ | ⟨hidle, message, -, htrig, -⟩
    · exact Or.inl ⟨hbusy, rfl⟩
    · obtain ⟨hmark, hreader, hstat⟩ := htrigger _ _ _ htrig
      exact Or.inr ⟨hidle, hmark, hreader, by simp [hstat]⟩
  | recvFile id callbackname filename seq now =>
    cases hstart
    obtain ⟨r, hrecv, rfl⟩ := Option.map_eq_some_iff.mp hstep
    rcases recvFile_cases hrecv with ⟨hbusy, rfl⟩ | ⟨hidle, message, -, htrig, -⟩
    · exact Or.inl ⟨hbusy, rfl⟩
    · obtain ⟨hmark, hreader, hstat⟩ := htrigger _ _ _ htrig
      exact Or.inr ⟨hidle, hmark, hreader, by simp [hstat]⟩
  | _ => simp [startOf] at hstart

theorem poll_idle (replyTimeout : ℤ) (env : PollEnv) {s : FileServer}
    (h : s.gFileTransferStat.status ≠ 1) :
    dataserverInfoFileTransferThread replyTimeout env s = some s := if_neg h

theorem step_effect {replyTimeout : ℤ} {s s' : Tracked} {e : Event} {t : List DevList}
    (h : Sound s) (ht : HoldsTable s.server.registry t)
    (hstep : step replyTimeout s e = some s') :
    ∃ t', HoldsTable s'.server.registry t' ∧ Effect replyTimeout s t e s' t' := by
  obtain ⟨server, hserver, rfl⟩ := Option.map_eq_some_iff.mp hstep
  cases hstart : startOf e with
  | some r =>
    obtain ⟨idList, randomSeq, now⟩ := r
    rcases start_spec replyTimeout hstart hserver with
      ⟨hbusy, rfl⟩ | ⟨hidle, hmark, -, hrun, hseq, htime, -, hlist, hnum⟩
    · have hhist : historyStep s.server s.server s.history e = s.history := by
        simp only [historyStep, hstart, if_pos hbusy]
      rw [hhist]
      refine ⟨t, ht, .unchanged ?_⟩
      rintro env rfl
      simp [startOf] at hstart
    · have hhist : historyStep s.server server s.history e =
          s.history.start s.server.registry idList randomSeq now := by
        simp only [historyStep, hstart, hidle, ne_eq, not_true, if_false]
      rw [hhist]
      obtain ⟨registry, hmark', ht', hcount⟩ := markRunning_table idList ht
      have hreg : server.registry = registry := Option.some.inj (hmark.symm.trans hmark')
      subst hreg
      exact ⟨_, ht', .started hstart hidle hrun hseq htime hlist hnum hcount⟩
  | none =>
    cases e with
    | sendFile => simp [startOf] at hstart
    | recvFile => simp [startOf] at hstart
    | poll env =>
      rcases h.status with hidle | hrun
      · have hnot : s.server.gFileTransferStat.status ≠ 1 := by omega
        obtain rfl : s.server = server :=
          Option.some.inj ((poll_idle replyTimeout env hnot).symm.trans hserver)
        simp only [historyStep, hstart, if_neg hnot]
        exact ⟨t, ht, .unchanged fun _ _ => hidle⟩
      · obtain ⟨hlist, hlen⟩ := h.idList hrun
        obtain ⟨s₁, hpoll, ht₁, hcount, hstat⟩ :=
          poll_running replyTimeout env ht hrun hlist hlen
        obtain rfl : s₁ = server := Option.some.inj (hpoll.symm.trans hserver)
        simp only [historyStep, hstart, if_pos hrun]
        refine ⟨_, ht₁, .polled hrun (by rw [hstat]) ?_ hcount⟩
        by_cases hover : countReached s.server ∨ deadlinePassed replyTimeout env s.server
        · left
          refine ⟨hover, ?_, ?_⟩
          · rw [hstat]
            exact if_pos hover
          · rw [hstat]
            exact if_pos hover
        · right
          refine ⟨hover, ?_, ?_, ?_, by rw [hstat]⟩
          · rw [hstat]
            exact if_neg hover
          · rw [hstat, hlist]
            exact if_neg hover
          · rw [hstat]
            exact if_neg hover
    | replyArrives sample =>
      cases hserver
      exact ⟨t, ht, .arrived⟩
    | addDevice chunk msg arg =>
      obtain ⟨registry, hadd, rfl⟩ := Option.map_eq_some_iff.mp hserver
      obtain ⟨registry', hadd', ht'⟩ := addDevice_table ht chunk msg arg
      obtain rfl : registry' = registry := Option.some.inj (hadd'.symm.trans hadd)
      exact ⟨_, ht', .added⟩
    | delDevice internalId =>
      obtain ⟨registry, hdel, rfl⟩ := Option.map_eq_some_iff.mp hserver
      obtain ⟨registry', hdel', ht'⟩ := delDevice_table ht internalId
      obtain rfl : registry' = registry := Option.some.inj (hdel'.symm.trans hdel)
      exact ⟨_, ht', .deleted ht'⟩

theorem sound_step {replyTimeout : ℤ} {s s' : Tracked} {e : Event} (h : Sound s)
    (hstep : step replyTimeout s e = some s') : Sound s' := by
  obtain ⟨t, ht⟩ := h.table
  obtain ⟨t', ht', heffect⟩ := step_effect h ht hstep
  cases heffect with
  | unchanged => exact h
  | started _ _ hrun _ htime hlist hnum _ =>
    exact ⟨⟨_, ht'⟩, Or.inr hrun, fun _ => ⟨hlist, hnum.symm⟩, fun _ => htime⟩
  | polled hrun _ hend _ =>
    refine ⟨⟨_, ht'⟩, ?_, ?_, ?_⟩
    · rcases hend with ⟨-, hidle, -⟩ | ⟨-, hrun', -⟩
      · exact Or.inl hidle
      · exact Or.inr hrun'
    · intro hrun'
      rcases hend with ⟨-, hidle, -⟩ | ⟨-, -, hlist, hnum, -⟩
      · exact absurd (hidle.symm.trans hrun') zero_ne_one
      · rw [hlist, hnum]
        exact h.idList hrun
    · intro hrun'
      rcases hend with ⟨-, hidle, -⟩ | ⟨-, -, -, -, htime⟩
      · exact absurd (hidle.symm.trans hrun') zero_ne_one
      · exact htime.trans (h.startTime hrun)
  | arrived => exact ⟨⟨_, ht'⟩, h.status, h.idList, h.startTime⟩
  | added => exact ⟨⟨_, ht'⟩, h.status, h.idList, h.startTime⟩
  | deleted => exact ⟨⟨_, ht'⟩, h.status, h.idList, h.startTime⟩

def announceDevice (id : ℕ) : Event :=
  .addDevice ⟨HeapChain.Malloc.bump, .done, emptyResult⟩ ⟨id, [], [], [], [], [], []⟩ id

end TransferHistory
