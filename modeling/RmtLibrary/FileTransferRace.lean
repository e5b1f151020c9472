import RmtLibrary.GuardedExecution
import RmtLibrary.TransferHistory

/-! # Publishing a file transfer to the receive thread

`datainfo_server_send_file` and `datainfo_server_recv_file` assign the fields of the transfer
record one by one in the API thread, the status first, while the receive thread polls on the
status. Each assignment is a step here, each poll is one. -/
namespace FileTransferRace

open DeviceRegistry
open DevinfoServer
open FileTransfer
open GuardedExecution
open Idl (DataInfoReply DataInfoType)
open TransferEffects

inductive Assign where
  | status
  | recvNum
  | randomSeq (seq : ℕ)
  | type (type : DataInfoType)
  | idNum (num : ℕ)
  | idList (block : List ℕ)
  | idListAt (i id : ℕ)
  | startTime
  deriving DecidableEq, Repr

def assignIds : ℕ → List ℕ → List Assign
  | _, [] => []
  | i, id :: idList => .idListAt i id :: assignIds (i + 1) idList

/-- The assignments in program order. `malloc` leaves `junk` in the block of the IDs. -/
def assignments (idList : List ℕ) (type : DataInfoType) (randomSeq : ℕ) (junk : ℕ → ℕ) :
    List Assign :=
  [.status, .recvNum, .randomSeq randomSeq, .type type, .idNum idList.length,
    .idList ((List.range idList.length).map junk)] ++ (assignIds 0 idList ++ [.startTime])

/-- `none` is a write behind `NULL` or outside the block. -/
def assign (now : ℤ) (stat : FileTransferStat) : Assign → Option FileTransferStat
  | .status => some { stat with status := 1 }
  | .recvNum => some { stat with recvNum := 0 }
  | .randomSeq randomSeq => some { stat with randomSeq }
  | .type type => some { stat with type }
  | .idNum idNum => some { stat with idNum }
  | .idList block => some { stat with idList := some block }
  | .idListAt i id => do
    let block ← stat.idList
    if i < block.length then some { stat with idList := some (block.set i id) } else none
  | .startTime => some { stat with startTime := now }

/-- What the code does not keep of the latest accepted call: its values, the start time once it
is assigned, the replies of the transfer that polls took, and the time of the poll that ended
it. -/
structure Transfer where
  idList : List ℕ
  type : DataInfoType
  randomSeq : ℕ
  startTime : Option ℤ
  heard : ℕ
  endedAt : Option ℤ
  deriving DecidableEq, Repr

/-- `todo` has what the API thread has left to assign. -/
structure RaceState where
  server : FileServer
  todo : List Assign
  transfer : Option Transfer

def initial : RaceState := ⟨datainfoServerInit, [], none⟩

inductive RaceEvent where
  | sendFile (idList : List ℕ) (callbackname filename : CString.Text) (randomSeq : ℕ)
      (junk : ℕ → ℕ)
  | recvFile (id : ℕ) (callbackname filename : CString.Text) (randomSeq : ℕ) (junk : ℕ → ℕ)
  | assign (now : ℤ)
  | poll (env : PollEnv)
  | replyArrives (sample : DdsTransport.Sample DataInfoReply)
  | addDevice (chunk : Chunk) (msg : Idl.DeviceInfoMsg) (arg : ℕ)
  | delDevice (internalId : ℕ)

/-- A call up to its assignments. A call made while a transfer runs returns -1. -/
def beginCall (idList : List ℕ) (type : DataInfoType) (callbackname filename : CString.Text)
    (randomSeq : ℕ) (junk : ℕ → ℕ) (s : RaceState) : Option RaceState :=
  if s.todo ≠ [] then none
  else if s.server.gFileTransferStat.status ≠ 0 then some s
  else do
    let _ ← transferMessage callbackname filename
    let registry ← markRunning idList s.server.registry
    some ⟨{ s.server with registry }, assignments idList type randomSeq junk,
      some ⟨idList, type, randomSeq, none, 0, none⟩⟩

def ownReplies (tr : Transfer) (stat : FileTransferStat)
    (reader : List (DdsTransport.Sample DataInfoReply)) : List DataInfoReply :=
  (pollTaken stat.randomSeq (stat.idNum - stat.recvNum) reader).filter fun reply =>
    reply.type = tr.type ∧ reply.randomSeq = tr.randomSeq

def Transfer.polled (tr : Transfer) (now : ℤ) (s s' : FileServer) : Transfer :=
  { tr with
    heard := tr.heard + (ownReplies tr s.gFileTransferStat s.reader).length
    endedAt := if s'.gFileTransferStat.status = 0 then some now else none }

def step (replyTimeout : ℤ) (s : RaceState) : RaceEvent → Option RaceState
  | .sendFile idList callbackname filename randomSeq junk =>
    beginCall idList .importFile callbackname filename randomSeq junk s
  | .recvFile id callbackname filename randomSeq junk =>
    beginCall [id] .exportFile callbackname filename randomSeq junk s
  | .assign now =>
    match s.todo with
    | [] => none
    | a :: todo => (assign now s.server.gFileTransferStat a).map fun stat =>
      ⟨{ s.server with gFileTransferStat := stat }, todo,
        if a = .startTime then s.transfer.map ({ · with startTime := some now })
        else s.transfer⟩
  | .poll env => (dataserverInfoFileTransferThread replyTimeout env s.server).map fun server =>
      { s with
        server
        transfer := if s.server.gFileTransferStat.status = 1 then
          s.transfer.map fun tr => tr.polled env.now s.server server else s.transfer }
  | .replyArrives sample =>
    some { s with server := { s.server with reader := s.server.reader ++ [sample] } }
  | .addDevice chunk msg arg => (DevinfoServer.addDevice chunk msg arg s.server.registry).map
      fun registry => { s with server := { s.server with registry } }
  | .delDevice internalId => (DevinfoServer.delDevice internalId s.server.registry).map
      fun registry => { s with server := { s.server with registry } }

def assignAll (now : ℤ) (todo : List Assign) (stat : FileTransferStat) :
    Option FileTransferStat := todo.foldlM (assign now) stat

def Transfer.record (tr : Transfer) (startTime : ℤ) (recvNum : ℕ) : FileTransferStat :=
  ⟨1, startTime, tr.type, tr.randomSeq, some tr.idList, tr.idList.length, recvNum⟩

theorem assignAll_ids (now : ℤ) (idList done block : List ℕ) (stat : FileTransferStat)
    (hlen : block.length = idList.length) (hstat : stat.idList = some (done ++ block)) :
    assignAll now (assignIds done.length idList) stat =
      some { stat with idList := some (done ++ idList) } := by
  induction idList generalizing done block stat with
  | nil =>
    obtain rfl := List.eq_nil_of_length_eq_zero hlen
    rw [← hstat]
    rfl
  | cons id idList ih =>
    cases block with
    | nil => simp at hlen
    | cons old block =>
      let next : FileTransferStat := { stat with idList := some ((done ++ [id]) ++ block) }
      have hfirst : assign now stat (.idListAt done.length id) = some next := by
        simp [assign, hstat, next]
      have hrest := ih (done ++ [id]) block next (by simpa using hlen) rfl
      rw [List.length_append, List.length_singleton] at hrest
      rw [assignIds, assignAll, List.foldlM_cons, hfirst]
      simpa [next, assignAll] using hrest

theorem assignAll_append (now : ℤ) (todo rest : List Assign) (stat : FileTransferStat) :
    assignAll now (todo ++ rest) stat = (assignAll now todo stat).bind (assignAll now rest) :=
  List.foldlM_append

/-- Uninterrupted, the assignments make the record of the transfer whatever was left there. -/
theorem assignAll_assignments (now : ℤ) (tr : Transfer) (junk : ℕ → ℕ)
    (stat : FileTransferStat) :
    assignAll now (assignments tr.idList tr.type tr.randomSeq junk) stat =
      some (tr.record now 0) := by
  let block := (List.range tr.idList.length).map junk
  let filled : FileTransferStat :=
    ⟨1, stat.startTime, tr.type, tr.randomSeq, some block, tr.idList.length, 0⟩
  have hids := assignAll_ids now tr.idList [] block filled (by simp [block]) rfl
  have hscalars : assignAll now [.status, .recvNum, .randomSeq tr.randomSeq, .type tr.type,
      .idNum tr.idList.length, .idList block] stat = some filled := rfl
  rw [List.length_nil] at hids
  rw [assignments, assignAll_append, hscalars, Option.bind_some, assignAll_append, hids]
  rfl

/-- The atomic step of the file transfer model is the call without interruption. -/
theorem assignments_refine_trigger (req : Idl.DataInfoRequest) (now : ℤ) (junk : ℕ → ℕ)
    (s s' : FileServer) (h : triggerTransfer req now s = some s') :
    assignAll now (assignments req.idList req.type req.randomSeq junk) s.gFileTransferStat =
      some s'.gFileTransferStat := by
  obtain ⟨registry, -, h⟩ := Option.bind_eq_some_iff.mp h
  cases h
  exact assignAll_assignments now ⟨req.idList, req.type, req.randomSeq, none, 0, none⟩ junk _

/-- A poll does not find the status 1 of a call that has assignments left. -/
def NotMidway (s : RaceState) (e : RaceEvent) : Prop :=
  match e with
  | .poll _ => s.server.gFileTransferStat.status = 1 → s.todo = []
  | _ => True

instance (s : RaceState) (e : RaceEvent) : Decidable (NotMidway s e) := by
  unfold NotMidway
  cases e <;> infer_instance

/-- The record has what the latest accepted call stored in it. -/
def SeenWhole (s : RaceState) : Prop :=
  ∃ tr startTime, s.transfer = some tr ∧ tr.startTime = some startTime ∧
    s.server.gFileTransferStat = tr.record startTime tr.heard

/-- The poll that ended the transfer had all its replies or was past its own deadline. -/
def EndedByItself (replyTimeout : ℤ) (tr : Transfer) : Prop :=
  ∃ startTime now, tr.startTime = some startTime ∧ tr.endedAt = some now ∧
    (tr.heard = tr.idList.length ∨ now - startTime > replyTimeout)

/-- The assignments left make the record of the transfer, and the start time is the last. -/
structure Pending (s : RaceState) (tr : Transfer) : Prop where
  transfer : s.transfer = some tr
  unstarted : tr.startTime = none
  unheard : tr.heard = 0
  last : ∃ front, s.todo = front ++ [.startTime] ∧ .startTime ∉ front
  completes : ∀ now, assignAll now s.todo s.server.gFileTransferStat = some (tr.record now 0)

inductive Settled (replyTimeout : ℤ) (s : RaceState) : Prop where
  | unused : s.transfer = none → s.server.gFileTransferStat.status = 0 → Settled replyTimeout s
  | running : SeenWhole s → Settled replyTimeout s
  | ended (tr : Transfer) : s.transfer = some tr → s.server.gFileTransferStat.status = 0 →
      EndedByItself replyTimeout tr → Settled replyTimeout s

theorem Settled.whole {replyTimeout : ℤ} {s : RaceState} (h : Settled replyTimeout s)
    (hrun : s.server.gFileTransferStat.status = 1) : SeenWhole s := by
  cases h with
  | unused _ hidle => omega
  | running hwhole => exact hwhole
  | ended _ _ hidle _ => omega

structure Invariant (replyTimeout : ℤ) (s : RaceState) : Prop where
  table : ∃ t, HoldsTable s.server.registry t
  status : s.server.gFileTransferStat.status = 0 ∨ s.server.gFileTransferStat.status = 1
  pending : s.todo ≠ [] → ∃ tr, Pending s tr
  settled : s.todo = [] → Settled replyTimeout s

theorem invariant_initial (replyTimeout : ℤ) : Invariant replyTimeout initial where
  table := ⟨[], holdsTable_init⟩
  status := Or.inl rfl
  pending h := absurd rfl h
  settled _ := .unused rfl rfl

theorem Invariant.other {replyTimeout : ℤ} {s : RaceState} (h : Invariant replyTimeout s)
    {server : FileServer} (hstat : server.gFileTransferStat = s.server.gFileTransferStat)
    (ht : ∃ t, HoldsTable server.registry t) : Invariant replyTimeout { s with server } := by
  constructor
  · exact ht
  · rw [hstat]
    exact h.status
  · intro htodo
    obtain ⟨tr, hp⟩ := h.pending htodo
    refine ⟨tr, hp.transfer, hp.unstarted, hp.unheard, hp.last, ?_⟩
    rw [hstat]
    exact hp.completes
  · intro hnone
    cases h.settled hnone with
    | unused htr hidle => exact .unused htr (by rwa [hstat])
    | running hwhole =>
      obtain ⟨tr, startTime, htr, hstart, hrecord⟩ := hwhole
      exact .running ⟨tr, startTime, htr, hstart, hstat.trans hrecord⟩
    | ended tr htr hidle hended => exact .ended tr htr (by rwa [hstat]) hended

theorem startTime_not_mem_assignIds (i : ℕ) (idList : List ℕ) :
    Assign.startTime ∉ assignIds i idList := by
  induction idList generalizing i with
  | nil => simp [assignIds]
  | cons id idList ih => simp [assignIds, ih]

theorem invariant_beginCall {replyTimeout : ℤ} {s s' : RaceState} {idList : List ℕ}
    {type : DataInfoType} {callbackname filename : CString.Text} {randomSeq : ℕ}
    {junk : ℕ → ℕ} (h : Invariant replyTimeout s)
    (hcall : beginCall idList type callbackname filename randomSeq junk s = some s') :
    Invariant replyTimeout s' := by
  rw [beginCall] at hcall
  by_cases hbusy : s.todo ≠ []
  · rw [if_pos hbusy] at hcall
    simp at hcall
  · rw [if_neg hbusy] at hcall
    by_cases hrun : s.server.gFileTransferStat.status ≠ 0
    · rw [if_pos hrun] at hcall
      cases hcall
      exact h
    · rw [if_neg hrun] at hcall
      obtain ⟨message, -, hcall⟩ := Option.bind_eq_some_iff.mp hcall
      obtain ⟨registry, hmark, hcall⟩ := Option.bind_eq_some_iff.mp hcall
      cases hcall
      obtain ⟨t, ht⟩ := h.table
      obtain ⟨registry', hmark', ht', -⟩ := TransferHistory.markRunning_table idList ht
      obtain rfl : registry' = registry := Option.some.inj (hmark'.symm.trans hmark)
      constructor
      · exact ⟨_, ht'⟩
      · exact h.status
      · intro _
        refine ⟨⟨idList, type, randomSeq, none, 0, none⟩, rfl, rfl, rfl, ?_, ?_⟩
        · exact ⟨_, (List.append_assoc _ _ _).symm, by simp [startTime_not_mem_assignIds]⟩
        · intro now
          exact assignAll_assignments now ⟨idList, type, randomSeq, none, 0, none⟩ junk _
      · intro hnone
        simp [assignments] at hnone

theorem assign_status {now : ℤ} {stat stat' : FileTransferStat} {a : Assign}
    (h : assign now stat a = some stat') (hs : stat.status = 0 ∨ stat.status = 1) :
    stat'.status = 0 ∨ stat'.status = 1 := by
  cases a with
  | idListAt i id =>
    obtain ⟨block, -, h⟩ := Option.bind_eq_some_iff.mp h
    split at h
    · cases h
      exact hs
    · simp at h
  | status =>
    cases h
    exact Or.inr rfl
  | _ =>
    cases h
    exact hs

theorem invariant_assign {replyTimeout now : ℤ} {s s' : RaceState}
    (h : Invariant replyTimeout s) (hstep : step replyTimeout s (.assign now) = some s') :
    Invariant replyTimeout s' := by
  obtain ⟨server, todo, transfer⟩ := s
  cases todo with
  | nil => simp [step] at hstep
  | cons a todo =>
    obtain ⟨tr, htr, hnone, hheard, ⟨front, hlast, hfront⟩, hcompletes⟩ :=
      h.pending (List.cons_ne_nil a todo)
    obtain ⟨stat, hassign, rfl⟩ := Option.map_eq_some_iff.mp hstep
    have hrest : ∀ now, assignAll now (a :: todo) server.gFileTransferStat =
        some (tr.record now 0) := hcompletes
    cases front with
    | nil =>
      -- the start time is left alone, so the record is whole behind this step
      obtain ⟨rfl, rfl⟩ := List.cons.inj hlast
      have hwhole : stat = tr.record now 0 := by
        have hnow := hrest now
        rw [assignAll, List.foldlM_cons, hassign] at hnow
        exact Option.some.inj hnow
      constructor
      · exact h.table
      · exact assign_status hassign h.status
      · intro hne
        exact absurd rfl hne
      · intro _
        refine .running ⟨{ tr with startTime := some now }, now, ?_, rfl, ?_⟩
        · have htransfer : transfer = some tr := htr
          simp only [if_true, htransfer, Option.map_some]
        · rw [hwhole]
          change tr.record now 0 = tr.record now tr.heard
          rw [hheard]
    | cons a' front =>
      obtain ⟨rfl, rfl⟩ := List.cons.inj hlast
      have hother : a ≠ .startTime := by
        rintro rfl
        exact hfront List.mem_cons_self
      have hlater : Assign.startTime ∉ front := fun hm => hfront (List.mem_cons_of_mem _ hm)
      constructor
      · exact h.table
      · exact assign_status hassign h.status
      · intro _
        refine ⟨tr, ?_, hnone, hheard, ⟨front, rfl, hlater⟩, ?_⟩
        · simp only [if_neg hother]
          exact htr
        · intro later
          have hall := hrest later
          have hsame : assign later server.gFileTransferStat a = some stat := by
            rw [← hassign]
            cases a with
            | startTime => exact absurd rfl hother
            | _ => rfl
          rw [assignAll, List.foldlM_cons, hsame] at hall
          exact hall
      · intro hnil
        simp at hnil

theorem poll_record (replyTimeout : ℤ) (env : PollEnv) {s : FileServer} {t : List DevList}
    {tr : Transfer} {startTime : ℤ} {recvNum : ℕ} (ht : HoldsTable s.registry t)
    (hrecord : s.gFileTransferStat = tr.record startTime recvNum) :
    let heard := recvNum + (ownReplies tr s.gFileTransferStat s.reader).length
    let ends := heard = tr.idList.length ∨ env.now - startTime > replyTimeout
    ∃ s', dataserverInfoFileTransferThread replyTimeout env s = some s' ∧
      (∃ t', HoldsTable s'.registry t') ∧
      (ends → s'.gFileTransferStat.status = 0) ∧
      (¬ ends → s'.gFileTransferStat = tr.record startTime heard) := by
  intro heard ends
  have hrun : s.gFileTransferStat.status = 1 := by simp only [hrecord, Transfer.record]
  have hids : s.gFileTransferStat.idList = some tr.idList := by
    simp only [hrecord, Transfer.record]
  have hnum : tr.idList.length = s.gFileTransferStat.idNum := by
    simp only [hrecord, Transfer.record]
  have hown : counted s.gFileTransferStat s.reader =
      ownReplies tr s.gFileTransferStat s.reader := by
    rw [counted, ownReplies, hrecord]
    rfl
  have hheard : s.gFileTransferStat.recvNum +
      (counted s.gFileTransferStat s.reader).length = heard := by
    rw [hown, hrecord]
    simp only [heard, hrecord, Transfer.record]
  have hbegun : s.gFileTransferStat.startTime = startTime := by
    simp only [hrecord, Transfer.record]
  obtain ⟨s', hpoll, ht', -, hstat⟩ := poll_running replyTimeout env ht hrun hids hnum
  rw [hheard, hbegun, ← hnum] at hstat
  refine ⟨s', hpoll, ⟨_, ht'⟩, ?_, ?_⟩
  · intro hends
    rw [hstat]
    exact if_pos hends
  · intro hgoes
    rw [hstat, if_neg hgoes, if_neg hgoes, if_neg hgoes, hrecord]
    rfl

theorem invariant_poll {replyTimeout : ℤ} {env : PollEnv} {s s' : RaceState}
    (h : Invariant replyTimeout s) (hmid : NotMidway s (.poll env))
    (hstep : step replyTimeout s (.poll env) = some s') : Invariant replyTimeout s' := by
  obtain ⟨server, hpoll, rfl⟩ := Option.map_eq_some_iff.mp hstep
  rcases h.status with hidle | hrun
  · have hnot : s.server.gFileTransferStat.status ≠ 1 := by omega
    obtain rfl : s.server = server :=
      Option.some.inj ((TransferHistory.poll_idle replyTimeout env hnot).symm.trans hpoll)
    simp only [if_neg hnot]
    exact h
  · have hnone : s.todo = [] := hmid hrun
    obtain ⟨tr, startTime, htr, hstart, hrecord⟩ := (h.settled hnone).whole hrun
    obtain ⟨t, ht⟩ := h.table
    obtain ⟨server', hpoll', ht', hended, hgoes⟩ := poll_record replyTimeout env ht hrecord
    obtain rfl : server' = server := Option.some.inj (hpoll'.symm.trans hpoll)
    simp only [if_pos hrun, htr, Option.map_some]
    by_cases hends : tr.heard + (ownReplies tr s.server.gFileTransferStat s.server.reader).length =
        tr.idList.length ∨ env.now - startTime > replyTimeout
    · have hidle := hended hends
      constructor
      · exact ht'
      · exact Or.inl hidle
      · intro htodo
        exact absurd hnone htodo
      · intro _
        exact .ended _ rfl hidle ⟨startTime, env.now, hstart, if_pos hidle, hends⟩
    · have hstill := hgoes hends
      constructor
      · exact ht'
      · rw [hstill]
        exact Or.inr rfl
      · intro htodo
        exact absurd hnone htodo
      · intro _
        exact .running ⟨tr.polled env.now s.server server', startTime, rfl, hstart, hstill⟩

theorem invariant_step {replyTimeout : ℤ} {s s' : RaceState} {e : RaceEvent}
    (h : Invariant replyTimeout s) (hmid : NotMidway s e)
    (hstep : step replyTimeout s e = some s') : Invariant replyTimeout s' := by
  cases e with
  | sendFile => exact invariant_beginCall h hstep
  | recvFile => exact invariant_beginCall h hstep
  | assign now => exact invariant_assign h hstep
  | poll env => exact invariant_poll h hmid hstep
  | replyArrives sample =>
    cases hstep
    exact h.other rfl h.table
  | addDevice chunk msg arg =>
    obtain ⟨registry, hadd, rfl⟩ := Option.map_eq_some_iff.mp hstep
    obtain ⟨t, ht⟩ := h.table
    obtain ⟨registry', hadd', ht'⟩ := addDevice_table ht chunk msg arg
    obtain rfl : registry' = registry := Option.some.inj (hadd'.symm.trans hadd)
    exact h.other rfl ⟨_, ht'⟩
  | delDevice internalId =>
    obtain ⟨registry, hdel, rfl⟩ := Option.map_eq_some_iff.mp hstep
    obtain ⟨t, ht⟩ := h.table
    obtain ⟨registry', hdel', ht'⟩ := delDevice_table ht internalId
    obtain rfl : registry' = registry := Option.some.inj (hdel'.symm.trans hdel)
    exact h.other rfl ⟨_, ht'⟩

theorem invariant_execution {replyTimeout : ℤ} {s : RaceState}
    (h : Execution (step replyTimeout) NotMidway initial s) : Invariant replyTimeout s :=
  h.invariant (invariant_initial replyTimeout) fun _ _ _ hi hg hs => invariant_step hi hg hs

/-- In every run without a poll midway, a poll that finds status 1 does not fault and finds the
record of the call that set it, and a call that returned 0 has its transfer still running unless
a poll ended it by its own replies or its own deadline. Midway the record is not whole. -/
theorem seen_whole {replyTimeout : ℤ} {s : RaceState}
    (h : Execution (step replyTimeout) NotMidway initial s) :
    (s.server.gFileTransferStat.status = 1 → (SeenWhole s ↔ s.todo = [])) ∧
    (s.todo = [] → ∀ env,
      (dataserverInfoFileTransferThread replyTimeout env s.server).isSome) ∧
    ∀ tr, s.transfer = some tr → s.todo = [] →
      s.server.gFileTransferStat.status = 1 ∨ EndedByItself replyTimeout tr := by
  have hinv := invariant_execution h
  refine ⟨?_, ?_, ?_⟩
  · intro hrun
    constructor
    · rintro ⟨tr, startTime, htr, hstart, -⟩
      by_contra htodo
      obtain ⟨tr', hp⟩ := hinv.pending htodo
      obtain rfl : tr = tr' := Option.some.inj (htr.symm.trans hp.transfer)
      simp [hp.unstarted] at hstart
    · intro htodo
      exact (hinv.settled htodo).whole hrun
  · intro htodo env
    rcases hinv.status with hidle | hrun
    · have hnot : s.server.gFileTransferStat.status ≠ 1 := by omega
      rw [TransferHistory.poll_idle replyTimeout env hnot]
      rfl
    · obtain ⟨tr, startTime, -, -, hrecord⟩ := (hinv.settled htodo).whole hrun
      obtain ⟨t, ht⟩ := hinv.table
      obtain ⟨s', hpoll, -⟩ := poll_record replyTimeout env ht hrecord
      rw [hpoll]
      rfl
  · intro tr htr htodo
    cases hinv.settled htodo with
    | unused hnone _ => simp [hnone] at htr
    | running hwhole =>
      obtain ⟨tr', startTime, -, -, hrecord⟩ := hwhole
      left
      rw [hrecord]
      rfl
    | ended tr' htr' _ hended =>
      obtain rfl : tr' = tr := Option.some.inj (htr'.symm.trans htr)
      exact Or.inr hended

def quietPoll (now : ℤ) : RaceEvent := .poll ⟨now, fun _ => true, emptyResult⟩

def sendToDeviceFive : RaceEvent := .sendFile [5] ['c'] ['f'] 3 fun _ => 0

theorem seen_whole_one_device :
    ∃ s, runEvents (guarded (step 10) NotMidway) initial
        (sendToDeviceFive :: List.replicate 8 (.assign 100) ++ [quietPoll 101]) = some s ∧
      s.server.gFileTransferStat.status = 1 ∧ SeenWhole s := by
  obtain ⟨s, hs, hexec, hstatus, htodo⟩ := exists_execution (step 10) NotMidway
    initial (fun s => s.server.gFileTransferStat.status = 1 ∧ s.todo = [])
    (sendToDeviceFive :: List.replicate 8 (.assign 100) ++ [quietPoll 101]) (by decide)
  obtain ⟨hwhole, -, -⟩ := seen_whole hexec
  exact ⟨s, hs, hstatus, (hwhole hstatus).mpr htodo⟩

/-- A poll behind the first assignment compares the zeros of the unused record. The call returns
0, no reply was heard and no time has passed, and yet no transfer runs. -/
theorem first_transfer_lost :
    ∃ s, Reachable (step 10) initial s ∧ s.todo = [] ∧
      s.server.gFileTransferStat.status = 0 ∧
      ∃ tr, s.transfer = some tr ∧ ¬ EndedByItself 10 tr := by
  let tr : Transfer := ⟨[5], .importFile, 3, some 100, 0, some 100⟩
  obtain ⟨s, hreach, htodo, hstatus, htr⟩ : ∃ s, Reachable (step 10) initial s ∧ s.todo = [] ∧
      s.server.gFileTransferStat.status = 0 ∧ s.transfer = some tr := by
    apply exists_reachable _
      (sendToDeviceFive :: .assign 100 :: quietPoll 100 :: List.replicate 7 (.assign 100))
    decide
  refine ⟨s, hreach, htodo, hstatus, tr, htr, ?_⟩
  rintro ⟨startTime, now, hstart, hended, hover⟩
  cases hstart
  cases hended
  simp [tr] at hover

end FileTransferRace
