import RmtLibrary.DatainfoServer
import RmtLibrary.DevinfoServer

/-! # File transfers of the server

`datainfo_server_send_file`, `datainfo_server_recv_file` and the poll of the receive thread,
`dataserver_info_file_transfer_thread`, each as one step on the transfer record, the device
registry and the reader of replies. `none` stands for an access outside a block. -/
namespace FileTransfer

open CString (Text)
open DdsTransport (Sample)
open DevinfoServer
open Idl (DataInfoType DataInfoRequest DataInfoReply)

/-- `file_transfer_stat`. `idList` is `none` for `NULL`. -/
structure FileTransferStat where
  status : ℕ
  startTime : ℤ
  type : DataInfoType
  randomSeq : ℕ
  idList : Option (List ℕ)
  idNum : ℕ
  recvNum : ℕ
  deriving DecidableEq, Repr

structure FileServer where
  gFileTransferStat : FileTransferStat
  registry : Registry
  reader : List (Sample DataInfoReply)

def datainfoServerInit : FileServer :=
  ⟨⟨0, 0, .get, 0, none, 0, 0⟩, devinfoServerInit, []⟩

def transferMessage (callbackname filename : Text) : Option Text := do
  let message ← DatainfoServer.strcat 1024 [] callbackname
  let message ← DatainfoServer.strcat 1024 message [';']
  DatainfoServer.strcat 1024 message filename

theorem transferMessage_eq (callbackname filename : Text) :
    transferMessage callbackname filename =
      if callbackname.length + filename.length + 2 ≤ 1024 then
        some (callbackname ++ ';' :: filename) else none := by
  simp only [transferMessage, DatainfoServer.strcat, List.nil_append, Option.bind_eq_bind]
  by_cases hfit : callbackname.length + filename.length + 2 ≤ 1024
  · have hname : callbackname.length < 1024 := by omega
    have hsep : (callbackname ++ [';']).length < 1024 := by simp; omega
    have hfile : (callbackname ++ [';'] ++ filename).length < 1024 := by simp; omega
    rw [if_pos hname, Option.bind_some, if_pos hsep, Option.bind_some, if_pos hfile, if_pos hfit,
      List.append_assoc, List.singleton_append]
  · have hfile : ¬ (callbackname ++ [';'] ++ filename).length < 1024 := by simp; omega
    rw [if_neg hfit]
    split
    · rw [Option.bind_some]
      split
      · rw [Option.bind_some, if_neg hfile]
      · rfl
    · rfl

def markRunning (idList : List ℕ) (registry : Registry) : Option Registry :=
  idList.foldlM (fun registry id =>
    (devinfoServerSetStatusById id .running emptyResult registry).map Prod.fst) registry

/-- What both calls do behind `dds_transport_send`. -/
def triggerTransfer (req : DataInfoRequest) (now : ℤ) (s : FileServer) : Option FileServer := do
  let registry ← markRunning req.idList s.registry
  some { s with
    registry
    gFileTransferStat := ⟨1, now, req.type, req.randomSeq, some req.idList, req.idList.length, 0⟩ }

def datainfoServerSendFile (idList : List ℕ) (callbackname filename : Text)
    (pFile : List UInt8) (randomSeq : ℕ) (now : ℤ) (s : FileServer) :
    Option (FileServer × ℤ × Option DataInfoRequest) :=
  if s.gFileTransferStat.status ≠ 0 then some (s, -1, none)
  else do
    let message ← transferMessage callbackname filename
    let req := ⟨idList, .importFile, randomSeq, message, pFile⟩
    let s ← triggerTransfer req now s
    some (s, 0, some req)

def datainfoServerRecvFile (id : ℕ) (callbackname filename : Text) (randomSeq : ℕ) (now : ℤ)
    (s : FileServer) : Option (FileServer × ℤ × Option DataInfoRequest) :=
  if s.gFileTransferStat.status ≠ 0 then some (s, -1, none)
  else do
    let message ← transferMessage callbackname filename
    let req := ⟨[id], .exportFile, randomSeq, message, []⟩
    let s ← triggerTransfer req now s
    some (s, 0, some req)

/-- What both calls do if they do not fault: nothing while a transfer runs, else they write the
request and start its transfer. -/
theorem start_cases (request : Text → DataInfoRequest)
    {callbackname filename : Text} {now : ℤ} {s : FileServer}
    {r : FileServer × ℤ × Option DataInfoRequest}
    (h : (if s.gFileTransferStat.status ≠ 0 then some (s, -1, none) else do
      let message ← transferMessage callbackname filename
      let s ← triggerTransfer (request message) now s
      some (s, 0, some (request message))) = some r) :
    (s.gFileTransferStat.status ≠ 0 ∧ r = (s, -1, none)) ∨
    (s.gFileTransferStat.status = 0 ∧ ∃ message,
      transferMessage callbackname filename = some message ∧
      triggerTransfer (request message) now s = some r.1 ∧
      r = (r.1, 0, some (request message))) := by
  by_cases hbusy : s.gFileTransferStat.status ≠ 0
  · rw [if_pos hbusy] at h
    exact Or.inl ⟨hbusy, (Option.some.inj h).symm⟩
  · right
    rw [if_neg hbusy] at h
    obtain ⟨message, hmsg, h⟩ := Option.bind_eq_some_iff.mp h
    obtain ⟨s₁, htrig, h⟩ := Option.bind_eq_some_iff.mp h
    obtain rfl := Option.some.inj h
    exact ⟨not_not.mp hbusy, message, hmsg, htrig, rfl⟩

theorem sendFile_cases {idList : List ℕ} {callbackname filename : Text}
    {pFile : List UInt8} {randomSeq : ℕ} {now : ℤ} {s : FileServer}
    {r : FileServer × ℤ × Option DataInfoRequest}
    (h : datainfoServerSendFile idList callbackname filename pFile randomSeq now s = some r) :
    (s.gFileTransferStat.status ≠ 0 ∧ r = (s, -1, none)) ∨
    (s.gFileTransferStat.status = 0 ∧ ∃ message,
      transferMessage callbackname filename = some message ∧
      triggerTransfer ⟨idList, .importFile, randomSeq, message, pFile⟩ now s = some r.1 ∧
      r = (r.1, 0, some ⟨idList, .importFile, randomSeq, message, pFile⟩)) :=
  start_cases (fun message => ⟨idList, .importFile, randomSeq, message, pFile⟩) h

theorem recvFile_cases {id : ℕ} {callbackname filename : Text} {randomSeq : ℕ} {now : ℤ}
    {s : FileServer} {r : FileServer × ℤ × Option DataInfoRequest}
    (h : datainfoServerRecvFile id callbackname filename randomSeq now s = some r) :
    (s.gFileTransferStat.status ≠ 0 ∧ r = (s, -1, none)) ∨
    (s.gFileTransferStat.status = 0 ∧ ∃ message,
      transferMessage callbackname filename = some message ∧
      triggerTransfer ⟨[id], .exportFile, randomSeq, message, []⟩ now s = some r.1 ∧
      r = (r.1, 0, some ⟨[id], .exportFile, randomSeq, message, []⟩)) :=
  start_cases (fun message => ⟨[id], .exportFile, randomSeq, message, []⟩) h

/-- What a poll meets: the time, whether `malloc` has room for a file, and what the unassigned
`file_result` on the stack holds. -/
structure PollEnv where
  now : ℤ
  mallocOk : ℕ → Bool
  stack : TransferResult

/-- Status and result that `recv_file_transfer_reply` derives from a reply. -/
def replyStatus (env : PollEnv) (msg : DataInfoReply) : TransferStatus × TransferResult :=
  let fileResult := { env.stack with result := (CString.atoi msg.msg).toInt }
  match msg.type with
  | .importFile => (.done, { fileResult with pFile := none, fileLen := 0 })
  | .exportFile =>
    if env.mallocOk msg.binary.length then
      (.done, { fileResult with pFile := some msg.binary, fileLen := msg.binary.length })
    else (.serverError, { fileResult with pFile := none })
  | _ => (.done, fileResult)

def recvFileTransferReply (env : PollEnv) (msg : DataInfoReply) :
    FileTransferStat × Registry → Option ((FileTransferStat × Registry) × ℤ)
  | (stat, registry) =>
    if msg.type ≠ stat.type ∨ msg.randomSeq ≠ stat.randomSeq then some ((stat, registry), -1)
    else do
      let (status, fileResult) := replyStatus env msg
      let (registry, _) ← devinfoServerSetStatusById msg.deviceID status fileResult registry
      some (({ stat with recvNum := stat.recvNum + 1 }, registry), 0)

def drainReplies (env : PollEnv) (instanceKey : ℕ) :
    ℕ → List (Sample DataInfoReply) → FileTransferStat × Registry →
      Option (List (Sample DataInfoReply) × FileTransferStat × Registry)
  | 0, reader, acc => some (reader, acc)
  | n + 1, reader, acc => do
    let (reader, acc) ← DdsTransport.tryRecvInstance DataInfoReply.randomSeq instanceKey
      (recvFileTransferReply env) reader acc
    drainReplies env instanceKey n reader acc

def readIdList (stat : FileTransferStat) : Option (List ℕ) :=
  if stat.idNum = 0 then some []
  else do
    let idList ← stat.idList
    if stat.idNum ≤ idList.length then some (idList.take stat.idNum) else none

def expireDevice (registry : Registry) (id : ℕ) : Option Registry := do
  let (devStatus, _) ← devinfoServerGetStatusById id registry
  if devStatus = .running then
    (devinfoServerSetStatusById id .agentError emptyResult registry).map Prod.fst
  else some registry

def expireRunning (stat : FileTransferStat) (registry : Registry) : Option Registry := do
  let idList ← readIdList stat
  idList.foldlM expireDevice registry

def checkCount (stat : FileTransferStat) : FileTransferStat :=
  if stat.recvNum = stat.idNum then { stat with status := 0 } else stat

def checkDeadline (replyTimeout now : ℤ) (stat : FileTransferStat) (registry : Registry) :
    Option (FileTransferStat × Registry) :=
  if now - stat.startTime > replyTimeout then
    (expireRunning stat registry).map ({ stat with status := 0 }, ·)
  else some (stat, registry)

def freeResource (stat : FileTransferStat) : FileTransferStat :=
  if stat.status = 0 then { stat with idList := none, idNum := 0 } else stat

def dataserverInfoFileTransferThread (replyTimeout : ℤ) (env : PollEnv) (s : FileServer) :
    Option FileServer :=
  let stat := s.gFileTransferStat
  if stat.status = 1 then do
    let (reader, stat, registry) ← drainReplies env stat.randomSeq (stat.idNum - stat.recvNum)
      s.reader (stat, s.registry)
    let (stat, registry) ← checkDeadline replyTimeout env.now (checkCount stat) registry
    some ⟨freeResource stat, registry, reader⟩
  else some s

inductive Event where
  | sendFile (idList : List ℕ) (callbackname filename : Text) (pFile : List UInt8)
      (randomSeq : ℕ) (now : ℤ)
  | recvFile (id : ℕ) (callbackname filename : Text) (randomSeq : ℕ) (now : ℤ)
  | poll (env : PollEnv)
  | replyArrives (sample : Sample DataInfoReply)
  | addDevice (chunk : Chunk) (msg : Idl.DeviceInfoMsg) (arg : ℕ)
  | delDevice (internalId : ℕ)

def serverStep (replyTimeout : ℤ) (s : FileServer) : Event → Option FileServer
  | .sendFile idList callbackname filename pFile randomSeq now =>
    (datainfoServerSendFile idList callbackname filename pFile randomSeq now s).map Prod.fst
  | .recvFile id callbackname filename randomSeq now =>
    (datainfoServerRecvFile id callbackname filename randomSeq now s).map Prod.fst
  | .poll env => dataserverInfoFileTransferThread replyTimeout env s
  | .replyArrives sample => some { s with reader := s.reader ++ [sample] }
  | .addDevice chunk msg arg =>
    (DevinfoServer.addDevice chunk msg arg s.registry).map fun registry => { s with registry }
  | .delDevice internalId =>
    (DevinfoServer.delDevice internalId s.registry).map fun registry => { s with registry }

end FileTransfer
