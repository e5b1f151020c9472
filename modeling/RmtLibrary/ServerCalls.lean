import RmtLibrary.CallbackResult
import RmtLibrary.FailingDrains
import RmtLibrary.GhostDevices

/-! # The server over memory that nothing has assigned

The calls of the API, but for the three information calls, and the phases of the receive thread's
loop. Each is one step, so that `using_api` plays no part. A step is given what the blocks it
allocates, the stack frames it opens and the variables its caller passes happen to hold. `none`
stands for an access outside a block or through a freed transport. -/
namespace ServerCalls

open CallbackResult (rmtServerGetResult)
open CString (Text)
open DdsTransport (Sample)
open DevinfoServer
open FileTransfer
open GhostDevices (Announcement)
open HeapChain (Malloc)
open Idl (DataInfoRequest DataInfoReply)
open RmtServer (ServerStatus InitOutcome)
open TwoRuns (rel_bind rel_cases)

/-- What unassigned memory holds, read as a status, a result, a pointer or a number. -/
structure Memory where
  status : TransferStatus
  result : TransferResult
  pointer : ℕ
  number : ℤ

inductive Transport where
  | null
  | opened
  | freed
  deriving DecidableEq, Repr

/-- `announcements` is the DeviceInfo reader. The reader of replies is in `files`. -/
structure Server where
  status : ServerStatus
  transport : Transport
  announcements : List (Sample Announcement)
  files : FileServer

def initial : Server := ⟨.stop, .null, [], datainfoServerInit⟩

/-- `mallocOk` is asked for the number of the allocation in the step and for its size, and
`fails` says which `dds_take` of a drain goes wrong. A sample may leave a reader for a newer one,
and a reply for an information call. -/
inductive Op where
  | announced (sample : Sample Announcement)
  | announcementLeaves (i : ℕ)
  | replied (sample : Sample DataInfoReply)
  | replyLeaves (i : ℕ)
  | lost (internalId : ℕ)
  | update (malloc : Malloc) (fails : Option ℕ)
  | poll (now : ℤ) (mallocOk : ℕ → ℕ → Bool) (fails : ℕ → Option ℕ)
  | sendFile (idList : List ℕ) (callbackname filename : Text) (pFile : List UInt8)
      (randomSeq : ℕ) (now : ℤ)
  | recvFile (id : ℕ) (callbackname filename : Text) (randomSeq : ℕ) (now : ℤ)
  | createDeviceList (malloc : Malloc) (fails : Option ℕ) (mallocOk : Bool)
  | getResult (deviceId : ℕ)
  | stop
  | reinit (found configOk : Bool) (outcome : InitOutcome)
  | init (outcome : InitOutcome)
  | deinit

inductive DeviceList where
  | null
  | list (dev : List DeviceInfo)
  | stray (pointer : ℕ)
  deriving DecidableEq, Repr

inductive Output where
  | deviceList (dev : DeviceList) (num : ℤ)
  | result (currentStatus : TransferStatus) (result : TransferResult)
  deriving DecidableEq, Repr

def addAnnounced (malloc : Malloc) (memory : ℕ → Memory) (a : Announcement) :
    Registry × ℕ → Option ((Registry × ℕ) × ℤ)
  | (registry, n) =>
    (addDevice ⟨malloc, (memory n).status, (memory n).result⟩ a.msg a.handle registry).map
      fun registry => ((registry, n + 1), 0)

def devinfoServerUpdate (malloc : Malloc) (fails : Option ℕ) (memory : ℕ → Memory)
    (s : Server) : Option (Server × ℤ) :=
  if s.transport ≠ .opened then none
  else do
    let (announcements, (registry, _), ret) ← FailingDrains.tryRecv (addAnnounced malloc memory)
      s.announcements fails (s.files.registry, 0)
    some ({ s with announcements, files := { s.files with registry } }, ret)

/-- Without a failing `dds_take` this is the drain of `DdsTransport`. -/
theorem devinfoServerUpdate_none (malloc : Malloc) (memory : ℕ → Memory) {s : Server}
    (hopen : s.transport = .opened) : devinfoServerUpdate malloc none memory s =
      (DdsTransport.tryRecv (addAnnounced malloc memory) s.announcements
        (s.files.registry, 0)).map fun r =>
          ({ s with announcements := r.1, files := { s.files with registry := r.2.1 } }, 0) := by
  rw [devinfoServerUpdate, if_neg (not_not.mpr hopen), FailingDrains.tryRecv_none]
  cases DdsTransport.tryRecv (addAnnounced malloc memory) s.announcements
    (s.files.registry, 0) <;> rfl

/-- Frame `0` is that of `dev` and of the caller's `*num`. -/
def rmtServerCreateDeviceList (malloc : Malloc) (fails : Option ℕ) (mallocOk : Bool)
    (memory : ℕ → Memory) (s : Server) : Option (Server × Output) :=
  if s.status ≠ .running then some (s, .deviceList .null 0)
  else do
    let (s, ret) ← devinfoServerUpdate malloc fails (fun n => memory (n + 1)) s
    let num := s.files.registry.gDevNum.toInt
    if ret ≠ 0 then some (s, .deviceList (.stray (memory 0).pointer) (memory 0).number)
    else if mallocOk then do
      let dev ← devinfoServerCreateList s.files.registry
      some (s, .deviceList (.list dev) num)
    else some (s, .deviceList .null num)

def getResult (deviceId : ℕ) (memory : ℕ → Memory) (s : Server) : Option (Server × Output) :=
  (rmtServerGetResult s.status deviceId s.files.registry).map fun (currentStatus, result) =>
    (s, .result currentStatus (result.getD (memory 0).result))

theorem getResult_running {s : Server} (hrun : s.status = .running) {deviceId : ℕ}
    {currentStatus : TransferStatus} {result : TransferResult}
    (hget : devinfoServerGetStatusById deviceId s.files.registry = some (currentStatus, result))
    (memory : ℕ → Memory) :
    getResult deviceId memory s = some (s, .result currentStatus result) := by
  rw [getResult, rmtServerGetResult, if_pos hrun, hget]
  rfl

theorem getResult_stopped {s : Server} (hstop : s.status ≠ .running) (deviceId : ℕ)
    (memory : ℕ → Memory) :
    getResult deviceId memory s = some (s, .result .serverError (memory 0).result) := by
  rw [getResult, rmtServerGetResult, if_neg hstop]
  rfl

def start (call : FileServer → Option (FileServer × ℤ × Option DataInfoRequest)) (s : Server) :
    Option Server :=
  if s.status ≠ .running then some s
  else do
    let (files, _, req) ← call s.files
    if req.isSome ∧ s.transport ≠ .opened then none else some { s with files }

/-- `recv_file_transfer_reply` as callback of a drain, with the number of its frame. -/
def recvReply (now : ℤ) (mallocOk : ℕ → ℕ → Bool) (memory : ℕ → Memory) (msg : DataInfoReply) :
    (FileTransferStat × Registry) × ℕ → Option (((FileTransferStat × Registry) × ℕ) × ℤ)
  | (acc, n) =>
    (recvFileTransferReply ⟨now, mallocOk n, (memory n).result⟩ msg acc).map
      fun (acc, ret) => ((acc, n + 1), ret)

def drainReplies {β : Type} (func : DataInfoReply → β → Option (β × ℤ)) (instanceKey : ℕ)
    (fails : ℕ → Option ℕ) : ℕ → List (Sample DataInfoReply) → β →
      Option (List (Sample DataInfoReply) × β)
  | 0, reader, acc => some (reader, acc)
  | n + 1, reader, acc => do
    let (reader, acc) ← FailingDrains.tryRecvInstance DataInfoReply.randomSeq instanceKey func
      reader (fails n) acc
    drainReplies func instanceKey fails n reader acc

/-- Callbacks that keep a relation keep it over the drains of a poll. -/
theorem rel_drainReplies {β γ : Type} {R : β → γ → Prop}
    {f : DataInfoReply → β → Option (β × ℤ)} {g : DataInfoReply → γ → Option (γ × ℤ)}
    (hfg : ∀ a b c, R b c → Option.Rel (fun r r' => R r.1 r'.1) (f a b) (g a c))
    (instanceKey : ℕ) (fails : ℕ → Option ℕ) (n : ℕ) (reader : List (Sample DataInfoReply))
    {b : β} {c : γ} (h : R b c) : Option.Rel (fun r r' => r.1 = r'.1 ∧ R r.2 r'.2)
      (drainReplies f instanceKey fails n reader b)
      (drainReplies g instanceKey fails n reader c) := by
  induction n generalizing reader b c with
  | zero => exact .some ⟨rfl, h⟩
  | succ n ih =>
    refine rel_bind (FailingDrains.tryRecvInstance_rel _ instanceKey hfg reader (fails n) h) ?_
    rintro ⟨left, b'⟩ ⟨left', c'⟩ ⟨hleft, h'⟩
    obtain rfl : left = left' := hleft
    exact ih left h'

theorem drainReplies_keeps {β : Type} {P : β → Prop} {func : DataInfoReply → β → Option (β × ℤ)}
    (hfunc : ∀ a b, P b → ∃ r, func a b = some r ∧ P r.1) (instanceKey : ℕ)
    (fails : ℕ → Option ℕ) (n : ℕ) (reader : List (Sample DataInfoReply)) {b : β} (h : P b) :
    ∃ r, drainReplies func instanceKey fails n reader b = some r ∧ P r.2 := by
  induction n generalizing reader b with
  | zero => exact ⟨_, rfl, h⟩
  | succ n ih =>
    obtain ⟨r, hr, hP⟩ := FailingDrains.tryRecvInstance_keeps hfunc DataInfoReply.randomSeq
      instanceKey reader (fails n) h
    rw [drainReplies, hr]
    exact ih r.1 hP

theorem drainReplies_none (env : PollEnv) (instanceKey n : ℕ)
    (reader : List (Sample DataInfoReply)) (acc : FileTransferStat × Registry) :
    drainReplies (recvFileTransferReply env) instanceKey (fun _ => none) n reader acc =
      FileTransfer.drainReplies env instanceKey n reader acc := by
  induction n generalizing reader acc with
  | zero => rfl
  | succ n ih =>
    rw [drainReplies, FileTransfer.drainReplies, FailingDrains.tryRecvInstance_none]
    simp only [ih]

def poll (replyTimeout now : ℤ) (mallocOk : ℕ → ℕ → Bool) (fails : ℕ → Option ℕ)
    (memory : ℕ → Memory) (s : FileServer) : Option FileServer :=
  let stat := s.gFileTransferStat
  if stat.status = 1 then do
    let (reader, (stat, registry), _) ← drainReplies (recvReply now mallocOk memory)
      stat.randomSeq fails (stat.idNum - stat.recvNum) s.reader ((stat, s.registry), 0)
    let (stat, registry) ← checkDeadline replyTimeout now (checkCount stat) registry
    some ⟨freeResource stat, registry, reader⟩
  else some s

/-- With one kind of contents for every frame and block, and no failing drain, this is the poll of
`FileTransfer`. -/
theorem poll_eq_thread (replyTimeout : ℤ) (env : PollEnv) {memory : ℕ → Memory}
    (hmem : ∀ n, (memory n).result = env.stack) (s : FileServer) :
    poll replyTimeout env.now (fun _ => env.mallocOk) (fun _ => none) memory s =
      dataserverInfoFileTransferThread replyTimeout env s := by
  have hcallback : ∀ msg (acc : (FileTransferStat × Registry) × ℕ) acc', acc.1 = acc' →
      Option.Rel (fun r r' => r.1.1 = r'.1)
        (recvReply env.now (fun _ => env.mallocOk) memory msg acc)
        (recvFileTransferReply env msg acc') := by
    rintro msg ⟨acc, n⟩ _ rfl
    have henv : (⟨env.now, env.mallocOk, (memory n).result⟩ : PollEnv) = env := by rw [hmem]
    simp only [recvReply, henv]
    cases recvFileTransferReply env msg acc with
    | none => exact .none
    | some r => exact .some rfl
  rw [poll, dataserverInfoFileTransferThread]
  split
  · have hrel := rel_drainReplies hcallback s.gFileTransferStat.randomSeq (fun _ => none)
      (s.gFileTransferStat.idNum - s.gFileTransferStat.recvNum) s.reader
      (b := ((s.gFileTransferStat, s.registry), 0)) rfl
    rw [drainReplies_none] at hrel
    rcases rel_cases hrel with ⟨hs, hs'⟩ | ⟨⟨reader, acc, n⟩, ⟨_, _⟩, hs, hs', rfl, rfl⟩
    · rw [hs, hs']
      rfl
    · rw [hs, hs']
      rfl
  · rfl

def resetStat (stat : FileTransferStat) : FileTransferStat :=
  { stat with status := 0, startTime := 0, recvNum := 0, idList := none, idNum := 0 }

def reset (transport : Transport) (s : Server) : Server :=
  { s with
    transport
    announcements := []
    files := ⟨resetStat s.files.gFileTransferStat, devinfoServerInit, []⟩ }

def ddsTransportServerInit : InitOutcome → Transport
  | .created => .opened
  | .noMemory => .null
  | .failed => .freed

def close (s : Server) : Option Server :=
  if s.transport ≠ .opened then none
  else (devinfoServerDeinit s.files.registry).map fun registry =>
    { s with transport := .freed, files := { s.files with registry } }

def closeOld (s : Server) : Option Server := if s.transport = .null then some s else close s

/-- The end of the receive thread's loop for a server that is stopped. -/
def reinit (found configOk : Bool) (outcome : InitOutcome) (s : Server) : Option Server :=
  if s.status = .running ∨ s.files.gFileTransferStat.status ≠ 0 ∨ ¬ found then some s
  else do
    let s ← closeOld s
    if ¬ configOk ∨ ddsTransportServerInit outcome = .null then
      some { s with transport := .null }
    else some { reset (ddsTransportServerInit outcome) s with status := .running }

def rmtServerInit (outcome : InitOutcome) (s : Server) : Server :=
  let s := reset (ddsTransportServerInit outcome) s
  if s.transport = .null then s else { s with status := .running }

def step (replyTimeout : ℤ) (memory : ℕ → Memory) (s : Server) :
    Op → Option (Server × Option Output)
  | .announced sample => some ({ s with announcements := s.announcements ++ [sample] }, none)
  | .announcementLeaves i => some ({ s with announcements := s.announcements.eraseIdx i }, none)
  | .replied sample =>
    some ({ s with files := { s.files with reader := s.files.reader ++ [sample] } }, none)
  | .replyLeaves i =>
    some ({ s with files := { s.files with reader := s.files.reader.eraseIdx i } }, none)
  | .lost internalId =>
    (delDevice internalId s.files.registry).map fun registry =>
      ({ s with files := { s.files with registry } }, none)
  | .update malloc fails =>
    if s.transport = .null then some (s, none)
    else (devinfoServerUpdate malloc fails memory s).map fun r => (r.1, none)
  | .poll now mallocOk fails =>
    match s.transport with
    | .null => some (s, none)
    -- the update before it has used the transport already
    | .freed => none
    | .opened => (poll replyTimeout now mallocOk fails memory s.files).map fun files =>
      ({ s with files }, none)
  | .sendFile idList callbackname filename pFile randomSeq now =>
    (start (datainfoServerSendFile idList callbackname filename pFile randomSeq now) s).map
      (·, none)
  | .recvFile id callbackname filename randomSeq now =>
    (start (datainfoServerRecvFile id callbackname filename randomSeq now) s).map (·, none)
  | .createDeviceList malloc fails mallocOk =>
    (rmtServerCreateDeviceList malloc fails mallocOk memory s).map fun r => (r.1, some r.2)
  | .getResult deviceId => (getResult deviceId memory s).map fun r => (r.1, some r.2)
  | .stop => some ({ s with status := .stop }, none)
  | .reinit found configOk outcome => (reinit found configOk outcome s).map (·, none)
  | .init outcome => some (rmtServerInit outcome s, none)
  | .deinit => (close s).map (·, none)

end ServerCalls
