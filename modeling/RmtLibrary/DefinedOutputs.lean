import RmtLibrary.ServerCalls

/-! # What the server shows of memory that nothing has assigned

The shadow of the server keeps of each device only what was assigned since its node was
allocated. The outputs of a run are the same over any contents of the unassigned memory exactly
if each call that shows something shows what the shadow knows. -/
namespace DefinedOutputs

open CString (Text)
open DdsTransport (Sample)
open DeviceRegistry
open DevinfoServer
open FailingDrains (drainFails)
open FileTransfer
open GhostDevices (Announcement)
open GuardedExecution
open HeapChain (updateFirst)
open Idl (DataInfoReply DataInfoRequest)
open RmtServer (ServerStatus InitOutcome)
open ServerCalls
open TransferEffects
open TransferHistory (tableMark markRunning_table)
open TwoRuns

/-- A transfer status with its result. A field of the result is `none` until it is assigned. -/
structure Assigned where
  status : TransferStatus
  result : ℤ
  pFile : Option (Option (List UInt8))
  fileLen : Option ℕ
  deriving DecidableEq, Repr

/-- `transfer` is `none` until a status is set. -/
structure Device where
  info : DeviceInfo
  internalId : ℕ
  transfer : Option Assigned
  deriving DecidableEq, Repr

structure Shadow where
  status : ServerStatus
  transport : Transport
  announcements : List (Sample Announcement)
  stat : FileTransferStat
  reader : List (Sample DataInfoReply)
  devices : List Device

def shadowInitial : Shadow := ⟨.stop, .null, [], datainfoServerInit.gFileTransferStat, [], []⟩

def named (id : ℕ) (d : Device) : Bool := d.info.deviceID == id

/-- The devices that the counter lets a search reach. -/
def window (ds : List Device) : List Device := ds.take (ds.length % 2 ^ 32)

def add (info : DeviceInfo) (arg : ℕ) (ds : List Device) : List Device :=
  if ds.any (named info.deviceID) then
    updateFirst (named info.deviceID) (fun d => { d with info, internalId := arg }) ds
  else ⟨info, arg, none⟩ :: ds

def assign (id : ℕ) (transfer : Option Assigned) (ds : List Device) : List Device :=
  if (window ds).any (named id) then updateFirst (named id) (fun d => { d with transfer }) ds
  else ds

def ofResult (status : TransferStatus) (res : TransferResult) : Assigned :=
  ⟨status, res.result, some res.pFile, some res.fileLen⟩

def replyAssigned (mallocOk : ℕ → Bool) (msg : DataInfoReply) : Assigned :=
  match msg.type with
  | .importFile => ⟨.done, (CString.atoi msg.msg).toInt, some none, some 0⟩
  | .exportFile =>
    if mallocOk msg.binary.length then
      ⟨.done, (CString.atoi msg.msg).toInt, some (some msg.binary), some msg.binary.length⟩
    else ⟨.serverError, (CString.atoi msg.msg).toInt, some none, none⟩
  | _ => ⟨.done, (CString.atoi msg.msg).toInt, none, none⟩

def shadowReply (mallocOk : ℕ → ℕ → Bool) (msg : DataInfoReply) :
    (FileTransferStat × List Device) × ℕ →
      Option (((FileTransferStat × List Device) × ℕ) × ℤ)
  | ((stat, ds), n) =>
    if msg.type ≠ stat.type ∨ msg.randomSeq ≠ stat.randomSeq then some (((stat, ds), n + 1), -1)
    else some ((({ stat with recvNum := stat.recvNum + 1 },
      assign msg.deviceID (some (replyAssigned (mallocOk n) msg)) ds), n + 1), 0)

def expire (ds : List Device) (id : ℕ) : List Device :=
  match ((window ds).find? (named id)).bind Device.transfer with
  | some a =>
    if a.status = .running then assign id (some (ofResult .agentError emptyResult)) ds else ds
  | none => ds

def shadowDeadline (replyTimeout now : ℤ) (stat : FileTransferStat) (ds : List Device) :
    Option (FileTransferStat × List Device) :=
  if now - stat.startTime > replyTimeout then
    (readIdList stat).map fun idList => ({ stat with status := 0 }, idList.foldl expire ds)
  else some (stat, ds)

def shadowPoll (replyTimeout now : ℤ) (mallocOk : ℕ → ℕ → Bool) (fails : ℕ → Option ℕ)
    (s : Shadow) : Option Shadow :=
  if s.stat.status = 1 then do
    let (reader, (stat, ds), _) ← drainReplies (shadowReply mallocOk) s.stat.randomSeq fails
      (s.stat.idNum - s.stat.recvNum) s.reader ((s.stat, s.devices), 0)
    let (stat, ds) ← shadowDeadline replyTimeout now (checkCount stat) ds
    some { s with stat := freeResource stat, reader, devices := ds }
  else some s

def shadowAdd (a : Announcement) (ds : List Device) : Option (List Device × ℤ) :=
  some (add (copyInfo a.msg) a.handle ds, 0)

def shadowUpdate (fails : Option ℕ) (s : Shadow) : Option Shadow :=
  if s.transport ≠ .opened then none
  else do
    let (announcements, devices, _) ← FailingDrains.tryRecv shadowAdd s.announcements fails
      s.devices
    some { s with announcements, devices }

/-- A file call, with the request it writes unless its message is too long. -/
def shadowStart (req : Option DataInfoRequest) (now : ℤ) (s : Shadow) : Option Shadow :=
  if s.status ≠ .running ∨ s.stat.status ≠ 0 then some s
  else do
    let req ← req
    if s.transport ≠ .opened then none
    else some { s with
      stat := ⟨1, now, req.type, req.randomSeq, some req.idList, req.idList.length, 0⟩
      devices := req.idList.foldl
        (fun ds id => assign id (some (ofResult .running emptyResult)) ds) s.devices }

def shadowReset (transport : Transport) (s : Shadow) : Shadow :=
  { s with transport, announcements := [], stat := resetStat s.stat, reader := [], devices := [] }

def shadowClose (s : Shadow) : Option Shadow :=
  if s.transport ≠ .opened then none else some { s with transport := .freed, devices := [] }

def shadowCloseOld (s : Shadow) : Option Shadow :=
  if s.transport = .null then some s else shadowClose s

def shadowReinit (found configOk : Bool) (outcome : InitOutcome) (s : Shadow) : Option Shadow :=
  if s.status = .running ∨ s.stat.status ≠ 0 ∨ ¬ found then some s
  else do
    let s ← shadowCloseOld s
    if ¬ configOk ∨ ddsTransportServerInit outcome = .null then
      some { s with transport := .null }
    else some { shadowReset (ddsTransportServerInit outcome) s with status := .running }

def shadowInit (outcome : InitOutcome) (s : Shadow) : Shadow :=
  let s := shadowReset (ddsTransportServerInit outcome) s
  if s.transport = .null then s else { s with status := .running }

def next (replyTimeout : ℤ) (s : Shadow) : Op → Option Shadow
  | .announced sample => some { s with announcements := s.announcements ++ [sample] }
  | .announcementLeaves i => some { s with announcements := s.announcements.eraseIdx i }
  | .replied sample => some { s with reader := s.reader ++ [sample] }
  | .replyLeaves i => some { s with reader := s.reader.eraseIdx i }
  | .lost internalId => some { s with devices := s.devices.eraseP (·.internalId == internalId) }
  | .update _ fails => if s.transport = .null then some s else shadowUpdate fails s
  | .poll now mallocOk fails =>
    match s.transport with
    | .null => some s
    | .freed => none
    | .opened => shadowPoll replyTimeout now mallocOk fails s
  | .sendFile idList callbackname filename pFile randomSeq now =>
    shadowStart ((transferMessage callbackname filename).map fun message =>
      ⟨idList, .importFile, randomSeq, message, pFile⟩) now s
  | .recvFile id callbackname filename randomSeq now =>
    shadowStart ((transferMessage callbackname filename).map fun message =>
      ⟨[id], .exportFile, randomSeq, message, []⟩) now s
  | .createDeviceList _ fails _ => if s.status ≠ .running then some s else shadowUpdate fails s
  | .getResult _ => some s
  | .stop => some { s with status := .stop }
  | .reinit found configOk outcome => shadowReinit found configOk outcome s
  | .init outcome => some (shadowInit outcome s)
  | .deinit => shadowClose s

def Assigned.complete (a : Assigned) : Option (TransferStatus × TransferResult) := do
  let pFile ← a.pFile
  let fileLen ← a.fileLen
  some (a.status, ⟨a.result, pFile, fileLen⟩)

def Device.Complete (d : Device) : Prop :=
  ∃ a ∈ d.transfer, a.pFile.isSome ∧ a.fileLen.isSome

/-- A list is shown behind a drain that does not fail, and a result by a running server and for
a device all of whose result is assigned, if the device is known. -/
def Defined (s : Shadow) : Op → Prop
  | .createDeviceList _ fails _ =>
    s.status = .running → s.transport = .opened → drainFails fails s.announcements = false
  | .getResult deviceId =>
    s.status = .running ∧ ∀ d ∈ (window s.devices).find? (named deviceId), d.Complete
  | _ => True

def answer (s : Shadow) : Op → Option Output
  | .createDeviceList _ fails mallocOk =>
    if s.status ≠ .running then some (.deviceList .null 0)
    else (shadowUpdate fails s).map fun s =>
      .deviceList (if mallocOk then .list ((window s.devices).map Device.info) else .null)
        (BitVec.ofNat 32 s.devices.length).toInt
  | .getResult deviceId =>
    match (window s.devices).find? (named deviceId) with
    | none => some (.result .agentError emptyResult)
    | some d => (d.transfer.bind Assigned.complete).map fun r => .result r.1 r.2
  | _ => none

/-- Every frame and block holds the same, if it is known what, and no node reads as running
there. -/
def Fits (known : Option Memory) (memory : ℕ → Memory) : Prop :=
  ∀ c ∈ known, c.status ≠ .running ∧ ∀ n, memory n = c

/-- What is assigned reads as it was assigned, all else as the memory that is known. -/
def Reads (known : Option Memory) (transfer : Option Assigned) (status : TransferStatus)
    (res : TransferResult) : Prop :=
  match transfer with
  | none => ∀ c ∈ known, status = c.status ∧ res = c.result
  | some a => status = a.status ∧ res.result = a.result ∧
    (∀ p ∈ a.pFile.or (known.map fun c => c.result.pFile), res.pFile = p) ∧
    ∀ n ∈ a.fileLen.or (known.map fun c => c.result.fileLen), res.fileLen = n

structure HoldsDevice (known : Option Memory) (dev : DevList) (d : Device) : Prop where
  info : dev.info = d.info
  internalId : dev.internalId = d.internalId
  transfer : Reads known d.transfer dev.agentTransferStatus dev.transferResult

def HoldsDevices (known : Option Memory) (registry : Registry) (ds : List Device) : Prop :=
  ∃ t, HoldsTable registry t ∧ List.Forall₂ (HoldsDevice known) t ds

structure Knows (known : Option Memory) (s : Server) (sh : Shadow) : Prop where
  status : s.status = sh.status
  transport : s.transport = sh.transport
  announcements : s.announcements = sh.announcements
  stat : s.files.gFileTransferStat = sh.stat
  reader : s.files.reader = sh.reader
  devices : HoldsDevices known s.files.registry sh.devices

theorem knows_initial (known : Option Memory) : Knows known ServerCalls.initial shadowInitial :=
  ⟨rfl, rfl, rfl, rfl, rfl, [], holdsTable_init, .nil⟩

variable {known : Option Memory} {registry : Registry} {ds : List Device}

theorem HoldsDevice.hasId_eq {dev : DevList} {d : Device} (h : HoldsDevice known dev d)
    (id : ℕ) : hasId id dev = named id d := by
  rw [hasId, named, h.info]

theorem reads_ofResult (status : TransferStatus) (res : TransferResult) :
    Reads known (some (ofResult status res)) status res := by
  simp [Reads, ofResult]

theorem forall₂_window {t : List DevList} (ht : HoldsTable registry t)
    (h : List.Forall₂ (HoldsDevice known) t ds) :
    List.Forall₂ (HoldsDevice known) (t.take registry.gDevNum.toNat) (window ds) := by
  rw [window, ht.counted, BitVec.toNat_ofNat, h.length_eq]
  exact List.forall₂_take _ h

theorem HoldsDevices.setStatus (h : HoldsDevices known registry ds) (id : ℕ)
    {status : TransferStatus} {res : TransferResult} {transfer : Option Assigned}
    (ha : Reads known transfer status res) : ∃ registry' ret,
      devinfoServerSetStatusById id status res registry = some (registry', ret) ∧
      HoldsDevices known registry' (assign id transfer ds) := by
  obtain ⟨t, ht, hds⟩ := h
  obtain ⟨registry', hset, ht', -⟩ := setStatusById_table ht id status res
  refine ⟨registry', _, hset, _, ht', ?_⟩
  rw [tableSetStatus, assign,
    forall₂_any (fun _ _ hd => hd.hasId_eq id) (forall₂_window ht hds)]
  split
  · exact HeapChain.forall₂_updateFirst (fun _ _ hd => hd.hasId_eq id)
      (fun _ _ hd => ⟨hd.info, hd.internalId, ha⟩) hds
  · exact hds

theorem HoldsDevices.getStatus (h : HoldsDevices known registry ds) (id : ℕ) :
    ((window ds).find? (named id) = none ∧
      devinfoServerGetStatusById id registry = some (.agentError, emptyResult)) ∨
    ∃ d status res, (window ds).find? (named id) = some d ∧
      devinfoServerGetStatusById id registry = some (status, res) ∧
      Reads known d.transfer status res := by
  obtain ⟨t, ht, hds⟩ := h
  rw [getStatusById_table ht id, tableGetStatus]
  have hfind := forall₂_find? (fun _ _ hd => hd.hasId_eq id) (forall₂_window ht hds)
  rcases rel_cases hfind with ⟨hdev, hd⟩ | ⟨dev, d, hdev, hd, hholds⟩
  · rw [hdev]
    exact Or.inl ⟨hd, rfl⟩
  · rw [hdev]
    exact Or.inr ⟨d, _, _, hd, rfl, hholds.transfer⟩

theorem HoldsDevices.add {memory : ℕ → Memory} (hfits : Fits known memory)
    (h : HoldsDevices known registry ds) (malloc : HeapChain.Malloc) (n : ℕ)
    (msg : Idl.DeviceInfoMsg) (arg : ℕ) : ∃ registry',
      addDevice ⟨malloc, (memory n).status, (memory n).result⟩ msg arg registry =
        some registry' ∧
      HoldsDevices known registry' (DefinedOutputs.add (copyInfo msg) arg ds) := by
  obtain ⟨t, ht, hds⟩ := h
  obtain ⟨registry', hadd, ht'⟩ := addDevice_table ht
    ⟨malloc, (memory n).status, (memory n).result⟩ msg arg
  refine ⟨registry', hadd, _, ht', ?_⟩
  rw [tableAdd, DefinedOutputs.add,
    forall₂_any (fun _ _ hd => hd.hasId_eq (copyInfo msg).deviceID) hds]
  split
  · exact HeapChain.forall₂_updateFirst (fun _ _ hd => hd.hasId_eq _)
      (fun _ _ hd => ⟨rfl, rfl, hd.transfer⟩) hds
  · refine .cons ⟨rfl, rfl, ?_⟩ hds
    intro c hc
    simp [(hfits c hc).2 n]

theorem HoldsDevices.delete (h : HoldsDevices known registry ds) (internalId : ℕ) :
    ∃ registry', delDevice internalId registry = some registry' ∧
      HoldsDevices known registry' (ds.eraseP (·.internalId == internalId)) := by
  obtain ⟨t, ht, hds⟩ := h
  obtain ⟨registry', hdel, ht'⟩ := delDevice_table ht internalId
  refine ⟨registry', hdel, _, ht', forall₂_eraseP ?_ hds⟩
  intro dev d hd
  rw [hasInternalId, hd.internalId]

theorem HoldsDevices.deinit (h : HoldsDevices known registry ds) : ∃ registry',
    devinfoServerDeinit registry = some registry' ∧ HoldsDevices known registry' [] := by
  obtain ⟨t, ht, -⟩ := h
  exact ⟨_, deinit_table ht, [], holdsTable_init, .nil⟩

theorem HoldsDevices.count (h : HoldsDevices known registry ds) :
    registry.gDevNum = BitVec.ofNat 32 ds.length := by
  obtain ⟨t, ht, hds⟩ := h
  rw [ht.counted, hds.length_eq]

theorem HoldsDevices.createList (h : HoldsDevices known registry ds) :
    devinfoServerCreateList registry = some ((window ds).map Device.info) := by
  obtain ⟨t, ht, hds⟩ := h
  have hwindow := forall₂_window ht hds
  have hinfo : (t.take registry.gDevNum.toNat).map DevList.info =
      (window ds).map Device.info := by
    rw [← List.forall₂_eq_eq_eq, List.forall₂_map_left_iff, List.forall₂_map_right_iff]
    exact hwindow.imp fun _ _ hd => hd.info
  rw [devinfoServerCreateList, ht.owned.copyCounted_take ht.count_le, ← hinfo]
  rfl

variable {s : Server} {sh : Shadow} {memory : ℕ → Memory}

theorem Knows.stopped (h : Knows known s sh) (hstop : sh.status ≠ .running) :
    s.status ≠ .running := by
  rw [h.status]
  exact hstop

theorem Fits.tail (h : Fits known memory) : Fits known fun n => memory (n + 1) :=
  fun c hc => ⟨(h c hc).1, fun n => (h c hc).2 (n + 1)⟩

theorem knows_update (hfits : Fits known memory) (h : Knows known s sh)
    (malloc : HeapChain.Malloc) (fails : Option ℕ) :
    Option.Rel (fun r sh' => Knows known r.1 sh' ∧
        r.2 = if drainFails fails sh.announcements then -1 else 0)
      (devinfoServerUpdate malloc fails memory s) (shadowUpdate fails sh) := by
  have hcallback : ∀ a (acc : Registry × ℕ) ds, HoldsDevices known acc.1 ds →
      Option.Rel (fun r r' => HoldsDevices known r.1.1 r'.1) (addAnnounced malloc memory a acc)
        (shadowAdd a ds) := by
    rintro a ⟨registry, n⟩ ds hds
    obtain ⟨registry', hadd, hds'⟩ := hds.add hfits malloc n a.msg a.handle
    simp only [addAnnounced, hadd, Option.map_some, shadowAdd]
    exact .some hds'
  rw [devinfoServerUpdate, shadowUpdate, h.transport, h.announcements]
  by_cases hopen : sh.transport ≠ .opened
  · rw [if_pos hopen, if_pos hopen]
    exact .none
  · rw [if_neg hopen, if_neg hopen]
    have hdrain := FailingDrains.tryRecv_rel hcallback sh.announcements fails
      (b := (s.files.registry, 0)) h.devices
    rcases rel_cases hdrain with ⟨hs, hsh⟩ | ⟨⟨left, ⟨registry, n⟩, ret⟩, ⟨left', ds, ret'⟩,
      hs, hsh, hleft, hds, -⟩
    · rw [hs, hsh]
      exact .none
    · obtain rfl : left = left' := hleft
      have hret := FailingDrains.tryRecv_ret hs
      rw [hs, hsh]
      exact .some ⟨⟨h.status, rfl, rfl, h.stat, h.reader, hds⟩, hret⟩

theorem reads_reply (hfits : Fits known memory) (now : ℤ) (mallocOk : ℕ → Bool) (n : ℕ)
    (msg : DataInfoReply) : Reads known (some (replyAssigned mallocOk msg))
      (replyStatus ⟨now, mallocOk, (memory n).result⟩ msg).1
      (replyStatus ⟨now, mallocOk, (memory n).result⟩ msg).2 := by
  have hstack : ∀ c ∈ known, (memory n).result = c.result := by
    intro c hc
    rw [(hfits c hc).2 n]
  rw [replyAssigned, replyStatus]
  cases msg.type with
  | importFile => simp [Reads]
  | exportFile =>
    simp only
    split
    · simp [Reads]
    · simpa [Reads] using fun c hc => congrArg TransferResult.fileLen (hstack c hc)
  | _ =>
    simp only [Reads, Option.none_or, Option.mem_map, forall_exists_index, and_imp,
      forall_apply_eq_imp_iff₂]
    exact ⟨trivial, trivial, fun c hc => congrArg TransferResult.pFile (hstack c hc),
      fun c hc => congrArg TransferResult.fileLen (hstack c hc)⟩

structure HoldsDrain (known : Option Memory) (acc : (FileTransferStat × Registry) × ℕ)
    (acc' : (FileTransferStat × List Device) × ℕ) : Prop where
  stat : acc.1.1 = acc'.1.1
  devices : HoldsDevices known acc.1.2 acc'.1.2
  count : acc.2 = acc'.2

theorem rel_reply (hfits : Fits known memory) (now : ℤ) (mallocOk : ℕ → ℕ → Bool)
    (msg : DataInfoReply) {acc : (FileTransferStat × Registry) × ℕ}
    {acc' : (FileTransferStat × List Device) × ℕ} (h : HoldsDrain known acc acc') :
    Option.Rel (fun r r' => HoldsDrain known r.1 r'.1) (recvReply now mallocOk memory msg acc)
      (shadowReply mallocOk msg acc') := by
  obtain ⟨⟨stat, registry⟩, n⟩ := acc
  obtain ⟨⟨stat', ds⟩, n'⟩ := acc'
  obtain ⟨rfl, hds, rfl⟩ := h
  simp only [recvReply, recvFileTransferReply, shadowReply]
  split
  · exact .some ⟨rfl, hds, rfl⟩
  · obtain ⟨registry', ret, hset, hds'⟩ := hds.setStatus msg.deviceID
      (reads_reply hfits now (mallocOk n) n msg)
    simp only [hset, Option.bind_eq_bind, Option.bind_some, Option.map_some]
    exact .some ⟨rfl, hds', rfl⟩

theorem assign_self {id : ℕ} {d : Device} (hd : (window ds).find? (named id) = some d) :
    assign id d.transfer ds = ds := by
  have hfirst : ∀ l : List Device, l.find? (named id) = some d →
      updateFirst (named id) (fun v => { v with transfer := d.transfer }) l = l := by
    intro l hl
    induction l with
    | nil => rfl
    | cons v l ih =>
      rw [HeapChain.updateFirst_cons]
      split
      · next hv =>
        rw [List.find?_cons_of_pos hv] at hl
        cases hl
        rfl
      · next hv =>
        rw [List.find?_cons_of_neg hv] at hl
        rw [ih hl]
  have hall : ds.find? (named id) = some d := (List.take_prefix _ ds).find?_eq_some hd
  rw [assign, hfirst ds hall, ite_self]

/-- A status that nothing assigned may read as running in a run of which nothing is known. -/
theorem HoldsDevices.expire (hfits : Fits known memory) (h : HoldsDevices known registry ds)
    (id : ℕ) : ∃ registry', expireDevice registry id = some registry' ∧
      HoldsDevices known registry' (DefinedOutputs.expire ds id) := by
  rcases h.getStatus id with ⟨hd, hget⟩ | ⟨d, status, res, hd, hget, hreads⟩
  · refine ⟨registry, by simp [expireDevice, hget], ?_⟩
    simpa [DefinedOutputs.expire, hd] using h
  · have hexpire : ∀ transfer, Reads known transfer .agentError emptyResult →
        status = .running → ∃ registry', expireDevice registry id = some registry' ∧
          HoldsDevices known registry' (assign id transfer ds) := by
      intro transfer ha hrun
      obtain ⟨registry', ret, hset, hds⟩ := h.setStatus id ha
      exact ⟨registry', by simp [expireDevice, hget, hrun, hset], hds⟩
    have hkeep : status ≠ .running → expireDevice registry id = some registry := by
      intro hstop
      simp [expireDevice, hget, hstop]
    simp only [DefinedOutputs.expire, hd, Option.bind_some]
    cases htransfer : d.transfer with
    | some a =>
      rw [htransfer] at hreads
      obtain rfl : status = a.status := hreads.1
      simp only
      split
      · next hrun => exact hexpire _ (reads_ofResult _ _) hrun
      · next hstop => exact ⟨registry, hkeep hstop, h⟩
    | none =>
      rw [htransfer] at hreads
      by_cases hrun : status = .running
      · have hnone : Reads known none .agentError emptyResult := by
          intro c hc
          exact absurd ((hreads c hc).1.symm.trans hrun) (hfits c hc).1
        have hself := assign_self hd
        rw [htransfer] at hself
        simpa only [hself] using hexpire none hnone hrun
      · exact ⟨registry, hkeep hrun, h⟩

theorem HoldsDevices.expireAll (hfits : Fits known memory) (idList : List ℕ)
    (h : HoldsDevices known registry ds) :
    ∃ registry', idList.foldlM expireDevice registry = some registry' ∧
      HoldsDevices known registry' (idList.foldl DefinedOutputs.expire ds) := by
  induction idList generalizing registry ds with
  | nil => exact ⟨registry, rfl, h⟩
  | cons id idList ih =>
    obtain ⟨registry₁, hfirst, hds⟩ := h.expire hfits id
    obtain ⟨registry₂, hrest, hds'⟩ := ih hds
    refine ⟨registry₂, ?_, hds'⟩
    rw [List.foldlM_cons, hfirst]
    exact hrest

theorem rel_deadline (hfits : Fits known memory) (replyTimeout now : ℤ)
    (stat : FileTransferStat) (h : HoldsDevices known registry ds) :
    Option.Rel (fun r r' => r.1 = r'.1 ∧ HoldsDevices known r.2 r'.2)
      (checkDeadline replyTimeout now stat registry)
      (shadowDeadline replyTimeout now stat ds) := by
  rw [checkDeadline, shadowDeadline, expireRunning]
  split
  · cases readIdList stat with
    | none => exact .none
    | some idList =>
      obtain ⟨registry', hexpire, hds⟩ := h.expireAll hfits idList
      simp only [Option.bind_eq_bind, Option.bind_some, hexpire, Option.map_some]
      exact .some ⟨rfl, hds⟩
  · exact .some ⟨rfl, h⟩

theorem knows_poll (hfits : Fits known memory) (h : Knows known s sh) (replyTimeout now : ℤ)
    (mallocOk : ℕ → ℕ → Bool) (fails : ℕ → Option ℕ) :
    Option.Rel (fun files sh' => Knows known { s with files } sh')
      (poll replyTimeout now mallocOk fails memory s.files)
      (shadowPoll replyTimeout now mallocOk fails sh) := by
  rw [poll, shadowPoll, h.stat, h.reader]
  split
  · have hdrain := rel_drainReplies (R := HoldsDrain known)
      (fun msg _ _ hacc => rel_reply hfits now mallocOk msg hacc) sh.stat.randomSeq fails
      (sh.stat.idNum - sh.stat.recvNum) sh.reader (b := ((sh.stat, s.files.registry), 0))
      (c := ((sh.stat, sh.devices), 0)) ⟨rfl, h.devices, rfl⟩
    refine rel_bind hdrain ?_
    rintro ⟨reader, ⟨stat, registry⟩, n⟩ ⟨reader', ⟨stat', ds⟩, n'⟩ ⟨hreader, hstat, hds, -⟩
    obtain rfl : reader = reader' := hreader
    obtain rfl : stat = stat' := hstat
    refine rel_bind (rel_deadline hfits replyTimeout now (checkCount stat) hds) ?_
    rintro ⟨stat, registry⟩ ⟨stat', ds⟩ ⟨hstat, hds⟩
    obtain rfl : stat = stat' := hstat
    exact .some ⟨h.status, h.transport, h.announcements, rfl, rfl, hds⟩
  · exact .some h

theorem HoldsDevices.markRunning (idList : List ℕ) (h : HoldsDevices known registry ds) :
    ∃ registry', FileTransfer.markRunning idList registry = some registry' ∧
      HoldsDevices known registry'
        (idList.foldl (fun ds id => assign id (some (ofResult .running emptyResult)) ds) ds) := by
  induction idList generalizing registry ds with
  | nil => exact ⟨registry, rfl, h⟩
  | cons id idList ih =>
    obtain ⟨registry₁, ret, hset, hds⟩ := h.setStatus id (reads_ofResult .running emptyResult)
    obtain ⟨registry₂, hrest, hds'⟩ := ih hds
    refine ⟨registry₂, ?_, hds'⟩
    rw [FileTransfer.markRunning, List.foldlM_cons, hset]
    exact hrest

theorem knows_start (h : Knows known s sh) (request : Text → DataInfoRequest)
    (callbackname filename : Text) (now : ℤ) :
    Option.Rel (Knows known)
      (start (fun s => if s.gFileTransferStat.status ≠ 0 then some (s, -1, none) else do
        let message ← transferMessage callbackname filename
        let s ← triggerTransfer (request message) now s
        some (s, 0, some (request message))) s)
      (shadowStart ((transferMessage callbackname filename).map request) now sh) := by
  by_cases hrun : sh.status = .running
  · have hrun' : ¬ s.status ≠ .running := not_not.mpr (h.status.trans hrun)
    rw [start, shadowStart, if_neg hrun', h.stat]
    by_cases hbusy : sh.stat.status ≠ 0
    · rw [if_pos hbusy, if_pos (Or.inr hbusy)]
      exact .some h
    · rw [if_neg hbusy, if_neg (not_or.mpr ⟨not_not.mpr hrun, hbusy⟩)]
      cases transferMessage callbackname filename with
      | none => exact .none
      | some message =>
        obtain ⟨registry, hmark, hds⟩ := h.devices.markRunning (request message).idList
        simp only [triggerTransfer, hmark, Option.bind_eq_bind, Option.bind_some,
          Option.map_some, Option.isSome_some, true_and, h.transport]
        split
        · exact .none
        · exact .some ⟨h.status, rfl, h.announcements, rfl, h.reader, hds⟩
  · rw [start, shadowStart, if_pos (h.stopped hrun), if_pos (Or.inl hrun)]
    exact .some h

theorem knows_close (h : Knows known s sh) :
    Option.Rel (Knows known) (close s) (shadowClose sh) := by
  obtain ⟨registry, hdeinit, hds⟩ := h.devices.deinit
  rw [close, shadowClose, h.transport, hdeinit]
  split
  · exact .none
  · exact .some ⟨h.status, rfl, h.announcements, h.stat, h.reader, hds⟩

theorem knows_reset (h : Knows known s sh) (transport : Transport) :
    Knows known (reset transport s) (shadowReset transport sh) :=
  ⟨h.status, rfl, rfl, congrArg resetStat h.stat, rfl, [], holdsTable_init, .nil⟩

theorem Knows.setStatus (h : Knows known s sh) (status : ServerStatus) :
    Knows known { s with status } { sh with status } :=
  ⟨rfl, h.transport, h.announcements, h.stat, h.reader, h.devices⟩

theorem knows_reinit (h : Knows known s sh) (found configOk : Bool) (outcome : InitOutcome) :
    Option.Rel (Knows known) (reinit found configOk outcome s)
      (shadowReinit found configOk outcome sh) := by
  rw [reinit, shadowReinit, h.status, h.stat]
  split
  · exact .some h
  · have hclose : Option.Rel (Knows known) (closeOld s) (shadowCloseOld sh) := by
      rw [closeOld, shadowCloseOld, h.transport]
      split
      · exact .some h
      · exact knows_close h
    refine rel_bind hclose ?_
    intro s sh h
    split
    · exact .some ⟨h.status, rfl, h.announcements, h.stat, h.reader, h.devices⟩
    · exact .some ((knows_reset h _).setStatus .running)

theorem knows_init (h : Knows known s sh) (outcome : InitOutcome) :
    Knows known (rmtServerInit outcome s) (shadowInit outcome sh) := by
  have hreset := knows_reset h (ddsTransportServerInit outcome)
  rw [rmtServerInit, shadowInit]
  simp only [hreset.transport]
  split
  · exact hreset
  · exact hreset.setStatus .running

theorem knows_createDeviceList (hfits : Fits known memory) (h : Knows known s sh)
    (replyTimeout : ℤ) (malloc : HeapChain.Malloc) (fails : Option ℕ) (mallocOk : Bool) :
    let op := Op.createDeviceList malloc fails mallocOk
    Option.Rel (fun r sh' => Knows known r.1 sh' ∧ (Defined sh op → some r.2 = answer sh op))
      (rmtServerCreateDeviceList malloc fails mallocOk memory s) (next replyTimeout sh op) := by
  intro op
  by_cases hrun : sh.status = .running
  · have hrun' : ¬ s.status ≠ .running := not_not.mpr (h.status.trans hrun)
    have hshadow : next replyTimeout sh op = shadowUpdate fails sh := if_neg (not_not.mpr hrun)
    rw [rmtServerCreateDeviceList, if_neg hrun', hshadow]
    rcases rel_cases (knows_update hfits.tail h malloc fails) with
      ⟨hs, hsh⟩ | ⟨⟨s', ret⟩, sh', hs, hsh, h', hret⟩
    · rw [hs, hsh]
      exact .none
    · have hopen : sh.transport = .opened := by
        by_contra hclosed
        rw [shadowUpdate, if_pos hclosed] at hsh
        cases hsh
      have hanswer : answer sh op = some (.deviceList
          (if mallocOk then .list ((window sh'.devices).map Device.info) else .null)
          (BitVec.ofNat 32 sh'.devices.length).toInt) := by
        simp only [op, answer, hrun, ne_eq, not_true, if_false, hsh, Option.map_some]
      simp only [hs, hsh, Option.bind_eq_bind, Option.bind_some]
      split
      · refine .some ⟨h', ?_⟩
        intro hdef
        rw [hdef hrun hopen] at hret
        contradiction
      · rw [hanswer, ← h'.devices.count]
        split
        · rw [h'.devices.createList]
          exact .some ⟨h', fun _ => rfl⟩
        · exact .some ⟨h', fun _ => rfl⟩
  · have hshadow : next replyTimeout sh op = some sh := if_pos hrun
    rw [rmtServerCreateDeviceList, if_pos (h.stopped hrun), hshadow]
    refine .some ⟨h, fun _ => ?_⟩
    simp only [op, answer, if_pos hrun]

theorem reads_complete {d : Device} {status : TransferStatus} {res : TransferResult}
    (h : Reads known d.transfer status res) (hd : d.Complete) :
    d.transfer.bind Assigned.complete = some (status, res) := by
  obtain ⟨a, ha, hfile, hlen⟩ := hd
  rw [Option.mem_def] at ha
  obtain ⟨pFile, hfile⟩ := Option.isSome_iff_exists.mp hfile
  obtain ⟨fileLen, hlen⟩ := Option.isSome_iff_exists.mp hlen
  rw [ha] at h
  obtain ⟨hstatus, hresult, hp, hn⟩ := h
  rw [hfile] at hp
  rw [hlen] at hn
  obtain ⟨result, pFile', fileLen'⟩ := res
  obtain rfl : pFile' = pFile := hp pFile rfl
  obtain rfl : fileLen' = fileLen := hn fileLen rfl
  simp only at hresult
  simp [ha, Assigned.complete, hfile, hlen, hstatus, hresult]

theorem knows_getResult (memory : ℕ → Memory) (h : Knows known s sh) (deviceId : ℕ) :
    ∃ out, getResult deviceId memory s = some (s, out) ∧
      (Defined sh (.getResult deviceId) → some out = answer sh (.getResult deviceId)) := by
  by_cases hrun : sh.status = .running
  · have hrun' := h.status.trans hrun
    rcases h.devices.getStatus deviceId with ⟨hd, hget⟩ | ⟨d, status, res, hd, hget, hreads⟩
    · refine ⟨_, getResult_running hrun' hget memory, fun _ => ?_⟩
      simp only [answer, hd]
    · refine ⟨_, getResult_running hrun' hget memory, ?_⟩
      rintro ⟨-, hcomplete⟩
      simp only [answer, hd, reads_complete hreads (hcomplete d hd), Option.map_some]
  · exact ⟨_, getResult_stopped (h.stopped hrun) deviceId memory,
      fun hdef => absurd hdef.1 hrun⟩

theorem follows (replyTimeout : ℤ) :
    Follows (step replyTimeout) (next replyTimeout) answer Defined Fits Knows := by
  intro known memory s sh op hfits h
  have hquiet : ∀ {x : Option Server} {y : Option Shadow}, Option.Rel (Knows known) x y →
      Option.Rel (fun r sh' => Knows known r.1 sh' ∧ (True → r.2 = none))
        (x.map (·, (none : Option Output))) y := by
    intro x y hxy
    cases hxy with
    | none => exact .none
    | some hk => exact .some ⟨hk, fun _ => rfl⟩
  cases op with
  | announced sample =>
    refine .some ⟨⟨h.status, h.transport, ?_, h.stat, h.reader, h.devices⟩, fun _ => rfl⟩
    simp only [h.announcements]
  | announcementLeaves i =>
    refine .some ⟨⟨h.status, h.transport, ?_, h.stat, h.reader, h.devices⟩, fun _ => rfl⟩
    simp only [h.announcements]
  | replied sample =>
    refine .some ⟨⟨h.status, h.transport, h.announcements, h.stat, ?_, h.devices⟩, fun _ => rfl⟩
    simp only [h.reader]
  | replyLeaves i =>
    refine .some ⟨⟨h.status, h.transport, h.announcements, h.stat, ?_, h.devices⟩, fun _ => rfl⟩
    simp only [h.reader]
  | lost internalId =>
    obtain ⟨registry, hdel, hds⟩ := h.devices.delete internalId
    simp only [step, hdel, Option.map_some]
    exact .some ⟨⟨h.status, h.transport, h.announcements, h.stat, h.reader, hds⟩, fun _ => rfl⟩
  | update malloc fails =>
    simp only [step, next, h.transport]
    split
    · exact .some ⟨h, fun _ => rfl⟩
    · have hupdate := knows_update hfits h malloc fails
      exact rel_map_left hupdate fun _ _ hk => ⟨hk.1, fun _ => rfl⟩
  | poll now mallocOk fails =>
    cases htransport : sh.transport with
    | null =>
      have hs := h.transport.trans htransport
      simp only [step, next, hs, htransport]
      exact .some ⟨h, fun _ => rfl⟩
    | freed =>
      have hs := h.transport.trans htransport
      simp only [step, next, hs, htransport]
      exact .none
    | opened =>
      have hs := h.transport.trans htransport
      have hstep : step replyTimeout memory s (.poll now mallocOk fails) =
          (poll replyTimeout now mallocOk fails memory s.files).map fun files =>
            ({ s with files }, none) := by
        simp only [step, hs]
      have hnext : next replyTimeout sh (.poll now mallocOk fails) =
          shadowPoll replyTimeout now mallocOk fails sh := by
        simp only [next, htransport]
      rw [hstep, hnext]
      exact rel_map_left (knows_poll hfits h replyTimeout now mallocOk fails)
        fun _ _ hk => ⟨hk, fun _ => rfl⟩
  | sendFile idList callbackname filename pFile randomSeq now =>
    exact hquiet (knows_start h (fun message => ⟨idList, .importFile, randomSeq, message, pFile⟩)
      callbackname filename now)
  | recvFile id callbackname filename randomSeq now =>
    exact hquiet (knows_start h (fun message => ⟨[id], .exportFile, randomSeq, message, []⟩)
      callbackname filename now)
  | createDeviceList malloc fails mallocOk =>
    exact rel_map_left (knows_createDeviceList hfits h replyTimeout malloc fails mallocOk)
      fun _ _ hk => hk
  | getResult deviceId =>
    obtain ⟨out, hget, hanswer⟩ := knows_getResult memory h deviceId
    simp only [step, hget, Option.map_some]
    exact .some ⟨h, hanswer⟩
  | stop => exact .some ⟨h.setStatus .stop, fun _ => rfl⟩
  | reinit found configOk outcome => exact hquiet (knows_reinit h found configOk outcome)
  | init outcome => exact .some ⟨knows_init h outcome, fun _ => rfl⟩
  | deinit => exact hquiet (knows_close h)

structure Apart (c c' : Memory) : Prop where
  status : c.status ≠ c'.status
  pFile : c.result.pFile ≠ c'.result.pFile
  fileLen : c.result.fileLen ≠ c'.result.fileLen
  pointer : c.pointer ≠ c'.pointer

theorem reads_apart {c c' : Memory} (hapart : Apart c c') {d : Device} (hd : ¬ d.Complete)
    {status status' : TransferStatus} {res res' : TransferResult}
    (h : Reads (some c) d.transfer status res) (h' : Reads (some c') d.transfer status' res') :
    Output.result status res ≠ .result status' res' := by
  intro heq
  obtain ⟨rfl, rfl⟩ := Output.result.inj heq
  cases htransfer : d.transfer with
  | none =>
    rw [htransfer] at h h'
    exact hapart.status ((h c rfl).1.symm.trans (h' c' rfl).1)
  | some a =>
    rw [htransfer] at h h'
    obtain ⟨-, -, hp, hn⟩ := h
    obtain ⟨-, -, hp', hn'⟩ := h'
    cases hfile : a.pFile with
    | none =>
      rw [hfile] at hp hp'
      exact hapart.pFile ((hp _ rfl).symm.trans (hp' _ rfl))
    | some pFile =>
      cases hlen : a.fileLen with
      | none =>
        rw [hlen] at hn hn'
        exact hapart.fileLen ((hn _ rfl).symm.trans (hn' _ rfl))
      | some fileLen => exact hd ⟨a, htransfer, by simp [hfile], by simp [hlen]⟩

theorem failing_drain_shows (hfits : Fits known memory) (h : Knows known s sh)
    (malloc : HeapChain.Malloc) {fails : Option ℕ} (mallocOk : Bool)
    (hrun : sh.status = .running) (hopen : sh.transport = .opened)
    (hfails : drainFails fails sh.announcements = true) :
    ∃ s', rmtServerCreateDeviceList malloc fails mallocOk memory s =
      some (s', .deviceList (.stray (memory 0).pointer) (memory 0).number) := by
  have hrun' : ¬ s.status ≠ .running := not_not.mpr (h.status.trans hrun)
  rcases rel_cases (knows_update hfits.tail h malloc fails) with
    ⟨-, hsh⟩ | ⟨⟨s', ret⟩, -, hs, -, -, hret⟩
  · have htotal : ∀ a ds, (shadowAdd a ds).isSome := fun _ _ => rfl
    obtain ⟨r, hdrain⟩ := Option.isSome_iff_exists.mp
      (FailingDrains.tryRecv_total htotal sh.announcements fails sh.devices)
    rw [shadowUpdate, if_neg (not_not.mpr hopen), hdrain] at hsh
    cases hsh
  · obtain rfl : ret = -1 := by simpa [hfails] using hret
    refine ⟨s', ?_⟩
    rw [rmtServerCreateDeviceList, if_neg hrun', hs]
    rfl

theorem undefined_shows {c c' : Memory} (hapart : Apart c c') (replyTimeout : ℤ)
    (m m' : ℕ → Memory) (s s' : Server) (sh : Shadow) (op : Op) (hfits : Fits (some c) m)
    (hfits' : Fits (some c') m') (h : Knows (some c) s sh) (h' : Knows (some c') s' sh)
    (hundef : ¬ Defined sh op) : ∃ r r' x x', step replyTimeout m s op = some (r, some x) ∧
      step replyTimeout m' s' op = some (r', some x') ∧ x ≠ x' := by
  have hm : m 0 = c := (hfits c rfl).2 0
  have hm' : m' 0 = c' := (hfits' c' rfl).2 0
  have hshow : ∀ {x : Option (Server × Output)} {r}, x = some r →
      (x.map fun r => (r.1, some r.2)) = some (r.1, some r.2) := by
    rintro _ r rfl
    rfl
  cases op with
  | createDeviceList malloc fails mallocOk =>
    simp only [Defined, Classical.not_imp, Bool.not_eq_false] at hundef
    obtain ⟨hrun, hopen, hfails⟩ := hundef
    obtain ⟨r, hs⟩ := failing_drain_shows hfits h malloc mallocOk hrun hopen hfails
    obtain ⟨r', hs'⟩ := failing_drain_shows hfits' h' malloc mallocOk hrun hopen hfails
    refine ⟨r, r', _, _, hshow hs, hshow hs', ?_⟩
    rw [hm, hm']
    intro heq
    exact hapart.pointer (DeviceList.stray.inj (Output.deviceList.inj heq).1)
  | getResult deviceId =>
    by_cases hrun : sh.status = .running
    · obtain ⟨d, hd, hincomplete⟩ : ∃ d, (window sh.devices).find? (named deviceId) = some d ∧
          ¬ d.Complete := by
        by_contra hall
        push Not at hall
        exact hundef ⟨hrun, hall⟩
      have hfound : ∀ {known : Option Memory} {s : Server}, Knows known s sh →
          ∃ status res, devinfoServerGetStatusById deviceId s.files.registry =
            some (status, res) ∧ Reads known d.transfer status res := by
        intro known s h
        rcases h.devices.getStatus deviceId with ⟨hnone, -⟩ | ⟨d', status, res, hd', hget, hreads⟩
        · cases hnone.symm.trans hd
        · obtain rfl : d' = d := Option.some.inj (hd'.symm.trans hd)
          exact ⟨status, res, hget, hreads⟩
      obtain ⟨status, res, hget, hreads⟩ := hfound h
      obtain ⟨status', res', hget', hreads'⟩ := hfound h'
      exact ⟨s, s', _, _, hshow (getResult_running (h.status.trans hrun) hget m),
        hshow (getResult_running (h'.status.trans hrun) hget' m'),
        reads_apart hapart hincomplete hreads hreads'⟩
    · refine ⟨s, s', _, _, hshow (getResult_stopped (h.stopped hrun) deviceId m),
        hshow (getResult_stopped (h'.stopped hrun) deviceId m'), ?_⟩
      rw [hm, hm']
      intro heq
      exact hapart.fileLen (congrArg TransferResult.fileLen (Output.result.inj heq).2)
  | _ => exact absurd trivial hundef

def zeros : Memory := ⟨.done, emptyResult, 0, 0⟩

def leftovers : Memory := ⟨.other 7, ⟨1, some [], 1⟩, 1, 1⟩

theorem apart_leftovers : Apart zeros leftovers :=
  ⟨by decide, by decide, by decide, by decide⟩

def ShowsMemory (ops : List Op) : Prop :=
  observe (step 5) ServerCalls.initial ops (fun _ _ => zeros) ≠
    observe (step 5) ServerCalls.initial ops fun _ _ => leftovers

instance (ops : List Op) : Decidable (ShowsMemory ops) := inferInstanceAs (Decidable (_ ≠ _))

def discover : List Op :=
  [.init .created, .announced ⟨true, 9, ⟨5, [], [], [], [], [], []⟩⟩,
    .update HeapChain.Malloc.bump none]

def exportWithoutMemory : List Op :=
  [.recvFile 5 [] [] 7 0, .replied ⟨true, 5, .exportFile, 7, ['0'], [1]⟩,
    .poll 0 (fun _ _ => false) fun _ => none]

end DefinedOutputs
