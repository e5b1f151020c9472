import RmtLibrary.CallbackResult
import RmtLibrary.TransferNames

/-! # The length of a file

A length is an `unsigned long` in the API and on the disk, a `uint32_t` in a message and an `int`
for the functions of an agent. -/
namespace FileLengths

open CString (Text nul)
open DatainfoAgent
open DeviceRegistry
open DevinfoServer
open FileCalls
open FileTransfer
open Idl (DataInfoType DataInfoRequest DataInfoReply)

variable {σ : Type}

/-- `rmt_server_send_file` without the counting of the call. The length of `pFile` is its last
argument, and becomes a `uint32_t` when it is handed on. -/
def rmtServerSendFile (status : RmtServer.ServerStatus) (idList : List ℕ)
    (callbackname filename : Text) (pFile : List UInt8) (randomSeq : ℕ) (now : ℤ)
    (s : FileServer) : Option (FileServer × ℤ × Option DataInfoRequest) :=
  if status = .running then
    datainfoServerSendFile idList callbackname filename (pFile.take (pFile.length % 2 ^ 32))
      randomSeq now s
  else some (s, -1, none)

inductive FileUse where
  | written (bytes : List UInt8)
  | imported (bytes : List UInt8) (len : BitVec 32)
  deriving DecidableEq, Repr

def observeFile (f : FileinfoFunc σ) : FileinfoFunc (σ × List FileUse) where
  callbackname := f.callbackname
  path := f.path
  importFunc := f.importFunc.map fun importFunc filename binary len w =>
    ((importFunc filename binary len w.1).1, (importFunc filename binary len w.1).2,
      w.2 ++ [.imported binary len])
  exportFunc := f.exportFunc.map fun exportFunc filename content len w =>
    ((exportFunc filename content len w.1).1, (exportFunc filename content len w.1).2, w.2)

/-- The agent with a record of the bytes that are written and imported. The keys take no part in
a transfer. -/
def observeAgent (agent : Agent σ) : Agent (σ × List FileUse) where
  myid := agent.myid
  datainfoFuncMaps := []
  fileinfoFuncMaps := agent.fileinfoFuncMaps.map observeFile
  datainfoValSize := agent.datainfoValSize
  writeFile path bytes w := (agent.writeFile path bytes w.1).map (·, w.2 ++ [.written bytes])
  readFile path w := agent.readFile path w.1

/-- The file has exactly the bytes, and the function their number as well. -/
def Whole (pFile : List UInt8) : FileUse → Prop
  | .written bytes => bytes = pFile
  | .imported bytes len => bytes = pFile ∧ len.toInt = pFile.length

def entryUses (f : FileinfoFunc σ) (binary : List UInt8) : List FileUse :=
  (if f.path.isSome then [.written binary] else []) ++
    (if f.importFunc.isSome then [.imported binary (BitVec.ofNat 32 binary.length)] else [])

theorem importStep_observe (agent : Agent σ) (f : FileinfoFunc σ) (filename : Option Text)
    (binary : List UInt8) (w : σ) :
    importStep (observeAgent agent) (observeFile f) filename binary (w, []) =
      (importStep agent f filename binary w).map fun out =>
        (out.1, out.2, entryUses f binary) := by
  cases hp : f.path with
  | none =>
    cases hf : f.importFunc <;>
      simp [importStep, saveFile, observeFile, entryUses, hp, hf]
  | some path =>
    cases hfp : filepath path filename with
    | none => simp [importStep, saveFile, observeFile, hp, hfp]
    | some filepath =>
      cases hw : agent.writeFile filepath binary w with
      | none => simp [importStep, saveFile, observeFile, observeAgent, hp, hfp, hw]
      | some w₁ =>
        cases hf : f.importFunc <;>
          simp [importStep, saveFile, observeFile, observeAgent, entryUses, hp, hfp, hw, hf]

theorem handle_observe (agent : Agent σ) {req : DataInfoRequest} (ht : req.type = .importFile)
    (hn : nul ∉ req.msg) (i : ℕ) (w : σ) :
    handle (observeAgent agent) req i (w, []) = (handle agent req i w).map fun out =>
      (out.1, out.2, (selected agent req.msg).elim [] (entryUses · req.binary)) := by
  have htransfer : isTransfer req.type = true := by
    rw [ht]
    rfl
  rw [TransferNames.handle_eq _ htransfer hn, TransferNames.handle_eq _ htransfer hn, selected]
  have hfind : ∀ name, (observeAgent agent).fileinfoFuncMaps.find? (·.callbackname == name) =
      (agent.fileinfoFuncMaps.find? (·.callbackname == name)).map observeFile := by
    intro name
    rw [observeAgent, List.find?_map]
    rfl
  by_cases hmap : agent.fileinfoFuncMaps = []
  · have hmap' : (observeAgent agent).fileinfoFuncMaps = [] := by simp [observeAgent, hmap]
    rw [if_pos hmap, if_pos hmap', hmap]
    cases (CString.pieces ';' req.msg)[0]? <;> rfl
  · have hmap' : (observeAgent agent).fileinfoFuncMaps ≠ [] := by simp [observeAgent, hmap]
    rw [if_neg hmap, if_neg hmap']
    cases (CString.pieces ';' req.msg)[0]? with
    | none => rfl
    | some name =>
      simp only [Option.bind_some, runNamed, hfind]
      cases agent.fileinfoFuncMaps.find? (·.callbackname == name) with
      | none => rfl
      | some f =>
        have hstep := importStep_observe agent f (CString.pieces ';' req.msg)[1]? req.binary w
        simp only [Option.map_some, ht, fileStep, hstep, Option.elim]
        cases importStep agent f (CString.pieces ';' req.msg)[1]? req.binary w <;> rfl

theorem take_mod_iff (pFile : List UInt8) :
    pFile.take (pFile.length % 2 ^ 32) = pFile ↔ pFile.length < 2 ^ 32 := by
  rw [List.take_eq_self_iff]
  constructor
  · intro hle
    exact lt_of_le_of_lt hle (Nat.mod_lt _ (by decide))
  · intro hlt
    rw [Nat.mod_eq_of_lt hlt]

theorem toInt_ofNat_iff {n : ℕ} (hn : n < 2 ^ 32) :
    (BitVec.ofNat 32 n).toInt = n ↔ n < 2 ^ 31 := by
  rw [BitVec.toInt_eq_toNat_cond, BitVec.toNat_ofNat, Nat.mod_eq_of_lt hn]
  split <;> omega

theorem forall_entryUses (f : FileinfoFunc σ) (binary : List UInt8) (P : FileUse → Prop) :
    (∀ use ∈ entryUses f binary, P use) ↔ (f.path.isSome → P (.written binary)) ∧
      (f.importFunc.isSome → P (.imported binary (BitVec.ofNat 32 binary.length))) := by
  cases hp : f.path.isSome <;> cases hf : f.importFunc.isSome <;> simp [entryUses, hp, hf]

theorem entryUses_whole_iff (f : FileinfoFunc σ) (pFile : List UInt8) :
    (∀ use ∈ entryUses f (pFile.take (pFile.length % 2 ^ 32)), Whole pFile use) ↔
      (f.path.isSome → pFile.length < 2 ^ 32) ∧
        (f.importFunc.isSome → pFile.length < 2 ^ 31) := by
  have hwritten : Whole pFile (.written (pFile.take (pFile.length % 2 ^ 32))) ↔
      pFile.length < 2 ^ 32 := take_mod_iff pFile
  have himported : Whole pFile (.imported (pFile.take (pFile.length % 2 ^ 32))
      (BitVec.ofNat 32 (pFile.take (pFile.length % 2 ^ 32)).length)) ↔
      pFile.length < 2 ^ 31 := by
    rw [Whole, take_mod_iff]
    constructor
    · rintro ⟨hlt, hint⟩
      rw [(take_mod_iff pFile).mpr hlt] at hint
      exact (toInt_ofNat_iff hlt).mp hint
    · intro hlt
      have hlt' : pFile.length < 2 ^ 32 := by omega
      rw [(take_mod_iff pFile).mpr hlt']
      exact ⟨hlt', (toInt_ofNat_iff hlt').mpr hlt⟩
  rw [forall_entryUses, hwritten, himported]

theorem sent_whole_iff {status : RmtServer.ServerStatus} {idList : List ℕ}
    {callbackname filename : Text} {pFile : List UInt8} {randomSeq : ℕ} {now : ℤ}
    {s s' : FileServer} {req : DataInfoRequest} (hc : nul ∉ callbackname) (hf : nul ∉ filename)
    (hcall : rmtServerSendFile status idList callbackname filename pFile randomSeq now s =
      some (s', 0, some req)) {agent : Agent σ} {i : ℕ} {w : σ}
    {out : Option (Text × List UInt8) × σ × List FileUse}
    (hhandle : handle (observeAgent agent) req i (w, []) = some out) :
    (∀ use ∈ out.2.2, Whole pFile use) ↔ ∀ f, selected agent req.msg = some f →
      (f.path.isSome → pFile.length < 2 ^ 32) ∧ (f.importFunc.isSome → pFile.length < 2 ^ 31) := by
  rw [rmtServerSendFile] at hcall
  split at hcall
  · rcases sendFile_cases hcall with ⟨-, hret⟩ | ⟨-, message, hmsg, -, hret⟩
    · cases hret
    · cases hret
      obtain rfl := TransferNames.transferMessage_some hmsg
      rw [handle_observe agent rfl (TransferNames.nul_not_mem_joined hc hf)] at hhandle
      obtain ⟨out, -, rfl⟩ := Option.map_eq_some_iff.mp hhandle
      cases hsel : selected agent (callbackname ++ ';' :: filename) with
      | none => simp
      | some f =>
        simp only [Option.elim, Option.some.injEq, forall_eq']
        exact entryUses_whole_iff f pFile
  · cases hcall

/-- What an export reads of the file it asks for, if that can be opened. -/
def exportedFile (agent : Agent σ) (msg : Text) (w : σ) : Option (List UInt8) := do
  let f ← selected agent msg
  let path ← f.path
  agent.readFile (← filepath path (CString.pieces ';' msg)[1]?) w

/-- A file that is opened is read into a block of its size. `fread` may fail to fill it. -/
def ReadFrom (file content : Option (List UInt8)) : Prop :=
  ∀ block, content = some block → ∃ bytes, file = some bytes ∧ block.length = bytes.length

/-- An agent replied to an export of `file`, of which it has read `content`, and the server that
waits for the reply knows the device. -/
structure Exported (agent : Agent σ) (req : DataInfoRequest) (file content : Option (List UInt8))
    (reply : DataInfoReply) (stat : FileTransferStat) (registry : Registry) : Prop where
  type : req.type = .exportFile
  text : nul ∉ req.msg
  read : ReadFrom file content
  handled : ∃ i w w', exportedFile agent req.msg w = content ∧
    handle agent req i w = some (some (reply.msg, reply.binary), w')
  replied : reply.type = req.type ∧ reply.randomSeq = req.randomSeq
  waiting : stat.type = req.type ∧ stat.randomSeq = req.randomSeq
  registered : ∃ t, HoldsTable registry t ∧ t.length < 2 ^ 32 ∧ reply.deviceID ∈ ids t

theorem exported_binary {agent : Agent σ} {req : DataInfoRequest} (ht : req.type = .exportFile)
    (hn : nul ∉ req.msg) {i : ℕ} {w w' : σ} {msg : Text} {binary : List UInt8}
    (hhandle : handle agent req i w = some (some (msg, binary), w')) :
    binary = exportBinary (exportedFile agent req.msg w) := by
  have htransfer : isTransfer req.type = true := by
    rw [ht]
    rfl
  rw [TransferNames.handle_eq _ htransfer hn] at hhandle
  by_cases hmap : agent.fileinfoFuncMaps = []
  · have hnone : exportedFile agent req.msg w = none := by simp [exportedFile, selected, hmap]
    rw [if_pos hmap] at hhandle
    rw [hnone]
    cases hhandle
    rfl
  · rw [if_neg hmap, Option.map_eq_some_iff] at hhandle
    obtain ⟨⟨r, w₁⟩, hrun, hout⟩ := hhandle
    obtain ⟨name, hname, hrun⟩ := Option.bind_eq_some_iff.mp hrun
    obtain rfl : r = (msg, binary) := Option.some.inj (Prod.mk.inj hout).1
    cases hf : agent.fileinfoFuncMaps.find? (·.callbackname == name) with
    | none =>
      have hnone : exportedFile agent req.msg w = none := by
        simp [exportedFile, selected, hname, hf]
      rw [hnone]
      rw [runNamed, hf] at hrun
      cases hrun
      rfl
    | some f =>
      rw [runNamed_found hf, ht] at hrun
      have hstep : exportStep agent f (CString.pieces ';' req.msg)[1]? req.binary w =
          some ((msg, binary), w₁) := hrun
      obtain ⟨content, hcontent, -⟩ := Option.bind_eq_some_iff.mp hstep
      obtain ⟨text, w₂, hbinary⟩ := exportStep_binary hcontent req.binary
      obtain ⟨hr, -⟩ := Prod.mk.inj (Option.some.inj (hstep.symm.trans hbinary))
      have hread : exportedFile agent req.msg w = content := by
        cases hp : f.path with
        | none =>
          simp only [fileContent, hp, Option.some.injEq] at hcontent
          simp [exportedFile, selected, hname, hf, hp, ← hcontent]
        | some path =>
          simp only [fileContent, hp, Option.map_eq_some_iff] at hcontent
          obtain ⟨p, hfp, hread⟩ := hcontent
          simp [exportedFile, selected, hname, hf, hp, hfp, hread]
      rw [hread]
      exact (Prod.mk.inj hr).2

/-- A reply that is waited for is what the next call reads for its device. -/
theorem recvFileTransferReply_result (env : PollEnv) {reply : DataInfoReply}
    {stat : FileTransferStat} (hstat : reply.type = stat.type ∧ reply.randomSeq = stat.randomSeq)
    {registry : Registry} {t : List DevList} (ht : HoldsTable registry t)
    (hsmall : t.length < 2 ^ 32) (hid : reply.deviceID ∈ ids t) :
    ∃ stat' registry', recvFileTransferReply env reply (stat, registry) =
        some ((stat', registry'), 0) ∧
      CallbackResult.rmtServerGetResult .running reply.deviceID registry' =
        some ((replyStatus env reply).1, some (replyStatus env reply).2) := by
  obtain ⟨registry', hset, ht', hnum⟩ := setStatusById_table ht reply.deviceID
    (replyStatus env reply).1 (replyStatus env reply).2
  have hwaited : ¬ (reply.type ≠ stat.type ∨ reply.randomSeq ≠ stat.randomSeq) := by
    rintro (hne | hne)
    · exact hne hstat.1
    · exact hne hstat.2
  refine ⟨_, registry', by simp only [recvFileTransferReply, if_neg hwaited, hset]; rfl, ?_⟩
  have hany : (t.take registry.gDevNum.toNat).any (hasId reply.deviceID) = true := by
    rw [ht.count hsmall, List.take_length]
    exact (any_hasId t _).mpr hid
  rw [CallbackResult.rmtServerGetResult, if_pos rfl, getStatusById_table ht', hnum,
    TransferEffects.tableGetStatus_set, if_pos ⟨rfl, hany⟩]
  rfl

theorem exportBinary_whole_iff {file content : Option (List UInt8)}
    (hread : ReadFrom file content) :
    (∃ bytes, file = some bytes ∧ exportBinary content = bytes ∧
      (exportBinary content).length = bytes.length) ↔
    ∃ bytes, file = some bytes ∧ content.getD [] = bytes ∧ bytes.length < 2 ^ 32 := by
  constructor
  · rintro ⟨bytes, hfile, hbinary, -⟩
    refine ⟨bytes, hfile, ?_⟩
    cases content with
    | none =>
      obtain rfl : [] = bytes := hbinary
      exact ⟨rfl, by decide⟩
    | some block =>
      obtain ⟨bytes', hfile', hlen⟩ := hread block rfl
      obtain rfl := Option.some.inj (hfile.symm.trans hfile')
      have hshort : block.length < 2 ^ 32 := by
        rw [hlen, ← hbinary, exportBinary, List.length_take]
        exact lt_of_le_of_lt (Nat.min_le_left _ _) (Nat.mod_lt _ (by decide))
      rw [exportBinary, Option.getD_some, (take_mod_iff block).mpr hshort] at hbinary
      exact ⟨hbinary, hlen ▸ hshort⟩
  · rintro ⟨bytes, hfile, rfl, hshort⟩
    have hwhole : exportBinary content = content.getD [] := (take_mod_iff _).mpr hshort
    exact ⟨_, hfile, hwhole, congrArg List.length hwhole⟩

theorem exported_whole_iff {agent : Agent σ} {req : DataInfoRequest}
    {file content : Option (List UInt8)} {reply : DataInfoReply} {stat : FileTransferStat}
    {registry : Registry} (h : Exported agent req file content reply stat registry)
    (env : PollEnv) :
    ∃ stat' registry' st res, recvFileTransferReply env reply (stat, registry) =
        some ((stat', registry'), 0) ∧
      CallbackResult.rmtServerGetResult .running reply.deviceID registry' = some (st, some res) ∧
      ((st = .done → ∃ bytes, file = some bytes ∧ res.pFile = some bytes ∧
          res.fileLen = bytes.length) ↔
        (∃ bytes, file = some bytes ∧ content.getD [] = bytes ∧ bytes.length < 2 ^ 32) ∨
          env.mallocOk ((content.getD []).length % 2 ^ 32) = false) := by
  obtain ⟨i, w, w', rfl, hhandle⟩ := h.handled
  obtain ⟨t, ht, hsmall, hid⟩ := h.registered
  have hbinary := exported_binary h.type h.text hhandle
  have hlength : reply.binary.length =
      ((exportedFile agent req.msg w).getD []).length % 2 ^ 32 := by
    rw [hbinary, exportBinary, List.length_take, Nat.min_eq_left (Nat.mod_le _ _)]
  have htype : reply.type = .exportFile := h.replied.1.trans h.type
  obtain ⟨stat', registry', hrecv, hget⟩ := recvFileTransferReply_result env
    ⟨h.replied.1.trans h.waiting.1.symm, h.replied.2.trans h.waiting.2.symm⟩ ht hsmall hid
  refine ⟨stat', registry', _, _, hrecv, hget, ?_⟩
  simp only [replyStatus, htype, ← hlength]
  cases hmalloc : env.mallocOk reply.binary.length with
  | false => simp
  | true =>
    rw [← exportBinary_whole_iff h.read, ← hbinary]
    simp

def importer : Agent Unit := TransferNames.listener ['c'] ['f']

def sentRequest (pFile : List UInt8) : DataInfoRequest :=
  ⟨[1], .importFile, 7, ['c', ';', 'f'], pFile.take (pFile.length % 2 ^ 32)⟩

theorem send_eq (pFile : List UInt8) : ∃ s', rmtServerSendFile .running [1] ['c'] ['f'] pFile 7 0
    datainfoServerInit = some (s', 0, some (sentRequest pFile)) := ⟨_, rfl⟩

theorem pieces_names : CString.pieces ';' ['c', ';', 'f'] = [['c'], ['f']] := by decide

theorem importer_selected : selected importer ['c', ';', 'f'] = importer.fileinfoFuncMaps[0]? := by
  rw [selected, pieces_names]
  rfl

theorem import_eq (req : DataInfoRequest) (ht : req.type = .importFile)
    (hmsg : req.msg = ['c', ';', 'f']) : handle (observeAgent importer) req 0 ((), []) =
      some (some (['1'], []), (), [.imported req.binary (BitVec.ofNat 32 req.binary.length)]) := by
  have hn : nul ∉ req.msg := by
    rw [hmsg]
    decide
  have htransfer : isTransfer req.type = true := by
    rw [ht]
    rfl
  have hhandle : handle importer req 0 () = some (some (['1'], []), ()) := by
    rw [TransferNames.handle_eq _ htransfer hn, hmsg, pieces_names,
      if_neg (by simp [importer, TransferNames.listener])]
    exact congrArg _ (TransferNames.runNamed_listener htransfer ['c'] ['f'] ['c'] (some ['f']) _)
  rw [handle_observe importer ht hn, hhandle, hmsg, importer_selected]
  rfl

def exporter (content : Option (List UInt8)) : Agent Unit :=
  { myid := 1
    datainfoFuncMaps := []
    fileinfoFuncMaps := [⟨['c'], some ['d'], none, none⟩]
    datainfoValSize := 100
    writeFile := fun _ _ w => some w
    readFile := fun _ _ => content }

def exportRequest : DataInfoRequest := ⟨[1], .exportFile, 7, ['c', ';', 'f'], []⟩

def exportReply (content : Option (List UInt8)) : DataInfoReply :=
  ⟨1, .exportFile, 7, [], exportBinary content⟩

def exportStat : FileTransferStat := ⟨1, 0, .exportFile, 7, some [1], 1, 0⟩

def exportEnv : PollEnv := ⟨1, fun _ => true, emptyResult⟩

theorem exported_by {file content : Option (List UInt8)} (hread : ReadFrom file content) :
    ∃ registry, Exported (exporter content) exportRequest file content (exportReply content)
      exportStat registry := by
  obtain ⟨registry, -, ht⟩ := addDevice_table holdsTable_init
    ⟨HeapChain.Malloc.bump, .done, emptyResult⟩ ⟨1, [], [], [], [], [], []⟩ 1
  refine ⟨registry, rfl, by decide, hread, ⟨0, (), (), ?_, rfl⟩, ⟨rfl, rfl⟩, ⟨rfl, rfl⟩, _, ht,
    by decide, List.mem_singleton.mpr rfl⟩
  rw [exportedFile, selected, exportRequest, pieces_names]
  rfl

theorem readFrom_self (bytes : List UInt8) : ReadFrom (some bytes) (some bytes) := by
  intro block hblock
  exact ⟨bytes, rfl, congrArg List.length (Option.some.inj hblock).symm⟩

/-- The reply to an export of a file gives something else back, and no error. -/
def NotGivenBack (file content : Option (List UInt8)) : Prop :=
  ∃ registry stat' registry' res,
    Exported (exporter content) exportRequest file content (exportReply content) exportStat
      registry ∧
    recvFileTransferReply exportEnv (exportReply content) (exportStat, registry) =
      some ((stat', registry'), 0) ∧
    CallbackResult.rmtServerGetResult .running 1 registry' = some (.done, some res) ∧
    ∀ bytes, file = some bytes → ¬ (res.pFile = some bytes ∧ res.fileLen = bytes.length)

theorem notGivenBack {file content : Option (List UInt8)} (hread : ReadFrom file content)
    (hlost : ∀ bytes, file = some bytes → content.getD [] = bytes → 2 ^ 32 ≤ bytes.length) :
    NotGivenBack file content := by
  obtain ⟨registry, hexported⟩ := exported_by hread
  obtain ⟨stat', registry', st, res, hrecv, hget, hiff⟩ := exported_whole_iff hexported exportEnv
  have hnot : ¬ (st = .done → ∃ bytes, file = some bytes ∧ res.pFile = some bytes ∧
      res.fileLen = bytes.length) := by
    rw [hiff]
    rintro (⟨bytes, hfile, hbytes, hshort⟩ | hmalloc)
    · have hlong := hlost bytes hfile hbytes
      omega
    · cases hmalloc
  obtain ⟨rfl, -⟩ := Classical.not_imp.mp hnot
  refine ⟨registry, stat', registry', res, hexported, hrecv, hget, ?_⟩
  intro bytes hfile hback
  exact hnot fun _ => ⟨bytes, hfile, hback⟩

end FileLengths
