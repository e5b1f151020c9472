import RmtLibrary.CString
import RmtLibrary.DdsTransport
import RmtLibrary.Idl
import RmtLibrary.RingQueue

/-! # The request handling of an agent

`recv_request`, `datainfo_agent_send_data` and `datainfo_agent_update`. The functions the user
registers, and the files, act on an arbitrary world `σ`; they get texts by value and do not
touch the message or the saved pointer of `strtok`. `none` stands for undefined behaviour: a
`NULL` or out-of-block access, a text that does not fit its buffer, or an index outside
`datainfo_replys`. Allocation is taken to succeed. -/
namespace DatainfoAgent

open CString (Text Memory nul)
open DdsTransport (Sample)
open Idl (DataInfoType DataInfoRequest DataInfoReply)
open RingQueue (Ring)

def queueSize : ℕ := 16

/-- `datainfo_func`. `getFunc` answers with the text it writes into its buffer. -/
structure DatainfoFunc (σ : Type) where
  key : Text
  getFunc : Option (σ → Text × σ)
  setFunc : Option (Text → σ → BitVec 32 × σ)

/-- `fileinfo_func`. The last argument of the two functions is the length as an `int`. -/
structure FileinfoFunc (σ : Type) where
  callbackname : Text
  path : Option Text
  importFunc : Option (Option Text → List UInt8 → BitVec 32 → σ → BitVec 32 × σ)
  exportFunc : Option (Option Text → Option (List UInt8) → BitVec 32 → σ → BitVec 32 × σ)

/-- What was given to `datainfo_agent_init`, the agent's ID and the file system. A map that is
`NULL` is empty. -/
structure Agent (σ : Type) where
  myid : ℕ
  datainfoFuncMaps : List (DatainfoFunc σ)
  fileinfoFuncMaps : List (FileinfoFunc σ)
  datainfoValSize : ℕ
  writeFile : Text → List UInt8 → σ → Option σ
  readFile : Text → σ → Option (List UInt8)

/-- A slot of `datainfo_replys`. `msg` is `none` for `NULL`. -/
structure ReplySlot where
  deviceID : ℕ
  type : DataInfoType
  randomSeq : ℕ
  msg : Option Text
  binary : List UInt8
  deriving DecidableEq, Repr

structure AgentState (σ : Type) where
  datainfoReplys : ℕ → ReplySlot
  queue : Ring
  world : σ

variable {σ : Type}

def datainfoAgentInit (w : σ) : AgentState σ := ⟨fun _ => ⟨0, .get, 0, none, []⟩, ⟨0, 0⟩, w⟩

def intIndex : Option ℕ → ℤ
  | none => -1
  | some i => i

def qEnqueue (s : AgentState σ) : AgentState σ × ℤ :=
  let (queue, i) := RingQueue.enqueue queueSize s.queue
  ({ s with queue }, intIndex i)

def qDequeue (s : AgentState σ) : AgentState σ × ℤ :=
  let (queue, i) := RingQueue.dequeue queueSize s.queue
  ({ s with queue }, intIndex i)

def loadReply (qIdx : ℤ) (s : AgentState σ) : Option ReplySlot :=
  if 0 ≤ qIdx ∧ qIdx < queueSize then some (s.datainfoReplys qIdx.toNat) else none

def storeReply (qIdx : ℤ) (slot : ReplySlot) (s : AgentState σ) : Option (AgentState σ) :=
  if 0 ≤ qIdx ∧ qIdx < queueSize then
    some { s with datainfoReplys := Function.update s.datainfoReplys qIdx.toNat slot }
  else none

def Agent.find (agent : Agent σ) (key : Text) : Option (DatainfoFunc σ) :=
  agent.datainfoFuncMaps.find? (·.key == key)

/-- The value buffer of one key, after the entry's get function if it has one. -/
def getValue (valSize : ℕ) (f : DatainfoFunc σ) (w : σ) : Option (Text × σ) :=
  let value : Memory := List.replicate valSize nul
  match f.getFunc with
  | none => (CString.cstr value 0).map (·, w)
  | some get =>
    let (written, w) := get w
    if written.length < valSize then
      (CString.cstr (CString.strncpy value written valSize) 0).map (·, w)
    else none

/-- The four `strcat`s of one key. `result_msg_size` is an `unsigned int`. -/
def appendValue (resultMsgSize : ℕ) (resultMsg keys value : Text) : Option (ℕ × Text) :=
  let newSize := (resultMsg.length + keys.length + value.length + 2) % 2 ^ 32
  let size := if resultMsgSize ≤ newSize then newSize * 2 % 2 ^ 32 else resultMsgSize
  let resultMsg := resultMsg ++ keys ++ ':' :: value ++ [';']
  if resultMsg.length < size then some (size, resultMsg) else none

def getStep (agent : Agent σ) (m : Memory) (keys : ℕ) :
    ℕ × Text × σ → Option (Memory × ℕ × Text × σ)
  | (resultMsgSize, resultMsg, w) => do
    let keys ← CString.cstr m keys
    match agent.find keys with
    | none => some (m, resultMsgSize, resultMsg, w)
    | some f =>
      let (value, w) ← getValue agent.datainfoValSize f w
      let (resultMsgSize, resultMsg) ← appendValue resultMsgSize resultMsg keys value
      some (m, resultMsgSize, resultMsg, w)

def getBranch (agent : Agent σ) (msg : Text) (w : σ) : Option (Text × σ) := do
  let m := CString.ofText msg
  let (_, _, resultMsg, w) ← CString.tokenLoop ';' (getStep agent) m.length m 0 (1024, [], w)
  some (resultMsg, w)

def appendResult (resultMsg key : Text) (result : BitVec 32) : Option Text :=
  let msg := key ++ ':' :: CString.formatInt result.toInt ++ [';']
  if msg.length < 128 ∧ (resultMsg ++ msg).length < 1024 then some (resultMsg ++ msg) else none

/-- One pair. Where the value starts is computed from the start of the pair, not of the key,
and it is read only if a set function gets it. -/
def setStep (agent : Agent σ) (m : Memory) (pairs : ℕ) :
    Text × σ → Option (Memory × Text × σ)
  | (resultMsg, w) => do
    let (m, key, _) ← CString.strtokR ':' m pairs
    let key ← key
    let key ← CString.cstr m key
    let value := pairs + key.length + 1
    match (agent.find key).bind DatainfoFunc.setFunc with
    | none => some (m, resultMsg, w)
    | some set =>
      let value ← CString.cstr m value
      let (result, w) := set value w
      let resultMsg ← appendResult resultMsg key result
      some (m, resultMsg, w)

/-- `set_pairs_list`. A `NULL` segment is left to `strtok_r`, which then reads an
uninitialised pointer. -/
def setPairsList (type : DataInfoType) (msg : Text) (foundIdx : ℕ) : Option (Memory × ℕ) := do
  let m := CString.ofText msg
  if type = .set then
    let (m, p, _) ← CString.strtokNth '|' foundIdx m 0
    let p ← p
    some (m, p)
  else some (m, 0)

def setBranch (agent : Agent σ) (type : DataInfoType) (msg : Text) (foundIdx : ℕ) (w : σ) :
    Option (Text × σ) := do
  let (m, pairs) ← setPairsList type msg foundIdx
  let (_, resultMsg, w) ← CString.tokenLoop ';' (setStep agent) m.length m pairs ([], w)
  some (resultMsg, w)

def argText (m : Memory) : Option ℕ → Option (Option Text)
  | none => some none
  | some p => (CString.cstr m p).map some

def filepath (path : Text) (filename : Option Text) : Option Text := do
  let filename ← filename
  if (path ++ '/' :: filename).length < 1024 then some (path ++ '/' :: filename) else none

def saveFile (agent : Agent σ) (f : FileinfoFunc σ) (filename : Option Text)
    (binary : List UInt8) (w : σ) : Option σ :=
  match f.path with
  | none => some w
  | some path => do agent.writeFile (← filepath path filename) binary w

def importStep (agent : Agent σ) (f : FileinfoFunc σ) (filename : Option Text)
    (binary : List UInt8) (w : σ) : Option ((Text × List UInt8) × σ) := do
  let w ← saveFile agent f filename binary w
  match f.importFunc with
  | none => some (([], []), w)
  | some importFunc =>
    let (result, w) := importFunc filename binary (BitVec.ofNat 32 binary.length) w
    some ((CString.formatInt result.toInt, []), w)

/-- The file an export sends: `none` if the entry has no path or the file cannot be opened. -/
def fileContent (agent : Agent σ) (f : FileinfoFunc σ) (filename : Option Text) (w : σ) :
    Option (Option (List UInt8)) :=
  match f.path with
  | none => some none
  | some path => (filepath path filename).map (agent.readFile · w)

/-- The size is an `unsigned long`, the length in the reply a `uint32_t`. -/
def exportStep (agent : Agent σ) (f : FileinfoFunc σ) (filename : Option Text)
    (_binary : List UInt8) (w : σ) : Option ((Text × List UInt8) × σ) := do
  let content ← fileContent agent f filename w
  let bytes := content.getD []
  let binary := bytes.take (bytes.length % 2 ^ 32)
  match f.exportFunc with
  | none => some (([], binary), w)
  | some exportFunc =>
    let (result, w) := exportFunc filename content (BitVec.ofNat 32 bytes.length) w
    some ((CString.formatInt result.toInt, binary), w)

/-- The lookup both file branches make. `strcmp` reads the callback name if the map is not
empty. -/
def fileBranch (agent : Agent σ)
    (run : FileinfoFunc σ → Option Text → List UInt8 → σ → Option ((Text × List UInt8) × σ))
    (msg : Text) (binary : List UInt8) (w : σ) : Option ((Text × List UInt8) × σ) := do
  let (m, callbackname, s) ← CString.strtokR ';' (CString.ofText msg) 0
  let (m, filename, _) ← CString.strtokR ';' m s
  if agent.fileinfoFuncMaps.isEmpty then some (([], []), w)
  else
    let callbackname ← CString.cstr m (← callbackname)
    let filename ← argText m filename
    match agent.fileinfoFuncMaps.find? (·.callbackname == callbackname) with
    | none => some (([], []), w)
    | some f => run f filename binary w

/-- Text and binary of the reply to a request whose ID list has the agent at `foundIdx`, or
`none` inside for a wrong type. -/
def handle (agent : Agent σ) (req : DataInfoRequest) (foundIdx : ℕ) (w : σ) :
    Option (Option (Text × List UInt8) × σ) :=
  match req.type with
  | .get => (getBranch agent req.msg w).map fun (msg, w) => (some (msg, []), w)
  | .set => (setBranch agent .set req.msg foundIdx w).map fun (msg, w) => (some (msg, []), w)
  | .setSameValue =>
    (setBranch agent .setSameValue req.msg foundIdx w).map fun (msg, w) => (some (msg, []), w)
  | .importFile =>
    (fileBranch agent (importStep agent) req.msg req.binary w).map fun (r, w) => (some r, w)
  | .exportFile =>
    (fileBranch agent (exportStep agent) req.msg req.binary w).map fun (r, w) => (some r, w)
  | .other _ => some (none, w)

def foundIdx (agent : Agent σ) (req : DataInfoRequest) : Option ℕ :=
  req.idList.findIdx? (· == agent.myid)

/-- The slot is taken before the type is looked at, and the index is used unchecked. -/
def recvRequest (agent : Agent σ) (req : DataInfoRequest) (s : AgentState σ) :
    Option (AgentState σ × ℤ) :=
  match foundIdx agent req with
  | none => some (s, 1)
  | some i => do
    let (s, qIdx) := qEnqueue s
    let (result, w) ← handle agent req i s.world
    match result with
    | none => some ({ s with world := w }, 1)
    | some (msg, binary) =>
      let slot := ⟨agent.myid, req.type, req.randomSeq, some msg, binary⟩
      let s ← storeReply qIdx slot { s with world := w }
      some (s, 0)

/-- The replies are those handed to `dds_transport_send`, in order. -/
def datainfoAgentSendData : ℕ → AgentState σ → Option (AgentState σ × List DataInfoReply)
  | 0, _ => none
  | fuel + 1, s =>
    let (s, qIdx) := qDequeue s
    if qIdx = -1 then some (s, [])
    else do
      let slot ← loadReply qIdx s
      match slot.msg with
      | none => datainfoAgentSendData fuel s
      | some msg =>
        let s ← storeReply qIdx { slot with msg := none } s
        let (s, sent) ← datainfoAgentSendData fuel s
        some (s, ⟨slot.deviceID, slot.type, slot.randomSeq, msg, slot.binary⟩ :: sent)

def datainfoAgentUpdate (agent : Agent σ) (pending : List (Sample DataInfoRequest))
    (s : AgentState σ) :
    Option (AgentState σ × List (Sample DataInfoRequest) × List DataInfoReply) := do
  let (pending, s) ← DdsTransport.tryRecv (recvRequest agent) pending s
  let (s, sent) ← datainfoAgentSendData queueSize s
  some (s, pending, sent)

end DatainfoAgent
