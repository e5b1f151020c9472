import RmtLibrary.BlockHeap
import RmtLibrary.DatainfoAgent

/-! # The memory of an agent

The request handling with the pointers that `calloc`, `realloc` and `malloc` return in place of
texts: a slot of `datainfo_replys` holds the address of its message and of the file it sends.
`none` stands for a `free`, a read or a write of what is not allocated, besides the faults of
`DatainfoAgent`. The samples belong to DDS. -/
namespace AgentBlocks

open BlockHeap
open CString (Text Memory)
open DatainfoAgent (Agent DatainfoFunc FileinfoFunc)
open DdsTransport (Sample)
open HeapChain (Address Malloc)
open Idl (DataInfoType DataInfoRequest DataInfoReply)
open RingQueue (Ring)

/-- A text with its terminator, or the bytes of a file. -/
inductive Block where
  | text (t : Text)
  | bytes (bs : List UInt8)
  deriving DecidableEq, Repr

/-- A slot of `datainfo_replys`. `buffer` and `length` are the fields of `binary`. -/
structure ReplySlot where
  deviceID : ℕ
  type : DataInfoType
  randomSeq : ℕ
  msg : Option Address
  buffer : Option Address
  length : ℕ
  deriving DecidableEq, Repr

structure AgentState (σ : Type) where
  datainfoReplys : ℕ → ReplySlot
  queue : Ring
  world : σ
  blocks : Blocks Block

variable {σ : Type}

def datainfoAgentInit (w : σ) : AgentState σ :=
  ⟨fun _ => ⟨0, .get, 0, none, none, 0⟩, ⟨0, 0⟩, w, ∅⟩

def qEnqueue (s : AgentState σ) : AgentState σ × ℤ :=
  let (queue, i) := RingQueue.enqueue DatainfoAgent.queueSize s.queue
  ({ s with queue }, DatainfoAgent.intIndex i)

def qDequeue (s : AgentState σ) : AgentState σ × ℤ :=
  let (queue, i) := RingQueue.dequeue DatainfoAgent.queueSize s.queue
  ({ s with queue }, DatainfoAgent.intIndex i)

def loadReply (qIdx : ℤ) (s : AgentState σ) : Option ReplySlot :=
  if 0 ≤ qIdx ∧ qIdx < DatainfoAgent.queueSize then some (s.datainfoReplys qIdx.toNat) else none

def storeReply (qIdx : ℤ) (slot : ReplySlot) (s : AgentState σ) : Option (AgentState σ) :=
  if 0 ≤ qIdx ∧ qIdx < DatainfoAgent.queueSize then
    some { s with datainfoReplys := Function.update s.datainfoReplys qIdx.toNat slot }
  else none

def asText : Block → Option Text
  | .text t => some t
  | .bytes _ => none

def readText (a : Address) (blocks : Blocks Block) : Option Text := (read a blocks).bind asText

/-- The test of the length, and the `realloc`. -/
def growResult (malloc : Malloc) (resultMsgSize : ℕ) (resultMsg : Address) (keys : Text)
    (value : Address) (blocks : Blocks Block) : Option (ℕ × Address × Blocks Block) := do
  let text ← readText resultMsg blocks
  let written ← readText value blocks
  let newSize := (text.length + keys.length + written.length + 2) % 2 ^ 32
  if resultMsgSize ≤ newSize then
    let (resultMsg, blocks) ← realloc malloc resultMsg blocks
    some (newSize * 2 % 2 ^ 32, resultMsg, blocks)
  else some (resultMsgSize, resultMsg, blocks)

def appendValue (resultMsgSize : ℕ) (resultMsg : Address) (keys : Text) (value : Address)
    (blocks : Blocks Block) : Option (Blocks Block) := do
  let text ← readText resultMsg blocks
  let written ← readText value blocks
  let text := text ++ keys ++ ':' :: written ++ [';']
  if text.length < resultMsgSize then write resultMsg (.text text) blocks else none

def getStep (malloc : Malloc) (agent : Agent σ) (m : Memory) (keys : ℕ) :
    ℕ × Address × σ × Blocks Block → Option (Memory × ℕ × Address × σ × Blocks Block)
  | (resultMsgSize, resultMsg, w, blocks) => do
    let keys ← CString.cstr m keys
    match agent.find keys with
    | none => some (m, resultMsgSize, resultMsg, w, blocks)
    | some f =>
      let (value, blocks) := alloc malloc (.text []) blocks
      let (written, w) ← DatainfoAgent.getValue agent.datainfoValSize f w
      let blocks ← write value (.text written) blocks
      let (resultMsgSize, resultMsg, blocks) ←
        growResult malloc resultMsgSize resultMsg keys value blocks
      let blocks ← appendValue resultMsgSize resultMsg keys value blocks
      let blocks ← release value blocks
      some (m, resultMsgSize, resultMsg, w, blocks)

def getBranch (malloc : Malloc) (agent : Agent σ) (msg : Text) (w : σ) (blocks : Blocks Block) :
    Option (Address × σ × Blocks Block) := do
  let (resultMsg, blocks) := alloc malloc (.text []) blocks
  let m := CString.ofText msg
  let (_, _, resultMsg, w, blocks) ←
    CString.tokenLoop ';' (getStep malloc agent) m.length m 0 (1024, resultMsg, w, blocks)
  some (resultMsg, w, blocks)

def setStep (agent : Agent σ) (m : Memory) (pairs : ℕ) :
    Address × σ × Blocks Block → Option (Memory × Address × σ × Blocks Block)
  | (resultMsg, w, blocks) => do
    let (m, key, _) ← CString.strtokR ':' m pairs
    let key ← key
    let key ← CString.cstr m key
    let value := pairs + key.length + 1
    match (agent.find key).bind DatainfoFunc.setFunc with
    | none => some (m, resultMsg, w, blocks)
    | some set =>
      let value ← CString.cstr m value
      let (result, w) := set value w
      let text ← readText resultMsg blocks
      let text ← DatainfoAgent.appendResult text key result
      let blocks ← write resultMsg (.text text) blocks
      some (m, resultMsg, w, blocks)

def setBranch (malloc : Malloc) (agent : Agent σ) (type : DataInfoType) (msg : Text)
    (foundIdx : ℕ) (w : σ) (blocks : Blocks Block) : Option (Address × σ × Blocks Block) := do
  let (resultMsg, blocks) := alloc malloc (.text []) blocks
  let (m, pairs) ← DatainfoAgent.setPairsList type msg foundIdx
  let (_, resultMsg, w, blocks) ←
    CString.tokenLoop ';' (setStep agent) m.length m pairs (resultMsg, w, blocks)
  some (resultMsg, w, blocks)

structure Content where
  fileContent : Option Address
  fileSize : ℕ

def importStep (agent : Agent σ) (f : FileinfoFunc σ) (filename : Option Text)
    (binary : List UInt8) (resultMsg : Address) (w : σ) (blocks : Blocks Block) :
    Option (Content × σ × Blocks Block) := do
  let w ← DatainfoAgent.saveFile agent f filename binary w
  match f.importFunc with
  | none => some (⟨none, 0⟩, w, blocks)
  | some importFunc =>
    let (result, w) := importFunc filename binary (BitVec.ofNat 32 binary.length) w
    let blocks ← write resultMsg (.text (CString.formatInt result.toInt)) blocks
    some (⟨none, 0⟩, w, blocks)

def allocFile (malloc : Malloc) (content : Option (List UInt8)) (blocks : Blocks Block) :
    Option Address × Blocks Block :=
  match content with
  | none => (none, blocks)
  | some bytes =>
    let (a, blocks) := alloc malloc (.bytes bytes) blocks
    (some a, blocks)

def exportStep (malloc : Malloc) (agent : Agent σ) (f : FileinfoFunc σ) (filename : Option Text)
    (_binary : List UInt8) (resultMsg : Address) (w : σ) (blocks : Blocks Block) :
    Option (Content × σ × Blocks Block) := do
  let content ← DatainfoAgent.fileContent agent f filename w
  let (fileContent, blocks) := allocFile malloc content blocks
  let fileSize := (content.getD []).length
  match f.exportFunc with
  | none => some (⟨fileContent, fileSize⟩, w, blocks)
  | some exportFunc =>
    let (result, w) := exportFunc filename content (BitVec.ofNat 32 fileSize) w
    let blocks ← write resultMsg (.text (CString.formatInt result.toInt)) blocks
    some (⟨fileContent, fileSize⟩, w, blocks)

def fileBranch (malloc : Malloc) (agent : Agent σ)
    (run : FileinfoFunc σ → Option Text → List UInt8 → Address → σ → Blocks Block →
      Option (Content × σ × Blocks Block))
    (msg : Text) (binary : List UInt8) (w : σ) (blocks : Blocks Block) :
    Option (Address × Content × σ × Blocks Block) := do
  let (resultMsg, blocks) := alloc malloc (.text []) blocks
  let (m, callbackname, s) ← CString.strtokR ';' (CString.ofText msg) 0
  let (m, filename, _) ← CString.strtokR ';' m s
  if agent.fileinfoFuncMaps.isEmpty then some (resultMsg, ⟨none, 0⟩, w, blocks)
  else
    let callbackname ← CString.cstr m (← callbackname)
    let filename ← DatainfoAgent.argText m filename
    match agent.fileinfoFuncMaps.find? (·.callbackname == callbackname) with
    | none => some (resultMsg, ⟨none, 0⟩, w, blocks)
    | some f =>
      let (content, w, blocks) ← run f filename binary resultMsg w blocks
      some (resultMsg, content, w, blocks)

def handle (malloc : Malloc) (agent : Agent σ) (req : DataInfoRequest) (foundIdx : ℕ) (w : σ)
    (blocks : Blocks Block) : Option (Option (Address × Content) × σ × Blocks Block) :=
  match req.type with
  | .get => (getBranch malloc agent req.msg w blocks).map
      fun (msg, w, blocks) => (some (msg, ⟨none, 0⟩), w, blocks)
  | .set => (setBranch malloc agent .set req.msg foundIdx w blocks).map
      fun (msg, w, blocks) => (some (msg, ⟨none, 0⟩), w, blocks)
  | .setSameValue => (setBranch malloc agent .setSameValue req.msg foundIdx w blocks).map
      fun (msg, w, blocks) => (some (msg, ⟨none, 0⟩), w, blocks)
  | .importFile => (fileBranch malloc agent (importStep agent) req.msg req.binary w blocks).map
      fun (msg, content, w, blocks) => (some (msg, content), w, blocks)
  | .exportFile =>
    (fileBranch malloc agent (exportStep malloc agent) req.msg req.binary w blocks).map
      fun (msg, content, w, blocks) => (some (msg, content), w, blocks)
  | .other _ => some (none, w, blocks)

/-- What the slot held before is not freed. -/
def recvRequest (malloc : Malloc) (agent : Agent σ) (req : DataInfoRequest) (s : AgentState σ) :
    Option (AgentState σ × ℤ) :=
  match DatainfoAgent.foundIdx agent req with
  | none => some (s, 1)
  | some i => do
    let (s, qIdx) := qEnqueue s
    let (result, w, blocks) ← handle malloc agent req i s.world s.blocks
    let s := { s with world := w, blocks }
    match result with
    | none => some (s, 1)
    | some (msg, content) =>
      let slot := ⟨agent.myid, req.type, req.randomSeq, some msg, content.fileContent,
        content.fileSize % 2 ^ 32⟩
      let s ← storeReply qIdx slot s
      some (s, 0)

/-- The first `length` bytes behind a pointer that may be `NULL`. -/
def readBinary (buffer : Option Address) (length : ℕ) (blocks : Blocks Block) :
    Option (List UInt8) :=
  match buffer with
  | none => if length = 0 then some [] else none
  | some a =>
    match read a blocks with
    | some (.bytes bs) => if length ≤ bs.length then some (bs.take length) else none
    | _ => none

def sentReply (slot : ReplySlot) (msg : Address) (blocks : Blocks Block) :
    Option DataInfoReply := do
  let text ← readText msg blocks
  let binary ← readBinary slot.buffer slot.length blocks
  some ⟨slot.deviceID, slot.type, slot.randomSeq, text, binary⟩

/-- The message is freed behind its send, the file is not. -/
def datainfoAgentSendData : ℕ → AgentState σ → Option (AgentState σ × List DataInfoReply)
  | 0, _ => none
  | fuel + 1, s =>
    let (s, qIdx) := qDequeue s
    if qIdx = -1 then some (s, [])
    else do
      let slot ← loadReply qIdx s
      match slot.msg with
      | none => datainfoAgentSendData fuel s
      | some msg =>
        let reply ← sentReply slot msg s.blocks
        let blocks ← release msg s.blocks
        let s ← storeReply qIdx { slot with msg := none } { s with blocks }
        let (s, sent) ← datainfoAgentSendData fuel s
        some (s, reply :: sent)

def datainfoAgentUpdate (malloc : Malloc) (agent : Agent σ)
    (pending : List (Sample DataInfoRequest)) (s : AgentState σ) :
    Option (AgentState σ × List (Sample DataInfoRequest) × List DataInfoReply) := do
  let (pending, s) ← DdsTransport.tryRecv (recvRequest malloc agent) pending s
  let (s, sent) ← datainfoAgentSendData DatainfoAgent.queueSize s
  some (s, pending, sent)

def updates (agent : Agent σ) : AgentState σ → List (Malloc × List (Sample DataInfoRequest)) →
    Option (AgentState σ × List DataInfoReply)
  | s, [] => some (s, [])
  | s, (malloc, pending) :: later => do
    let (s, _, sent) ← datainfoAgentUpdate malloc agent pending s
    let (s, sent') ← updates agent s later
    some (s, sent ++ sent')

end AgentBlocks
