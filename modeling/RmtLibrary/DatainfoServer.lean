import RmtLibrary.CString
import RmtLibrary.DdsTransport
import RmtLibrary.Idl

/-! # The information calls of the server

`datainfo_server_get_info`, `datainfo_server_set_info` and
`datainfo_server_set_info_with_same_value`: the request each of them builds, and the loop that
waits for the replies, which is the same in all three. `none` stands for an access outside a
block. Allocation is taken to succeed. -/
namespace DatainfoServer

open CString (Text Memory)
open DdsTransport (Sample)
open Idl (DataInfoRequest DataInfoReply)

structure DataInfo where
  deviceID : ℕ
  valueList : Text
  deriving DecidableEq, Repr

/-- `data_info` with the characters of its `value_list`, as the reply list holds it. -/
structure ReplyEntry where
  deviceID : ℕ
  valueList : Memory
  deriving DecidableEq, Repr

def configKeyStrLen : ℕ := 4096

def strcat (capacity : ℕ) (buffer s : Text) : Option Text :=
  if (buffer ++ s).length < capacity then some (buffer ++ s) else none

def appendValueLists (capacity : ℕ) : Text → List DataInfo → Option Text
  | buffer, [] => some buffer
  | buffer, dev :: devList => do
    let buffer ← strcat capacity buffer dev.valueList
    let buffer ← strcat capacity buffer ['|']
    appendValueLists capacity buffer devList

/-- `malloc(1024 * id_num)`. The product is one of two `int`s and must not overflow. -/
def setInfoCapacity (idNum : ℕ) : Option ℕ :=
  if 1024 * idNum < 2 ^ 31 then some (1024 * idNum) else none

def setInfoBuffer (devList : List DataInfo) : Option Text := do
  let capacity ← setInfoCapacity devList.length
  let buffer ← strcat capacity [] []
  appendValueLists capacity buffer devList

def getInfoRequest (idList : List ℕ) (keyList : Text) (randomSeq : ℕ) : DataInfoRequest :=
  ⟨idList, .get, randomSeq, keyList, []⟩

def setInfoRequest (devList : List DataInfo) (randomSeq : ℕ) : Option DataInfoRequest :=
  (setInfoBuffer devList).map fun buffer =>
    ⟨devList.map DataInfo.deviceID, .set, randomSeq, buffer, []⟩

def setInfoWithSameValueRequest (idList : List ℕ) (valueList : Text) (randomSeq : ℕ) :
    DataInfoRequest :=
  ⟨idList, .setSameValue, randomSeq, valueList, []⟩

/-- `reply_data`. The list is the block of `id_num` entries. -/
structure ReplyData where
  req : DataInfoRequest
  list : List ReplyEntry
  num : ℕ
  deriving DecidableEq, Repr

def recvReply (msg : DataInfoReply) (replys : ReplyData) : Option (ReplyData × ℤ) :=
  if msg.type ≠ replys.req.type ∨ msg.randomSeq ≠ replys.req.randomSeq then some (replys, -1)
  else do
    let entry ← replys.list[replys.num]?
    let valueList := CString.strncpy entry.valueList msg.msg configKeyStrLen
    some ({ replys with
      list := replys.list.set replys.num ⟨msg.deviceID, valueList⟩
      num := replys.num + 1 }, 0)

structure Waiting where
  replys : ReplyData
  idNum : ℕ
  startTime : ℤ
  nowTime : ℤ
  deriving DecidableEq, Repr

def Waiting.goesOn (replyTimeout : ℤ) (c : Waiting) : Bool :=
  c.replys.num != c.idNum && !decide (c.nowTime - c.startTime > replyTimeout)

/-- One turn of the loop. `now` is the time read at its end. -/
def pollReplies (reader : List (Sample DataInfoReply)) (now : ℤ) (c : Waiting) :
    Option (List (Sample DataInfoReply) × Waiting) := do
  let (reader, replys) ← DdsTransport.tryRecvInstance DataInfoReply.randomSeq
    c.replys.req.randomSeq recvReply reader c.replys
  some (reader, { c with replys, nowTime := now })

/-- What a call meets: the contents of the block `malloc` gave it, the time behind
`dds_transport_send`, the samples in the reader, and for each turn of the loop those that
arrived before it and the time read at its end. -/
structure Surroundings where
  block : ℕ → ReplyEntry
  start : ℤ
  reader : List (Sample DataInfoReply)
  turns : List (List (Sample DataInfoReply) × ℤ)

/-- A call is still `waiting` when the turns it is given do not reach its end. -/
inductive Outcome where
  | fault
  | waiting (reader : List (Sample DataInfoReply)) (c : Waiting)
  | returned (list : List ReplyEntry) (infoNum : ℕ)
  deriving DecidableEq, Repr

def waitReplies (replyTimeout : ℤ) : List (List (Sample DataInfoReply) × ℤ) →
    List (Sample DataInfoReply) → Waiting → Outcome
  | [], reader, c =>
    if c.goesOn replyTimeout then .waiting reader c else .returned c.replys.list c.replys.num
  | (arrived, now) :: turns, reader, c =>
    if c.goesOn replyTimeout then
      match pollReplies (reader ++ arrived) now c with
      | none => .fault
      | some (reader, c) => waitReplies replyTimeout turns reader c
    else .returned c.replys.list c.replys.num

def startWaiting (req : DataInfoRequest) (idNum : ℕ) (block : ℕ → ReplyEntry) (start : ℤ) :
    Waiting :=
  ⟨⟨req, (List.range idNum).map block, 0⟩, idNum, start, start⟩

def sendAndWait (replyTimeout : ℤ) (req : DataInfoRequest) (idNum : ℕ) (sur : Surroundings) :
    Outcome :=
  waitReplies replyTimeout sur.turns sur.reader (startWaiting req idNum sur.block sur.start)

def datainfoServerGetInfo (replyTimeout : ℤ) (idList : List ℕ) (keyList : Text)
    (randomSeq : ℕ) (sur : Surroundings) : Outcome :=
  sendAndWait replyTimeout (getInfoRequest idList keyList randomSeq) idList.length sur

def datainfoServerSetInfo (replyTimeout : ℤ) (devList : List DataInfo) (randomSeq : ℕ)
    (sur : Surroundings) : Outcome :=
  match setInfoRequest devList randomSeq with
  | none => .fault
  | some req => sendAndWait replyTimeout req devList.length sur

def datainfoServerSetInfoWithSameValue (replyTimeout : ℤ) (idList : List ℕ) (valueList : Text)
    (randomSeq : ℕ) (sur : Surroundings) : Outcome :=
  sendAndWait replyTimeout (setInfoWithSameValueRequest idList valueList randomSeq)
    idList.length sur

end DatainfoServer
