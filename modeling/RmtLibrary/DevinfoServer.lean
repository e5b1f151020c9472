import RmtLibrary.GuardedExecution
import RmtLibrary.HeapChain
import RmtLibrary.Idl

/-! # The device registry of the server

`add_device`, `del_device` and the operations that walk `g_dev_head`, on a heap of `dev_list`
nodes. A `device_info` is owned by its node alone and is stored in it. The counter is a
`uint32_t` and wraps. `malloc` answers with some free address and leaves the fields that the
code does not assign undefined; allocation is taken to succeed. -/
namespace DevinfoServer

open CString (Text)
open HeapChain (Heap Link Malloc Owned)
open Idl (DeviceInfoMsg)

structure DeviceInfo where
  deviceID : ℕ
  model : Text
  host : Text
  ip : Text
  mac : Text
  rmtVersion : Text
  devinfo : Text
  deriving DecidableEq, Repr

/-- `transfer_status`. Memory that was never assigned may hold any `other` bit pattern. -/
inductive TransferStatus where
  | done
  | running
  | serverError
  | agentError
  | other (value : ℕ)
  deriving DecidableEq, Repr

/-- `transfer_result`. `pFile` is `none` for `NULL`. -/
structure TransferResult where
  result : ℤ
  pFile : Option (List UInt8)
  fileLen : ℕ
  deriving DecidableEq, Repr

def emptyResult : TransferResult := ⟨0, none, 0⟩

structure DevList where
  info : DeviceInfo
  agentTransferStatus : TransferStatus
  transferResult : TransferResult
  internalId : ℕ
  deriving DecidableEq, Repr

structure Registry where
  heap : Heap DevList
  gDevHead : Link
  gDevNum : BitVec 32

/-- `malloc(sizeof(dev_list))`: an address and what the unassigned fields happen to hold. -/
structure Chunk extends Malloc where
  agentTransferStatus : TransferStatus
  transferResult : TransferResult

def copyInfo (msg : DeviceInfoMsg) : DeviceInfo :=
  ⟨msg.deviceID, msg.model, msg.host, msg.ip, msg.mac, msg.rmtVersion, msg.devinfo⟩

def hasId (id : ℕ) (dev : DevList) : Bool := dev.info.deviceID == id

def hasInternalId (internalId : ℕ) (dev : DevList) : Bool := dev.internalId == internalId

def devinfoServerInit : Registry := ⟨∅, none, 0⟩

def addDevice (chunk : Chunk) (msg : DeviceInfoMsg) (arg : ℕ) (s : Registry) :
    Option Registry := do
  let devPtr ← HeapChain.find (hasId msg.deviceID) s.heap s.heap.keys.card s.gDevHead
  match devPtr with
  | none =>
    let selectedDev := chunk.addr s.heap.keys
    let dev := ⟨copyInfo msg, chunk.agentTransferStatus, chunk.transferResult, arg⟩
    some ⟨s.heap.insert selectedDev ⟨s.gDevHead, dev⟩, some selectedDev, s.gDevNum + 1⟩
  | some selectedDev =>
    let heap ← HeapChain.store s.heap selectedDev fun dev =>
      { dev with info := copyInfo msg, internalId := arg }
    some { s with heap }

/-- The body that `del_device` and `devinfo_server_del_device_callback_robot_id` share: unlink
the first node that `matched` accepts. -/
def delFirst (matched : DevList → Bool) (s : Registry) : Option Registry :=
  match s.gDevHead with
  | none => some s
  | some devPtr => do
    let node ← HeapChain.load s.heap devPtr
    if matched node.val then some ⟨s.heap.erase devPtr, node.next, s.gDevNum - 1⟩
    else
      let unlinked ← HeapChain.unlinkNext matched s.heap s.heap.keys.card devPtr
      match unlinked with
      | none => some s
      | some heap => some ⟨heap, s.gDevHead, s.gDevNum - 1⟩

def delDevice (internalId : ℕ) (s : Registry) : Option Registry :=
  delFirst (hasInternalId internalId) s

def hasRobotId (robotId : Text) (dev : DevList) : Bool :=
  (CString.strstr dev.info.devinfo robotId).isSome

def devinfoServerDelDeviceCallbackRobotId (robotId : Text) (s : Registry) : Option Registry :=
  delFirst (hasRobotId robotId) s

/-- The copy `devinfo_server_create_list` makes once the reader is drained. -/
def devinfoServerCreateList (s : Registry) : Option (List DeviceInfo) := do
  let devs ← HeapChain.copyCounted s.heap s.gDevNum.toNat s.gDevHead
  some (devs.map DevList.info)

def devinfoServerDeinit (s : Registry) : Option Registry := do
  let (heap, freed) ← HeapChain.freeAll s.heap s.heap.keys.card s.gDevHead
  some ⟨heap, none, s.gDevNum - BitVec.ofNat 32 freed⟩

def devinfoServerSetStatusById (id : ℕ) (devStatus : TransferStatus) (devResult : TransferResult)
    (s : Registry) : Option (Registry × ℤ) := do
  let devPtr ← HeapChain.findCounted (hasId id) s.heap s.gDevNum.toNat s.gDevHead
  match devPtr with
  | none => some (s, -1)
  | some devPtr =>
    let heap ← HeapChain.store s.heap devPtr fun dev =>
      { dev with agentTransferStatus := devStatus, transferResult := devResult }
    some ({ s with heap }, 0)

def devinfoServerGetStatusById (id : ℕ) (s : Registry) :
    Option (TransferStatus × TransferResult) := do
  let devPtr ← HeapChain.findCounted (hasId id) s.heap s.gDevNum.toNat s.gDevHead
  match devPtr with
  | none => some (.agentError, emptyResult)
  | some devPtr =>
    let node ← HeapChain.load s.heap devPtr
    some (node.val.agentTransferStatus, node.val.transferResult)

inductive Call where
  | addDevice (chunk : Chunk) (msg : DeviceInfoMsg) (arg : ℕ)
  | delDevice (internalId : ℕ)
  | setStatusById (id : ℕ) (devStatus : TransferStatus) (devResult : TransferResult)
  | getStatusById (id : ℕ)
  | createList
  | reinit

inductive Answer where
  | void
  | code (ret : ℤ)
  | status (devStatus : TransferStatus) (devResult : TransferResult)
  | list (dev : List DeviceInfo)
  deriving DecidableEq, Repr

def call (s : Registry) : Call → Option (Registry × Answer)
  | .addDevice chunk msg arg => (addDevice chunk msg arg s).map (·, .void)
  | .delDevice internalId => (delDevice internalId s).map (·, .void)
  | .setStatusById id st res =>
    (devinfoServerSetStatusById id st res s).map fun (s', ret) => (s', .code ret)
  | .getStatusById id => (devinfoServerGetStatusById id s).map fun (st, res) => (s, .status st res)
  | .createList => (devinfoServerCreateList s).map fun dev => (s, .list dev)
  | .reinit => (devinfoServerDeinit s).map fun _ => (devinfoServerInit, .void)

def callState (s : Registry) (c : Call) : Option Registry := (call s c).map Prod.fst

end DevinfoServer
