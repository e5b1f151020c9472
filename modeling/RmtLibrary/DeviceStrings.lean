import RmtLibrary.BlockHeap
import RmtLibrary.DeviceRegistry

/-! # The strings of the device registry

The registry with the pointers that `strdup` returns in place of texts. `free_dev_list` frees the
six strings of a node with it, an announcement of a listed device overwrites the six pointers, and
a created list is a copy of pointers. `none` stands for a `free` or a read of what is not
allocated, besides the faults of `DevinfoServer`. The transfer fields of a node are left out. -/
namespace DeviceStrings

open BlockHeap
open CString (Text)
open DevinfoServer (DeviceInfo)
open HeapChain (Address Heap Link Malloc load)
open Idl (DeviceInfoMsg)

structure InfoPtrs where
  deviceID : ℕ
  model : Address
  host : Address
  ip : Address
  mac : Address
  rmtVersion : Address
  devinfo : Address
  deriving DecidableEq, Repr

structure DevNode where
  info : InfoPtrs
  internalId : ℕ
  deriving DecidableEq, Repr

structure Registry where
  strings : Blocks Text
  heap : Heap DevNode
  gDevHead : Link
  gDevNum : BitVec 32

structure Mallocs where
  node : DevinfoServer.Chunk
  strdup : Malloc

def hasId (id : ℕ) (dev : DevNode) : Bool := dev.info.deviceID == id

def hasInternalId (internalId : ℕ) (dev : DevNode) : Bool := dev.internalId == internalId

/-- The strings in the order in which they are allocated and freed. -/
def InfoPtrs.blocks (info : InfoPtrs) : List Address :=
  [info.host, info.ip, info.mac, info.model, info.rmtVersion, info.devinfo]

def dupInfo (strdup : Malloc) (msg : DeviceInfoMsg) (strings : Blocks Text) :
    InfoPtrs × Blocks Text :=
  let (host, strings) := alloc strdup msg.host strings
  let (ip, strings) := alloc strdup msg.ip strings
  let (mac, strings) := alloc strdup msg.mac strings
  let (model, strings) := alloc strdup msg.model strings
  let (rmtVersion, strings) := alloc strdup msg.rmtVersion strings
  let (devinfo, strings) := alloc strdup msg.devinfo strings
  (⟨msg.deviceID, model, host, ip, mac, rmtVersion, devinfo⟩, strings)

def freeInfo (info : InfoPtrs) (strings : Blocks Text) : Option (Blocks Text) := do
  let strings ← release info.host strings
  let strings ← release info.ip strings
  let strings ← release info.mac strings
  let strings ← release info.model strings
  let strings ← release info.rmtVersion strings
  release info.devinfo strings

def readInfo (strings : Blocks Text) (info : InfoPtrs) : Option DeviceInfo := do
  let model ← read info.model strings
  let host ← read info.host strings
  let ip ← read info.ip strings
  let mac ← read info.mac strings
  let rmtVersion ← read info.rmtVersion strings
  let devinfo ← read info.devinfo strings
  some ⟨info.deviceID, model, host, ip, mac, rmtVersion, devinfo⟩

def devinfoServerInit (strings : Blocks Text) : Registry := ⟨strings, ∅, none, 0⟩

def addDevice (mallocs : Mallocs) (msg : DeviceInfoMsg) (arg : ℕ) (s : Registry) :
    Option Registry := do
  let devPtr ← HeapChain.find (hasId msg.deviceID) s.heap s.heap.keys.card s.gDevHead
  let (info, strings) := dupInfo mallocs.strdup msg s.strings
  match devPtr with
  | none =>
    let selectedDev := mallocs.node.addr s.heap.keys
    some ⟨strings, s.heap.insert selectedDev ⟨s.gDevHead, info, arg⟩, some selectedDev,
      s.gDevNum + 1⟩
  | some selectedDev =>
    let heap ← HeapChain.store s.heap selectedDev fun _ => ⟨info, arg⟩
    some { s with strings, heap }

/-- From the node at `a`, look one node ahead and unlink the first match. -/
def unlink (p : DevNode → Bool) (h : Heap DevNode) :
    ℕ → Address → Option (Option (Address × Heap DevNode))
  | 0, _ => none
  | n + 1, a => do
    let node ← load h a
    match node.next with
    | none => some none
    | some b =>
      let ahead ← load h b
      if p ahead.val then some (some (b, h.insert a ⟨ahead.next, node.val⟩))
      else unlink p h n b

def freeDevList (devPtr : Address) (strings : Blocks Text) (heap : Heap DevNode) :
    Option (Blocks Text × Heap DevNode) := do
  let node ← load heap devPtr
  let strings ← freeInfo node.val.info strings
  some (strings, heap.erase devPtr)

def delDevice (internalId : ℕ) (s : Registry) : Option Registry :=
  match s.gDevHead with
  | none => some s
  | some devPtr => do
    let node ← load s.heap devPtr
    if hasInternalId internalId node.val then
      let (strings, heap) ← freeDevList devPtr s.strings s.heap
      some ⟨strings, heap, node.next, s.gDevNum - 1⟩
    else
      match ← unlink (hasInternalId internalId) s.heap s.heap.keys.card devPtr with
      | none => some s
      | some (toBeFreed, heap) =>
        let (strings, heap) ← freeDevList toBeFreed s.strings heap
        some ⟨strings, heap, s.gDevHead, s.gDevNum - 1⟩

def devinfoServerDeinit : ℕ → Registry → Option Registry
  | 0, s => if s.gDevHead = none then some s else none
  | fuel + 1, s =>
    match s.gDevHead with
    | none => some s
    | some devPtr => do
      let node ← load s.heap devPtr
      let (strings, heap) ← freeDevList devPtr s.strings s.heap
      devinfoServerDeinit fuel ⟨strings, heap, node.next, s.gDevNum - 1⟩

def devinfoServerCreateList (s : Registry) : Option (List InfoPtrs) := do
  let devs ← HeapChain.copyCounted s.heap s.gDevNum.toNat s.gDevHead
  some (devs.map DevNode.info)

inductive Event where
  | add (mallocs : Mallocs) (msg : DeviceInfoMsg) (arg : ℕ)
  | del (internalId : ℕ)
  | reinit

/-- A server that starts anew keeps what was not freed. -/
def step (s : Registry) : Event → Option Registry
  | .add mallocs msg arg => addDevice mallocs msg arg s
  | .del internalId => delDevice internalId s
  | .reinit => (devinfoServerDeinit s.heap.keys.card s).map fun s => devinfoServerInit s.strings

end DeviceStrings
