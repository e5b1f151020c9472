import RmtLibrary.DevinfoAgent
import RmtLibrary.RmtConfig

/-! # The network interfaces of a machine

`net_select_interface` and `net_generate_id` of `network.c`, and `rmt_config_runtime_init`, which
calls them. What the kernel answers is an observation. A query that fails leaves in `ifr` what an
earlier one put there. `none` stands for a write outside of `g_rmt_runtime_cfg`. -/
namespace Network

open CString (Text Memory nul)
open DevinfoAgent (netGetIp)
open RmtConfig

abbrev HwAddr := Vector UInt8 6

structure IfFlags where
  up : Bool
  running : Bool
  loopback : Bool
  deriving DecidableEq, Repr

/-- An entry of `if_nameindex`, and what `SIOCGIFHWADDR` and `SIOCGIFFLAGS` answer for it, if they
do. A name has less than `IFNAMSIZ` characters. -/
structure NetDevice where
  ifName : Text
  hwaddr : Option HwAddr
  flags : Option IfFlags
  named : ifName ≠ []
  short : ifName.length < 16
  terminated : nul ∉ ifName

/-- What a start-up observes. `if_nameindex` fails with `none`, `ip` is what `inet_ntoa` prints,
and `ifr` is what the uninitialised variable of `net_generate_id` happens to hold. -/
structure Observed where
  ifNameindex : Option (List NetDevice)
  ip : Text
  ifr : HwAddr

def IfFlags.usable (f : IfFlags) : Bool := f.up && f.running && !f.loopback

def selectLoop : List NetDevice → IfFlags → Memory → ℤ → Option (Memory × ℤ)
  | [], _, interface, ret => some (interface, ret)
  | intf :: nidxs, ifr, interface, ret =>
    let ifr := intf.flags.getD ifr
    if ifr.usable then do
      let interface ← CString.strcpy interface intf.ifName
      -- the first wireless interface ends the search
      if interface.head? = some 'w' then some (interface, 0)
      else selectLoop nidxs ifr interface 0
    else selectLoop nidxs ifr interface ret

def netSelectInterface (o : Observed) (interface : Memory) : Option (Memory × ℤ) :=
  match o.ifNameindex with
  | none => some (interface, -1)
  | some nidxs => selectLoop nidxs ⟨false, false, false⟩ interface (-1)

/-- The local variables of `net_generate_id`. `selected_interface` is only written. -/
structure Generated where
  priority : ℤ
  retId : ℕ
  ifr : HwAddr

/-- The three bytes behind the vendor, the first one highest. -/
def hwaddrId (hwaddr : HwAddr) : ℕ :=
  (hwaddr.toList.drop 3).foldl (fun id digit => (id <<< 8) + digit.toNat) 0

/-- Ethernet counts one, and an address of ADLINK three. -/
def tmpPriority (ifName : Text) (hwaddr : HwAddr) : ℕ :=
  let priority := if ifName.head? = some 'e' then 1 else 0
  if hwaddr.toList.take 3 = [0x00, 0x30, 0x64] then priority + 3 else priority

def generateStep (s : Generated) (intf : NetDevice) : Generated :=
  let ifr := intf.hwaddr.getD s.ifr
  let priority := tmpPriority intf.ifName ifr
  if s.priority < priority then ⟨priority, hwaddrId ifr, ifr⟩ else { s with ifr }

def netGenerateId (o : Observed) : ℕ :=
  match o.ifNameindex with
  | none => 0
  | some nidxs => (nidxs.foldl generateStep ⟨-1, 0, o.ifr⟩).retId

/-- `g_rmt_runtime_cfg` is one block, with `net_ip` behind the forty characters of
`net_interface`. This is what `rmt_config_runtime_init` does once the interface is chosen. -/
def setupIpAndId (o : Observed) (s : Globals) (runtime : Memory) : Option (Globals × Memory) := do
  let interface ← CString.cstr runtime 0
  let (netIp, ret) := netGetIp interface o.ip (runtime.drop 40)
  let runtime := runtime.take 40 ++ netIp
  if ret < 0 then some (s, runtime)
  else if ByteBlock.ofLittleEndian (ByteBlock.read s.gRmtCfg Field.deviceId.offset 8) = 0 then
    some (⟨s.gRmtCfgStatus, storeNumber 8 .deviceId (netGenerateId o) s.gRmtCfg⟩, runtime)
  else some (s, runtime)

def rmtConfigRuntimeInit (o : Observed) (s : Globals) (runtime : Memory) :
    Option (Globals × Memory) := do
  let configured ← CString.cstr s.gRmtCfg Field.netInterface.offset
  let (runtime, ret) ←
    if configured ≠ [] then (CString.strcpy runtime configured).map (·, 0)
    else netSelectInterface o runtime
  if ret < 0 then some (s, runtime) else setupIpAndId o s runtime

end Network
