import RmtLibrary.CString
import RmtLibrary.Idl

/-! # The device information of an agent

`devinfo_agent.c` with the queries of `network.c` it makes. Fixed-size buffers are blocks of
characters that the library calls rewrite in place. What the operating system and the function
of the user answer is an observation. `none` stands for undefined behaviour. -/
namespace DevinfoAgent

open CString (Text Memory nul)
open Idl (DeviceInfoMsg)

structure RmtCfg where
  netInterface : Text
  autoDetectInterface : Bool
  deviceId : ℕ
  devinfoSize : ℕ

/-- `device_info`. Its fields have 256, 1024, 40 and 20 characters. -/
structure DeviceInfo where
  model : Memory
  hostname : Memory
  ip : Memory
  mac : Memory
  deriving DecidableEq

/-- The texts that one call would be given: the host name, what `inet_ntoa` and the format of
the MAC print, what the function of the user and the product check write. -/
structure Observation where
  hostname : Text
  ip : Text
  mac : Text
  devinfo : Text
  model : Text

/-- The static variables. `agentDevinfoFunc` says whether the function pointer is set, and
`devinfo` is `none` before the first `devinfo_agent_init` and after `devinfo_agent_deinit`. -/
structure State where
  dev : DeviceInfo
  devinfo : Option Memory
  agentDevinfoFunc : Bool
  infoChange : Bool
  deviceID : ℕ

def zeros (n : ℕ) : Memory := List.replicate n nul

def initial : State :=
  { dev := ⟨zeros 256, zeros 1024, zeros 40, zeros 20⟩
    devinfo := none
    agentDevinfoFunc := false
    infoChange := true
    deviceID := 0 }

/-- A name that does not fit is cut without a terminator. -/
def gethostname (dst : Memory) (name : Text) : Memory :=
  if name.length < dst.length then CString.writeText dst name else name.take dst.length

def netGetIp (interface observed : Text) (ip : Memory) : Memory × ℤ :=
  if interface = [] then (ip, -1)
  else ((CString.strncpy ip observed (ip.length - 1)).set (ip.length - 1) nul, 0)

def netGetMac (observed : Text) (mac : Memory) : Memory := CString.snprintf mac observed

/-- `tmp_dev` after the three queries. It starts as a copy of `g_dev`. -/
def queryDevice (netInterface : Text) (o : Observation) (dev : DeviceInfo) : DeviceInfo :=
  { dev with
    hostname := gethostname dev.hostname o.hostname
    ip := (netGetIp netInterface o.ip dev.ip).1
    mac := netGetMac o.mac dev.mac }

def queryDevinfo (devinfoSize : ℕ) (o : Observation) (s : State) : Option Memory :=
  if s.agentDevinfoFunc then CString.strcpy (zeros devinfoSize) o.devinfo
  else some (zeros devinfoSize)

/-- The last character of the host name is cleared in `g_dev`, not in the copy that was just
filled. The model name is written after the comparison. -/
def getDeviceInfo (devinfoSize : ℕ) (netInterface : Text) (o : Observation) (s : State) :
    Option State := do
  let tmpDev := queryDevice netInterface o s.dev
  let dev := { s.dev with hostname := s.dev.hostname.set 1023 nul }
  let devinfo ← s.devinfo
  let tmpDevinfo ← queryDevinfo devinfoSize o s
  let old ← CString.cstr devinfo 0
  let new ← CString.cstr tmpDevinfo 0
  let model := CString.snprintf (zeros 256) o.model
  if dev ≠ tmpDev ∨ old ≠ new then
    let devinfo ← CString.strcpy (zeros devinfoSize) new
    some { s with dev := { tmpDev with model }, devinfo := some devinfo, infoChange := true }
  else some { s with dev := { dev with model } }

/-- `g_msg` as a send reads it: its members point to the buffers. -/
def message (projectVersion : Text) (s : State) : Option DeviceInfoMsg := do
  let model ← CString.cstr s.dev.model 0
  let host ← CString.cstr s.dev.hostname 0
  let ip ← CString.cstr s.dev.ip 0
  let mac ← CString.cstr s.dev.mac 0
  let devinfo ← CString.cstr (← s.devinfo) 0
  some ⟨s.deviceID, model, host, ip, mac, projectVersion, devinfo⟩

def devinfoAgentInit (cfg : RmtCfg) (agentDevinfoFunc : Bool) (s : State) : State :=
  { s with
    deviceID := cfg.deviceId
    agentDevinfoFunc
    devinfo := some (zeros cfg.devinfoSize) }

def devinfoAgentDeinit (s : State) : State := { s with devinfo := none }

/-- The message is the one handed to `dds_transport_send`, if it is called. What the send
returns is not looked at. -/
def devinfoAgentUpdate (projectVersion : Text) (devinfoSize : ℕ) (netInterface : Text)
    (o : Observation) (s : State) : Option (State × Option DeviceInfoMsg) := do
  let s ← getDeviceInfo devinfoSize netInterface o s
  if s.infoChange then
    let msg ← message projectVersion s
    some ({ s with infoChange := false }, some msg)
  else some (s, none)

end DevinfoAgent
