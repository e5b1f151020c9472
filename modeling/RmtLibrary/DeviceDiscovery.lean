import RmtLibrary.ChangeDetection
import RmtLibrary.DdsTransport
import RmtLibrary.DeviceRegistry
import Mathlib.Data.Fintype.Card

/-! # Discovery of devices

`n` agents run `devinfo_agent_update` and write what changed to the DeviceInfo topic. The server
drains its reader into the registry in one step, so that no two drains overlap, hears of lost
writers and may be started anew. Samples of one writer arrive in the order they were written. The
topic keeps one sample for each device: an older one may be replaced on its way or in the reader,
and a new reader is given the last one. -/
namespace DeviceDiscovery

open ChangeDetection (Texts)
open CString (Text)
open DdsTransport (Sample taken)
open DevinfoAgent (RmtCfg Observation)
open DevinfoServer
open Idl (DeviceInfoMsg)

/-- Agents with different IDs, a buffer for their `devinfo` and the handles of their writers. -/
structure Fleet (n : ℕ) where
  cfg : Fin n → RmtCfg
  devinfoFunc : Fin n → Bool
  handle : Fin n → ℕ
  projectVersion : Text
  sizes : ∀ i, 0 < (cfg i).devinfoSize
  ids : Function.Injective fun i => (cfg i).deviceId
  handles : Function.Injective handle
  size : n < 2 ^ 32

variable {n : ℕ}

def Fleet.id (fleet : Fleet n) (i : Fin n) : ℕ := (fleet.cfg i).deviceId

/-- A sample of agent `agent`, and which of its messages it is. -/
structure Announced (n : ℕ) where
  agent : Fin n
  number : ℕ
  msg : DeviceInfoMsg
  deriving DecidableEq

/-- `inFlight` is written and not yet in the reader, `cache` is what the writer keeps for a later
reader. The code does not keep `observed`, the texts of the last update, `written`, all messages
handed to `dds_transport_send`, nor which of them the registry shows and which it took last. -/
structure Network (n : ℕ) where
  device : Fin n → DevinfoAgent.State
  inFlight : Fin n → List (Announced n)
  cache : Fin n → Option (Announced n)
  reader : List (Sample (Announced n))
  registry : Registry
  observed : Fin n → Texts
  written : Fin n → List DeviceInfoMsg
  shown : Fin n → Option ℕ
  seen : Fin n → Option ℕ

def initial (fleet : Fleet n) : Network n where
  device i := DevinfoAgent.devinfoAgentInit (fleet.cfg i) (fleet.devinfoFunc i)
    DevinfoAgent.initial
  inFlight _ := []
  cache _ := none
  reader := []
  registry := devinfoServerInit
  observed _ := Texts.empty
  written _ := []
  shown _ := none
  seen _ := none

/-- `writes` says whether `dds_write` succeeds. -/
inductive Event (n : ℕ) where
  | update (i : Fin n) (netInterface : Text) (o : Observation) (writes : Bool)
  | overwritten (i : Fin n) (k : ℕ)
  | arrives (i : Fin n) (keepLast : Bool)
  | notice (i : Fin n)
  | serverUpdate (chunk : Chunk)
  | lost (i : Fin n)
  | reinit

def updateStep (fleet : Fleet n) (i : Fin n) (netInterface : Text) (o : Observation)
    (writes : Bool) (s : Network n) : Option (Network n) := do
  let (device, msg) ← DevinfoAgent.devinfoAgentUpdate fleet.projectVersion
    (fleet.cfg i).devinfoSize netInterface o (s.device i)
  let sent := if writes then msg.map fun msg => ⟨i, (s.written i).length, msg⟩ else none
  some { s with
    device := Function.update s.device i device
    inFlight := Function.update s.inFlight i (s.inFlight i ++ sent.toList)
    cache := Function.update s.cache i (sent.or (s.cache i))
    observed := Function.update s.observed i
      (ChangeDetection.observe (fleet.devinfoFunc i) netInterface o (s.observed i))
    written := Function.update s.written i (s.written i ++ msg.toList) }

/-- With history `KEEP_LAST` an announcement replaces the older samples of its device. -/
def arrive (a : Announced n) (keepLast : Bool) (reader : List (Sample (Announced n))) :
    List (Sample (Announced n)) :=
  (if keepLast then reader.filter fun sample => sample.data.msg.deviceID != a.msg.deviceID
    else reader) ++ [⟨true, a⟩]

def addAnnounced (fleet : Fleet n) (chunk : Chunk) (a : Announced n) (registry : Registry) :
    Option (Registry × ℤ) :=
  (addDevice chunk a.msg (fleet.handle a.agent) registry).map (·, 0)

def note (numbers : Fin n → Option ℕ) (as : List (Announced n)) : Fin n → Option ℕ :=
  as.foldl (fun numbers a => Function.update numbers a.agent (some a.number)) numbers

/-- A sample without valid data carries the key only. -/
def blank (id : ℕ) : DeviceInfoMsg := ⟨id, [], [], [], [], [], []⟩

def step (fleet : Fleet n) (s : Network n) : Event n → Option (Network n)
  | .update i netInterface o writes => updateStep fleet i netInterface o writes s
  | .overwritten i k =>
    if k + 1 < (s.inFlight i).length then
      some { s with inFlight := Function.update s.inFlight i ((s.inFlight i).eraseIdx k) }
    else none
  | .arrives i keepLast =>
    match s.inFlight i with
    | [] => none
    | a :: rest =>
      some { s with
        inFlight := Function.update s.inFlight i rest
        reader := arrive a keepLast s.reader }
  | .notice i => some { s with reader := s.reader ++ [⟨false, i, 0, blank (fleet.id i)⟩] }
  | .serverUpdate chunk => do
    let (reader, registry) ← DdsTransport.tryRecv (addAnnounced fleet chunk) s.reader s.registry
    some { s with
      reader
      registry
      shown := note s.shown (taken s.reader)
      seen := note s.seen (taken s.reader) }
  | .lost i => (delDevice (fleet.handle i) s.registry).map fun registry =>
    { s with registry, shown := Function.update s.shown i none }
  | .reinit => (devinfoServerDeinit s.registry).map fun _ =>
    { s with
      inFlight := fun i => (s.cache i).toList
      reader := []
      registry := devinfoServerInit
      shown := fun _ => none }

end DeviceDiscovery
