import RmtLibrary.DevinfoAgent

/-! # The life of an agent

`rmt_agent_init`, `rmt_agent_running` and `rmt_agent_deinit` as far as they create, use and
delete the transport. Each function answers with the calls it makes that use `g_transport`, and
the state they see. `none` stands for undefined behaviour: the use of `NULL` or of a transport
that was freed. -/
namespace RmtAgent

open CString (Text)
open DevinfoAgent (RmtCfg)

structure TransportHeap where
  next : ℕ
  freed : List ℕ
  fresh : ∀ t ∈ freed, t < next

def TransportHeap.empty : TransportHeap := ⟨0, [], by simp⟩

def TransportHeap.alloc (h : TransportHeap) : TransportHeap where
  next := h.next + 1
  freed := h.freed
  fresh t ht := Nat.lt_succ_of_lt (h.fresh t ht)

def TransportHeap.free (h : TransportHeap) (t : ℕ) : TransportHeap where
  next := max h.next (t + 1)
  freed := t :: h.freed
  fresh u hu := by
    rcases List.mem_cons.mp hu with rfl | hu
    · omega
    · have hlt := h.fresh u hu
      omega

/-- `g_transport`, `none` for `NULL`, and `g_rmt_runtime_cfg`. The code does not keep `created`,
the transport of the latest successful initialisation. -/
structure Globals where
  transport : Option ℕ
  netInterface : Text
  netIp : Text
  heap : TransportHeap
  created : Option ℕ

def initial : Globals := ⟨none, [], [], TransportHeap.empty, none⟩

/-- What `dds_transport_agent_init` comes to. Where a later creation fails it frees the
transport and still returns it. -/
inductive InitOutcome where
  | created
  | noMemory
  | failed
  deriving DecidableEq, Repr

def ddsTransportAgentInit (outcome : InitOutcome) (g : Globals) : Globals :=
  match outcome with
  | .created =>
    { g with
      transport := some g.heap.next
      heap := g.heap.alloc
      created := some g.heap.next }
  | .noMemory => { g with transport := none }
  | .failed =>
    { g with
      transport := some g.heap.next
      heap := g.heap.alloc.free g.heap.next }

inductive Callee where
  | devinfoAgentUpdate
  | datainfoAgentUpdate
  | ddsTransportDeinit
  deriving DecidableEq, Repr

abbrev Trace := List (Callee × Globals)

def Globals.usable (g : Globals) : Bool := g.transport.any (· ∉ g.heap.freed)

/-- What the network looks like at a call: the interface that `net_select_interface` finds,
empty if it finds none, and the IP that a query of it prints. -/
structure Detected where
  interface : Text
  ip : Text

def Detected.ipText (d : Detected) : Text := if d.interface = [] then [] else d.ip

/-- An interface from the configuration is not selected, only asked for its IP. -/
def rmtConfigRuntimeInit (cfg : RmtCfg) (d : Detected) (g : Globals) : Globals :=
  if cfg.netInterface ≠ [] then { g with netInterface := cfg.netInterface, netIp := d.ip }
  else if d.interface = [] then g
  else { g with netInterface := d.interface, netIp := d.ip }

/-- `configured` says that `dds_transport_config_init` succeeds. -/
def rmtAgentInit (cfg : RmtCfg) (d : Detected) (configured : Bool) (outcome : InitOutcome)
    (g : Globals) : Globals × ℤ :=
  let g := rmtConfigRuntimeInit cfg d g
  if configured then
    let g := ddsTransportAgentInit outcome g
    (g, if g.transport = none then -1 else 0)
  else (g, -1)

def interfaceChanged (cfg : RmtCfg) (d : Detected) (g : Globals) : Bool :=
  cfg.autoDetectInterface ∧ (d.interface ≠ g.netInterface ∨ d.ipText ≠ g.netIp)

def freeTransport (g : Globals) : Trace × Option Globals :=
  match g.transport with
  | none => ([], some g)
  | some t =>
    ([(.ddsTransportDeinit, g)],
      if g.usable then some { g with transport := none, heap := g.heap.free t } else none)

/-- The interface and its IP are recorded only after both initialisations. -/
def recreate (d : Detected) (configured : Bool) (outcome : InitOutcome) (g : Globals) :
    Globals × ℤ :=
  if configured then
    let g := ddsTransportAgentInit outcome g
    if g.transport = none then (g, -1)
    else ({ g with netInterface := d.interface, netIp := d.ipText }, 0)
  else (g, -1)

def update (g : Globals) : Trace × Option (Globals × ℤ) :=
  ([(.devinfoAgentUpdate, g), (.datainfoAgentUpdate, g)], if g.usable then some (g, 0) else none)

def rmtAgentRunning (cfg : RmtCfg) (d : Detected) (configured : Bool) (outcome : InitOutcome)
    (g : Globals) : Trace × Option (Globals × ℤ) :=
  if interfaceChanged cfg d g then
    match freeTransport g with
    | (calls, none) => (calls, none)
    | (calls, some g) =>
      match recreate d configured outcome g with
      | (g, 0) => (calls ++ (update g).1, (update g).2)
      | (g, ret) => (calls, some (g, ret))
  else update g

def rmtAgentDeinit (g : Globals) : Trace × Option Globals :=
  ([(.ddsTransportDeinit, g)],
    if g.usable then g.transport.map fun t => { g with heap := g.heap.free t } else none)

end RmtAgent
