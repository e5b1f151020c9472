import RmtLibrary.ByteBlock
import RmtLibrary.CString

/-! # The configuration file

`rmt_config_init` with the C library calls it makes. `g_rmt_cfg` is the block of bytes that the
compiler lays out, so that a store through a pointer of another width, or past the end of a
field, has the effect it has there. `none` stands for a write outside of `key`, `value` or
`g_rmt_cfg`, which is undefined behaviour. -/
namespace RmtConfig

open ByteBlock (littleEndian ofLittleEndian)
open CString (Text Memory isSpace nul)

/-- The fields of `rmt_config`. The last one exists with `SUPPORT_ZENOH` only. -/
inductive Field where
  | netInterface
  | domainId
  | autoDetectInterface
  | logfile
  | replyTimeout
  | deviceId
  | datainfoValSize
  | devinfoSize
  | keepaliveTime
  | supportZenoh
  deriving DecidableEq, Repr

/-- `offsetof`, where `unsigned long` and `uint64_t` have eight bytes. -/
def Field.offset : Field → ℕ
  | .netInterface => 0
  | .domainId => 40
  | .autoDetectInterface => 44
  | .logfile => 48
  | .replyTimeout => 88
  -- four bytes of padding
  | .deviceId => 96
  | .datainfoValSize => 104
  | .devinfoSize => 112
  | .keepaliveTime => 120
  | .supportZenoh => 128

def Field.size : Field → ℕ
  | .netInterface | .logfile => 40
  | .domainId | .autoDetectInterface | .replyTimeout | .supportZenoh => 4
  | .deviceId | .datainfoValSize | .devinfoSize | .keepaliveTime => 8

def sizeofRmtConfig (zenoh : Bool) : ℕ := if zenoh then 136 else 128

inductive ConfigType where
  | int
  | string
  deriving DecidableEq, Repr

structure ConfigMapping where
  name : Text
  type : ConfigType
  pointer : Field
  deriving DecidableEq, Repr

def gConfigMapping (zenoh : Bool) : List ConfigMapping :=
  [⟨"interface".toList, .string, .netInterface⟩,
    ⟨"domain".toList, .int, .domainId⟩,
    ⟨"switch_interface".toList, .int, .autoDetectInterface⟩,
    ⟨"logfile".toList, .string, .logfile⟩,
    ⟨"reply_timeout".toList, .int, .replyTimeout⟩,
    ⟨"device_id".toList, .int, .deviceId⟩,
    ⟨"datainfo_size".toList, .int, .datainfoValSize⟩,
    ⟨"devinfo_size".toList, .int, .devinfoSize⟩,
    ⟨"keepalive_time".toList, .int, .keepaliveTime⟩] ++
  if zenoh then [⟨"support_zenoh".toList, .int, .supportZenoh⟩] else []

def storeNumber (n : ℕ) (pointer : Field) (v : ℕ) (cfg : Memory) : Memory :=
  ByteBlock.write cfg pointer.offset (littleEndian n v)

/-- `strcpy(pointer, t)`. Past the field it goes on in those behind it. -/
def strcpyField (pointer : Field) (t : Text) (cfg : Memory) : Option Memory :=
  if pointer.offset + t.length < cfg.length then
    some (ByteBlock.write cfg pointer.offset (t ++ [nul]))
  else none

/-- `fgets`, which reads up to `n` characters: what it read, and the rest of the file. -/
def fgets : ℕ → Text → Text × Text
  | 0, fp => ([], fp)
  | _, [] => ([], [])
  | n + 1, c :: fp =>
    if c = '\n' then ([c], fp)
    else
      let (line, fp) := fgets n fp
      (c :: line, fp)

structure Buffers where
  key : Memory
  value : Memory

def sscanfKeyValue (line : Text) (b : Buffers) : Option (Buffers × ℤ) :=
  let line := line.takeWhile (· != nul)
  match line, line.takeWhile (· != ':') with
  | [], _ => some (b, -1)
  | _, [] => some (b, 0)
  | line, matched => do
    let key ← CString.strcpy b.key matched
    match line.dropWhile (· != ':') with
    | [] => some ({ b with key }, 1)
    | _ :: line =>
      match (line.dropWhile isSpace).takeWhile (!isSpace ·) with
      | [] => some ({ b with key }, 1)
      | matched =>
        let value ← CString.strcpy b.value matched
        some ({ key, value }, 2)

def lineLen : ℕ := 1024

def initRmtCfg (zenoh : Bool) : Memory :=
  let cfg := List.replicate (sizeofRmtConfig zenoh) nul
  let cfg := ByteBlock.write cfg Field.netInterface.offset [nul]
  let cfg := storeNumber 4 .domainId 0 cfg
  let cfg := storeNumber 4 .autoDetectInterface 1 cfg
  let cfg := ByteBlock.write cfg Field.logfile.offset ("stderr".toList ++ [nul])
  let cfg := storeNumber 4 .replyTimeout 3 cfg
  let cfg := storeNumber 8 .deviceId 0 cfg
  let cfg := storeNumber 8 .datainfoValSize 256 cfg
  let cfg := storeNumber 8 .devinfoSize 1024 cfg
  let cfg := storeNumber 8 .keepaliveTime 5 cfg
  if zenoh then storeNumber 4 .supportZenoh 0 cfg else cfg

/-- The `switch` of the table search. An `int` is stored into a field of any width. -/
def storeValue (mapping : ConfigMapping) (value : Text) (cfg : Memory) : Option Memory :=
  match mapping.type with
  | .string => strcpyField mapping.pointer value cfg
  | .int => some (storeNumber 4 mapping.pointer (CString.atoi value).toNat cfg)

def lineStep (zenoh : Bool) (line : Text) : Memory × Buffers → Option (Memory × Buffers)
  | (cfg, b) =>
    if line.head? = some '#' ∨ line.head? = some '\n' then some (cfg, b)
    else do
      let (b, matched) ← sscanfKeyValue line b
      if matched ≠ 2 then some (cfg, b)
      else
        let key ← CString.cstr b.key 0
        match (gConfigMapping zenoh).find? (·.name == key) with
        | none => some (cfg, b)
        | some mapping =>
          let value ← CString.cstr b.value 0
          let cfg ← storeValue mapping value cfg
          some (cfg, b)

/-- The `while` loop, with fuel for one more call of `fgets` than the file has characters. -/
def configLoop (zenoh : Bool) : ℕ → Text → Memory × Buffers → Option (Memory × Buffers)
  | 0, _, _ => none
  | fuel + 1, fp, s =>
    if fp = [] then some s
    else do
      let (line, fp) := fgets (lineLen - 1) fp
      let s ← lineStep zenoh line s
      configLoop zenoh fuel fp s

inductive RmtConfigStatus where
  | notInit
  | init
  deriving DecidableEq, Repr

structure Globals where
  gRmtCfgStatus : RmtConfigStatus
  gRmtCfg : Memory

/-- `file` is what the configuration file holds, if it can be opened, and `b` what the local
arrays happen to hold. -/
def rmtConfigInit (zenoh : Bool) (file : Option Text) (b : Buffers) (s : Globals) :
    Option Globals :=
  if s.gRmtCfgStatus ≠ .notInit then some s
  else
    match file with
    | none => some ⟨.init, initRmtCfg zenoh⟩
    | some fp => do
      let (cfg, _) ← configLoop zenoh (fp.length + 1) fp (initRmtCfg zenoh, b)
      some ⟨.init, cfg⟩

end RmtConfig
