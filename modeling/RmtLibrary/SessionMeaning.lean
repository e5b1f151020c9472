import RmtLibrary.Sessions

/-! # What a sequence of calls means

The settings in force are those of the file that the first call of a session reads, as later
calls of the session change them. A session ends with `deinit`, and the interface that was found
last outlives it. -/
namespace SessionMeaning

open ByteBlock (littleEndian ofLittleEndian read write)
open ConfigFields
open ConfigLines
open ConfigMeaning
open ConfigPrint (printLine shown)
open ConfigWidths (number)
open CString (Text Memory nul)
open GuardedExecution
open Logger (Journal Stream Shows Matches)
open Network
open RmtConfig
open Sessions

def wireless (d : NetDevice) : Bool := d.ifName.head? = some 'w'

/-- The usable interfaces. One whose query fails is judged by the flags of the one before. -/
def usable : List NetDevice → IfFlags → List NetDevice
  | [], _ => []
  | d :: nidxs, ifr =>
    let ifr := d.flags.getD ifr
    if ifr.usable then d :: usable nidxs ifr else usable nidxs ifr

def choose (ds : List NetDevice) : Option NetDevice := (ds.find? wireless).or ds.getLast?

def chosen (o : Observed) : Option NetDevice :=
  choose (usable (o.ifNameindex.getD []) ⟨false, false, false⟩)

theorem choose_cons (d : NetDevice) (ds : List NetDevice) :
    choose (d :: ds) = if wireless d then some d else (choose ds).or (some d) := by
  rw [choose, choose, List.find?_cons]
  cases wireless d with
  | true => rfl
  | false =>
    cases hlast : ds.getLast? with
    | none =>
      rw [List.getLast?_eq_none_iff.mp hlast]
      rfl
    | some e => cases ds.find? wireless <;> simp [List.getLast?_cons, hlast]

/-- A copy of a short text leaves what stands behind forty characters. -/
theorem drop_writeText {t : Text} (h : t.length < 40) (dst : Memory) :
    (CString.writeText dst t).drop 40 = dst.drop 40 := by
  rw [CString.writeText, List.drop_append, List.drop_of_length_le (by omega), List.nil_append]
  obtain ⟨k, hk⟩ : ∃ k, 40 - t.length = k + 1 := ⟨39 - t.length, by omega⟩
  rw [hk, List.drop_succ_cons, List.drop_drop]
  congr 1
  omega

theorem selectLoop_chosen (nidxs : List NetDevice) (ifr : IfFlags) {interface : Memory}
    (hlen : interface.length = 80) (ret : ℤ) :
    ∃ interface' ret', selectLoop nidxs ifr interface ret = some (interface', ret') ∧
      interface'.length = 80 ∧ interface'.drop 40 = interface.drop 40 ∧
      match choose (usable nidxs ifr) with
      | none => interface' = interface ∧ ret' = ret
      | some d => CString.cstr interface' 0 = some d.ifName ∧ ret' = 0 := by
  induction nidxs generalizing ifr interface ret with
  | nil => exact ⟨interface, ret, rfl, hlen, rfl, rfl, rfl⟩
  | cons d nidxs ih =>
    rw [selectLoop, usable]
    by_cases hu : (d.flags.getD ifr).usable = true
    · have hshort := d.short
      have hfits : d.ifName.length < interface.length := by omega
      have hcopy := (CString.length_writeText hfits).trans hlen
      have hread := CString.cstr_writeText d.terminated interface
      have hbehind := drop_writeText (by omega : d.ifName.length < 40) interface
      have hhead : (CString.writeText interface d.ifName).head? = d.ifName.head? :=
        List.head?_append_of_ne_nil _ d.named
      rw [if_pos hu, if_pos hu, CString.strcpy, if_pos hfits, choose_cons]
      simp only [Option.bind_eq_bind, Option.bind_some, hhead]
      by_cases hw : d.ifName.head? = some 'w'
      · rw [if_pos hw, wireless, decide_eq_true hw]
        exact ⟨_, _, rfl, hcopy, hbehind, hread, rfl⟩
      · rw [if_neg hw, wireless, decide_eq_false hw]
        obtain ⟨interface', ret', hs, hlen', hdrop, hends⟩ := ih (d.flags.getD ifr) hcopy 0
        refine ⟨interface', ret', hs, hlen', hdrop.trans hbehind, ?_⟩
        cases hrest : choose (usable nidxs (d.flags.getD ifr)) with
        | none =>
          rw [hrest] at hends
          obtain ⟨rfl, rfl⟩ := hends
          exact ⟨hread, rfl⟩
        | some e =>
          rw [hrest] at hends
          exact hends
    · rw [if_neg hu, if_neg hu]
      exact ih (d.flags.getD ifr) hlen ret

theorem netSelectInterface_chosen (o : Observed) {runtime : Memory}
    (hlen : runtime.length = 80) :
    ∃ runtime' ret, netSelectInterface o runtime = some (runtime', ret) ∧
      runtime'.length = 80 ∧ runtime'.drop 40 = runtime.drop 40 ∧
      match chosen o with
      | none => runtime' = runtime ∧ ret = -1
      | some d => CString.cstr runtime' 0 = some d.ifName ∧ ret = 0 := by
  rw [netSelectInterface, chosen]
  cases o.ifNameindex with
  | none => exact ⟨runtime, -1, rfl, hlen, rfl, rfl, rfl⟩
  | some nidxs => exact selectLoop_chosen nidxs ⟨false, false, false⟩ hlen (-1)

/-- The settings of the session, if one has begun, the interface and the IP that were found last,
and the log. -/
structure Spec where
  settings : Option Config
  interface : Text
  ip : Text
  journal : Journal

def Spec.initial : Spec := ⟨none, [], [], Journal.initial⟩

def reported (fp : Text) : List ℕ :=
  ((physicalLines fp).zipIdx 1).filterMap fun (line, lineNum) =>
    if ¬ Blank line ∧ entry line = none then some lineNum else none

def reports (file : Option Text) : List Text :=
  match file with
  | none => ["Unable to find config, such as rmt.conf.\n".toList]
  | some fp => (reported fp).map syntaxError

def sayAll (label : Text) (messages : List Text) (j : Journal) : Journal :=
  messages.foldl (fun j message => j.say label message) j

/-- A file that cannot be opened leaves the defaults. -/
def fileSettings (zenoh : Bool) (file : Option Text) : Config :=
  file.elim defaults (meaning zenoh)

/-- The file is read by the first call of a session only. -/
def Spec.begin (zenoh : Bool) (e : Env) (a : Spec) : Spec :=
  match a.settings with
  | some _ => a
  | none =>
    { a with
      settings := some (fileSettings zenoh e.file)
      journal := sayAll "RMT_ERROR:".toList (reports e.file) a.journal }

def setText (f : Field) (t : Option Text) (c : Config) : Config :=
  match t with
  | none => c
  | some t => Function.update c f (.text t)

def serverSettings (interface : Option Text) (domainId : BitVec 32) (c : Config) : Config :=
  Function.update (setText .netInterface interface c) .domainId (.number domainId.toInt)

def agentSettings (config : Option RmtAgentCfg) (c : Config) : Config :=
  match config with
  | none => c
  | some config => setText .netInterface config.netInterface
      (Function.update c .deviceId (.number config.deviceId.toNat))

def startInterface (o : Observed) (c : Config) : Option Text :=
  if c .netInterface = .text [] then (chosen o).map NetDevice.ifName
  else
    match c .netInterface with
    | .text t => some t
    | .number _ => none

/-- A start without an interface keeps the one before, and generates no device ID. -/
def Spec.start (o : Observed) (c : Config) (a : Spec) : Spec :=
  match startInterface o c with
  | none => a
  | some interface =>
    { a with
      interface
      ip := o.ip.take 39
      settings := some (if c .deviceId = .number 0 then
        Function.update c .deviceId (.number (netGenerateId o)) else c) }

/-- The log is opened under the name in force, and the settings are printed into it. -/
def Spec.openLog (zenoh : Bool) (e : Env) (c : Config) (a : Spec) : Spec :=
  match c .logfile with
  | .number _ => a
  | .text logfile =>
    { a with
      journal := sayAll "RMT_LOG:".toList
        ((gConfigMapping zenoh).map fun mapping => printLine mapping (shown (c mapping.pointer)))
        (a.journal.enter logfile e.logOpens) }

def Spec.next (zenoh : Bool) (a : Spec) : Call → Spec
  | .serverConfigure e interface domainId =>
    let a := a.begin zenoh e
    { a with settings := a.settings.map (serverSettings interface domainId) }
  | .agentConfigure e config =>
    let a := a.begin zenoh e
    { a with settings := a.settings.map (agentSettings config) }
  | .init e =>
    let a := a.begin zenoh e
    let a := a.settings.elim a (a.start e.observed)
    a.settings.elim a (a.openLog zenoh e)
  | .log label message => { a with journal := a.journal.say label message }
  | .deinit => { a with settings := none, journal := { a.journal with sink := some .stderr } }

end SessionMeaning
