import RmtLibrary.GeneratedId
import RmtLibrary.SessionMeaning

/-! # The code of a session follows its meaning

With files of the documented form and names that fit, no sequence of calls faults, and
`g_rmt_cfg`, `g_rmt_runtime_cfg` and the log hold what the calls mean. -/
namespace SessionRefinement

open ByteBlock (littleEndian ofLittleEndian read write)
open ConfigFields
open ConfigLines
open ConfigMeaning
open ConfigWidths (number)
open CString (Text Memory nul)
open GuardedExecution
open Logger (Journal Shows Matches)
open Network
open RmtConfig
open SessionMeaning
open Sessions
open TwoRuns (rel_cases)

/-- The file is one that the grammar covers, and what is printed of an IP is a text. -/
structure Clean (zenoh : Bool) (e : Env) : Prop where
  sized : Sized e.buffers
  file : ∀ fp ∈ e.file, ∀ line ∈ physicalLines fp, InDomain zenoh line ∧ FitsKey line
  ip : nul ∉ e.observed.ip

def FitsField (interface : Option Text) : Prop := ∀ t ∈ interface, t.length < 40 ∧ nul ∉ t

def CleanCall (zenoh : Bool) : Call → Prop
  | .serverConfigure e interface _ => Clean zenoh e ∧ FitsField interface
  | .agentConfigure e config => Clean zenoh e ∧ ∀ c ∈ config, FitsField c.netInterface
  | .init e => Clean zenoh e
  | .log _ _ => True
  | .deinit => True

structure Refines (zenoh : Bool) (s : State) (a : Spec) : Prop where
  length : s.globals.gRmtCfg.length = sizeofRmtConfig zenoh
  status : s.globals.gRmtCfgStatus = .notInit ↔ a.settings = none
  reads : ∀ c ∈ a.settings, Reads zenoh s.globals.gRmtCfg c
  runtime : s.runtime.length = 80
  interface : CString.cstr s.runtime 0 = some a.interface
  ip : CString.cstr (s.runtime.drop 40) 0 = some a.ip
  shows : Shows s.log a.journal
  logfile : ∃ t, CString.cstr s.globals.gRmtCfg Field.logfile.offset = some t ∧ Matches t s.log
  idle : a.settings = none → s.log.gFp = none ∧ s.log.gLogDisable = false

variable {zenoh : Bool} {s : State} {a : Spec} {e : Env} {fp : Text}

theorem syntaxErrors_reads (b : Buffers) {fuel : ℕ} (lineNum : ℕ) (hfuel : fp.length < fuel) :
    syntaxErrors b fuel lineNum fp = ((fileReads fp).zipIdx (lineNum + 1)).filterMap
      fun (line, n) => if unmatched b line then some n else none := by
  induction fuel generalizing fp lineNum with
  | zero => omega
  | succ fuel ih =>
    rw [syntaxErrors]
    by_cases hfp : fp = []
    · subst hfp
      rfl
    · have hpos : 0 < lineLen - 1 := by decide
      have hshort := fgets_shorter hpos hfp
      have hrest := ih (lineNum + 1) (by omega : (fgets (lineLen - 1) fp).2.length < fuel)
      rw [if_neg hfp, fileReads, reads_fgets _ hpos hfp, List.zipIdx_cons, List.filterMap_cons]
      dsimp only
      rw [hrest]
      cases unmatched b (fgets (lineLen - 1) fp).1 <;> rfl

theorem unmatched_iff {b : Buffers} (hb : Sized b) {line : Text} (hline : line ∈ physicalLines fp)
    (hdom : InDomain zenoh line) (hfits : FitsKey line) :
    unmatched b line = true ↔ ¬ Blank line ∧ entry line = none := by
  rw [unmatched]
  by_cases hblank : Blank line
  · rw [if_pos ((blank_iff hline).mp hblank)]
    simp [hblank]
  · have hconv : conversions line = some (entry line) := by
      by_cases hcolon : ':' ∈ line
      · exact conversions_colon hline hdom hblank hcolon
      · rw [conversions_plain (physicalLines_ne_nil hline) hdom.noNul hcolon,
          if_pos (hfits hblank hcolon), entry, if_pos (Or.inr (Or.inl hcolon))]
    rw [if_neg (fun h => hblank ((blank_iff hline).mpr h))]
    rcases rel_cases (sscanf_leaves line hb) with ⟨-, hnone⟩ | ⟨r, matched, hs, hm, hleaves⟩
    · rw [hconv] at hnone
      cases hnone
    · obtain rfl := Option.some.inj (hconv.symm.trans hm)
      obtain ⟨b', n⟩ := r
      rw [hs]
      cases hentry : entry line with
      | none =>
        rw [hentry] at hleaves
        have hn := hleaves.2
        dsimp only at hn
        simp [hn, hblank]
      | some pair =>
        rw [hentry] at hleaves
        have hn := hleaves.2.1
        dsimp only at hn
        simp [hn]

theorem configErrors_reports (h : Clean zenoh e) : configErrors e = reports e.file := by
  rw [configErrors]
  cases hfile : e.file with
  | none => rfl
  | some fp =>
    have hlines := h.file fp hfile
    dsimp only [reports]
    rw [syntaxErrors_reads _ _ (Nat.lt_succ_self _), reported,
      fileReads_eq fun line hline => (hlines line hline).1.short]
    congr 1
    refine List.filterMap_congr ?_
    rintro ⟨line, n⟩ hmem
    have hline : line ∈ physicalLines fp := List.fst_mem_of_mem_zipIdx hmem
    have hiff := unmatched_iff h.sized hline (hlines line hline).1 (hlines line hline).2
    by_cases hcase : unmatched e.buffers line = true
    · simp only [if_pos hcase, if_pos (hiff.mp hcase)]
    · simp only [if_neg hcase, if_neg (mt hiff.mpr hcase)]

theorem fileSettings_read (h : Clean zenoh e) (old : Memory) :
    ∃ cfg, rmtConfigInit zenoh e.file e.buffers ⟨.notInit, old⟩ = some ⟨.init, cfg⟩ ∧
      cfg.length = sizeofRmtConfig zenoh ∧ Reads zenoh cfg (fileSettings zenoh e.file) := by
  cases hfile : e.file with
  | none =>
    have hinit := represents_init zenoh
    exact ⟨initRmtCfg zenoh, rfl, hinit.length, hinit.reads⟩
  | some fp =>
    have hlines := h.file fp hfile
    obtain ⟨cfg, hrun, hrep⟩ := (represents_init zenoh).run (fun _ => id)
      (fun line hline => (hlines line hline).1) (fun line hline => (hlines line hline).2)
    refine ⟨cfg, ?_, hrep.length, hrep.reads⟩
    rw [rmtConfigInit_cfg zenoh fp h.sized,
      fileReads_eq fun line hline => (hlines line hline).1.short]
    exact hrun

theorem shows_sayAll {log : Logger.State} {j : Journal} (h : Shows log j) (label : Text)
    (messages : List Text) :
    ∃ log', messages.foldlM (fun log message => Logger.logMessage label message log) log =
        some log' ∧ Shows log' (sayAll label messages j) ∧ log'.gFp = log.gFp ∧
        log'.gLogDisable = log.gLogDisable := by
  induction messages generalizing log j with
  | nil => exact ⟨log, rfl, h, rfl, rfl⟩
  | cons message messages ih =>
    obtain ⟨mid, hmid, hshows, hfp, hdisable⟩ := h.say label message
    obtain ⟨log', hrun, hshows', hfp', hdisable'⟩ := ih hshows
    refine ⟨log', ?_, hshows', hfp'.trans hfp, hdisable'.trans hdisable⟩
    rw [List.foldlM_cons, hmid]
    exact hrun

theorem matches_congr {log log' : Logger.State} {t : Text} (h : Matches t log)
    (hfp : log'.gFp = log.gFp) (hdisable : log'.gLogDisable = log.gLogDisable) :
    Matches t log' := by
  rwa [Matches, hfp, hdisable]

theorem logfile_read {cfg : Memory} {c : Config} (hc : Reads zenoh cfg c) :
    ∃ t, c .logfile = .text t ∧ CString.cstr cfg Field.logfile.offset = some t := by
  obtain ⟨m, hm, htype, hpointer⟩ := ConfigPrint.logfile_field zenoh
  have hread := hc m hm
  rw [fieldValue, htype, hpointer] at hread
  obtain ⟨t, ht, heq⟩ := Option.map_eq_some_iff.mp hread
  exact ⟨t, heq.symm, ConfigPrint.cstr_field ht⟩

theorem refines_begin (h : Refines zenoh s a) (he : Clean zenoh e) :
    ∃ s' c, configInit zenoh e s = some s' ∧ Refines zenoh s' (a.begin zenoh e) ∧
      (a.begin zenoh e).settings = some c := by
  rw [configInit, Spec.begin]
  cases hset : a.settings with
  | some c =>
    have hstatus : s.globals.gRmtCfgStatus ≠ .notInit := by
      rw [ne_eq, h.status, hset]
      simp
    rw [if_pos hstatus]
    exact ⟨s, c, rfl, h, hset⟩
  | none =>
    have hstatus := h.status.mpr hset
    obtain ⟨hfp, hon⟩ := h.idle hset
    obtain ⟨cfg, hinit, hlen, hreads⟩ := fileSettings_read he s.globals.gRmtCfg
    obtain ⟨log, hlog, hshows, hfp', hon'⟩ := shows_sayAll h.shows "RMT_ERROR:".toList
      (reports e.file)
    obtain ⟨t, -, ht⟩ := logfile_read hreads
    have hglobals : s.globals = ⟨.notInit, s.globals.gRmtCfg⟩ := by rw [← hstatus]
    refine ⟨⟨⟨.init, cfg⟩, s.runtime, log⟩, _, ?_, ?_, rfl⟩
    · rw [if_neg (not_not.mpr hstatus), hglobals, hinit, configErrors_reports he]
      simp only [Option.bind_eq_bind, Option.bind_some]
      rw [show (fun log message => Logger.rmtError message log) =
        (fun log message => Logger.logMessage "RMT_ERROR:".toList message log) from rfl, hlog]
      rfl
    · refine ⟨hlen, by simp, ?_, h.runtime, h.interface, h.ip, hshows, ⟨t, ht, ?_⟩, by simp⟩
      · intro c hc
        obtain rfl := Option.some.inj hc
        exact hreads
      · exact Logger.matches_idle t (hfp'.trans hfp) (hon'.trans hon)

section Stores

variable {cfg cfg' : Memory} {c c' : Config} {mapping : ConfigMapping}

theorem reads_update (hc : Reads zenoh cfg c) (hm : mapping ∈ gConfigMapping zenoh) {v : Value}
    (hown : fieldValue mapping cfg' = some v)
    (hframe : ∀ g, g ≠ mapping.pointer → bytes g cfg' = bytes g cfg) :
    Reads zenoh cfg' (Function.update c mapping.pointer v) := by
  intro m hmem
  by_cases heq : m.pointer = mapping.pointer
  · obtain rfl := pointer_injective zenoh m hmem mapping hm heq
    rw [Function.update_self, hown]
  · rw [Function.update_of_ne heq, fieldValue_congr (hframe _ heq)]
    exact hc m hmem

theorem number_stored (hm : mapping ∈ gConfigMapping zenoh)
    (hlen : cfg.length = sizeofRmtConfig zenoh) (v : ℕ) :
    (storeNumber mapping.pointer.size mapping.pointer v cfg).length = sizeofRmtConfig zenoh ∧
    number mapping.pointer (storeNumber mapping.pointer.size mapping.pointer v cfg) =
      v % 256 ^ mapping.pointer.size ∧
    ∀ g, g ≠ mapping.pointer →
      bytes g (storeNumber mapping.pointer.size mapping.pointer v cfg) = bytes g cfg := by
  have hfit := field_fits zenoh _ (mem_fields hm)
  have hcells : mapping.pointer.offset + (littleEndian mapping.pointer.size v).length ≤
      cfg.length := by
    rw [ByteBlock.length_littleEndian]
    omega
  have hself := ByteBlock.read_write_self hcells
  rw [ByteBlock.length_littleEndian] at hself
  refine ⟨(ByteBlock.length_write hcells).trans hlen, ?_, ?_⟩
  · rw [number, bytes, storeNumber, hself, ByteBlock.ofLittleEndian_littleEndian]
  · intro g hg
    refine ByteBlock.read_write_apart hcells ?_
    rw [ByteBlock.length_littleEndian]
    exact fields_apart hg

theorem own_entries (zenoh : Bool) :
    (⟨"interface".toList, .string, .netInterface⟩ : ConfigMapping) ∈ gConfigMapping zenoh ∧
    (⟨"domain".toList, .int, .domainId⟩ : ConfigMapping) ∈ gConfigMapping zenoh ∧
    (⟨"device_id".toList, .int, .deviceId⟩ : ConfigMapping) ∈ gConfigMapping zenoh := by
  cases zenoh <;> decide

theorem domainId_stored (hlen : cfg.length = sizeofRmtConfig zenoh) (hc : Reads zenoh cfg c)
    (domainId : BitVec 32) :
    (storeNumber 4 .domainId domainId.toNat cfg).length = sizeofRmtConfig zenoh ∧
    Reads zenoh (storeNumber 4 .domainId domainId.toNat cfg)
      (Function.update c .domainId (.number domainId.toInt)) ∧
    bytes .logfile (storeNumber 4 .domainId domainId.toNat cfg) = bytes .logfile cfg := by
  have hm := (own_entries zenoh).2.1
  obtain ⟨hlen', hnumber, hframe⟩ := number_stored hm hlen domainId.toNat
  refine ⟨hlen', reads_update hc hm ?_ hframe, hframe _ (by simp)⟩
  have hlt := domainId.isLt
  rw [fieldValue]
  dsimp only at hnumber ⊢
  have hsize : Field.domainId.size = 4 := rfl
  rw [if_pos hsize]
  rw [Field.size, Nat.mod_eq_of_lt (by omega)] at hnumber
  rw [hnumber, BitVec.ofNat_toNat, BitVec.setWidth_eq]

theorem deviceId_stored (hlen : cfg.length = sizeofRmtConfig zenoh) (hc : Reads zenoh cfg c)
    {id : ℕ} (hid : id < 2 ^ 64) :
    (storeNumber 8 .deviceId id cfg).length = sizeofRmtConfig zenoh ∧
    Reads zenoh (storeNumber 8 .deviceId id cfg) (Function.update c .deviceId (.number id)) ∧
    bytes .logfile (storeNumber 8 .deviceId id cfg) = bytes .logfile cfg := by
  have hm := (own_entries zenoh).2.2
  obtain ⟨hlen', hnumber, hframe⟩ := number_stored hm hlen id
  refine ⟨hlen', reads_update hc hm ?_ hframe, hframe _ (by simp)⟩
  rw [fieldValue]
  dsimp only at hnumber ⊢
  rw [if_neg (by simp [Field.size])]
  rw [Field.size, Nat.mod_eq_of_lt (by omega)] at hnumber
  rw [hnumber]

theorem setInterface_read (hlen : cfg.length = sizeofRmtConfig zenoh) (hc : Reads zenoh cfg c)
    {interface : Option Text} (hfits : FitsField interface) :
    ∃ cfg', setInterface interface cfg = some cfg' ∧ cfg'.length = sizeofRmtConfig zenoh ∧
      Reads zenoh cfg' (setText .netInterface interface c) ∧
      bytes .logfile cfg' = bytes .logfile cfg := by
  cases interface with
  | none => exact ⟨cfg, rfl, hlen, hc, rfl⟩
  | some t =>
    obtain ⟨hshort, hnul⟩ := hfits t rfl
    have hm := (own_entries zenoh).1
    obtain ⟨cfg', hs, hlen', hframe⟩ := storeValue_inside hm hlen
      (fun _ => hshort : Inside ⟨"interface".toList, .string, .netInterface⟩ t)
    obtain ⟨-, hwrite, -⟩ := storeValue_frame hm hlen hs
    refine ⟨cfg', hs, hlen', reads_update hc hm ?_ hframe, hframe _ (by simp)⟩
    rw [hwrite]
    exact fieldValue_text hm rfl hlen hshort hnul

theorem refines_store (h : Refines zenoh s a) (hset : a.settings = some c)
    (hlen : cfg'.length = sizeofRmtConfig zenoh) (hc : Reads zenoh cfg' c')
    (hlogfile : bytes .logfile cfg' = bytes .logfile s.globals.gRmtCfg) :
    Refines zenoh { s with globals := { s.globals with gRmtCfg := cfg' } }
      { a with settings := some c' } := by
  obtain ⟨t, ht, hmatch⟩ := h.logfile
  obtain ⟨m, hm, htype, hpointer⟩ := ConfigPrint.logfile_field zenoh
  have hread := h.reads c hset m hm
  have hread' := hc m hm
  have hsame : fieldValue m cfg' = fieldValue m s.globals.gRmtCfg :=
    fieldValue_congr (by rw [hpointer, hlogfile])
  rw [hsame, hread, hpointer] at hread'
  obtain ⟨t₀, ht₀, hcstr₀⟩ := logfile_read (h.reads c hset)
  obtain ⟨t₁, ht₁, hcstr₁⟩ := logfile_read hc
  rw [ht₀, ht₁] at hread'
  obtain rfl := Value.text.inj (Option.some.inj hread')
  obtain rfl := Option.some.inj (ht.symm.trans hcstr₀)
  have hstatus : s.globals.gRmtCfgStatus ≠ .notInit := by
    rw [ne_eq, h.status, hset]
    simp
  refine ⟨hlen, by simp [hstatus], ?_, h.runtime, h.interface, h.ip, h.shows,
    ⟨_, hcstr₁, hmatch⟩, by simp⟩
  intro c₀ hc₀
  obtain rfl := Option.some.inj hc₀
  exact hc

end Stores

theorem netGetIp_text {interface observed : Text} {ip : Memory} (hi : interface ≠ [])
    (hlen : ip.length = 40) (hnul : nul ∉ observed) :
    ∃ ip', DevinfoAgent.netGetIp interface observed ip = (ip', 0) ∧ ip'.length = 40 ∧
      CString.cstr ip' 0 = some (observed.take 39) := by
  have hlast : ∃ c, ip.drop 39 = [c] := List.length_eq_one_iff.mp (by
    rw [List.length_drop, hlen])
  obtain ⟨c, hc⟩ := hlast
  have htext : (observed.take 39).length + (39 - observed.length) = 39 := by
    rw [List.length_take]
    omega
  have hset : (CString.strncpy ip observed 39).set 39 nul =
      observed.take 39 ++ nul :: List.replicate (39 - observed.length) nul := by
    rw [CString.strncpy, hc, List.set_append_right _ _ (by simp; omega)]
    simp only [List.length_append, List.length_replicate, htext, Nat.sub_self, List.set_cons_zero]
    rw [List.append_assoc, ← List.replicate_succ', List.replicate_succ]
  refine ⟨_, by rw [DevinfoAgent.netGetIp, if_neg hi, hlen, hset], ?_, ?_⟩
  · rw [List.length_append, List.length_cons, List.length_replicate]
    omega
  · exact CString.cstr_after (fun hm => hnul (List.take_subset _ _ hm)) [] _

theorem netGenerateId_lt (o : Observed) : netGenerateId o < 2 ^ 24 := by
  have hall : ∀ (nidxs : List NetDevice) (g : Generated), g.retId < 2 ^ 24 →
      (nidxs.foldl generateStep g).retId < 2 ^ 24 := by
    intro nidxs
    induction nidxs with
    | nil => exact fun _ => id
    | cons d nidxs ih =>
      intro g hg
      refine ih _ ?_
      rw [generateStep]
      split
      · exact GeneratedId.hwaddrId_lt _
      · exact hg
  rw [netGenerateId]
  cases o.ifNameindex with
  | none => exact Nat.two_pow_pos 24
  | some nidxs => exact hall nidxs _ (Nat.two_pow_pos 24)

theorem deviceId_read {cfg : Memory} {c : Config} (hc : Reads zenoh cfg c) :
    c .deviceId =
      .number (ofLittleEndian (ByteBlock.read cfg Field.deviceId.offset 8) : ℕ) := by
  have hread := hc _ (own_entries zenoh).2.2
  rw [fieldValue] at hread
  dsimp only at hread
  rw [if_neg (by simp [Field.size])] at hread
  exact (Option.some.inj hread).symm

theorem refines_setup {c : Config} {o : Observed} (h : Refines zenoh s a)
    (hset : a.settings = some c) (hip : nul ∉ o.ip) {runtime : Memory}
    (hlen : runtime.length = 80) {name : Text} (hname : CString.cstr runtime 0 = some name)
    (hne : name ≠ []) (hshort : name.length < 40) :
    ∃ globals' runtime' c', setupIpAndId o s.globals runtime = some (globals', runtime') ∧
      Refines zenoh { s with globals := globals', runtime := runtime' }
        { a with interface := name, ip := o.ip.take 39, settings := some c' } ∧
      c' = if c .deviceId = .number 0 then
        Function.update c .deviceId (.number (netGenerateId o)) else c := by
  have hbuf : (runtime.drop 40).length = 40 := by rw [List.length_drop, hlen]
  obtain ⟨ip', hget, hiplen, hipread⟩ := netGetIp_text hne hbuf hip
  have htake : (runtime.take 40).length = 40 := by rw [List.length_take, hlen]; rfl
  have hlen' : (runtime.take 40 ++ ip').length = 80 := by rw [List.length_append, htake, hiplen]
  have hname' : CString.cstr (runtime.take 40 ++ ip') 0 = some name := by
    obtain ⟨post, hsplit⟩ := CString.cstr_split hname
    have hfront : runtime.take 40 = name ++ nul :: post.take (39 - name.length) := by
      rw [hsplit, List.take_append, List.take_of_length_le (by omega)]
      obtain ⟨k, hk⟩ : ∃ k, 40 - name.length = k + 1 := ⟨39 - name.length, by omega⟩
      have hk' : 39 - name.length = k := by omega
      rw [hk, hk', List.take_succ_cons]
    rw [hfront, List.append_assoc, List.cons_append]
    exact CString.cstr_after (CString.cstr_nul_free hname) [] _
  have hip' : CString.cstr ((runtime.take 40 ++ ip').drop 40) 0 = some (o.ip.take 39) := by
    rwa [List.drop_left' htake]
  have hid := deviceId_read (h.reads c hset)
  rw [setupIpAndId, hname]
  simp only [Option.bind_eq_bind, Option.bind_some, hget]
  rw [if_neg (by omega)]
  by_cases hzero : ofLittleEndian
      (ByteBlock.read s.globals.gRmtCfg Field.deviceId.offset 8) = 0
  · rw [if_pos hzero]
    have hlt := netGenerateId_lt o
    obtain ⟨hcfg, hreads, hlogfile⟩ := deviceId_stored h.length (h.reads c hset)
      (by omega : netGenerateId o < 2 ^ 64)
    have hstore := refines_store h hset hcfg hreads hlogfile
    refine ⟨_, _, _, rfl, ?_, by rw [hid, hzero, Nat.cast_zero, if_pos rfl]⟩
    exact ⟨hstore.length, hstore.status, hstore.reads, hlen', hname', hip', hstore.shows,
      hstore.logfile, hstore.idle⟩
  · rw [if_neg hzero]
    refine ⟨_, _, c, rfl, ?_, ?_⟩
    · exact ⟨h.length, by simp [h.status, hset], fun c' hc' => h.reads c' (hset.trans hc'), hlen',
        hname', hip', h.shows, h.logfile, by simp⟩
    · rw [hid, if_neg]
      simpa using hzero

theorem interface_read {cfg : Memory} {c : Config} (hlen : cfg.length = sizeofRmtConfig zenoh)
    (hc : Reads zenoh cfg c) : ∃ t, c .netInterface = .text t ∧
      CString.cstr cfg Field.netInterface.offset = some t ∧ nul ∉ t ∧ t.length < 40 := by
  have hm := (own_entries zenoh).1
  have hread := hc _ hm
  rcases ConfigPrint.read_value hlen hm hread with ⟨-, t, ht, hnul, hshort⟩ | ⟨htype, -⟩
  · dsimp only at ht
    rw [fieldValue, ht] at hread
    obtain ⟨t', ht', heq⟩ := Option.map_eq_some_iff.mp hread
    obtain rfl := Value.text.inj heq
    exact ⟨t', ht, ConfigPrint.cstr_field ht', hnul, hshort⟩
  · cases htype

theorem refines_start {c : Config} {o : Observed} (h : Refines zenoh s a)
    (hset : a.settings = some c) (hip : nul ∉ o.ip) :
    ∃ globals' runtime' c', rmtConfigRuntimeInit o s.globals s.runtime =
        some (globals', runtime') ∧
      Refines zenoh { s with globals := globals', runtime := runtime' } (a.start o c) ∧
      (a.start o c).settings = some c' := by
  obtain ⟨t, ht, hread, hnul, hshort⟩ := interface_read h.length (h.reads c hset)
  rw [rmtConfigRuntimeInit, hread, Spec.start, startInterface, ht]
  simp only [Option.bind_eq_bind, Option.bind_some]
  by_cases hconfigured : t = []
  · obtain ⟨runtime', ret, hs, hlen, hbehind, hends⟩ := netSelectInterface_chosen o h.runtime
    rw [if_neg (not_not.mpr hconfigured), hs, if_pos (congrArg _ hconfigured)]
    cases hchosen : chosen o with
    | none =>
      rw [hchosen] at hends
      obtain ⟨rfl, rfl⟩ := hends
      exact ⟨_, _, c, rfl, h, hset⟩
    | some d =>
      rw [hchosen] at hends
      obtain ⟨hname, rfl⟩ := hends
      have hd := d.short
      obtain ⟨globals', runtime'', c', hrun, hrefines, hc'⟩ := refines_setup h hset hip hlen hname
        d.named (by omega)
      subst hc'
      exact ⟨globals', runtime'', _, hrun, hrefines, rfl⟩
  · have hfits : t.length < s.runtime.length := by
      rw [h.runtime]
      omega
    obtain ⟨globals', runtime', c', hrun, hrefines, hc'⟩ := refines_setup h hset hip
      ((CString.length_writeText hfits).trans h.runtime) (CString.cstr_writeText hnul s.runtime)
      hconfigured hshort
    have hne : (Value.text t) ≠ .text [] := fun heq => hconfigured (Value.text.inj heq)
    rw [if_pos hconfigured, CString.strcpy, if_pos hfits, if_neg hne]
    subst hc'
    exact ⟨globals', runtime', _, hrun, hrefines, rfl⟩

theorem sayAll_disabled (label : Text) (messages : List Text) {j : Journal}
    (hsink : j.sink = none) : sayAll label messages j = j := by
  induction messages with
  | nil => rfl
  | cons message messages ih =>
    have hsay : j.say label message = j := by
      obtain ⟨sink, paths, lost, printed⟩ := j
      obtain rfl : sink = none := hsink
      simp [Journal.say]
    rw [sayAll, List.foldl_cons, hsay]
    exact ih

theorem refines_openLog {c : Config} (h : Refines zenoh s a) (hset : a.settings = some c) :
    ∃ s', openLog zenoh e s = some s' ∧ Refines zenoh s' (a.openLog zenoh e c) := by
  obtain ⟨t, ht, hmatch⟩ := h.logfile
  obtain ⟨t', hc, ht'⟩ := logfile_read (h.reads c hset)
  obtain rfl := Option.some.inj (ht.symm.trans ht')
  obtain ⟨log, henter, hshows, hmatch'⟩ := h.shows.enter hmatch e.logOpens
  rw [openLog, Spec.openLog, ht, hc]
  simp only [Option.bind_eq_bind, Option.bind_some, henter]
  have hkeep : ∀ {log' : Logger.State} {j : Journal}, Shows log' j → Matches t log' →
      Refines zenoh { s with log := log' } { a with journal := j } := fun hs hm =>
    ⟨h.length, h.status, h.reads, h.runtime, h.interface, h.ip, hs, ⟨t, ht, hm⟩, by simp [hset]⟩
  by_cases hdisable : log.gLogDisable = true
  · have hsink := hshows.sink
    rw [Logger.State.sink, if_pos hdisable] at hsink
    rw [if_pos hdisable, sayAll_disabled _ _ hsink.symm]
    exact ⟨_, rfl, hkeep hshows hmatch'⟩
  · obtain ⟨log', hlog, hshows', hfp, hon⟩ := shows_sayAll hshows "RMT_LOG:".toList
      ((gConfigMapping zenoh).map fun mapping =>
        ConfigPrint.printLine mapping (ConfigPrint.shown (c mapping.pointer)))
    rw [if_neg hdisable, ConfigPrint.print_lines h.length (h.reads c hset)]
    refine ⟨{ s with log := log' }, ?_, hkeep hshows' (matches_congr hmatch' hfp hon)⟩
    simp only [Option.bind_some]
    rw [Option.bind_eq_some_iff]
    exact ⟨log', hlog, rfl⟩

theorem refines_deinit (h : Refines zenoh s a) :
    ∃ s', deinit s = some s' ∧ Refines zenoh s' (a.next zenoh .deinit) := by
  obtain ⟨t, ht, hmatch⟩ := h.logfile
  obtain ⟨log, hexit, hshows, hfp, hon⟩ := h.shows.exit hmatch
  refine ⟨{ s with globals := { s.globals with gRmtCfgStatus := .notInit }, log }, ?_, ?_⟩
  · rw [deinit, ht]
    simp only [Option.bind_eq_bind, Option.bind_some, hexit]
  · exact ⟨h.length, by simp [Spec.next], by simp [Spec.next], h.runtime, h.interface, h.ip,
      hshows, ⟨t, ht, Logger.matches_idle t hfp hon⟩, fun _ => ⟨hfp, hon⟩⟩

theorem refines_serverConfigure (h : Refines zenoh s a) (he : Clean zenoh e)
    {interface : Option Text} (hfits : FitsField interface) (domainId : BitVec 32) :
    ∃ s', rmtServerConfigure zenoh e interface domainId s = some s' ∧
      Refines zenoh s' (a.next zenoh (.serverConfigure e interface domainId)) := by
  obtain ⟨mid, c, hmid, hbegin, hset⟩ := refines_begin h he
  obtain ⟨cfg, hcfg, hlen, hreads, hlogfile⟩ :=
    setInterface_read hbegin.length (hbegin.reads c hset) hfits
  obtain ⟨hlen', hreads', hlogfile'⟩ := domainId_stored hlen hreads domainId
  have hstore := refines_store hbegin hset hlen' hreads' (hlogfile'.trans hlogfile)
  rw [rmtServerConfigure, hmid, Spec.next, hset]
  simp only [Option.bind_eq_bind, Option.bind_some, hcfg, Option.map_some]
  exact ⟨_, rfl, hstore⟩

theorem refines_agentConfigure (h : Refines zenoh s a) (he : Clean zenoh e)
    {config : Option RmtAgentCfg} (hfits : ∀ c ∈ config, FitsField c.netInterface) :
    ∃ s', rmtAgentConfigure zenoh e config s = some s' ∧
      Refines zenoh s' (a.next zenoh (.agentConfigure e config)) := by
  obtain ⟨mid, c, hmid, hbegin, hset⟩ := refines_begin h he
  rw [rmtAgentConfigure, hmid, Spec.next, hset]
  simp only [Option.bind_eq_bind, Option.bind_some, Option.map_some]
  cases config with
  | none =>
    refine ⟨mid, rfl, ?_⟩
    rw [agentSettings, ← hset]
    exact hbegin
  | some config =>
    obtain ⟨hlen, hreads, hlogfile⟩ := deviceId_stored hbegin.length (hbegin.reads c hset)
      config.deviceId.isLt
    obtain ⟨cfg, hcfg, hlen', hreads', hlogfile'⟩ :=
      setInterface_read hlen hreads (hfits config rfl)
    have hstore := refines_store hbegin hset hlen' hreads' (hlogfile'.trans hlogfile)
    dsimp only
    rw [hcfg]
    exact ⟨_, rfl, hstore⟩

theorem refines_init (h : Refines zenoh s a) (he : Clean zenoh e) :
    ∃ s', init zenoh e s = some s' ∧ Refines zenoh s' (a.next zenoh (.init e)) := by
  obtain ⟨mid, c, hmid, hbegin, hset⟩ := refines_begin h he
  obtain ⟨globals', runtime', c', hstart, hrefines, hset'⟩ := refines_start hbegin hset he.ip
  obtain ⟨s', hopen, hfinal⟩ := refines_openLog (e := e) hrefines hset'
  refine ⟨s', ?_, ?_⟩
  · rw [init, hmid]
    simp only [Option.bind_eq_bind, Option.bind_some, hstart]
    exact hopen
  · rw [Spec.next]
    simp only [hset, Option.elim_some, hset']
    exact hfinal

theorem refines_step {call : Call} (h : Refines zenoh s a) (hcall : CleanCall zenoh call) :
    ∃ s', step zenoh s call = some s' ∧ Refines zenoh s' (a.next zenoh call) := by
  cases call with
  | serverConfigure e interface domainId => exact refines_serverConfigure h hcall.1 hcall.2 domainId
  | agentConfigure e config => exact refines_agentConfigure h hcall.1 hcall.2
  | init e => exact refines_init h hcall
  | log label message =>
    obtain ⟨log, hlog, hshows, hfp, hon⟩ := h.shows.say label message
    obtain ⟨t, ht, hmatch⟩ := h.logfile
    refine ⟨{ s with log }, by rw [step, hlog]; rfl, ?_⟩
    refine ⟨h.length, h.status, h.reads, h.runtime, h.interface, h.ip, hshows,
      ⟨t, ht, matches_congr hmatch hfp hon⟩, fun hidle => ?_⟩
    exact ⟨hfp.trans (h.idle hidle).1, hon.trans (h.idle hidle).2⟩
  | deinit => exact refines_deinit h

set_option maxRecDepth 4000 in
theorem refines_initial (zenoh : Bool) : Refines zenoh (initial zenoh) Spec.initial := by
  refine ⟨by simp [initial], by simp [initial, Spec.initial], by simp [Spec.initial],
    by simp [initial], rfl, rfl, Logger.shows_initial, ⟨[], ?_, ?_⟩, fun _ => ⟨rfl, rfl⟩⟩
  · cases zenoh <;> decide
  · exact Logger.matches_idle [] rfl rfl

/-- No sequence of clean calls faults, and the code holds what they mean. -/
theorem run_refines {calls : List Call} (hcalls : ∀ call ∈ calls, CleanCall zenoh call) :
    ∃ s, runEvents (step zenoh) (initial zenoh) calls = some s ∧
      Refines zenoh s (calls.foldl (Spec.next zenoh) Spec.initial) := by
  have hok : ∀ {calls : List Call} {a : Spec}, (∀ call ∈ calls, CleanCall zenoh call) →
      RunsWithin (Spec.next zenoh) (fun _ call => CleanCall zenoh call) a calls := by
    intro calls
    induction calls with
    | nil => exact fun _ => trivial
    | cons call calls ih =>
      exact fun h => ⟨h call List.mem_cons_self, ih fun c hc => h c (List.mem_cons_of_mem _ hc)⟩
  refine runEvents_refines ?_ (refines_initial zenoh) (hok hcalls)
  intro s a call h hcall
  exact refines_step h hcall

end SessionRefinement
