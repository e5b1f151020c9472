import RmtLibrary.ConfigFields
import RmtLibrary.ConfigLines
import RmtLibrary.GuardedExecution

/-! # What a line of the configuration file may change

A line should change the field of its key at most. `fgets` cuts long lines, and each part is judged
as if it were a line. A text of forty characters or more runs into the field behind its own. -/
namespace ConfigFrame

open ByteBlock (read write)
open ConfigFields
open ConfigLines
open CString (Text Memory nul)
open GuardedExecution
open RmtConfig
open TwoRuns (rel_cases)

/-- The field that the key of a line names, unless the line is a comment. -/
def own (zenoh : Bool) (line : Text) : Option Field :=
  if line.head? = some '#' ∨ ':' ∉ line then none
  else ((gConfigMapping zenoh).find? (·.name == line.takeWhile (· != ':'))).map
    ConfigMapping.pointer

def runLine (zenoh : Bool) (s : Memory × Buffers) (line : Text) : Option (Memory × Buffers) :=
  configLoop zenoh (line.length + 1) line s

def TouchesOwn (zenoh : Bool) (s : Memory × Buffers) (line : Text) : Prop :=
  ∃ s', runLine zenoh s line = some s' ∧
    ∀ f ∈ fields zenoh, own zenoh line ≠ some f → bytes f s'.1 = bytes f s.1

structure Whole (zenoh : Bool) (s : Memory × Buffers) : Prop where
  cfg : s.1.length = sizeofRmtConfig zenoh
  buffers : Sized s.2

/-- A read overflows neither array and asks for nothing but a value of the field that fits. -/
def ReadOk (zenoh : Bool) (field : Option Field) (line : Text) : Prop :=
  ∃ asked, scan zenoh line = some asked ∧
    ∀ entry ∈ asked, field = some entry.1.pointer ∧ Inside entry.1 entry.2

def LineOk (zenoh : Bool) (line : Text) : Prop :=
  ∀ r ∈ fileReads line, ReadOk zenoh (own zenoh line) r

theorem scan_mem {zenoh : Bool} {line : Text} {entry : ConfigMapping × Text}
    (h : scan zenoh line = some (some entry)) : entry.1 ∈ gConfigMapping zenoh := by
  rw [scan] at h
  split at h
  · cases h
  · obtain ⟨matched, -, h⟩ := Option.map_eq_some_iff.mp h
    obtain ⟨pair, -, h⟩ := Option.bind_eq_some_iff.mp h
    obtain ⟨mapping, hfind, rfl⟩ := Option.map_eq_some_iff.mp h
    exact List.mem_of_find?_eq_some hfind

variable {zenoh : Bool} {field : Option Field} {cfg cfg' : Memory}

theorem cfgStep_ok {line : Text} (hok : ReadOk zenoh field line)
    (hlen : cfg.length = sizeofRmtConfig zenoh) :
    ∃ cfg', cfgStep zenoh cfg line = some cfg' ∧ cfg'.length = sizeofRmtConfig zenoh ∧
      ∀ f, field ≠ some f → bytes f cfg' = bytes f cfg := by
  obtain ⟨asked, hscan, hasked⟩ := hok
  cases asked with
  | none => exact ⟨cfg, by simp [cfgStep, hscan, assign], hlen, fun _ _ => rfl⟩
  | some entry =>
    obtain ⟨hfield, hin⟩ := hasked entry rfl
    obtain ⟨cfg', hs, hlen', hframe⟩ := storeValue_inside (scan_mem hscan) hlen hin
    refine ⟨cfg', by simp [cfgStep, hscan, assign, hs], hlen', ?_⟩
    intro f hf
    apply hframe
    rintro rfl
    exact hf hfield

theorem foldlM_ok {lines : List Text} (hok : ∀ line ∈ lines, ReadOk zenoh field line)
    (hlen : cfg.length = sizeofRmtConfig zenoh) :
    ∃ cfg', lines.foldlM (cfgStep zenoh) cfg = some cfg' ∧
      cfg'.length = sizeofRmtConfig zenoh ∧ ∀ f, field ≠ some f → bytes f cfg' = bytes f cfg := by
  induction lines generalizing cfg with
  | nil => exact ⟨cfg, rfl, hlen, fun _ _ => rfl⟩
  | cons line lines ih =>
    obtain ⟨cfg₁, hs, hlen₁, h₁⟩ := cfgStep_ok (hok line List.mem_cons_self) hlen
    obtain ⟨cfg₂, hs', hlen₂, h₂⟩ := ih (fun l hl => hok l (List.mem_cons_of_mem _ hl)) hlen₁
    refine ⟨cfg₂, by simp [List.foldlM_cons, hs, hs'], hlen₂, ?_⟩
    intro f hf
    rw [h₂ f hf, h₁ f hf]

/-- Whatever the configuration was, the reads leave the same in the cell. -/
def Pins (zenoh : Bool) (lines : List Text) (i : ℕ) : Prop :=
  ∃ c : Char, ∀ cfg cfg', cfg.length = sizeofRmtConfig zenoh →
    lines.foldlM (cfgStep zenoh) cfg = some cfg' → cfg'[i]? = some c

def Keeps (zenoh : Bool) (lines : List Text) (i : ℕ) : Prop :=
  ∀ cfg cfg', cfg.length = sizeofRmtConfig zenoh →
    lines.foldlM (cfgStep zenoh) cfg = some cfg' → cfg'[i]? = cfg[i]?

def Writes (zenoh : Bool) (line : Text) (i : ℕ) : Prop :=
  ∃ entry, scan zenoh line = some (some entry) ∧ entry.1.pointer.offset ≤ i ∧
    i < entry.1.pointer.offset + (cells entry.1 entry.2).length

theorem cfgStep_frame {line : Text} (hlen : cfg.length = sizeofRmtConfig zenoh)
    (hs : cfgStep zenoh cfg line = some cfg') :
    cfg'.length = sizeofRmtConfig zenoh ∧ ∀ i, ¬ Writes zenoh line i → cfg'[i]? = cfg[i]? := by
  obtain ⟨asked, hscan, hs⟩ := Option.bind_eq_some_iff.mp hs
  cases asked with
  | none =>
    obtain rfl := Option.some.inj hs
    exact ⟨hlen, fun _ _ => rfl⟩
  | some entry =>
    obtain ⟨hlen', rfl, hle⟩ := storeValue_frame (scan_mem hscan) hlen hs
    refine ⟨hlen', ?_⟩
    intro i hi
    apply ByteBlock.getElem?_write_apart hle
    by_contra hin
    exact hi ⟨entry, hscan, by omega⟩

theorem foldlM_length {lines : List Text} (hlen : cfg.length = sizeofRmtConfig zenoh)
    (hs : lines.foldlM (cfgStep zenoh) cfg = some cfg') :
    cfg'.length = sizeofRmtConfig zenoh := by
  induction lines generalizing cfg with
  | nil =>
    obtain rfl : cfg = cfg' := Option.some.inj hs
    exact hlen
  | cons line lines ih =>
    rw [List.foldlM_cons] at hs
    obtain ⟨mid, hmid, hs⟩ := Option.bind_eq_some_iff.mp hs
    exact ih (cfgStep_frame hlen hmid).1 hs

theorem length_rmtConfigInit {file : Option Text} {b : Buffers} (hb : Sized b) {old : Memory}
    {g : Globals} (h : rmtConfigInit zenoh file b ⟨.notInit, old⟩ = some g) :
    g.gRmtCfg.length = sizeofRmtConfig zenoh := by
  cases file with
  | none =>
    obtain rfl := Option.some.inj h
    exact length_initRmtCfg zenoh
  | some fp =>
    obtain ⟨s, hs, heq⟩ := Option.bind_eq_some_iff.mp h
    obtain rfl := Option.some.inj heq
    exact foldlM_length (length_initRmtCfg zenoh) ((rmtConfigInit_cfg zenoh fp hb old s.1).mp h)

theorem Writes.pins {line : Text} {i : ℕ} (h : Writes zenoh line i) : Pins zenoh [line] i := by
  obtain ⟨entry, hscan, hlow, hhigh⟩ := h
  obtain ⟨k, rfl⟩ := Nat.exists_eq_add_of_le hlow
  have hk : k < (cells entry.1 entry.2).length := by omega
  refine ⟨(cells entry.1 entry.2)[k], ?_⟩
  intro cfg cfg' hlen hs
  have hstep : storeValue entry.1 entry.2 cfg = some cfg' := by
    simpa [cfgStep, hscan, assign] using hs
  obtain ⟨-, rfl, hle⟩ := storeValue_frame (scan_mem hscan) hlen hstep
  rw [ByteBlock.getElem?_write_inside hle hk, List.getElem?_eq_getElem hk]

theorem pins_or_keeps (zenoh : Bool) (lines : List Text) (i : ℕ) :
    Pins zenoh lines i ∨ (Keeps zenoh lines i ∧ ∀ line ∈ lines, ¬ Writes zenoh line i) := by
  induction lines with
  | nil =>
    refine Or.inr ⟨?_, by simp⟩
    intro cfg cfg' _ hs
    obtain rfl : cfg = cfg' := Option.some.inj hs
    rfl
  | cons line lines ih =>
    rcases ih with ⟨c, hpins⟩ | ⟨hkeeps, hnone⟩
    · left
      refine ⟨c, ?_⟩
      intro cfg cfg' hlen hs
      rw [List.foldlM_cons] at hs
      obtain ⟨mid, hmid, hs⟩ := Option.bind_eq_some_iff.mp hs
      exact hpins mid cfg' (cfgStep_frame hlen hmid).1 hs
    · by_cases hw : Writes zenoh line i
      · left
        obtain ⟨c, hpins⟩ := hw.pins
        refine ⟨c, ?_⟩
        intro cfg cfg' hlen hs
        rw [List.foldlM_cons] at hs
        obtain ⟨mid, hmid, hs⟩ := Option.bind_eq_some_iff.mp hs
        rw [hkeeps mid cfg' (cfgStep_frame hlen hmid).1 hs]
        exact hpins cfg mid hlen (by simp [hmid])
      · right
        refine ⟨?_, by simpa [hw] using hnone⟩
        intro cfg cfg' hlen hs
        rw [List.foldlM_cons] at hs
        obtain ⟨mid, hmid, hs⟩ := Option.bind_eq_some_iff.mp hs
        rw [hkeeps mid cfg' (cfgStep_frame hlen hmid).1 hs, (cfgStep_frame hlen hmid).2 i hw]

/-- The reads of a line change only bytes of `field`, and overflow nothing. -/
def Touches (zenoh : Bool) (field : Option Field) (lines : List Text) (cfg : Memory) : Prop :=
  ∃ cfg', lines.foldlM (cfgStep zenoh) cfg = some cfg' ∧
    ∀ f ∈ fields zenoh, field ≠ some f → bytes f cfg' = bytes f cfg

/-- A cell of another field that a line overwrites shows in some configuration. -/
theorem not_writes_other {lines : List Text}
    (htouch : ∀ cfg, cfg.length = sizeofRmtConfig zenoh → Touches zenoh field lines cfg)
    {line : Text} (hline : line ∈ lines) {g : Field} (hg : g ∈ fields zenoh)
    (hother : field ≠ some g) {k : ℕ} (hk : k < g.size) :
    ¬ Writes zenoh line (g.offset + k) := by
  intro hw
  rcases pins_or_keeps zenoh lines (g.offset + k) with ⟨c, hpins⟩ | ⟨-, hnone⟩
  · obtain ⟨d, hd⟩ : ∃ d : Char, d ≠ c := by
      by_cases ha : c = 'a'
      · exact ⟨'b', by rw [ha]; decide⟩
      · exact ⟨'a', Ne.symm ha⟩
    have hsize := field_fits zenoh g hg
    have hlen : (List.replicate (sizeofRmtConfig zenoh) d).length = sizeofRmtConfig zenoh :=
      List.length_replicate
    obtain ⟨cfg', hrun, hframe⟩ := htouch _ hlen
    have hcell := ByteBlock.getElem?_of_read_eq (hframe g hg hother) hk
    rw [hpins _ cfg' hlen hrun, List.getElem?_replicate, if_pos (by omega)] at hcell
    exact hd (Option.some.inj hcell).symm
  · exact hnone line hline hw

theorem foldlM_scan {lines : List Text} (h : lines.foldlM (cfgStep zenoh) cfg = some cfg')
    {line : Text} (hline : line ∈ lines) : ∃ asked, scan zenoh line = some asked := by
  induction lines generalizing cfg with
  | nil => cases hline
  | cons l lines ih =>
    rw [List.foldlM_cons] at h
    obtain ⟨mid, hmid, h⟩ := Option.bind_eq_some_iff.mp h
    rcases List.mem_cons.mp hline with rfl | hline
    · obtain ⟨asked, hscan, -⟩ := Option.bind_eq_some_iff.mp hmid
      exact ⟨asked, hscan⟩
    · exact ih h hline

theorem readsOk_of_touches {lines : List Text}
    (htouch : ∀ cfg, cfg.length = sizeofRmtConfig zenoh → Touches zenoh field lines cfg) :
    ∀ line ∈ lines, ReadOk zenoh field line := by
  intro line hline
  obtain ⟨cfg', hrun, -⟩ := htouch (List.replicate (sizeofRmtConfig zenoh) nul)
    List.length_replicate
  obtain ⟨asked, hscan⟩ := foldlM_scan hrun hline
  refine ⟨asked, hscan, ?_⟩
  rintro ⟨mapping, value⟩ rfl
  have hm := scan_mem hscan
  have hpos := cells_pos mapping value
  have hown : field = some mapping.pointer := by
    by_contra hother
    have hsize : 0 < mapping.pointer.size := by cases mapping.pointer <;> decide
    exact not_writes_other htouch hline (mem_fields hm) hother hsize
      ⟨_, hscan, Nat.le_refl _, by dsimp only; omega⟩
  refine ⟨hown, ?_⟩
  intro htype
  by_contra hlong
  obtain ⟨g, hg, hne, hoff⟩ := next_field zenoh mapping hm htype
  have hother : field ≠ some g := by
    rw [hown]
    intro he
    exact hne (Option.some.inj he).symm
  have hsize : 0 < g.size := by cases g <;> decide
  have hcells : (cells mapping value).length = value.length + 1 := length_text htype
  exact not_writes_other htouch hline hg hother hsize
    ⟨_, hscan, by dsimp only; omega, by dsimp only at hlong ⊢; omega⟩

theorem touchesOwn_iff {s : Memory × Buffers} (hb : Sized s.2) (line : Text) :
    TouchesOwn zenoh s line ↔ Touches zenoh (own zenoh line) (fileReads line) s.1 := by
  obtain ⟨cfg, b⟩ := s
  rw [TouchesOwn, runLine, configLoop_eq zenoh (Nat.lt_succ_self _)]
  rcases rel_cases (foldlM_cfg zenoh (fileReads line) cfg hb) with
    ⟨hs, hc⟩ | ⟨s', cfg', hs, hc, rfl, -⟩
  · simp [Touches, hs, hc]
  · simp [Touches, hs, hc]

theorem Whole.runLine {s s' : Memory × Buffers} (h : Whole zenoh s) {line : Text}
    (hs : runLine zenoh s line = some s') : Whole zenoh s' := by
  obtain ⟨cfg, b⟩ := s
  rw [ConfigFrame.runLine, configLoop_eq zenoh (Nat.lt_succ_self _)] at hs
  rcases rel_cases (foldlM_cfg zenoh (fileReads line) cfg h.buffers) with
    ⟨hn, -⟩ | ⟨t, cfg', ht, hc, hcfg, hb⟩
  · rw [hn] at hs
    cases hs
  · obtain rfl := Option.some.inj (ht.symm.trans hs)
    exact ⟨hcfg ▸ foldlM_length h.cfg hc, hb⟩

theorem touchesOwn_forall_iff (line : Text) :
    (∀ s, Whole zenoh s → TouchesOwn zenoh s line) ↔ LineOk zenoh line := by
  constructor
  · intro h
    apply readsOk_of_touches
    intro cfg hlen
    exact (touchesOwn_iff sized_arrays line).mp (h (cfg, arrays) ⟨hlen, sized_arrays⟩)
  · intro hok s hs
    rw [touchesOwn_iff hs.buffers]
    obtain ⟨cfg', hrun, -, hframe⟩ := foldlM_ok hok hs.cfg
    exact ⟨cfg', hrun, fun f _ => hframe f⟩

theorem runEvents_lines (zenoh : Bool) (fp : Text) (s : Memory × Buffers) :
    configLoop zenoh (fp.length + 1) fp s = runEvents (runLine zenoh) s (physicalLines fp) := by
  rw [configLoop_eq zenoh (Nat.lt_succ_self _), fileReads_lines]
  induction physicalLines fp generalizing s with
  | nil => rfl
  | cons line lines ih =>
    rw [List.flatMap_cons, List.foldlM_append, runEvents, runLine,
      configLoop_eq zenoh (Nat.lt_succ_self _)]
    congr 1
    funext s'
    exact ih s'

theorem whole_init (zenoh : Bool) {b : Buffers} (hb : Sized b) :
    Whole zenoh (initRmtCfg zenoh, b) := ⟨length_initRmtCfg zenoh, hb⟩

theorem allSteps_of_lineOk {lines : List Text} (hok : ∀ line ∈ lines, LineOk zenoh line)
    {s : Memory × Buffers} (hs : Whole zenoh s) :
    AllSteps (runLine zenoh) (TouchesOwn zenoh) s lines ∧
      ∃ s', runEvents (runLine zenoh) s lines = some s' := by
  induction lines generalizing s with
  | nil => exact ⟨trivial, s, rfl⟩
  | cons line lines ih =>
    have htouch := (touchesOwn_forall_iff line).mpr (hok line List.mem_cons_self) s hs
    obtain ⟨t, ht, hframe⟩ := htouch
    have hrest := ih (fun l hl => hok l (List.mem_cons_of_mem _ hl)) (hs.runLine ht)
    refine ⟨⟨⟨t, ht, hframe⟩, ?_⟩, ?_⟩
    · intro t' ht'
      obtain rfl := Option.some.inj (ht.symm.trans ht')
      exact hrest.1
    · obtain ⟨s', hs'⟩ := hrest.2
      exact ⟨s', by simp [runEvents, ht, hs']⟩

/-- A line changes no field but its own, whatever was configured before, exactly if every part
that `fgets` reads of it is in order. A file of such lines is read without an overflow, and each
of them changes its own field at most. -/
theorem lines_touch_own_iff (zenoh : Bool) (fp : Text) {b : Buffers} (hb : Sized b) :
    (∀ line ∈ physicalLines fp, ((∀ s, Whole zenoh s → TouchesOwn zenoh s line) ↔
      LineOk zenoh line)) ∧
    ((∀ line ∈ physicalLines fp, LineOk zenoh line) →
      AllSteps (runLine zenoh) (TouchesOwn zenoh) (initRmtCfg zenoh, b) (physicalLines fp) ∧
      ∃ s', runEvents (runLine zenoh) (initRmtCfg zenoh, b) (physicalLines fp) = some s' ∧
        ∀ old, rmtConfigInit zenoh (some fp) b ⟨.notInit, old⟩ = some ⟨.init, s'.1⟩) := by
  refine ⟨fun line _ => touchesOwn_forall_iff line, ?_⟩
  intro hok
  obtain ⟨hall, s', hs'⟩ := allSteps_of_lineOk hok (whole_init zenoh hb)
  refine ⟨hall, s', hs', ?_⟩
  intro old
  simp [rmtConfigInit, runEvents_lines, hs']

theorem short_line_touches_own :
    AllSteps (runLine false) (TouchesOwn false) (initRmtCfg false, arrays)
      (physicalLines "domain: 30\n".toList) := by
  refine ((lines_touch_own_iff false "domain: 30\n".toList sized_arrays).2 ?_).1
  have hlines : physicalLines "domain: 30\n".toList = ["domain: 30\n".toList] := by decide
  have hreads : fileReads "domain: 30\n".toList = ["domain: 30\n".toList] := by decide
  have hscan : scan false "domain: 30\n".toList =
      some (some (⟨"domain".toList, .int, .domainId⟩, "30".toList)) := by decide
  rw [hlines]
  intro line hline
  obtain rfl := List.mem_singleton.mp hline
  intro r hr
  rw [hreads] at hr
  obtain rfl := List.mem_singleton.mp hr
  refine ⟨_, hscan, ?_⟩
  intro entry hentry
  obtain rfl := Option.mem_some_iff.mp hentry
  exact ⟨by decide, by rintro ⟨⟩⟩

def interfaceLine (n : ℕ) : Text := ("interface:".toList ++ List.replicate n 'a') ++ ['\n']

def longComment : Text := ('#' :: List.replicate 1022 ' ' ++ "domain:5".toList) ++ ['\n']

theorem fileReads_longComment :
    fileReads longComment = ['#' :: List.replicate 1022 ' ', "domain:5\n".toList] := by
  have hsplit : longComment = ('#' :: List.replicate 1022 ' ') ++ "domain:5\n".toList := by
    have hend : "domain:5\n".toList = "domain:5".toList ++ ['\n'] := by decide
    rw [longComment, hend, List.append_assoc]
  have hline : '\n' ∉ '#' :: List.replicate 1022 ' ' := by
    intro hm
    rcases List.mem_cons.mp hm with h | h
    · cases h
    · cases List.eq_of_mem_replicate h
  have hlen : ('#' :: List.replicate 1022 ' ').length = lineLen - 1 := by
    rw [List.length_cons, List.length_replicate]
    rfl
  rw [fileReads, hsplit, reads_full hline hlen (by decide)]
  congr 1

set_option maxRecDepth 4000 in
/-- A name of 41 characters sets the domain ID to the code of its last one, and a comment sets it
to the number that its second part names. -/
theorem lines_set_domain : physicalLines (interfaceLine 41) = [interfaceLine 41] ∧
    physicalLines longComment = [longComment] ∧
    ¬ TouchesOwn false (initRmtCfg false, arrays) (interfaceLine 41) ∧
    ¬ TouchesOwn false (initRmtCfg false, arrays) longComment := by
  have hdefault : bytes .domainId (initRmtCfg false) = [nul, nul, nul, nul] := by decide
  rw [touchesOwn_iff sized_arrays, touchesOwn_iff sized_arrays]
  refine ⟨by decide, physicalLines_cons ?_ [], ?_, ?_⟩
  · intro hm
    rcases List.mem_append.mp hm with h | h
    · rcases List.mem_cons.mp h with h | h
      · cases h
      · cases List.eq_of_mem_replicate h
    · revert h
      decide
  · rintro ⟨cfg', hrun, hframe⟩
    have hdomain : ((fileReads (interfaceLine 41)).foldlM (cfgStep false)
        (initRmtCfg false)).map (bytes .domainId) = some ['a', nul, nul, nul] := by decide
    rw [hrun, Option.map_some, hframe .domainId (by decide) (by decide), hdefault] at hdomain
    revert hdomain
    decide
  · rintro ⟨cfg', hrun, hframe⟩
    have hcomment : ∀ cfg, cfgStep false cfg ('#' :: List.replicate 1022 ' ') = some cfg :=
      fun _ => rfl
    have hdomain : (cfgStep false (initRmtCfg false) "domain:5\n".toList).map
        (bytes .domainId) = some [Char.ofNat 5, nul, nul, nul] := by decide
    rw [fileReads_longComment, List.foldlM_cons, hcomment, Option.bind_eq_bind,
      Option.bind_some, List.foldlM_cons] at hrun
    obtain ⟨cfg₁, hstep, hlast⟩ := Option.bind_eq_some_iff.mp hrun
    obtain rfl := Option.some.inj hlast
    have hown : own false longComment = none := rfl
    rw [hstep, Option.map_some, hframe .domainId (by decide) (by rw [hown]; simp), hdefault]
      at hdomain
    revert hdomain
    decide

end ConfigFrame
