import RmtLibrary.ConfigMeaning

/-! # Printed settings

The messages of `rmt_config_print` have the syntax of the configuration file. Read as such a file
they restore `g_rmt_cfg`, but for an empty name of the log file, which is no value there, a text
with blanks, and a number that an `int` does not hold. A log has a time and a label in front of
each of them. -/
namespace ConfigPrint

open ByteBlock (littleEndian ofLittleEndian read write)
open ConfigFields
open ConfigFrame (scan_mem)
open ConfigLines
open ConfigMeaning
open ConfigWidths (number)
open CString (Text Memory isSpace nul)
open RmtConfig
open TwoRuns (rel_cases)

/-- The two formats, `"%s: %s\n"` and `"%s: %d\n"`. -/
def printLine (mapping : ConfigMapping) (value : Text) : Text :=
  mapping.name ++ ':' :: ' ' :: (value ++ ['\n'])

/-- Every number is printed as an `int`. -/
def printValue (cfg : Memory) (mapping : ConfigMapping) : Option Text :=
  match mapping.type with
  | .string => CString.cstr cfg mapping.pointer.offset
  | .int => some (CString.formatInt
      (BitVec.ofNat 32 (ofLittleEndian (read cfg mapping.pointer.offset 4))).toInt)

/-- The messages of the calls of `RMT_LOG`, without the `MM/DD HH:MM:SS  RMT_LOG:` that the macro
writes before each. -/
def rmtConfigPrint (zenoh : Bool) (cfg : Memory) : Option (List Text) :=
  (gConfigMapping zenoh).mapM fun mapping => (printValue cfg mapping).map (printLine mapping)

/-- The settings that a file can give: it has no empty values, its values have no blanks, and a
number has four bytes. -/
structure Restorable (zenoh : Bool) (c : Config) : Prop where
  logfile : c .logfile ≠ .text []
  plain : ∀ f ∈ fields zenoh, ∀ t, c f = .text t → ∀ ch ∈ t, isSpace ch = false
  narrow : ∀ f ∈ fields zenoh, f.size = 8 → ∀ n, c f = .number n → n < 2 ^ 32

def shown : Value → Text
  | .text t => t
  | .number n => CString.formatInt (BitVec.ofInt 32 n).toInt

variable {zenoh : Bool} {cfg cfg' : Memory} {c : Config} {mapping : ConfigMapping}

theorem cstr_field {f : Field} {t : Text} (h : CString.cstr (bytes f cfg) 0 = some t) :
    CString.cstr cfg f.offset = some t := by
  obtain ⟨post, hsplit⟩ := CString.cstr_split h
  have hnul := CString.cstr_nul_free h
  have hdrop : cfg.drop f.offset = t ++ nul :: (post ++ (cfg.drop f.offset).drop f.size) := by
    conv_lhs => rw [← List.take_append_drop f.size (cfg.drop f.offset)]
    rw [bytes, ByteBlock.read] at hsplit
    rw [hsplit, List.append_assoc, List.cons_append]
  have hread := CString.cstr_after hnul [] (post ++ (cfg.drop f.offset).drop f.size)
  rw [List.nil_append, ← hdrop] at hread
  rwa [CString.cstr, List.length_nil, List.drop_zero] at hread

theorem low_half {f : Field} (hsize : f.size = 8) (hfit : f.offset + 8 ≤ cfg.length) :
    BitVec.ofNat 32 (ofLittleEndian (read cfg f.offset 4)) = BitVec.ofNat 32 (number f cfg) := by
  rw [ConfigWidths.number_halves hsize hfit]
  apply BitVec.eq_of_toNat_eq
  rw [BitVec.toNat_ofNat, BitVec.toNat_ofNat]
  omega

theorem printValue_shown (hlen : cfg.length = sizeofRmtConfig zenoh)
    (hm : mapping ∈ gConfigMapping zenoh) {v : Value} (hv : fieldValue mapping cfg = some v) :
    printValue cfg mapping = some (shown v) := by
  have hfit := field_fits zenoh _ (mem_fields hm)
  rw [fieldValue] at hv
  rw [printValue]
  cases htype : mapping.type with
  | string =>
    rw [htype] at hv
    obtain ⟨t, ht, rfl⟩ := Option.map_eq_some_iff.mp hv
    exact cstr_field ht
  | int =>
    rw [htype] at hv
    dsimp only at hv ⊢
    rcases (mapping_size zenoh mapping hm).2 htype with hsize | hsize
    · rw [if_pos hsize] at hv
      obtain rfl := Option.some.inj hv
      rw [shown, BitVec.ofInt_toInt, number, bytes, hsize]
    · rw [if_neg (by omega)] at hv
      obtain rfl := Option.some.inj hv
      rw [shown, BitVec.ofInt_natCast, low_half hsize (by omega)]

theorem print_lines (hlen : cfg.length = sizeofRmtConfig zenoh) (hc : Reads zenoh cfg c) :
    rmtConfigPrint zenoh cfg = some ((gConfigMapping zenoh).map fun mapping =>
      printLine mapping (shown (c mapping.pointer))) := by
  have hall : ∀ ms : List ConfigMapping, (∀ m ∈ ms, m ∈ gConfigMapping zenoh) →
      (ms.mapM fun mapping => (printValue cfg mapping).map (printLine mapping)) =
        some (ms.map fun mapping => printLine mapping (shown (c mapping.pointer))) := by
    intro ms hms
    induction ms with
    | nil => rfl
    | cons m ms ih =>
      have hm := hms m List.mem_cons_self
      rw [List.mapM_cons, printValue_shown hlen hm (hc m hm),
        ih fun m' hm' => hms m' (List.mem_cons_of_mem _ hm')]
      rfl
  exact hall _ fun _ => id

def restoredValue (mapping : ConfigMapping) : Value → Value
  | .text [] => defaults mapping.pointer
  | .text t => .text t
  | .number n =>
    if mapping.pointer.size = 4 then .number (BitVec.ofInt 32 n).toInt
    else .number (BitVec.ofInt 32 n).toNat

theorem read_value {v : Value} (hlen : cfg.length = sizeofRmtConfig zenoh)
    (hm : mapping ∈ gConfigMapping zenoh) (hv : fieldValue mapping cfg = some v) :
    (mapping.type = .string ∧ ∃ t, v = .text t ∧ nul ∉ t ∧ t.length < 40) ∨
      (mapping.type = .int ∧ ∃ n, v = .number n) := by
  have hfit := field_fits zenoh _ (mem_fields hm)
  rw [fieldValue] at hv
  cases htype : mapping.type with
  | string =>
    rw [htype] at hv
    obtain ⟨t, ht, rfl⟩ := Option.map_eq_some_iff.mp hv
    obtain ⟨post, hsplit⟩ := CString.cstr_split ht
    have hbytes : (bytes mapping.pointer cfg).length = 40 := by
      rw [bytes, ByteBlock.length_read (by omega), (mapping_size zenoh mapping hm).1 htype]
    rw [hsplit, List.length_append, List.length_cons] at hbytes
    exact Or.inl ⟨rfl, t, rfl, CString.cstr_nul_free ht, by omega⟩
  | int =>
    rw [htype] at hv
    dsimp only at hv
    split at hv
    · exact Or.inr ⟨rfl, _, (Option.some.inj hv).symm⟩
    · exact Or.inr ⟨rfl, _, (Option.some.inj hv).symm⟩

theorem scan_printed (hm : mapping ∈ gConfigMapping zenoh) {value : Text}
    (hplain : ∀ ch ∈ value, isSpace ch = false) (hnul : nul ∉ value)
    (hlen : value.length < 256) : scan zenoh (printLine mapping value) =
      some (if value = [] then none else some (mapping, value)) := by
  obtain ⟨hne, hcolon, hname, hshort, hhash, hnewline, -⟩ := mapping_name zenoh mapping hm
  by_cases hempty : value = []
  · subst hempty
    have hhead : (printLine mapping []).head? = mapping.name.head? :=
      List.head?_append_of_ne_nil _ hne
    have htake : (printLine mapping []).takeWhile (· != nul) = printLine mapping [] := by
      rw [printLine, List.takeWhile_append_of_pos (CString.bne_of_not_mem hname)]
      rfl
    rw [scan, hhead, if_neg (not_or.mpr ⟨hhash, hnewline⟩), conversions, htake, printLine,
      CString.takeWhile_before hcolon, CString.dropWhile_before hcolon, if_neg hne,
      if_neg (by omega)]
    rfl
  · have hblank : ∀ ch ∈ [' '], isSpace ch = true := List.forall_mem_singleton.mpr rfl
    have hend : ∀ ch ∈ ['\n'].head?, isSpace ch = true := by
      rintro ch hch
      obtain rfl := Option.mem_some_iff.mp hch
      rfl
    rw [if_neg hempty]
    exact ConfigWidths.scan_entry hm hblank hempty hplain hnul hlen hend

/-- What a printed number becomes in a field that holds its default. -/
theorem stored_number (hm : mapping ∈ gConfigMapping zenoh) (htype : mapping.type = .int)
    (hlen : cfg.length = sizeofRmtConfig zenoh)
    (hdefault : bytes mapping.pointer cfg = bytes mapping.pointer (initRmtCfg zenoh)) (n : ℤ) :
    fieldValue mapping (write cfg mapping.pointer.offset
      (cells mapping (shown (.number n)))) = some (restoredValue mapping (.number n)) := by
  have hfit := field_fits zenoh _ (mem_fields hm)
  have hsmall := (represents_init zenoh).small mapping hm htype
  rw [number, ← hdefault, ← number] at hsmall
  rw [cells, htype, shown, fieldValue, htype, restoredValue]
  dsimp only
  rw [CString.atoi_formatInt]
  generalize BitVec.ofInt 32 n = bv
  have hlt := bv.isLt
  rcases (mapping_size zenoh mapping hm).2 htype with h4 | h8
  · have hcells : mapping.pointer.offset + (littleEndian 4 bv.toNat).length ≤ cfg.length := by
      rw [ByteBlock.length_littleEndian]
      omega
    have hself := ByteBlock.read_write_self hcells
    rw [ByteBlock.length_littleEndian] at hself
    rw [if_pos h4, if_pos h4, number, bytes, h4, hself, ByteBlock.ofLittleEndian_littleEndian,
      Nat.mod_eq_of_lt (by omega), BitVec.ofNat_toNat, BitVec.setWidth_eq]
  · have hlong : mapping.pointer.offset + 8 ≤ cfg.length := by omega
    have hhalves := ConfigWidths.number_halves h8 hlong
    rw [if_neg (by omega), if_neg (by omega), ConfigWidths.number_write h8 hlong]
    congr 2
    omega

def Plain (mapping : ConfigMapping) (v : Value) : Prop :=
  (mapping.type = .string ∧ ∃ t, v = .text t ∧ nul ∉ t ∧ t.length < 40 ∧
    ∀ ch ∈ t, isSpace ch = false) ∨ (mapping.type = .int ∧ ∃ n, v = .number n)

theorem formatInt_plain (r : ℤ) : (∀ ch ∈ CString.formatInt r, isSpace ch = false) ∧
    nul ∉ CString.formatInt r ∧ '\n' ∉ CString.formatInt r ∧ CString.formatInt r ≠ [] := by
  refine ⟨?_, CString.not_mem_formatInt r (by decide) (by decide),
    CString.not_mem_formatInt r (by decide) (by decide), ?_⟩
  · intro ch hch
    rcases CString.formatInt_chars r ch hch with hdigit | rfl
    · exact CString.isSpace_of_isDigit hdigit
    · rfl
  · cases r with
    | ofNat n => exact Nat.toDigits_ne_nil
    | negSucc n => exact List.cons_ne_nil _ _

theorem formatInt_length (bv : BitVec 32) : (CString.formatInt bv.toInt).length < 256 := by
  have hdigits : ∀ n : ℕ, n < 10 ^ 20 → (Nat.toDigits 10 n).length ≤ 20 := fun n hn =>
    (Nat.length_toDigits_le_iff (by decide) (by decide)).mpr hn
  have hlow := BitVec.le_toInt bv
  have hhigh := BitVec.toInt_lt (x := bv)
  cases hr : bv.toInt with
  | ofNat n =>
    rw [hr, Int.ofNat_eq_natCast] at hhigh
    have hlen := hdigits n (by omega)
    rw [CString.formatInt]
    omega
  | negSucc n =>
    have hlen := hdigits (n + 1) (by omega)
    rw [CString.formatInt, List.length_cons]
    omega

theorem restore_line {v : Value} (hm : mapping ∈ gConfigMapping zenoh) (hv : Plain mapping v)
    (hlen : cfg.length = sizeofRmtConfig zenoh)
    (hdefault : bytes mapping.pointer cfg = bytes mapping.pointer (initRmtCfg zenoh)) :
    ∃ cfg', cfgStep zenoh cfg (printLine mapping (shown v)) = some cfg' ∧
      cfg'.length = sizeofRmtConfig zenoh ∧
      fieldValue mapping cfg' = some (restoredValue mapping v) ∧
      ∀ g, g ≠ mapping.pointer → bytes g cfg' = bytes g cfg := by
  have hinit := (represents_init zenoh).reads mapping hm
  rcases hv with ⟨htype, t, rfl, hnul, hshort, hplain⟩ | ⟨htype, n, rfl⟩
  · rw [shown, cfgStep, scan_printed hm hplain hnul (by omega)]
    cases t with
    | nil => exact ⟨cfg, rfl, hlen, (fieldValue_congr hdefault).trans hinit, fun _ _ => rfl⟩
    | cons ch t =>
      obtain ⟨cfg', hs, hlen', hframe⟩ := storeValue_inside hm hlen
        (fun _ => hshort : Inside mapping (ch :: t))
      obtain ⟨-, rfl, -⟩ := storeValue_frame hm hlen hs
      refine ⟨_, hs, hlen', ?_, hframe⟩
      have hread := fieldValue_text hm htype hlen hshort hnul
      rw [cells, htype]
      exact hread
  · obtain ⟨hplain, hnul, -, hne⟩ := formatInt_plain (BitVec.ofInt 32 n).toInt
    obtain ⟨cfg', hs, hlen', hframe⟩ := storeValue_inside hm hlen
      (fun htext => absurd (htype.symm.trans htext) (by simp) :
        Inside mapping (shown (.number n)))
    obtain ⟨-, rfl, -⟩ := storeValue_frame hm hlen hs
    rw [cfgStep, shown, scan_printed hm hplain hnul (formatInt_length _), if_neg hne]
    exact ⟨_, hs, hlen', stored_number hm htype hlen hdefault n, hframe⟩

theorem restore_lines {ms : List ConfigMapping} (hms : ∀ m ∈ ms, m ∈ gConfigMapping zenoh)
    (hnodup : (ms.map ConfigMapping.pointer).Nodup) (hc : ∀ m ∈ ms, Plain m (c m.pointer))
    (hlen : cfg.length = sizeofRmtConfig zenoh)
    (hdefault : ∀ m ∈ ms, bytes m.pointer cfg = bytes m.pointer (initRmtCfg zenoh)) :
    ∃ cfg', (ms.map fun m => printLine m (shown (c m.pointer))).foldlM (cfgStep zenoh) cfg =
        some cfg' ∧
      (∀ m ∈ ms, fieldValue m cfg' = some (restoredValue m (c m.pointer))) ∧
      ∀ f ∉ ms.map ConfigMapping.pointer, bytes f cfg' = bytes f cfg := by
  induction ms generalizing cfg with
  | nil => exact ⟨cfg, rfl, by simp, fun _ _ => rfl⟩
  | cons m ms ih =>
    obtain ⟨hnew, hnodup⟩ := List.nodup_cons.mp hnodup
    have hm := hms m List.mem_cons_self
    obtain ⟨mid, hs, hlen, hown, hframe⟩ := restore_line hm (hc m List.mem_cons_self) hlen
      (hdefault m List.mem_cons_self)
    have hrest : ∀ m' ∈ ms, m'.pointer ≠ m.pointer := fun m' hm' heq =>
      hnew (heq ▸ List.mem_map_of_mem hm')
    obtain ⟨cfg', hrun, hreads, hothers⟩ := ih (fun m' hm' => hms m' (List.mem_cons_of_mem _ hm'))
      hnodup (fun m' hm' => hc m' (List.mem_cons_of_mem _ hm')) hlen
      (fun m' hm' => (hframe _ (hrest m' hm')).trans (hdefault m' (List.mem_cons_of_mem _ hm')))
    refine ⟨cfg', by simp [List.foldlM_cons, hs, hrun], ?_, ?_⟩
    · intro m' hm'
      rcases List.mem_cons.mp hm' with rfl | hm'
      · rw [fieldValue_congr (hothers _ hnew), hown]
      · exact hreads m' hm'
    · intro f hf
      obtain ⟨hne, hf⟩ := not_or.mp (mt List.mem_cons.mpr hf)
      exact (hothers f hf).trans (hframe f hne)

theorem name_line (zenoh : Bool) : ∀ m ∈ gConfigMapping zenoh, '\n' ∉ m.name := by
  cases zenoh <;> decide

theorem shown_line {v : Value} (hm : mapping ∈ gConfigMapping zenoh) (hv : Plain mapping v) :
    '\n' ∉ mapping.name ++ ':' :: ' ' :: shown v ∧ (shown v).length < 256 := by
  have hname := name_line zenoh mapping hm
  have hvalue : '\n' ∉ shown v ∧ (shown v).length < 256 := by
    rcases hv with ⟨-, t, rfl, -, hshort, hplain⟩ | ⟨-, n, rfl⟩
    · exact ⟨fun h => absurd (hplain _ h) (by decide), by rw [shown]; omega⟩
    · exact ⟨(formatInt_plain _).2.2.1, formatInt_length _⟩
  refine ⟨?_, hvalue.2⟩
  simp [hname, hvalue.1]

theorem lines_of_printed {ms : List ConfigMapping} (hms : ∀ m ∈ ms, m ∈ gConfigMapping zenoh)
    (hc : ∀ m ∈ ms, Plain m (c m.pointer)) :
    physicalLines (ms.map fun m => printLine m (shown (c m.pointer))).flatten =
      ms.map fun m => printLine m (shown (c m.pointer)) := by
  induction ms with
  | nil => rfl
  | cons m ms ih =>
    have hline := (shown_line (hms m List.mem_cons_self) (hc m List.mem_cons_self)).1
    have hsplit : printLine m (shown (c m.pointer)) =
        (m.name ++ ':' :: ' ' :: shown (c m.pointer)) ++ ['\n'] := by simp [printLine]
    have hrest := ih (fun m' hm' => hms m' (List.mem_cons_of_mem _ hm'))
      fun m' hm' => hc m' (List.mem_cons_of_mem _ hm')
    rw [List.map_cons, List.flatten_cons, hsplit, List.append_assoc, List.singleton_append,
      physicalLines_cons hline, hrest]

theorem reads_of_printed (hc : ∀ m ∈ gConfigMapping zenoh, Plain m (c m.pointer)) :
    fileReads ((gConfigMapping zenoh).map fun m => printLine m (shown (c m.pointer))).flatten =
      (gConfigMapping zenoh).map fun m => printLine m (shown (c m.pointer)) := by
  have hlines := lines_of_printed (fun _ => id) hc
  rw [fileReads_eq, hlines]
  rw [hlines]
  intro line hline
  obtain ⟨m, hm, rfl⟩ := List.mem_map.mp hline
  have hshown := shown_line hm (hc m hm)
  have hname := (mapping_name zenoh m hm).2.2.2.1
  have hcontent : content (printLine m (shown (c m.pointer))) =
      m.name ++ ':' :: ' ' :: shown (c m.pointer) := by
    have hsplit : printLine m (shown (c m.pointer)) =
        (m.name ++ ':' :: ' ' :: shown (c m.pointer)) ++ '\n' :: [] := by simp [printLine]
    rw [content, hsplit, CString.takeWhile_before hshown.1]
  rw [hcontent]
  simp only [List.length_append, List.length_cons]
  omega

/-- A text that starts inside a stored one is a part of it. -/
theorem text_of_overlap {value t : Text} {o off n : ℕ} (hlow : o ≤ off)
    (hhigh : off ≤ o + value.length) (hfit : o + (value ++ [nul]).length ≤ cfg.length)
    (ht : CString.cstr (read (write cfg o (value ++ [nul])) off n) 0 = some t) :
    ∀ ch ∈ t, ch ∈ value := by
  obtain ⟨post, hsplit⟩ := CString.cstr_split ht
  have hnul := CString.cstr_nul_free ht
  have hcell : ∀ j < t.length, (write cfg o (value ++ [nul]))[off + j]? = t[j]? := by
    intro j hj
    have hj' : t[j]? = (t ++ nul :: post)[j]? := (List.getElem?_append_left hj).symm
    have hread : (t ++ nul :: post)[j]? = some t[j] := by rw [← hj', List.getElem?_eq_getElem hj]
    rw [← hsplit, ByteBlock.getElem?_read] at hread
    rw [← hsplit, ByteBlock.getElem?_read] at hj'
    split at hread
    · next hlt => rw [hj', if_pos hlt]
    · cases hread
  have hinside : ∀ j < t.length, off + j < o + value.length := by
    intro j hj
    by_contra hge
    have hend : o + value.length - off < t.length := by omega
    have hstop := hcell _ hend
    have hindex : off + (o + value.length - off) = o + value.length := by omega
    rw [hindex, ByteBlock.getElem?_write_inside hfit (by simp),
      List.getElem?_append_right (Nat.le_refl _), Nat.sub_self] at hstop
    exact hnul (List.mem_of_getElem? hstop.symm)
  intro ch hch
  obtain ⟨j, hj, rfl⟩ := List.getElem_of_mem hch
  have hlt := hinside j hj
  have hsame := hcell j hj
  have hindex : off + j = o + (off + j - o) := by omega
  rw [hindex, ByteBlock.getElem?_write_inside hfit (by simp; omega),
    List.getElem?_append_left (by omega), List.getElem?_eq_getElem hj] at hsame
  exact List.mem_of_getElem? hsame

def NoBlanks (zenoh : Bool) (cfg : Memory) : Prop :=
  ∀ m ∈ gConfigMapping zenoh, m.type = .string → ∀ t ∈ CString.cstr (bytes m.pointer cfg) 0,
    ∀ ch ∈ t, isSpace ch = false

theorem noBlanks_store (h : NoBlanks zenoh cfg) (hm : mapping ∈ gConfigMapping zenoh)
    (hlen : cfg.length = sizeofRmtConfig zenoh) {value : Text}
    (hplain : ∀ ch ∈ value, isSpace ch = false) (hs : storeValue mapping value cfg = some cfg') :
    NoBlanks zenoh cfg' := by
  obtain ⟨-, hwrite, hfit⟩ := storeValue_frame hm hlen hs
  intro m hmem htype t ht
  by_cases hsame : bytes m.pointer cfg' = bytes m.pointer cfg
  · rw [hsame] at ht
    exact h m hmem htype t ht
  · cases hkind : mapping.type with
    | int =>
      have hne : m.pointer ≠ mapping.pointer := by
        intro heq
        rw [pointer_injective zenoh m hmem mapping hm heq, hkind] at htype
        cases htype
      obtain ⟨_, hs', -, hframe⟩ := storeValue_inside hm hlen
        (fun htext => absurd (hkind.symm.trans htext) (by simp) : Inside mapping value)
      obtain rfl := Option.some.inj (hs.symm.trans hs')
      exact absurd (hframe _ hne) hsame
    | string =>
      rw [cells, hkind] at hwrite hfit
      dsimp only at hwrite hfit
      have hover : mapping.pointer.offset ≤ m.pointer.offset ∧
          m.pointer.offset ≤ mapping.pointer.offset + value.length := by
        by_contra hapart
        refine hsame ?_
        rw [hwrite]
        refine ByteBlock.read_write_apart hfit ?_
        rw [List.length_append, List.length_singleton]
        by_cases heq : m.pointer = mapping.pointer
        · exact absurd ⟨le_of_eq (congrArg _ heq.symm), heq ▸ Nat.le_add_right _ _⟩ hapart
        · rcases fields_apart heq with hbefore | hbehind
          · exact Or.inl hbefore
          · omega
      rw [bytes, hwrite] at ht
      intro ch hch
      exact hplain ch (text_of_overlap hover.1 hover.2 hfit ht ch hch)

theorem conversions_plain_value {line : Text} {entry : Text × Text}
    (h : conversions line = some (some entry)) : ∀ ch ∈ entry.2, isSpace ch = false := by
  rw [conversions] at h
  dsimp only at h
  split at h
  · cases h
  · split at h
    · cases h
    · split at h
      · cases h
      · split at h
        · cases h
        · split at h
          · cases h
          · obtain rfl := Option.some.inj (Option.some.inj h)
            intro ch hch
            simpa using List.mem_takeWhile_imp hch

theorem noBlanks_step (h : NoBlanks zenoh cfg) (hlen : cfg.length = sizeofRmtConfig zenoh)
    {line : Text} (hs : cfgStep zenoh cfg line = some cfg') : NoBlanks zenoh cfg' := by
  obtain ⟨asked, hscan, hs⟩ := Option.bind_eq_some_iff.mp hs
  cases asked with
  | none =>
    obtain rfl := Option.some.inj hs
    exact h
  | some entry =>
    refine noBlanks_store h (scan_mem hscan) hlen ?_ hs
    rw [scan] at hscan
    split at hscan
    · cases hscan
    · obtain ⟨matched, hmatched, hscan⟩ := Option.map_eq_some_iff.mp hscan
      obtain ⟨pair, rfl, hfound⟩ := Option.bind_eq_some_iff.mp hscan
      obtain ⟨found, -, rfl⟩ := Option.map_eq_some_iff.mp hfound
      exact conversions_plain_value hmatched

theorem noBlanks_run {lines : List Text} (h : NoBlanks zenoh cfg)
    (hlen : cfg.length = sizeofRmtConfig zenoh)
    (hs : lines.foldlM (cfgStep zenoh) cfg = some cfg') : NoBlanks zenoh cfg' := by
  induction lines generalizing cfg with
  | nil =>
    obtain rfl : cfg = cfg' := Option.some.inj hs
    exact h
  | cons line lines ih =>
    rw [List.foldlM_cons] at hs
    obtain ⟨mid, hmid, hs⟩ := Option.bind_eq_some_iff.mp hs
    exact ih (noBlanks_step h hlen hmid) (ConfigFrame.cfgStep_frame hlen hmid).1 hs

theorem defaults_plain {f : Field} {t : Text} (h : defaults f = .text t) :
    ∀ ch ∈ t, isSpace ch = false := by
  have hall : t.all (!isSpace ·) = true := by
    cases f <;> cases h <;> rfl
  intro ch hch
  simpa using List.all_eq_true.mp hall ch hch

theorem noBlanks_init (zenoh : Bool) : NoBlanks zenoh (initRmtCfg zenoh) := by
  intro m hm htype t ht
  have hread := (represents_init zenoh).reads m hm
  rw [fieldValue, htype] at hread
  dsimp only at hread
  rw [Option.mem_def.mp ht] at hread
  exact defaults_plain (Option.some.inj hread).symm

theorem text_field (zenoh : Bool) : ∀ m ∈ gConfigMapping zenoh, m.type = .string →
    m.pointer = .netInterface ∨ m.pointer = .logfile := by
  cases zenoh <;> decide

theorem logfile_field (zenoh : Bool) :
    ∃ m ∈ gConfigMapping zenoh, m.type = .string ∧ m.pointer = .logfile := by
  cases zenoh <;> decide

theorem restored_iff (hlen : cfg.length = sizeofRmtConfig zenoh) (hc : Reads zenoh cfg c)
    (hplain : ∀ f ∈ fields zenoh, ∀ t, c f = .text t → ∀ ch ∈ t, isSpace ch = false) :
    (∀ m ∈ gConfigMapping zenoh, restoredValue m (c m.pointer) = c m.pointer) ↔
      Restorable zenoh c := by
  constructor
  · intro hsame
    refine ⟨?_, hplain, ?_⟩
    · intro hempty
      obtain ⟨m, hm, -, hpointer⟩ := logfile_field zenoh
      have hrestored := hsame m hm
      rw [hpointer, hempty, restoredValue, hpointer] at hrestored
      cases hrestored
    · intro f hf hsize n hn
      obtain ⟨m, hm, rfl⟩ := List.mem_map.mp hf
      have hrestored := hsame m hm
      rw [hn, restoredValue, if_neg (by omega)] at hrestored
      have hlt := (BitVec.ofInt 32 n).isLt
      have heq := Value.number.inj hrestored
      omega
  · intro h m hm
    have hv := hc m hm
    rcases read_value hlen hm hv with ⟨htype, t, ht, -, -⟩ | ⟨htype, n, hn⟩
    · rw [ht]
      cases t with
      | cons ch t => rfl
      | nil =>
        rcases text_field zenoh m hm htype with hpointer | hpointer
        · rw [restoredValue, hpointer]
          rfl
        · exact absurd (hpointer ▸ ht) h.logfile
    · rw [hn, restoredValue]
      rw [hn, fieldValue, htype] at hv
      dsimp only at hv
      rcases (mapping_size zenoh m hm).2 htype with hsize | hsize
      · rw [if_pos hsize] at hv ⊢
        rw [← Value.number.inj (Option.some.inj hv), BitVec.ofInt_toInt]
      · have hlt := h.narrow _ (mem_fields hm) hsize n hn
        rw [if_neg (by omega)] at hv ⊢
        rw [← Value.number.inj (Option.some.inj hv)] at hlt ⊢
        rw [BitVec.ofInt_natCast, BitVec.toNat_ofNat, Nat.mod_eq_of_lt (by omega)]

theorem Reads.plain (hlen : cfg.length = sizeofRmtConfig zenoh) (hc : Reads zenoh cfg c)
    (hplain : ∀ f ∈ fields zenoh, ∀ t, c f = .text t → ∀ ch ∈ t, isSpace ch = false) :
    ∀ m ∈ gConfigMapping zenoh, Plain m (c m.pointer) := by
  intro m hm
  rcases read_value hlen hm (hc m hm) with ⟨htype, t, ht, hnul, hshort⟩ | hnumber
  · exact Or.inl ⟨htype, t, ht, hnul, hshort, hplain _ (mem_fields hm) t ht⟩
  · exact Or.inr hnumber

theorem restore_run (hc : ∀ m ∈ gConfigMapping zenoh, Plain m (c m.pointer)) {b : Buffers}
    (hb : Sized b) (old : Memory) :
    ∃ cfg', rmtConfigInit zenoh (some ((gConfigMapping zenoh).map fun m =>
        printLine m (shown (c m.pointer))).flatten) b ⟨.notInit, old⟩ = some ⟨.init, cfg'⟩ ∧
      ∀ m ∈ gConfigMapping zenoh, fieldValue m cfg' = some (restoredValue m (c m.pointer)) := by
  have hnodup : ((gConfigMapping zenoh).map ConfigMapping.pointer).Nodup := by
    cases zenoh <;> decide
  obtain ⟨cfg', hrun, hreads, -⟩ := restore_lines (fun _ => id) hnodup hc
    (length_initRmtCfg zenoh) fun _ _ => rfl
  refine ⟨cfg', ?_, hreads⟩
  rw [rmtConfigInit_cfg zenoh _ hb, reads_of_printed hc]
  exact hrun

/-- The messages of `rmt_config_print`, read by `rmt_config_init`, give the same settings exactly
if each of them is one that a file can give. -/
theorem print_reads_back_iff (hlen : cfg.length = sizeofRmtConfig zenoh) (hc : Reads zenoh cfg c)
    {b : Buffers} (hb : Sized b) (old : Memory) :
    ∃ lines, rmtConfigPrint zenoh cfg = some lines ∧
      ((∃ cfg', rmtConfigInit zenoh (some lines.flatten) b ⟨.notInit, old⟩ =
          some ⟨.init, cfg'⟩ ∧ Reads zenoh cfg' c) ↔ Restorable zenoh c) := by
  refine ⟨_, print_lines hlen hc, ?_⟩
  constructor
  · rintro ⟨cfg', hrun, hreads⟩
    have hlen' := ConfigFrame.length_rmtConfigInit hb hrun
    have hnone := noBlanks_run (noBlanks_init zenoh) (length_initRmtCfg zenoh)
      ((rmtConfigInit_cfg zenoh _ hb old cfg').mp hrun)
    have hplain : ∀ f ∈ fields zenoh, ∀ t, c f = .text t → ∀ ch ∈ t, isSpace ch = false := by
      intro f hf t ht
      obtain ⟨m, hm, rfl⟩ := List.mem_map.mp hf
      have hread := hreads m hm
      rcases read_value hlen' hm hread with ⟨htype, -⟩ | ⟨-, n, hn⟩
      · rw [fieldValue, htype, ht] at hread
        obtain ⟨t', ht', heq⟩ := Option.map_eq_some_iff.mp hread
        obtain rfl := Value.text.inj heq
        exact hnone m hm htype _ ht'
      · cases ht.symm.trans hn
    obtain ⟨cfg'', hrun', hrestored⟩ := restore_run (Reads.plain hlen hc hplain) hb old
    obtain ⟨-, rfl⟩ := Globals.mk.inj (Option.some.inj (hrun.symm.trans hrun'))
    refine (restored_iff hlen hc hplain).mp fun m hm => ?_
    exact Option.some.inj ((hrestored m hm).symm.trans (hreads m hm))
  · intro h
    obtain ⟨cfg', hrun, hrestored⟩ := restore_run (Reads.plain hlen hc h.plain) hb old
    refine ⟨cfg', hrun, fun m hm => ?_⟩
    rw [hrestored m hm, (restored_iff hlen hc h.plain).mpr h m hm]

theorem print_reads_back_overriding : ∃ cfg lines cfg',
    rmtConfigInit false (some overriding) arrays ⟨.notInit, []⟩ = some ⟨.init, cfg⟩ ∧
    rmtConfigPrint false cfg = some lines ∧
    rmtConfigInit false (some lines.flatten) arrays ⟨.notInit, []⟩ = some ⟨.init, cfg'⟩ ∧
    Reads false cfg' (meaning false overriding) := by
  obtain ⟨cfg, hfile, hreads⟩ :=
    means_of_fits false overriding_domain overriding_fits sized_arrays []
  have hlen := ConfigFrame.length_rmtConfigInit sized_arrays hfile
  obtain ⟨lines, hlines, hiff⟩ := print_reads_back_iff hlen hreads sized_arrays []
  have hrestorable : Restorable false (meaning false overriding) := by
    rw [overriding_meaning]
    refine ⟨by decide, ?_, ?_⟩
    · intro f _ t ht
      have hall : t.all (!isSpace ·) = true := by cases f <;> cases ht <;> decide
      simpa using hall
    · intro f _ hsize n hn
      cases f <;> cases hn <;> decide
  obtain ⟨cfg', hrun, hreads'⟩ := hiff.mpr hrestorable
  exact ⟨cfg, lines, cfg', hfile, hlines, hrun, hreads'⟩

end ConfigPrint
