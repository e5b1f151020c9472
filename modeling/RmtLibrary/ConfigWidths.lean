import RmtLibrary.ConfigFields
import RmtLibrary.ConfigLines

/-! # Numbers in fields of eight bytes

`atoi` gives an `int`, and the table search stores its four bytes. In a field of eight bytes the
upper four keep what they held. -/
namespace ConfigWidths

open ByteBlock (littleEndian ofLittleEndian read write)
open ConfigFields
open ConfigLines
open CString (Text Memory isSpace nul)
open RmtConfig
open TwoRuns (rel_cases)

def number (f : Field) (cfg : Memory) : ℕ := ofLittleEndian (bytes f cfg)

/-- What is stored of the digits of `n`: `strtol` saturates at its largest value. -/
theorem atoi_digits (n : ℕ) :
    (CString.atoi (Nat.toDigits 10 n)).toNat = min n (2 ^ 63 - 1) % 2 ^ 32 := by
  have hdigits : CString.decimal (Nat.toDigits 10 n) = n := CString.decimal_formatInt (.ofNat n)
  have hclamp : max (-2 ^ 63) (min (n : ℤ) (2 ^ 63 - 1)) = ((min n (2 ^ 63 - 1) : ℕ) : ℤ) := by
    omega
  rw [CString.atoi, hdigits, hclamp, BitVec.ofInt_natCast, BitVec.toNat_ofNat]

theorem ofLittleEndian_lt {cs : Memory} (h : ∀ c ∈ cs, c.toNat < 256) :
    ofLittleEndian cs < 256 ^ cs.length := by
  induction cs with
  | nil => simp [ofLittleEndian]
  | cons c cs ih =>
    have hc := h c List.mem_cons_self
    have hcs := ih fun d hd => h d (List.mem_cons_of_mem _ hd)
    rw [ofLittleEndian, List.length_cons, pow_succ]
    omega

variable {zenoh : Bool} {cfg : Memory}

theorem number_halves {f : Field} (hsize : f.size = 8) (hfit : f.offset + 8 ≤ cfg.length) :
    number f cfg = ofLittleEndian (read cfg f.offset 4) +
      2 ^ 32 * ofLittleEndian (read cfg (f.offset + 4) 4) := by
  rw [number, bytes, hsize, ByteBlock.read_split 4 (by omega), ByteBlock.ofLittleEndian_append,
    ByteBlock.length_read (by omega)]
  norm_num

theorem number_write {f : Field} (hsize : f.size = 8) (hfit : f.offset + 8 ≤ cfg.length) (v : ℕ) :
    number f (write cfg f.offset (littleEndian 4 v)) =
      v % 2 ^ 32 + 2 ^ 32 * ofLittleEndian (read cfg (f.offset + 4) 4) := by
  have hcells : f.offset + (littleEndian 4 v).length ≤ cfg.length := by
    rw [ByteBlock.length_littleEndian]
    omega
  have hlow : read (write cfg f.offset (littleEndian 4 v)) f.offset 4 = littleEndian 4 v := by
    have hself := ByteBlock.read_write_self hcells
    rwa [ByteBlock.length_littleEndian] at hself
  have hhigh : read (write cfg f.offset (littleEndian 4 v)) (f.offset + 4) 4 =
      read cfg (f.offset + 4) 4 := by
    apply ByteBlock.read_write_apart hcells
    rw [ByteBlock.length_littleEndian]
    omega
  rw [number_halves hsize (by rwa [ByteBlock.length_write hcells]), hlow, hhigh,
    ByteBlock.ofLittleEndian_littleEndian]
  norm_num

theorem number_store {f : Field} (hsize : f.size = 8) (hfit : f.offset + 8 ≤ cfg.length)
    (hbytes : ∀ c ∈ cfg, c.toNat < 256) (v : ℕ) :
    number f (write cfg f.offset (littleEndian 4 v)) =
      v % 2 ^ 32 + 2 ^ 32 * (number f cfg / 2 ^ 32) := by
  have hold : ofLittleEndian (read cfg f.offset 4) < 2 ^ 32 := by
    have hcells : ∀ c ∈ read cfg f.offset 4, c.toNat < 256 := fun c hc =>
      hbytes c (List.mem_of_mem_drop (List.mem_of_mem_take hc))
    have hlt := ofLittleEndian_lt hcells
    rwa [ByteBlock.length_read (by omega)] at hlt
  rw [number_write hsize hfit, number_halves hsize hfit]
  omega

theorem halves_eq_iff {n u : ℕ} (hn : n < 2 ^ 64) :
    min n (2 ^ 63 - 1) % 2 ^ 32 + 2 ^ 32 * u = n ↔
      u = n / 2 ^ 32 ∧ (n < 2 ^ 63 ∨ n % 2 ^ 32 = 2 ^ 32 - 1) := by
  omega

theorem int_of_wide {mapping : ConfigMapping} (hm : mapping ∈ gConfigMapping zenoh)
    (hwide : mapping.pointer.size = 8) : mapping.type = .int := by
  cases htype : mapping.type with
  | int => rfl
  | string =>
    have h40 := (mapping_size zenoh mapping hm).1 htype
    omega

theorem scan_entry {mapping : ConfigMapping} (hm : mapping ∈ gConfigMapping zenoh)
    {blanks value rest : Text} (hblanks : ∀ c ∈ blanks, isSpace c = true) (hvalue : value ≠ [])
    (htoken : ∀ c ∈ value, isSpace c = false) (hnul : nul ∉ value) (hlen : value.length < 256)
    (hrest : ∀ c ∈ rest.head?, isSpace c = true) :
    scan zenoh (mapping.name ++ ':' :: (blanks ++ (value ++ rest))) =
      some (some (mapping, value)) := by
  obtain ⟨hne, hcolon, hnul', hkey, hcomment, hblank, hfind⟩ := mapping_name zenoh mapping hm
  have hhead : (mapping.name ++ ':' :: (blanks ++ (value ++ rest))).head? =
      mapping.name.head? := List.head?_append_of_ne_nil _ hne
  rw [scan, hhead, if_neg (not_or.mpr ⟨hcomment, hblank⟩),
    conversions_entry hne hcolon hnul' hkey hblanks hvalue htoken hnul hlen hrest]
  simp [hfind]

theorem scan_digits {mapping : ConfigMapping} (hm : mapping ∈ gConfigMapping zenoh) {n : ℕ}
    (hn : n < 2 ^ 64) {blanks rest : Text} (hblanks : ∀ c ∈ blanks, isSpace c = true)
    (hrest : ∀ c ∈ rest.head?, isSpace c = true) :
    scan zenoh (mapping.name ++ ':' :: (blanks ++ (Nat.toDigits 10 n ++ rest))) =
      some (some (mapping, Nat.toDigits 10 n)) := by
  have hdigit : ∀ c ∈ Nat.toDigits 10 n, c.isDigit = true := fun _ hc =>
    Nat.isDigit_of_mem_toDigits (by decide) (by decide) hc
  have hnul : nul ∉ Nat.toDigits 10 n := fun hm => by
    have h0 := hdigit nul hm
    revert h0
    decide
  have hlong : (Nat.toDigits 10 n).length < 256 := by
    have hle := (Nat.length_toDigits_le_iff (b := 10) (n := n) (k := 20) (by decide)
      (by decide)).mpr (by omega)
    omega
  exact scan_entry hm hblanks Nat.toDigits_ne_nil
    (fun c hc => CString.isSpace_of_isDigit (hdigit c hc)) hnul hlong hrest

/-- After the line of a setting of eight bytes its field is the number that was written exactly
if its upper half was that number's before, and the number is either below `2 ^ 63` or has a
lower half of ones. -/
theorem wide_setting_iff {mapping : ConfigMapping} (hm : mapping ∈ gConfigMapping zenoh)
    (hwide : mapping.pointer.size = 8) {n : ℕ} (hn : n < 2 ^ 64) {b : Buffers} (hb : Sized b)
    (hlen : cfg.length = sizeofRmtConfig zenoh) (hbytes : ∀ c ∈ cfg, c.toNat < 256)
    {blanks rest : Text} (hblanks : ∀ c ∈ blanks, isSpace c = true)
    (hrest : ∀ c ∈ rest.head?, isSpace c = true) :
    ∃ s', lineStep zenoh (mapping.name ++ ':' :: (blanks ++ (Nat.toDigits 10 n ++ rest)))
        (cfg, b) = some s' ∧
      (number mapping.pointer s'.1 = n ↔ number mapping.pointer cfg / 2 ^ 32 = n / 2 ^ 32 ∧
        (n < 2 ^ 63 ∨ n % 2 ^ 32 = 2 ^ 32 - 1)) := by
  have hfit : mapping.pointer.offset + 8 ≤ cfg.length := by
    have hfield := field_fits zenoh _ (mem_fields hm)
    rwa [hwide, ← hlen] at hfield
  have hstep : cfgStep zenoh cfg (mapping.name ++ ':' :: (blanks ++
      (Nat.toDigits 10 n ++ rest))) = some (write cfg mapping.pointer.offset
        (littleEndian 4 (CString.atoi (Nat.toDigits 10 n)).toNat)) := by
    simp [cfgStep, scan_digits hm hn hblanks hrest, assign, storeValue, int_of_wide hm hwide,
      storeNumber]
  rcases rel_cases (lineStep_cfg zenoh (mapping.name ++ ':' :: (blanks ++
    (Nat.toDigits 10 n ++ rest))) cfg hb) with ⟨-, hnone⟩ | ⟨s', cfg', hs, hcfg, rfl, -⟩
  · rw [hstep] at hnone
    cases hnone
  · refine ⟨s', hs, ?_⟩
    rw [← Option.some.inj (hstep.symm.trans hcfg), number_store hwide hfit hbytes, atoi_digits,
      Nat.mod_mod]
    exact halves_eq_iff hn

def deviceIdMapping : ConfigMapping := ⟨"device_id".toList, .int, .deviceId⟩

set_option maxRecDepth 4000 in
theorem device_id_read : ∃ s', lineStep false (deviceIdMapping.name ++ ':' :: ([' '] ++
    (Nat.toDigits 10 6166 ++ ['\n']))) (initRmtCfg false, arrays) = some s' ∧
      number .deviceId s'.1 = 6166 := by
  have hmapping : deviceIdMapping ∈ gConfigMapping false := by decide
  have hn : 6166 < 2 ^ 64 := by decide
  have hblanks : ∀ c ∈ [' '], isSpace c = true := List.forall_mem_singleton.mpr rfl
  have hrest : ∀ c ∈ ['\n'].head?, isSpace c = true := by
    rintro _ ⟨⟩
    rfl
  have hbytes : (initRmtCfg false).all (fun c => decide (c.toNat < 256)) = true := by decide
  obtain ⟨s', hs, hiff⟩ := wide_setting_iff hmapping rfl hn sized_arrays
    (length_initRmtCfg false) (by simpa using hbytes) hblanks hrest
  exact ⟨s', hs, hiff.mpr (by decide)⟩

set_option maxRecDepth 4000 in
/-- The device ID 2^32 is stored as 0, which asks for a generated one. -/
theorem device_id_truncated : ∃ s', lineStep false "device_id: 4294967296\n".toList
    (initRmtCfg false, arrays) = some s' ∧ number .deviceId s'.1 = 0 := by
  have hstep : (cfgStep false (initRmtCfg false) "device_id: 4294967296\n".toList).map
      (number .deviceId) = some 0 := by decide
  rcases rel_cases (lineStep_cfg false "device_id: 4294967296\n".toList (initRmtCfg false)
    sized_arrays) with ⟨-, hnone⟩ | ⟨s', cfg', hs, hcfg, rfl, -⟩
  · rw [hnone] at hstep
    cases hstep
  · rw [hcfg] at hstep
    exact ⟨s', hs, Option.some.inj hstep⟩

end ConfigWidths
