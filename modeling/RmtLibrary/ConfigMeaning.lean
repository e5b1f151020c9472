import RmtLibrary.ConfigFrame
import RmtLibrary.ConfigWidths

/-! # What a configuration file means

The grammar of the file: comments, a key before the first colon, and the first token behind it.
Later lines override earlier ones. `sscanf` scans a line without a colon into `key` as a whole,
so that a long one overflows it. -/
namespace ConfigMeaning

open ByteBlock (littleEndian ofLittleEndian read write)
open ConfigFields
open ConfigFrame (scan_mem foldlM_scan)
open ConfigLines
open ConfigWidths (number)
open CString (Text Memory isSpace nul)
open RmtConfig
open TwoRuns (rel_cases)

inductive Value where
  | text (t : Text)
  | number (n : ℤ)
  deriving DecidableEq, Repr

abbrev Config := Field → Value

def defaults : Config
  | .netInterface => .text []
  | .domainId => .number 0
  | .autoDetectInterface => .number 1
  | .logfile => .text "stderr".toList
  | .replyTimeout => .number 3
  | .deviceId => .number 0
  | .datainfoValSize => .number 256
  | .devinfoSize => .number 1024
  | .keepaliveTime => .number 5
  | .supportZenoh => .number 0

def content (line : Text) : Text := line.takeWhile (· != '\n')

def tokens (t : Text) : List Text := (t.splitOnP isSpace).filter (· ≠ [])

def Blank (line : Text) : Prop := content line = [] ∨ (content line).head? = some '#'
  deriving Decidable

def keyPart (line : Text) : Text := (content line).takeWhile (· != ':')

def valuePart (line : Text) : Text := ((content line).dropWhile (· != ':')).tail

def entry (line : Text) : Option (Text × Text) :=
  if Blank line ∨ ':' ∉ line ∨ keyPart line = [] then none
  else (tokens (valuePart line)).head?.map (keyPart line, ·)

def valueOf (type : ConfigType) (value : Text) : Value :=
  match type with
  | .string => .text value
  | .int => .number (CString.decimal value)

def setting (zenoh : Bool) (line : Text) : Option (ConfigMapping × Text) :=
  (entry line).bind fun (key, value) =>
    ((gConfigMapping zenoh).find? (·.name == key)).map (·, value)

def meaningLine (zenoh : Bool) (c : Config) (line : Text) : Config :=
  match setting zenoh line with
  | none => c
  | some (mapping, value) => Function.update c mapping.pointer (valueOf mapping.type value)

def meaning (zenoh : Bool) (fp : Text) : Config :=
  (physicalLines fp).foldl (meaningLine zenoh) defaults

def Accepted (type : ConfigType) (value : Text) : Prop :=
  match type with
  | .string => value.length < 40
  | .int => 0 ≤ CString.decimal value ∧ CString.decimal value < 2 ^ 31

instance (type : ConfigType) (value : Text) : Decidable (Accepted type value) :=
  match type with
  | .string => inferInstanceAs (Decidable (_ < _))
  | .int => inferInstanceAs (Decidable (_ ∧ _))

structure InDomain (zenoh : Bool) (line : Text) : Prop where
  noNul : nul ∉ line
  short : (content line).length ≤ 1022
  key : ¬ Blank line → ':' ∈ line → (keyPart line).length < 128
  value : ∀ pair ∈ entry line, pair.2.length < 256
  known : ∀ pair ∈ setting zenoh line, Accepted pair.1.type pair.2

/-- A text is read up to its terminator, and a number of four bytes as an `int`. -/
def fieldValue (mapping : ConfigMapping) (cfg : Memory) : Option Value :=
  match mapping.type with
  | .string => (CString.cstr (bytes mapping.pointer cfg) 0).map .text
  | .int =>
    if mapping.pointer.size = 4 then
      some (.number (BitVec.ofNat 32 (number mapping.pointer cfg)).toInt)
    else some (.number (number mapping.pointer cfg))

def Reads (zenoh : Bool) (cfg : Memory) (c : Config) : Prop :=
  ∀ mapping ∈ gConfigMapping zenoh, fieldValue mapping cfg = some (c mapping.pointer)

/-- `key` takes the whole of a line without a colon, with its newline. -/
def FitsKey (line : Text) : Prop := ¬ Blank line → ':' ∉ line → line.length < 128

theorem tokens_cons (c : Char) (t : Text) : (tokens (c :: t)).head? =
    if isSpace c then (tokens t).head? else some (c :: t.takeWhile (!isSpace ·)) := by
  have hfirst : ∀ t : Text, (t.splitOnP isSpace).head? = some (t.takeWhile (!isSpace ·)) := by
    intro t
    induction t with
    | nil => rfl
    | cons d t ih =>
      rw [List.splitOnP_cons_eq_if_modifyHead, List.takeWhile_cons]
      cases isSpace d with
      | true => rfl
      | false => simp [List.head?_modifyHead, ih]
  rw [tokens, List.splitOnP_cons_eq_if_modifyHead]
  split
  · rw [List.filter_cons_of_neg (by simp)]
    rfl
  · obtain ⟨first, others, hsplit⟩ := List.exists_cons_of_ne_nil
      (List.splitOnP_ne_nil isSpace t)
    have hf := hfirst t
    rw [hsplit] at hf
    obtain rfl := Option.some.inj hf
    rw [hsplit, List.modifyHead_cons, List.filter_cons_of_pos (by simp)]
    rfl

theorem scanned_token (t : Text) {rest : Text} (hrest : ∀ c ∈ rest, isSpace c = true) :
    ((t ++ rest).dropWhile isSpace).takeWhile (!isSpace ·) = (tokens t).head?.getD [] := by
  induction t with
  | nil =>
    have hdrop : rest.dropWhile isSpace = [] := by simpa using hrest
    rw [List.nil_append, hdrop]
    rfl
  | cons c t ih =>
    rw [tokens_cons, List.cons_append, List.dropWhile_cons]
    split
    · exact ih
    · next hc =>
      have hstop : rest.takeWhile (!isSpace ·) = [] := by
        cases rest with
        | nil => rfl
        | cons d rest => rw [List.takeWhile_cons_of_neg (by simp [hrest d List.mem_cons_self])]
      rw [List.takeWhile_cons_of_pos (by simpa using hc), Option.getD_some]
      congr 1
      clear ih
      induction t with
      | nil => exact hstop
      | cons d t ih =>
        rw [List.cons_append, List.takeWhile_cons, List.takeWhile_cons, ih]

theorem tokens_ne_nil {t value : Text} (h : value ∈ (tokens t).head?) : value ≠ [] := by
  have hm := List.mem_of_mem_head? h
  simpa [tokens] using (List.mem_filter.mp hm).2

theorem physicalLines_shape {fp line : Text} (h : line ∈ physicalLines fp) :
    '\n' ∉ content line ∧ (line = content line ++ ['\n'] ∨ line = content line) := by
  refine ⟨fun hm => by simpa using List.mem_takeWhile_imp hm, ?_⟩
  induction fp generalizing line with
  | nil => cases h
  | cons c fp ih =>
    rw [physicalLines] at h
    split at h
    · next hc =>
      rcases List.mem_cons.mp h with rfl | h
      · subst hc
        exact Or.inl rfl
      · exact ih h
    · next hc =>
      have hcontent : ∀ l, content (c :: l) = c :: content l := fun l =>
        List.takeWhile_cons_of_pos (by simpa using hc)
      split at h
      · obtain rfl := List.mem_singleton.mp h
        exact Or.inr (hcontent []).symm
      · next l ls hl =>
        rcases List.mem_cons.mp h with rfl | h
        · rw [hcontent, List.cons_append]
          exact (ih (hl ▸ List.mem_cons_self)).imp (congrArg _) (congrArg _)
        · exact ih (hl ▸ List.mem_cons_of_mem _ h)

variable {zenoh : Bool} {fp line : Text}

theorem fileReads_short (hline : line ∈ physicalLines fp) (hshort : (content line).length ≤ 1022) :
    fileReads line = [line] := by
  obtain ⟨hnewline, heq | heq⟩ := physicalLines_shape hline
  · rw [heq]
    exact reads_fits hnewline (by rw [lineLen]; omega)
  · rw [← heq] at hnewline hshort
    exact reads_last hnewline (physicalLines_ne_nil hline) (by rw [lineLen]; omega)

theorem blank_iff (hline : line ∈ physicalLines fp) :
    Blank line ↔ line.head? = some '#' ∨ line.head? = some '\n' := by
  have hne := physicalLines_ne_nil hline
  rw [Blank, content]
  cases line with
  | nil => exact absurd rfl hne
  | cons c line =>
    by_cases hc : c = '\n'
    · simp [hc]
    · simp [hc]

theorem line_colon (hline : line ∈ physicalLines fp) (hcolon : ':' ∈ line) :
    ∃ rest, line = keyPart line ++ ':' :: (valuePart line ++ rest) ∧
      ∀ c ∈ rest, isSpace c = true := by
  have hshape := (physicalLines_shape hline).2
  have hin : ':' ∈ content line := by
    rcases hshape with heq | heq
    · rw [heq] at hcolon
      simpa using hcolon
    · rwa [heq] at hcolon
  have hne : (content line).dropWhile (· != ':') ≠ [] := by
    intro h
    have hall := List.dropWhile_eq_nil_iff.mp h ':' hin
    simp at hall
  have hsplit : content line = keyPart line ++ ':' :: valuePart line := by
    have hhead := List.head_dropWhile_not (· != ':') hne
    have hcons := List.cons_head_tail hne
    rw [bne_eq_false_iff_eq.mp hhead] at hcons
    rw [keyPart, valuePart, hcons]
    exact List.takeWhile_append_dropWhile.symm
  rcases hshape with heq | heq
  · refine ⟨['\n'], ?_, List.forall_mem_singleton.mpr rfl⟩
    conv_lhs => rw [heq, hsplit]
    simp
  · refine ⟨[], ?_, by simp⟩
    conv_lhs => rw [heq, hsplit]
    simp

theorem conversions_colon (hline : line ∈ physicalLines fp) (hdom : InDomain zenoh line)
    (hblank : ¬ Blank line) (hcolon : ':' ∈ line) : conversions line = some (entry line) := by
  obtain ⟨rest, heq, hrest⟩ := line_colon hline hcolon
  have hcolon_free : ':' ∉ keyPart line := fun hm => by simpa using List.mem_takeWhile_imp hm
  have htake : line.takeWhile (· != ':') = keyPart line := by
    conv_lhs => rw [heq]
    exact CString.takeWhile_before hcolon_free _
  have hdrop : line.dropWhile (· != ':') = ':' :: (valuePart line ++ rest) := by
    conv_lhs => rw [heq]
    exact CString.dropWhile_before hcolon_free _
  have hkey := hdom.key hblank hcolon
  have hvalue := hdom.value
  rw [entry] at hvalue ⊢
  rw [conversions, CString.takeWhile_without hdom.noNul]
  simp only [htake, hdrop, scanned_token _ hrest]
  by_cases hempty : keyPart line = []
  · rw [if_pos hempty, if_pos (Or.inr (Or.inr hempty))]
  · have hentry : ¬ (Blank line ∨ ':' ∉ line ∨ keyPart line = []) := by tauto
    rw [if_neg hentry] at hvalue ⊢
    rw [if_neg hempty, if_neg (by omega)]
    cases htoken : (tokens (valuePart line)).head? with
    | none => rfl
    | some value =>
      have hlen := hvalue (keyPart line, value) (by rw [htoken]; rfl)
      dsimp only at hlen
      rw [Option.getD_some, if_neg (tokens_ne_nil htoken), if_neg (by omega)]
      rfl

theorem conversions_plain (hne : line ≠ []) (hnul : nul ∉ line) (hcolon : ':' ∉ line) :
    conversions line = if line.length < 128 then some none else none := by
  have hdrop : line.dropWhile (· != ':') = [] :=
    List.dropWhile_eq_nil_iff.mpr (CString.bne_of_not_mem hcolon)
  rw [conversions, CString.takeWhile_without hnul]
  simp only [CString.takeWhile_without hcolon, hdrop, if_neg hne]
  by_cases hlen : line.length < 128
  · rw [if_pos hlen, if_neg (by omega)]
  · rw [if_neg hlen, if_pos (by omega)]

theorem scan_setting (hline : line ∈ physicalLines fp) (hdom : InDomain zenoh line)
    (hfits : FitsKey line) : scan zenoh line = some (setting zenoh line) := by
  rw [scan, setting]
  by_cases hblank : Blank line
  · rw [if_pos ((blank_iff hline).mp hblank), entry, if_pos (Or.inl hblank)]
    rfl
  · rw [if_neg (fun h => hblank ((blank_iff hline).mpr h))]
    by_cases hcolon : ':' ∈ line
    · rw [conversions_colon hline hdom hblank hcolon]
      rfl
    · rw [conversions_plain (physicalLines_ne_nil hline) hdom.noNul hcolon,
        if_pos (hfits hblank hcolon), entry, if_pos (Or.inr (Or.inl hcolon))]
      rfl

theorem setting_spec {mapping : ConfigMapping} {value : Text}
    (h : setting zenoh line = some (mapping, value)) :
    mapping ∈ gConfigMapping zenoh ∧ ∀ c ∈ value, c ∈ line := by
  obtain ⟨⟨key, token⟩, hentry, h⟩ := Option.bind_eq_some_iff.mp h
  obtain ⟨found, hfind, heq⟩ := Option.map_eq_some_iff.mp h
  obtain ⟨rfl, rfl⟩ := Prod.mk.inj heq
  refine ⟨List.mem_of_find?_eq_some hfind, ?_⟩
  rw [entry] at hentry
  split at hentry
  · cases hentry
  · obtain ⟨first, hfirst, heq⟩ := Option.map_eq_some_iff.mp hentry
    obtain ⟨-, rfl⟩ := Prod.mk.inj heq
    have hnone : ∀ c ∈ ([] : Text), isSpace c = true := by simp
    have htoken := scanned_token (valuePart line) hnone
    rw [hfirst, Option.getD_some, List.append_nil] at htoken
    intro c hc
    rw [← htoken] at hc
    exact List.takeWhile_subset _ (List.dropWhile_subset _ (List.mem_of_mem_tail
      (List.dropWhile_subset _ (List.takeWhile_subset _ hc))))

/-- Every number is small, so that the upper half of each field of eight bytes is zero. -/
structure Represents (zenoh : Bool) (cfg : Memory) (c : Config) : Prop where
  length : cfg.length = sizeofRmtConfig zenoh
  reads : Reads zenoh cfg c
  small : ∀ mapping ∈ gConfigMapping zenoh, mapping.type = .int →
    number mapping.pointer cfg < 2 ^ 31

variable {mapping : ConfigMapping} {value : Text} {cfg cfg' : Memory}

theorem atoi_small (h : Accepted .int value) :
    ((CString.atoi value).toNat : ℤ) = CString.decimal value := by
  obtain ⟨hlow, hhigh⟩ := h
  obtain ⟨n, hn⟩ := Int.eq_ofNat_of_zero_le hlow
  have hclamp : max (-2 ^ 63) (min (n : ℤ) (2 ^ 63 - 1)) = n := by omega
  rw [CString.atoi, hn, hclamp, BitVec.ofInt_natCast, BitVec.toNat_ofNat, Nat.mod_eq_of_lt]
  omega

/-- A stored number is the number of its field, if that held a small one. -/
theorem number_set (hm : mapping ∈ gConfigMapping zenoh) (htype : mapping.type = .int)
    (hlen : cfg.length = sizeofRmtConfig zenoh) (hacc : Accepted .int value)
    (hsmall : number mapping.pointer cfg < 2 ^ 31) :
    (number mapping.pointer (write cfg mapping.pointer.offset
      (littleEndian 4 (CString.atoi value).toNat)) : ℤ) = CString.decimal value := by
  have hfit := field_fits zenoh _ (mem_fields hm)
  have hvalue := atoi_small hacc
  obtain ⟨-, hhigh⟩ := hacc
  rw [← hlen] at hfit
  rcases (mapping_size zenoh mapping hm).2 htype with h4 | h8
  · have hcells : mapping.pointer.offset +
        (littleEndian 4 (CString.atoi value).toNat).length ≤ cfg.length := by
      rw [ByteBlock.length_littleEndian]
      omega
    have hself := ByteBlock.read_write_self hcells
    rw [ByteBlock.length_littleEndian] at hself
    rw [number, bytes, h4, hself, ByteBlock.ofLittleEndian_littleEndian, Nat.mod_eq_of_lt, hvalue]
    omega
  · rw [h8] at hfit
    have hhalves := ConfigWidths.number_halves h8 hfit
    rw [ConfigWidths.number_write h8 hfit]
    omega

theorem fieldValue_number (htype : mapping.type = .int)
    (hsmall : number mapping.pointer cfg < 2 ^ 31) :
    fieldValue mapping cfg = some (.number (number mapping.pointer cfg)) := by
  rw [fieldValue, htype]
  dsimp only
  split
  · rw [BitVec.toInt_eq_toNat_of_lt, BitVec.toNat_ofNat, Nat.mod_eq_of_lt (by omega)]
    rw [BitVec.toNat_ofNat, Nat.mod_eq_of_lt (by omega)]
    omega
  · rfl

theorem fieldValue_text (hm : mapping ∈ gConfigMapping zenoh) (htype : mapping.type = .string)
    (hlen : cfg.length = sizeofRmtConfig zenoh) (hacc : Accepted .string value)
    (hnul : nul ∉ value) :
    fieldValue mapping (write cfg mapping.pointer.offset (value ++ [nul])) =
      some (.text value) := by
  have hlt : value.length < 40 := hacc
  have hfit := field_fits zenoh _ (mem_fields hm)
  have h40 := (mapping_size zenoh mapping hm).1 htype
  have hstored : (value ++ [nul]).length = value.length + 1 := by
    rw [List.length_append, List.length_singleton]
  have hcells : mapping.pointer.offset + (value ++ [nul]).length ≤ cfg.length := by omega
  have hfield : ∃ rest, bytes mapping.pointer (write cfg mapping.pointer.offset
      (value ++ [nul])) = value ++ nul :: rest := by
    rw [bytes, h40, ByteBlock.read_split (value ++ [nul]).length (by omega),
      ByteBlock.read_write_self hcells, List.append_assoc]
    exact ⟨_, rfl⟩
  obtain ⟨rest, hrest⟩ := hfield
  have hread : CString.cstr (value ++ nul :: rest) 0 = some value :=
    CString.cstr_after hnul [] rest
  rw [fieldValue, htype, hrest]
  dsimp only
  rw [hread]
  rfl

theorem pointer_injective (zenoh : Bool) : ∀ m ∈ gConfigMapping zenoh,
    ∀ m' ∈ gConfigMapping zenoh, m.pointer = m'.pointer → m = m' := by
  cases zenoh <;> decide

theorem fieldValue_congr (h : bytes mapping.pointer cfg' = bytes mapping.pointer cfg) :
    fieldValue mapping cfg' = fieldValue mapping cfg := by
  rw [fieldValue, fieldValue, number, number, h]

theorem accepted_inside (hacc : Accepted mapping.type value) : Inside mapping value := by
  intro htype
  rwa [htype] at hacc

variable {c : Config}

theorem Represents.own (h : Represents zenoh cfg c) (hm : mapping ∈ gConfigMapping zenoh)
    (hacc : Accepted mapping.type value) (hnul : nul ∉ value) :
    fieldValue mapping (write cfg mapping.pointer.offset (cells mapping value)) =
      some (valueOf mapping.type value) ∧
    (mapping.type = .int → number mapping.pointer (write cfg mapping.pointer.offset
      (cells mapping value)) < 2 ^ 31) := by
  rw [cells]
  cases htype : mapping.type with
  | string =>
    rw [htype] at hacc
    exact ⟨fieldValue_text hm htype h.length hacc hnul, by rintro ⟨⟩⟩
  | int =>
    rw [htype] at hacc
    have hset := number_set hm htype h.length hacc (h.small mapping hm htype)
    have hsmall : number mapping.pointer (write cfg mapping.pointer.offset
        (littleEndian 4 (CString.atoi value).toNat)) < 2 ^ 31 := by
      have hhigh := hacc.2
      omega
    refine ⟨?_, fun _ => hsmall⟩
    dsimp only
    rw [fieldValue_number htype hsmall, hset]
    rfl

theorem Represents.store (h : Represents zenoh cfg c) (hm : mapping ∈ gConfigMapping zenoh)
    (hacc : Accepted mapping.type value) (hnul : nul ∉ value) :
    ∃ cfg', storeValue mapping value cfg = some cfg' ∧
      Represents zenoh cfg' (Function.update c mapping.pointer (valueOf mapping.type value)) := by
  obtain ⟨cfg', hs, hlen, hframe⟩ := storeValue_inside hm h.length (accepted_inside hacc)
  obtain ⟨-, hwrite, -⟩ := storeValue_frame hm h.length hs
  have hown := h.own hm hacc hnul
  rw [← hwrite] at hown
  have hcases : ∀ m ∈ gConfigMapping zenoh, m = mapping ∨ m.pointer ≠ mapping.pointer :=
    fun m hmem => or_iff_not_imp_right.mpr fun heq =>
      pointer_injective zenoh m hmem mapping hm (not_not.mp heq)
  refine ⟨cfg', hs, hlen, ?_, ?_⟩
  · intro m hmem
    rcases hcases m hmem with rfl | hne
    · rw [Function.update_self]
      exact hown.1
    · rw [Function.update_of_ne hne, fieldValue_congr (hframe _ hne)]
      exact h.reads m hmem
  · intro m hmem htype
    rcases hcases m hmem with rfl | hne
    · exact hown.2 htype
    · rw [number, hframe _ hne]
      exact h.small m hmem htype

theorem Represents.step (h : Represents zenoh cfg c) (hline : line ∈ physicalLines fp)
    (hdom : InDomain zenoh line) (hfits : FitsKey line) :
    ∃ cfg', cfgStep zenoh cfg line = some cfg' ∧
      Represents zenoh cfg' (meaningLine zenoh c line) := by
  rw [cfgStep, scan_setting hline hdom hfits, meaningLine, Option.bind_some]
  cases hset : setting zenoh line with
  | none => exact ⟨cfg, rfl, h⟩
  | some pair =>
    obtain ⟨mapping, value⟩ := pair
    obtain ⟨hm, hvalue⟩ := setting_spec hset
    exact h.store hm (hdom.known _ hset) fun hnul => hdom.noNul (hvalue _ hnul)

theorem Represents.run {lines : List Text} (h : Represents zenoh cfg c)
    (hlines : ∀ line ∈ lines, line ∈ physicalLines fp)
    (hdom : ∀ line ∈ lines, InDomain zenoh line) (hfits : ∀ line ∈ lines, FitsKey line) :
    ∃ cfg', lines.foldlM (cfgStep zenoh) cfg = some cfg' ∧
      Represents zenoh cfg' (lines.foldl (meaningLine zenoh) c) := by
  induction lines generalizing cfg c with
  | nil => exact ⟨cfg, rfl, h⟩
  | cons line lines ih =>
    obtain ⟨mid, hmid, hrep⟩ := h.step (hlines line List.mem_cons_self)
      (hdom line List.mem_cons_self) (hfits line List.mem_cons_self)
    obtain ⟨cfg', hrest, hrep'⟩ := ih hrep (fun l hl => hlines l (List.mem_cons_of_mem _ hl))
      (fun l hl => hdom l (List.mem_cons_of_mem _ hl))
      (fun l hl => hfits l (List.mem_cons_of_mem _ hl))
    exact ⟨cfg', by simp [List.foldlM_cons, hmid, hrest], hrep'⟩

set_option maxRecDepth 8000 in
theorem represents_init (zenoh : Bool) : Represents zenoh (initRmtCfg zenoh) defaults := by
  refine ⟨length_initRmtCfg zenoh, ?_, ?_⟩
  · rw [Reads]
    cases zenoh <;> decide
  · cases zenoh <;> decide

theorem fileReads_eq (hshort : ∀ line ∈ physicalLines fp, (content line).length ≤ 1022) :
    fileReads fp = physicalLines fp := by
  rw [fileReads_lines]
  have hone : ∀ lines : List Text, (∀ line ∈ lines, fileReads line = [line]) →
      lines.flatMap fileReads = lines := by
    intro lines hlines
    induction lines with
    | nil => rfl
    | cons line lines ih =>
      rw [List.flatMap_cons, hlines line List.mem_cons_self,
        ih fun l hl => hlines l (List.mem_cons_of_mem _ hl)]
      rfl
  exact hone _ fun line hline => fileReads_short hline (hshort line hline)

theorem means_of_fits (zenoh : Bool) {fp : Text}
    (hdom : ∀ line ∈ physicalLines fp, InDomain zenoh line)
    (hfits : ∀ line ∈ physicalLines fp, FitsKey line) {b : Buffers} (hb : Sized b) (old : Memory) :
    ∃ cfg, rmtConfigInit zenoh (some fp) b ⟨.notInit, old⟩ = some ⟨.init, cfg⟩ ∧
      Reads zenoh cfg (meaning zenoh fp) := by
  simp only [rmtConfigInit_cfg zenoh fp hb,
    fileReads_eq fun line hline => (hdom line hline).short]
  obtain ⟨cfg, hrun, hrep⟩ := (represents_init zenoh).run (fun _ => id) hdom hfits
  exact ⟨cfg, hrun, hrep.reads⟩

/-- `rmt_config_init` leaves what the file means exactly if every line without a colon is short
enough for `key`. -/
theorem config_means_iff (zenoh : Bool) {fp : Text}
    (hdom : ∀ line ∈ physicalLines fp, InDomain zenoh line) {b : Buffers} (hb : Sized b)
    (old : Memory) :
    (∃ cfg, rmtConfigInit zenoh (some fp) b ⟨.notInit, old⟩ = some ⟨.init, cfg⟩ ∧
      Reads zenoh cfg (meaning zenoh fp)) ↔ ∀ line ∈ physicalLines fp, FitsKey line := by
  constructor
  · rintro ⟨cfg, hrun, -⟩ line hline hblank hcolon
    rw [rmtConfigInit_cfg zenoh fp hb,
      fileReads_eq fun line hline => (hdom line hline).short] at hrun
    obtain ⟨asked, hscan⟩ := foldlM_scan hrun hline
    by_contra hlong
    rw [scan, if_neg (fun h => hblank ((blank_iff hline).mpr h)),
      conversions_plain (physicalLines_ne_nil hline) (hdom line hline).noNul hcolon,
      if_neg hlong] at hscan
    cases hscan
  · intro hfits
    exact means_of_fits zenoh hdom hfits hb old

/-- A comment, a key of no setting, and a domain that a later line overrides. -/
def overriding : Text :=
  "# rmt\nuser: me\ndomain: 30\nlogfile: run.log\ndomain: 42\n".toList

theorem overriding_lines : physicalLines overriding = ["# rmt\n".toList, "user: me\n".toList,
    "domain: 30\n".toList, "logfile: run.log\n".toList, "domain: 42\n".toList] := by decide

theorem overriding_domain : ∀ line ∈ physicalLines overriding, InDomain false line := by
  rw [overriding_lines]
  simp only [List.forall_mem_cons, List.not_mem_nil, false_implies, implies_true, and_true]
  refine ⟨?_, ?_, ?_, ?_, ?_⟩
  all_goals exact ⟨by decide, by decide, by decide, by decide, by decide⟩

theorem overriding_fits : ∀ line ∈ physicalLines overriding, FitsKey line := by
  rw [overriding_lines]
  simp only [List.forall_mem_cons, List.not_mem_nil, false_implies, implies_true, and_true]
  refine ⟨?_, ?_, ?_, ?_, ?_⟩
  all_goals exact fun _ _ => by decide

theorem overriding_meaning : meaning false overriding = Function.update (Function.update
    (Function.update defaults .domainId (.number 30)) .logfile (.text "run.log".toList))
      .domainId (.number 42) := by
  have hcomment : setting false "# rmt\n".toList = none := by decide
  have huser : setting false "user: me\n".toList = none := by decide
  have hfirst : setting false "domain: 30\n".toList =
      some (⟨"domain".toList, .int, .domainId⟩, "30".toList) := by decide
  have hlogfile : setting false "logfile: run.log\n".toList =
      some (⟨"logfile".toList, .string, .logfile⟩, "run.log".toList) := by decide
  have hsecond : setting false "domain: 42\n".toList =
      some (⟨"domain".toList, .int, .domainId⟩, "42".toList) := by decide
  rw [meaning, overriding_lines]
  simp only [List.foldl_cons, List.foldl_nil, meaningLine, hcomment, huser, hfirst, hlogfile,
    hsecond]
  rfl

theorem overriding_means : ∃ cfg, rmtConfigInit false (some overriding) arrays ⟨.notInit, []⟩ =
    some ⟨.init, cfg⟩ ∧ Reads false cfg (Function.update (Function.update
      (Function.update defaults .domainId (.number 30)) .logfile (.text "run.log".toList))
        .domainId (.number 42)) := by
  have hmeans := (config_means_iff false overriding_domain sized_arrays []).mpr overriding_fits
  rwa [overriding_meaning] at hmeans

def longWord : Text := List.replicate 127 'a' ++ ['\n']

set_option maxRecDepth 4000 in
theorem long_word_overflows : (∀ line ∈ physicalLines longWord, InDomain false line) ∧
    meaning false longWord = defaults ∧
    ¬ ∃ cfg, rmtConfigInit false (some longWord) arrays ⟨.notInit, []⟩ = some ⟨.init, cfg⟩ := by
  have hlines : physicalLines longWord = [longWord] := by decide
  have hentry : entry longWord = none := by decide
  have hset : setting false longWord = none := by rw [setting, hentry, Option.bind_none]
  have hdom : ∀ line ∈ physicalLines longWord, InDomain false line := by
    rw [hlines]
    intro line hline
    obtain rfl := List.mem_singleton.mp hline
    exact ⟨by decide, by decide, by decide, by simp [hentry], by simp [hset]⟩
  refine ⟨hdom, ?_, ?_⟩
  · rw [meaning, hlines, List.foldl_cons, meaningLine, hset]
    rfl
  · rintro ⟨cfg, hrun⟩
    rw [rmtConfigInit_cfg false longWord sized_arrays,
      fileReads_eq fun line hline => (hdom line hline).short, hlines] at hrun
    obtain ⟨asked, hscan⟩ := foldlM_scan hrun List.mem_cons_self
    have hover : scan false longWord = none := by decide
    rw [hover] at hscan
    cases hscan

end ConfigMeaning
