import RmtLibrary.RmtConfig
import RmtLibrary.TwoRuns

/-! # What the lines of a configuration file ask for

Each read of `fgets` is judged on its own. It asks for nothing, or for one value of the table, or
overflows `key` or `value`. What these arrays hold from before plays no part. -/
namespace ConfigLines

open CString (Text Memory isSpace nul)
open RmtConfig
open TwoRuns (rel_bind rel_cases)

/-- The texts of the two conversions, if both match. Outside, `none` is an overflow. -/
def conversions (line : Text) : Option (Option (Text × Text)) :=
  let line := line.takeWhile (· != nul)
  let key := line.takeWhile (· != ':')
  if key = [] then some none
  else if 128 ≤ key.length then none
  else
    match line.dropWhile (· != ':') with
    | [] => some none
    | _ :: line =>
      let value := (line.dropWhile isSpace).takeWhile (!isSpace ·)
      if value = [] then some none
      else if 256 ≤ value.length then none
      else some (some (key, value))

/-- The entry of the table with its value, if the line has one. -/
def scan (zenoh : Bool) (line : Text) : Option (Option (ConfigMapping × Text)) :=
  if line.head? = some '#' ∨ line.head? = some '\n' then some none
  else (conversions line).map fun matched => matched.bind fun (key, value) =>
    ((gConfigMapping zenoh).find? (·.name == key)).map (·, value)

def assign (cfg : Memory) : Option (ConfigMapping × Text) → Option Memory
  | none => some cfg
  | some (mapping, value) => storeValue mapping value cfg

def cfgStep (zenoh : Bool) (cfg : Memory) (line : Text) : Option Memory :=
  (scan zenoh line).bind (assign cfg)

structure Sized (b : Buffers) : Prop where
  key : b.key.length = 128
  value : b.value.length = 256

def arrays : Buffers := ⟨List.replicate 128 nul, List.replicate 256 nul⟩

theorem sized_arrays : Sized arrays := ⟨List.length_replicate, List.length_replicate⟩

theorem strcpy_fits (dst : Memory) {t : Text} (hn : nul ∉ t) (hfit : t.length < dst.length) :
    ∃ dst', CString.strcpy dst t = some dst' ∧ dst'.length = dst.length ∧
      CString.cstr dst' 0 = some t :=
  ⟨_, if_pos hfit, CString.length_writeText hfit, CString.cstr_writeText hn dst⟩

/-- What a call of `sscanf` leaves in the arrays, against what it matched. -/
def Leaves (r : Buffers × ℤ) : Option (Text × Text) → Prop
  | none => Sized r.1 ∧ r.2 ≠ 2
  | some (key, value) => Sized r.1 ∧ r.2 = 2 ∧ CString.cstr r.1.key 0 = some key ∧
      CString.cstr r.1.value 0 = some value

theorem sscanf_leaves (line : Text) {b : Buffers} (hb : Sized b) :
    Option.Rel Leaves (sscanfKeyValue line b) (conversions line) := by
  have hn : nul ∉ line.takeWhile (· != nul) := fun hm => by
    simpa using List.mem_takeWhile_imp hm
  simp only [sscanfKeyValue, conversions]
  generalize line.takeWhile (· != nul) = line at hn ⊢
  have hkey : nul ∉ line.takeWhile (· != ':') := fun hm => hn (List.takeWhile_subset _ hm)
  cases line with
  | nil => exact .some ⟨hb, by simp⟩
  | cons c line =>
    generalize hk : (c :: line).takeWhile (· != ':') = key at hkey ⊢
    cases key with
    | nil => exact .some ⟨hb, by simp⟩
    | cons k key =>
      simp only [reduceCtorEq, if_false]
      by_cases hover : 128 ≤ (k :: key).length
      · rw [if_pos hover, CString.strcpy, if_neg (by rw [hb.key]; omega)]
        exact .none
      · rw [if_neg hover]
        obtain ⟨keyBuf, hcopy, hlen, hread⟩ := strcpy_fits b.key hkey
          (by rw [hb.key]; omega)
        rw [hcopy]
        simp only [Option.bind_eq_bind, Option.bind_some]
        have hsized : Sized { b with key := keyBuf } := ⟨hlen.trans hb.key, hb.value⟩
        have hdrop : nul ∉ (c :: line).dropWhile (· != ':') := fun hm =>
          hn (List.dropWhile_subset _ hm)
        generalize (c :: line).dropWhile (· != ':') = rest at hdrop ⊢
        cases rest with
        | nil => exact .some ⟨hsized, by simp⟩
        | cons d rest =>
          have hvalue : nul ∉ (rest.dropWhile isSpace).takeWhile (!isSpace ·) := fun hm =>
            hdrop (List.mem_cons_of_mem _
              (List.dropWhile_subset _ (List.takeWhile_subset _ hm)))
          dsimp only
          generalize (rest.dropWhile isSpace).takeWhile (!isSpace ·) = value at hvalue ⊢
          cases value with
          | nil => exact .some ⟨hsized, by simp⟩
          | cons v value =>
            simp only [reduceCtorEq, if_false]
            by_cases hover : 256 ≤ (v :: value).length
            · rw [if_pos hover, CString.strcpy, if_neg (by rw [hb.value]; omega)]
              exact .none
            · rw [if_neg hover]
              obtain ⟨valueBuf, hcopy, hlen', hread'⟩ := strcpy_fits b.value hvalue
                (by rw [hb.value]; omega)
              rw [hcopy]
              exact .some ⟨⟨hlen.trans hb.key, hlen'.trans hb.value⟩, rfl, hread, hread'⟩

/-- The configuration after a read does not depend on the arrays. -/
theorem lineStep_cfg (zenoh : Bool) (line : Text) (cfg : Memory) {b : Buffers} (hb : Sized b) :
    Option.Rel (fun s cfg' => s.1 = cfg' ∧ Sized s.2) (lineStep zenoh line (cfg, b))
      (cfgStep zenoh cfg line) := by
  rw [lineStep, cfgStep, scan]
  split
  · exact .some ⟨rfl, hb⟩
  · rcases rel_cases (sscanf_leaves line hb) with ⟨hs, hc⟩ | ⟨⟨b', n⟩, matched, hs, hc, hleaves⟩
    · rw [hs, hc]
      exact .none
    · rw [hs, hc]
      simp only [Option.bind_eq_bind, Option.bind_some, Option.map_some]
      cases matched with
      | none =>
        rw [if_pos hleaves.2]
        exact .some ⟨rfl, hleaves.1⟩
      | some entry =>
        obtain ⟨hsized, hn, hkey, hvalue⟩ := hleaves
        rw [if_neg (not_not.mpr hn), hkey]
        simp only [Option.bind_some]
        cases (gConfigMapping zenoh).find? (·.name == entry.1) with
        | none => exact .some ⟨rfl, hsized⟩
        | some mapping =>
          simp only [hvalue, Option.bind_some, Option.map_some, assign]
          cases storeValue mapping entry.2 cfg with
          | none => exact .none
          | some cfg' => exact .some ⟨rfl, hsized⟩

theorem isSpace_nul : isSpace nul = false := by decide

theorem conversions_entry {key blanks value rest : Text} (hne : key ≠ []) (hcolon : ':' ∉ key)
    (hnul : nul ∉ key) (hkey : key.length < 128) (hblanks : ∀ c ∈ blanks, isSpace c = true)
    (hvalue : value ≠ []) (htoken : ∀ c ∈ value, isSpace c = false) (hnul' : nul ∉ value)
    (hlen : value.length < 256) (hrest : ∀ c ∈ rest.head?, isSpace c = true) :
    conversions (key ++ ':' :: (blanks ++ (value ++ rest))) = some (some (key, value)) := by
  have hnulBlanks : nul ∉ blanks := fun hm => by simpa [isSpace_nul] using hblanks nul hm
  have hline : (key ++ ':' :: (blanks ++ (value ++ rest))).takeWhile (· != nul) =
      key ++ ':' :: (blanks ++ (value ++ rest.takeWhile (· != nul))) := by
    rw [List.takeWhile_append_of_pos (CString.bne_of_not_mem hnul),
      List.takeWhile_cons_of_pos (by decide),
      List.takeWhile_append_of_pos (CString.bne_of_not_mem hnulBlanks),
      List.takeWhile_append_of_pos (CString.bne_of_not_mem hnul')]
  have hstop : (rest.takeWhile (· != nul)).takeWhile (!isSpace ·) = [] := by
    cases rest with
    | nil => rfl
    | cons c rest =>
      have hc := hrest c rfl
      rw [List.takeWhile_cons]
      split
      · rw [List.takeWhile_cons_of_neg (by simp [hc])]
      · rfl
  have htake : ((blanks ++ (value ++ rest.takeWhile (· != nul))).dropWhile isSpace).takeWhile
      (!isSpace ·) = value := by
    obtain ⟨v, vs, rfl⟩ := List.exists_cons_of_ne_nil hvalue
    have hv := htoken v List.mem_cons_self
    rw [List.dropWhile_append_of_pos hblanks, List.cons_append,
      List.dropWhile_cons_of_neg (by simp [hv]), ← List.cons_append,
      List.takeWhile_append_of_pos (by simpa using htoken), hstop, List.append_nil]
  rw [conversions, hline]
  simp only [CString.takeWhile_before hcolon, CString.dropWhile_before hcolon, htake]
  rw [if_neg hne, if_neg (by omega), if_neg hvalue, if_neg (by omega)]

/-- The texts that the calls of `fgets` read, each up to `n` characters, where `room` is what is
left for the first one. -/
def reads (n : ℕ) : ℕ → Text → List Text
  | _, [] => []
  | room, c :: fp =>
    if c = '\n' ∨ room ≤ 1 then [c] :: reads n n fp
    else
      match reads n (room - 1) fp with
      | [] => [[c]]
      | line :: lines => (c :: line) :: lines

@[simp] theorem reads_nil (n room : ℕ) : reads n room [] = [] := by rw [reads]

theorem reads_fgets (n : ℕ) {room : ℕ} (hroom : 0 < room) {fp : Text} (hfp : fp ≠ []) :
    reads n room fp = (fgets room fp).1 :: reads n n (fgets room fp).2 := by
  induction room generalizing fp with
  | zero => omega
  | succ room ih =>
    obtain ⟨c, fp, rfl⟩ := List.exists_cons_of_ne_nil hfp
    rw [reads, fgets]
    by_cases hc : c = '\n'
    · simp [hc]
    · simp only [hc, if_false, false_or, Nat.add_sub_cancel]
      cases room with
      | zero => simp [fgets]
      | succ room =>
        rw [if_neg (by omega)]
        cases fp with
        | nil => simp [fgets]
        | cons d fp => rw [ih (by omega) (by simp)]

theorem fgets_shorter {n : ℕ} (hn : 0 < n) {fp : Text} (hfp : fp ≠ []) :
    (fgets n fp).2.length < fp.length := by
  induction n generalizing fp with
  | zero => omega
  | succ n ih =>
    obtain ⟨c, fp, rfl⟩ := List.exists_cons_of_ne_nil hfp
    rw [fgets]
    split
    · simp
    · cases n with
      | zero => simp [fgets]
      | succ n =>
        cases fp with
        | nil => simp [fgets]
        | cons d fp =>
          have hrest := ih (by omega) (List.cons_ne_nil d fp)
          simp only [List.length_cons] at hrest ⊢
          omega

def fileReads (fp : Text) : List Text := reads (lineLen - 1) (lineLen - 1) fp

theorem configLoop_eq (zenoh : Bool) {fuel : ℕ} {fp : Text} (hfuel : fp.length < fuel)
    (s : Memory × Buffers) : configLoop zenoh fuel fp s =
      (fileReads fp).foldlM (fun s line => lineStep zenoh line s) s := by
  induction fuel generalizing fp s with
  | zero => omega
  | succ fuel ih =>
    rw [configLoop]
    by_cases hfp : fp = []
    · subst hfp
      rfl
    · have hpos : 0 < lineLen - 1 := by decide
      have hshort := fgets_shorter hpos hfp
      rw [if_neg hfp, fileReads, reads_fgets _ hpos hfp, List.foldlM_cons]
      dsimp only
      congr 1
      funext s'
      exact ih (by omega) s'

theorem foldlM_cfg (zenoh : Bool) (lines : List Text) (cfg : Memory) {b : Buffers}
    (hb : Sized b) : Option.Rel (fun s cfg' => s.1 = cfg' ∧ Sized s.2)
      (lines.foldlM (fun s line => lineStep zenoh line s) (cfg, b))
      (lines.foldlM (cfgStep zenoh) cfg) := by
  induction lines generalizing cfg b with
  | nil => exact .some ⟨rfl, hb⟩
  | cons line lines ih =>
    rw [List.foldlM_cons, List.foldlM_cons]
    refine rel_bind (lineStep_cfg zenoh line cfg hb) ?_
    rintro ⟨cfg', b'⟩ _ ⟨rfl, hb'⟩
    exact ih cfg' hb'

theorem rmtConfigInit_cfg (zenoh : Bool) (fp : Text) {b : Buffers} (hb : Sized b)
    (old cfg : Memory) :
    rmtConfigInit zenoh (some fp) b ⟨.notInit, old⟩ = some ⟨.init, cfg⟩ ↔
      (fileReads fp).foldlM (cfgStep zenoh) (initRmtCfg zenoh) = some cfg := by
  simp only [rmtConfigInit, ne_eq, not_true, if_false, configLoop_eq zenoh (Nat.lt_succ_self _)]
  rcases rel_cases (foldlM_cfg zenoh (fileReads fp) (initRmtCfg zenoh) hb) with
    ⟨hs, hc⟩ | ⟨s', cfg', hs, hc, rfl, -⟩
  · simp [hs, hc]
  · simp [hs, hc]

def physicalLines : Text → List Text
  | [] => []
  | c :: fp =>
    if c = '\n' then [c] :: physicalLines fp
    else
      match physicalLines fp with
      | [] => [[c]]
      | line :: lines => (c :: line) :: lines

theorem reads_ne_nil (n room : ℕ) {fp : Text} (hfp : fp ≠ []) : reads n room fp ≠ [] := by
  obtain ⟨c, fp, rfl⟩ := List.exists_cons_of_ne_nil hfp
  rw [reads]
  split
  · exact List.cons_ne_nil _ _
  · split <;> exact List.cons_ne_nil _ _

theorem physicalLines_ne_nil {fp line : Text} (h : line ∈ physicalLines fp) : line ≠ [] := by
  induction fp generalizing line with
  | nil => cases h
  | cons c fp ih =>
    rw [physicalLines] at h
    split at h
    · rcases List.mem_cons.mp h with rfl | h
      · exact List.cons_ne_nil _ _
      · exact ih h
    · split at h
      · obtain rfl := List.mem_singleton.mp h
        exact List.cons_ne_nil _ _
      · next l ls hl =>
        rcases List.mem_cons.mp h with rfl | h
        · exact List.cons_ne_nil _ _
        · exact ih (hl ▸ List.mem_cons_of_mem _ h)

theorem physicalLines_eq_nil {fp : Text} : physicalLines fp = [] ↔ fp = [] := by
  cases fp with
  | nil => simp [physicalLines]
  | cons c fp =>
    rw [physicalLines]
    split
    · simp
    · split <;> simp

theorem physicalLines_cons {line : Text} (hline : '\n' ∉ line) (fp : Text) :
    physicalLines (line ++ '\n' :: fp) = (line ++ ['\n']) :: physicalLines fp := by
  induction line with
  | nil => simp [physicalLines]
  | cons c line ih =>
    obtain ⟨hc, hrest⟩ := not_or.mp (mt List.mem_cons.mpr hline)
    rw [List.cons_append, physicalLines, if_neg (Ne.symm hc), ih hrest]
    rfl

theorem reads_cons_line (n room : ℕ) {fp line : Text} {lines : List Text}
    (h : physicalLines fp = line :: lines) :
    reads n room fp = reads n room line ++ lines.flatMap (reads n n) := by
  induction fp generalizing room line lines with
  | nil => cases h
  | cons c fp ih =>
    rw [physicalLines] at h
    rw [reads]
    cases hl : physicalLines fp with
    | nil =>
      obtain rfl := physicalLines_eq_nil.mp hl
      simp only [physicalLines, ite_self, List.cons.injEq] at h
      obtain ⟨rfl, rfl⟩ := h
      simp [reads]
    | cons l ls =>
      by_cases hc : c = '\n'
      · rw [if_pos hc, hl] at h
        obtain ⟨rfl, rfl⟩ := List.cons.inj h
        rw [if_pos (Or.inl hc), ih n hl, List.flatMap_cons]
        simp [reads, hc]
      · rw [if_neg hc, hl] at h
        obtain ⟨rfl, rfl⟩ := List.cons.inj h
        have hne := physicalLines_ne_nil (hl ▸ List.mem_cons_self : l ∈ physicalLines fp)
        rw [reads]
        by_cases hroom : room ≤ 1
        · rw [if_pos (Or.inr hroom), if_pos (Or.inr hroom), ih n hl, List.cons_append]
        · have hmore : ¬ (c = '\n' ∨ room ≤ 1) := not_or.mpr ⟨hc, hroom⟩
          rw [if_neg hmore, if_neg hmore, ih (room - 1) hl]
          obtain ⟨r, rs, hr⟩ := List.exists_cons_of_ne_nil (reads_ne_nil n (room - 1) hne)
          rw [hr]
          rfl

theorem fileReads_lines (fp : Text) : fileReads fp = (physicalLines fp).flatMap fileReads := by
  cases hl : physicalLines fp with
  | nil =>
    obtain rfl := physicalLines_eq_nil.mp hl
    simp [fileReads]
  | cons line lines => exact reads_cons_line _ _ hl

theorem reads_fits {n room : ℕ} {line : Text} (hline : '\n' ∉ line) (hroom : line.length < room) :
    reads n room (line ++ ['\n']) = [line ++ ['\n']] := by
  induction line generalizing room with
  | nil => simp [reads]
  | cons c line ih =>
    simp only [List.length_cons] at hroom
    obtain ⟨hc, hrest⟩ := not_or.mp (mt List.mem_cons.mpr hline)
    rw [List.cons_append, reads, if_neg (not_or.mpr ⟨Ne.symm hc, by omega⟩), ih hrest (by omega)]

theorem reads_last {n room : ℕ} {line : Text} (hline : '\n' ∉ line) (hne : line ≠ [])
    (hroom : line.length ≤ room) : reads n room line = [line] := by
  induction line generalizing room with
  | nil => exact absurd rfl hne
  | cons c line ih =>
    simp only [List.length_cons] at hroom
    obtain ⟨hc, hrest⟩ := not_or.mp (mt List.mem_cons.mpr hline)
    rw [reads]
    by_cases hlast : line = []
    · subst hlast
      simp
    · have hpos := List.length_pos_of_ne_nil hlast
      rw [if_neg (not_or.mpr ⟨Ne.symm hc, by omega⟩), ih hrest hlast (by omega)]

/-- Behind a full buffer the next read starts inside of the line. -/
theorem reads_full {n room : ℕ} {line : Text} (hline : '\n' ∉ line) (hlen : line.length = room)
    (hroom : 0 < room) (rest : Text) :
    reads n room (line ++ rest) = line :: reads n n rest := by
  induction line generalizing room with
  | nil =>
    simp only [List.length_nil] at hlen
    omega
  | cons c line ih =>
    simp only [List.length_cons] at hlen
    obtain ⟨hc, hrest⟩ := not_or.mp (mt List.mem_cons.mpr hline)
    rw [List.cons_append, reads]
    by_cases hlast : room ≤ 1
    · obtain rfl : line = [] := List.length_eq_zero_iff.mp (by omega)
      rw [if_pos (Or.inr hlast), List.nil_append]
    · rw [if_neg (not_or.mpr ⟨Ne.symm hc, hlast⟩), ih hrest (by omega) (by omega)]

end ConfigLines
