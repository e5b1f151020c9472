import Mathlib.Data.List.Basic
import Mathlib.Tactic.Ring

/-! # Blocks of bytes

A block is the list of its cells. A range of cells is read and written at an offset, and a number
is stored as its bytes, the lowest first. -/
namespace ByteBlock

section Ranges

variable {α : Type*}

def read (m : List α) (off n : ℕ) : List α := (m.drop off).take n

def write (m : List α) (off : ℕ) (xs : List α) : List α :=
  m.take off ++ xs ++ m.drop (off + xs.length)

variable {m m' xs : List α} {off n : ℕ}

@[simp] theorem length_write (h : off + xs.length ≤ m.length) :
    (write m off xs).length = m.length := by
  simp only [write, List.length_append, List.length_take, List.length_drop]
  omega

theorem getElem?_read (i : ℕ) : (read m off n)[i]? = if i < n then m[off + i]? else none := by
  rw [read, List.getElem?_take, List.getElem?_drop]

theorem getElem?_write (h : off + xs.length ≤ m.length) (i : ℕ) : (write m off xs)[i]? =
    if off ≤ i ∧ i < off + xs.length then xs[i - off]? else m[i]? := by
  have hlen : (m.take off).length = off := by
    rw [List.length_take]
    omega
  rw [write, List.append_assoc, List.getElem?_append, hlen]
  by_cases hlow : i < off
  · rw [if_pos hlow, List.getElem?_take, if_pos hlow, if_neg (by omega)]
  · rw [if_neg hlow, List.getElem?_append]
    by_cases hhigh : i < off + xs.length
    · rw [if_pos (by omega), if_pos (by omega)]
    · rw [if_neg (by omega), if_neg (by omega), List.getElem?_drop]
      congr 1
      omega

theorem getElem?_write_apart (h : off + xs.length ≤ m.length) {i : ℕ}
    (hi : i < off ∨ off + xs.length ≤ i) : (write m off xs)[i]? = m[i]? := by
  rw [getElem?_write h, if_neg (by omega)]

theorem getElem?_write_inside (h : off + xs.length ≤ m.length) {i : ℕ} (hi : i < xs.length) :
    (write m off xs)[off + i]? = xs[i]? := by
  rw [getElem?_write h, if_pos (by omega)]
  congr 1
  omega

theorem read_write_self (h : off + xs.length ≤ m.length) :
    read (write m off xs) off xs.length = xs := by
  apply List.ext_getElem?
  intro i
  rw [getElem?_read]
  split
  · next hi => exact getElem?_write_inside h hi
  · next hi => rw [List.getElem?_eq_none (by omega)]

theorem read_write_apart (h : off + xs.length ≤ m.length) {off' : ℕ}
    (hapart : off' + n ≤ off ∨ off + xs.length ≤ off') :
    read (write m off xs) off' n = read m off' n := by
  apply List.ext_getElem?
  intro i
  rw [getElem?_read, getElem?_read]
  split
  · exact getElem?_write_apart h (by omega)
  · rfl

theorem getElem?_of_read_eq (h : read m off n = read m' off n) {i : ℕ} (hi : i < n) :
    m[off + i]? = m'[off + i]? := by
  have hcell := congrArg (·[i]?) h
  simpa only [getElem?_read, if_pos hi] using hcell

theorem length_read (h : off + n ≤ m.length) : (read m off n).length = n := by
  rw [read, List.length_take, List.length_drop]
  omega

theorem read_split (k : ℕ) (hk : k ≤ n) :
    read m off n = read m off k ++ read m (off + k) (n - k) := by
  have hn : n = k + (n - k) := by omega
  conv_lhs => rw [read, hn, List.take_add, List.drop_drop]
  rfl

end Ranges

def littleEndian : ℕ → ℕ → List Char
  | 0, _ => []
  | n + 1, v => Char.ofNat (v % 256) :: littleEndian n (v / 256)

def ofLittleEndian : List Char → ℕ
  | [] => 0
  | c :: cs => c.toNat + 256 * ofLittleEndian cs

@[simp] theorem length_littleEndian (n v : ℕ) : (littleEndian n v).length = n := by
  induction n generalizing v with
  | zero => rfl
  | succ n ih => rw [littleEndian, List.length_cons, ih]

theorem toNat_byte {b : ℕ} (h : b < 256) : (Char.ofNat b).toNat = b := by
  have hvalid : b.isValidChar := Or.inl (by omega)
  rw [Char.ofNat, dif_pos hvalid]
  rfl

theorem ofLittleEndian_littleEndian (n v : ℕ) :
    ofLittleEndian (littleEndian n v) = v % 256 ^ n := by
  induction n generalizing v with
  | zero => simp [littleEndian, ofLittleEndian, Nat.mod_one]
  | succ n ih =>
    have hbyte : v % 256 < 256 := Nat.mod_lt _ (by decide)
    rw [littleEndian, ofLittleEndian, toNat_byte hbyte, ih, pow_succ', Nat.mod_mul]

theorem ofLittleEndian_append (cs ds : List Char) : ofLittleEndian (cs ++ ds) =
    ofLittleEndian cs + 256 ^ cs.length * ofLittleEndian ds := by
  induction cs with
  | nil => simp [ofLittleEndian]
  | cons c cs ih =>
    rw [List.cons_append, ofLittleEndian, ofLittleEndian, ih, List.length_cons, pow_succ]
    ring

end ByteBlock
