/-!
# Little-endian numbers

A number of a fixed width is written with its least significant byte first.

* `littleEndian w n` is the `w` bytes of `n`; what does not fit is dropped.
* `ofLittleEndian bs` is the number that the bytes `bs` stand for.
* `span w` is how many numbers `w` bytes tell apart.

The two undo each other: `ofLittleEndian_littleEndian` in one direction (modulo `span w`) and
`littleEndian_ofLittleEndian` in the other.
-/

namespace MessageServer.Bytes

/-- The `w` bytes of `n`, least significant first. -/
def littleEndian : Nat → Nat → List UInt8
  | 0, _ => []
  | w + 1, n => UInt8.ofNat (n % 256) :: littleEndian w (n / 256)

/-- The number whose bytes, least significant first, are given. -/
def ofLittleEndian : List UInt8 → Nat
  | [] => 0
  | b :: bs => b.toNat + 256 * ofLittleEndian bs

/-- How many numbers have `w` bytes. -/
def span : Nat → Nat
  | 0 => 1
  | w + 1 => 256 * span w

@[simp] theorem length_littleEndian (w n : Nat) : (littleEndian w n).length = w := by
  induction w generalizing n with
  | zero => rfl
  | succ w ih => simp [littleEndian, ih]

/-- Byte `i` is the lowest one once `i` bytes are shifted out. -/
theorem getElem?_littleEndian {w i : Nat} (n : Nat) (h : i < w) :
    (littleEndian w n)[i]? = some (UInt8.ofNat (n >>> (8 * i))) := by
  induction w generalizing n i with
  | zero => exact absurd h (Nat.not_lt_zero i)
  | succ w ih =>
    cases i with
    | zero =>
      have hlow : UInt8.ofNat (n % 256) = UInt8.ofNat n := UInt8.ofNat_mod_size
      simp [littleEndian, hlow]
    | succ i =>
      have hshift : n / 256 = n >>> 8 := (Nat.shiftRight_eq_div_pow n 8).symm
      rw [littleEndian, List.getElem?_cons_succ, ih _ (Nat.lt_of_succ_lt_succ h), hshift,
        ← Nat.shiftRight_add, Nat.mul_succ, Nat.add_comm]

/-- What does not fit into the bytes is dropped. -/
theorem ofLittleEndian_littleEndian (w n : Nat) :
    ofLittleEndian (littleEndian w n) = n % span w := by
  induction w generalizing n with
  | zero => simp [littleEndian, ofLittleEndian, span, Nat.mod_one]
  | succ w ih =>
    have hb : (UInt8.ofNat (n % 256)).toNat = n % 256 := by simp
    simp only [littleEndian, ofLittleEndian, ih, hb, span, Nat.mod_mul]

theorem ofLittleEndian_lt (bs : List UInt8) : ofLittleEndian bs < span bs.length := by
  induction bs with
  | nil => simp [ofLittleEndian, span]
  | cons b bs ih =>
    have hb := b.toNat_lt
    simp only [ofLittleEndian, List.length_cons, span]
    omega

theorem littleEndian_ofLittleEndian (bs : List UInt8) :
    littleEndian bs.length (ofLittleEndian bs) = bs := by
  induction bs with
  | nil => rfl
  | cons b bs ih =>
    have hb := b.toNat_lt
    have hlow : (b.toNat + 256 * ofLittleEndian bs) % 256 = b.toNat := by omega
    have hrest : (b.toNat + 256 * ofLittleEndian bs) / 256 = ofLittleEndian bs := by omega
    simp only [List.length_cons, littleEndian, ofLittleEndian, hlow, hrest, ih, UInt8.ofNat_toNat]

end MessageServer.Bytes
