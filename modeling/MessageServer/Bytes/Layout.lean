import MessageServer.Bytes.LittleEndian

/-!
# Fixed layouts

A `Layout α` says how a value of type `α` lies in memory: how many bytes it takes, at which
addresses it may lie, which bytes they are, and which value given bytes stand for.  Layouts of the
machine integers and of byte blocks are joined by `seq` and renamed by `via`; a structure whose
fields follow each other without a gap is described by one such expression.

`Layout.Faithful` is the law every layout here obeys: writing takes exactly `width` bytes,
reading undoes writing whatever follows, and writing undoes reading.  It is kept by `seq` and
`via`, so the law of a composed layout is a composition of laws.
-/

namespace MessageServer.Bytes

/-- How a value lies in memory.  `decode` looks at the first `width` bytes only; where bytes are
missing it reads zero.  A value may be used in place only at an address that is a multiple of
`alignment`. -/
structure Layout (α : Type) where
  width : Nat
  alignment : Nat
  encode : α → List UInt8
  decode : List UInt8 → α

namespace Layout

variable {α β : Type}

/-- Writing takes exactly `width` bytes, and reading and writing undo each other. -/
structure Faithful (l : Layout α) : Prop where
  length_encode : ∀ a, (l.encode a).length = l.width
  decode_encode : ∀ a rest, l.decode (l.encode a ++ rest) = a
  encode_decode : ∀ bs, l.width ≤ bs.length → l.encode (l.decode bs) = bs.take l.width

/-! ## Integers and blocks -/

/-- One byte. -/
def u8 : Layout UInt8 where
  width := 1
  alignment := 1
  encode b := [b]
  decode bs := bs.headD 0

/-- A 32-bit word, least significant byte first. -/
def u32 : Layout UInt32 where
  width := 4
  alignment := 4
  encode w := littleEndian 4 w.toNat
  decode bs := UInt32.ofNat (ofLittleEndian (bs.take 4))

/-- A 64-bit word, least significant byte first. -/
def u64 : Layout UInt64 where
  width := 8
  alignment := 8
  encode w := littleEndian 8 w.toNat
  decode bs := UInt64.ofNat (ofLittleEndian (bs.take 8))

/-- A block of `n` bytes as they are. -/
def block (n : Nat) : Layout (Vector UInt8 n) where
  width := n
  alignment := 1
  encode v := v.toList
  decode bs := Vector.ofFn fun i => bs.getD i 0

/-! ## Joining -/

/-- One value after the other. -/
def seq (l : Layout α) (m : Layout β) : Layout (α × β) where
  width := l.width + m.width
  alignment := max l.alignment m.alignment
  encode p := l.encode p.1 ++ m.encode p.2
  decode bs := (l.decode bs, m.decode (bs.drop l.width))

/-- The same bytes, read as another type. -/
def via (l : Layout α) (into : α → β) (out : β → α) : Layout β where
  width := l.width
  alignment := l.alignment
  encode b := l.encode (out b)
  decode bs := into (l.decode bs)

/-! ## The law -/

/-- Reading looks at no byte behind the value. -/
theorem Faithful.decode_take {l : Layout α} (hl : l.Faithful) {bs : List UInt8}
    (h : l.width ≤ bs.length) : l.decode (bs.take l.width) = l.decode bs := by
  have hdecode := hl.decode_encode (l.decode bs) []
  rwa [hl.encode_decode bs h, List.append_nil] at hdecode

theorem u8_faithful : u8.Faithful where
  length_encode _ := rfl
  decode_encode _ _ := rfl
  encode_decode bs h := by
    cases bs with
    | nil => exact absurd h (by decide)
    | cons b bs => rfl

theorem u32_faithful : u32.Faithful where
  length_encode w := length_littleEndian 4 _
  decode_encode w rest := by
    have hw : w.toNat % span 4 = w.toNat := Nat.mod_eq_of_lt w.toNat_lt
    have ht : (littleEndian 4 w.toNat ++ rest).take 4 = littleEndian 4 w.toNat := by
      rw [List.take_append_of_le_length (by simp), List.take_of_length_le (by simp)]
    simp only [u32, ht, ofLittleEndian_littleEndian, hw, UInt32.ofNat_toNat]
  encode_decode bs h := by
    have hl : (bs.take 4).length = 4 := List.length_take_of_le h
    have hlt : ofLittleEndian (bs.take 4) < 2 ^ 32 := by
      have := ofLittleEndian_lt (bs.take 4)
      rwa [hl] at this
    have hle := littleEndian_ofLittleEndian (bs.take 4)
    rw [hl] at hle
    simp only [u32, UInt32.toNat_ofNat_of_lt' hlt, hle]

theorem u64_faithful : u64.Faithful where
  length_encode w := length_littleEndian 8 _
  decode_encode w rest := by
    have hw : w.toNat % span 8 = w.toNat := Nat.mod_eq_of_lt w.toNat_lt
    have ht : (littleEndian 8 w.toNat ++ rest).take 8 = littleEndian 8 w.toNat := by
      rw [List.take_append_of_le_length (by simp), List.take_of_length_le (by simp)]
    simp only [u64, ht, ofLittleEndian_littleEndian, hw, UInt64.ofNat_toNat]
  encode_decode bs h := by
    have hl : (bs.take 8).length = 8 := List.length_take_of_le h
    have hlt : ofLittleEndian (bs.take 8) < 2 ^ 64 := by
      have := ofLittleEndian_lt (bs.take 8)
      rwa [hl] at this
    have hle := littleEndian_ofLittleEndian (bs.take 8)
    rw [hl] at hle
    simp only [u64, UInt64.toNat_ofNat_of_lt' hlt, hle]

theorem block_faithful (n : Nat) : (block n).Faithful where
  length_encode v := by simp [block]
  decode_encode v rest := by
    apply Vector.ext
    intro i hi
    simp [block, List.getD_eq_getElem?_getD, List.getElem?_append_left]
  encode_decode bs h := by
    apply List.ext_getElem
    · simpa [block] using (Nat.min_eq_left h).symm
    · intro i _ h₂
      have hi : i < min n bs.length := by simpa [block] using h₂
      simp [block, List.getD_eq_getElem?_getD, show i < bs.length by omega]

theorem Faithful.seq {l : Layout α} {m : Layout β} (hl : l.Faithful) (hm : m.Faithful) :
    (l.seq m).Faithful where
  length_encode p := by simp [Layout.seq, hl.length_encode, hm.length_encode]
  decode_encode p rest := by
    have hd : (l.encode p.1 ++ (m.encode p.2 ++ rest)).drop l.width = m.encode p.2 ++ rest := by
      rw [List.drop_append_of_le_length (by simp [hl.length_encode]),
        List.drop_of_length_le (by simp [hl.length_encode]), List.nil_append]
    simp [Layout.seq, hl.decode_encode, hm.decode_encode, hd]
  encode_decode bs h := by
    simp only [Layout.seq] at h ⊢
    rw [hl.encode_decode bs (by omega), hm.encode_decode _ (by simp; omega), List.take_add]

theorem Faithful.via {l : Layout α} (hl : l.Faithful) {into : α → β} {out : β → α}
    (hio : ∀ b, into (out b) = b) (hoi : ∀ a, out (into a) = a) : (l.via into out).Faithful where
  length_encode b := hl.length_encode _
  decode_encode b rest := by simp [Layout.via, hl.decode_encode, hio]
  encode_decode bs h := by
    simp only [Layout.via] at h ⊢
    rw [hoi, hl.encode_decode bs h]

end Layout

end MessageServer.Bytes
