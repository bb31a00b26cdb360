import MessageServer.Latency.Histogram

/-!
# Bins and what they hold

The width of a bin is a power of two, and of two bins the later one is as wide as the earlier one or
a multiple of it.  So the bins are in the order of the values in them, `start_mono`, and each begins
with its own start, `start_start`.

A summary shows a sample by the last value of its bin.  `last_le` and `le_last_start` say how far
that is from the sample itself: upwards by no more than a thousandth, because a bin is no wider than
that, and downwards by one at the most, where the largest word is shown by the end of the last bin.
-/

namespace MessageServer.Bin

variable {u v : Nat}

/-! ## Widths -/

/-- Below 2048 the exponent is zero as well. -/
theorem width_eq (v : Nat) : width v = 1 <<< (v.log2 - 10) := by
  unfold width
  split
  · next hsmall =>
    rcases Nat.eq_zero_or_pos v with rfl | hpos
    · rfl
    · have hlog : v.log2 < 11 := (Nat.log2_lt (Nat.ne_of_gt hpos)).mpr hsmall
      rw [Nat.sub_eq_zero_of_le (Nat.le_of_lt_succ hlog), Nat.shiftLeft_zero]
  · rfl

theorem width_pos (v : Nat) : 0 < width v := by
  rw [width_eq, Nat.one_shiftLeft]
  exact Nat.two_pow_pos _

theorem log2_mono (h : u ≤ v) : u.log2 ≤ v.log2 := by
  rcases Nat.eq_zero_or_pos u with rfl | hu
  · rw [Nat.log2_zero]
    exact Nat.zero_le _
  · exact (Nat.le_log2 (Nat.ne_of_gt (Nat.lt_of_lt_of_le hu h))).mpr
      (Nat.le_trans (Nat.log2_self_le (Nat.ne_of_gt hu)) h)

theorem width_le_width (h : u.log2 ≤ v.log2) : width u ≤ width v := by
  rw [width_eq, width_eq, Nat.one_shiftLeft, Nat.one_shiftLeft]
  exact Nat.pow_le_pow_right Nat.two_pos (Nat.sub_le_sub_right h 10)

theorem width_mono (h : u ≤ v) : width u ≤ width v :=
  width_le_width (log2_mono h)

/-- From 2048 on, all the values that share a width begin at 1024 times this width. -/
theorem width_mul_eq (h : 2048 ≤ v) : width v * 1024 = 1 <<< v.log2 := by
  have hlog : 11 ≤ v.log2 := (Nat.le_log2 (by omega)).mpr h
  have hexp : v.log2 - 10 + 10 = v.log2 := by omega
  have hpow := Nat.pow_add 2 (v.log2 - 10) 10
  rw [hexp] at hpow
  rw [width_eq, Nat.one_shiftLeft, Nat.one_shiftLeft, hpow]

theorem width_mul_le (h : 2048 ≤ v) : width v * 1024 ≤ v := by
  rw [width_mul_eq h, Nat.one_shiftLeft]
  exact Nat.log2_self_le (by omega)

theorem width_le (v : Nat) : width v ≤ v / 1000 + 1 := by
  rcases Nat.lt_or_ge v 2048 with hsmall | hlarge
  · rw [width, if_pos hsmall]
    exact Nat.le_add_left 1 _
  · have hwidth := width_mul_le hlarge
    omega

/-! ## Starts -/

theorem start_eq (v : Nat) : start v = width v * (v / width v) := by
  have hdiv := Nat.div_add_mod v (width v)
  unfold start
  omega

theorem start_le (v : Nat) : start v ≤ v :=
  Nat.sub_le _ _

theorem lt_start_add_width (v : Nat) : v < start v + width v := by
  have hmod := Nat.mod_lt v (width_pos v)
  unfold start
  omega

/-- The first value of a bin is as far up as the others. -/
theorem width_start (v : Nat) : width (start v) = width v := by
  rcases Nat.lt_or_ge v 2048 with hsmall | hlarge
  · rw [width, width, if_pos hsmall, if_pos (Nat.lt_of_le_of_lt (start_le v) hsmall)]
  · refine Nat.le_antisymm (width_mono (start_le v)) ?_
    have hcount : 1024 ≤ v / width v :=
      (Nat.le_div_iff_mul_le (width_pos v)).mpr (Nat.mul_comm _ _ ▸ width_mul_le hlarge)
    have hstart : width v * 1024 ≤ start v := by
      rw [start_eq]
      exact Nat.mul_le_mul_left _ hcount
    have hpos : 0 < width v * 1024 := Nat.mul_pos (width_pos v) (by decide)
    rw [width_mul_eq hlarge] at hstart hpos
    rw [Nat.one_shiftLeft] at hstart
    exact width_le_width ((Nat.le_log2 (by omega)).mpr hstart)

theorem start_start (v : Nat) : start (start v) = start v := by
  have hmultiple : start v % width v = 0 := by
    rw [start_eq, Nat.mul_mod_right]
  rw [start, width_start, hmultiple, Nat.sub_zero]

theorem start_mono (h : u ≤ v) : start u ≤ start v := by
  rcases Nat.le_total u (start v) with hbelow | habove
  · exact Nat.le_trans (start_le u) hbelow
  · -- between the start and `v`, all values are in the bin of `v`
    have hwidth : width u = width v :=
      Nat.le_antisymm (width_mono h) (width_start v ▸ width_mono habove)
    rw [start_eq u, start_eq v, hwidth]
    exact Nat.mul_le_mul_left _ (Nat.div_le_div_right h)

/-! ## Ends -/

theorem last_of_lt (h : v < UInt64.size - 1) :
    last v = min (start v + width v) (UInt64.size - 1) - 1 :=
  if_neg (Nat.ne_of_lt h)

theorem last_word : last (UInt64.size - 1) = UInt64.size - 1 :=
  if_pos rfl

theorem le_last (h : v < UInt64.size) : v ≤ last v := by
  have hend := lt_start_add_width v
  rcases Nat.lt_or_eq_of_le (Nat.le_sub_one_of_lt h) with hlt | rfl
  · rw [last_of_lt hlt]
    omega
  · exact Nat.le_of_eq last_word.symm

theorem last_le (h : v < UInt64.size) : last v ≤ v + v / 1000 := by
  have hstart := start_le v
  have hwidth := width_le v
  rcases Nat.lt_or_eq_of_le (Nat.le_sub_one_of_lt h) with hlt | rfl
  · rw [last_of_lt hlt]
    omega
  · rw [last_word]
    exact Nat.le_add_right _ _

theorem last_lt (h : v < UInt64.size) : last v < UInt64.size := by
  rcases Nat.lt_or_eq_of_le (Nat.le_sub_one_of_lt h) with hlt | rfl
  · rw [last_of_lt hlt]
    omega
  · rw [last_word]
    exact h

theorem last_mono (h : u ≤ v) (hv : v < UInt64.size) : last u ≤ last v := by
  rcases Nat.lt_or_eq_of_le (Nat.le_sub_one_of_lt hv) with hlt | rfl
  · have hstart := start_mono h
    have hwidth := width_mono h
    rw [last_of_lt hlt, last_of_lt (Nat.lt_of_le_of_lt h hlt)]
    omega
  · have hu := last_lt (Nat.lt_of_le_of_lt h hv)
    rw [last_word]
    omega

/-- A sample is not above the end of its bin, but for the largest word, which is one above. -/
theorem le_last_start (h : v < UInt64.size) : v ≤ last (start v) + 1 := by
  rcases Nat.lt_or_eq_of_le (Nat.le_sub_one_of_lt h) with hlt | rfl
  · have hend := lt_start_add_width v
    rw [last_of_lt (Nat.lt_of_le_of_lt (start_le v) hlt), start_start, width_start]
    omega
  · decide

end MessageServer.Bin
