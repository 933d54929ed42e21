import Crosscheck.Random.Sampling

/-!
# What a draw can yield

A draw gives up or accepts one of the words it has taken. Whatever the words are, an
accepted word leads to a number of the range, and to an index with a positive weight.
-/

namespace Crosscheck

namespace Sampling

/-- A number is scaled to one below the size of the range. -/
theorem scale?_lt {bits size zone word k : Nat} (hword : word < Nat.pow 2 bits) (hsize : 0 < size)
    (h : scale? bits size zone word = some k) : k < size := by
  unfold scale? at h
  split at h
  · cases h
    apply Nat.div_lt_of_lt_mul
    exact Nat.mul_lt_mul_of_pos_right hword hsize
  · cases h

/-- What is drawn has been accepted. -/
theorem exists_word_of_untilAccepted {σ ω α : Type} {next : σ → ω × σ} {accept : ω → Option α}
    {patience : Nat} {s s' : σ} {a : α}
    (h : untilAccepted next accept patience s = some (a, s')) :
    ∃ word, accept word = some a := by
  induction patience generalizing s with
  | zero => cases h
  | succ patience ih =>
    simp only [untilAccepted] at h
    split at h
    · rename_i b haccept
      cases h
      exact ⟨_, haccept⟩
    · exact ih h

/-- The index drawn with weights has a positive weight. -/
theorem exists_weight_of_lt_total {weights : List Nat} {drawn : Nat}
    (h : drawn < totalWeight weights) :
    ∃ w, weights[weightedIndex weights drawn]? = some w ∧ 0 < w := by
  fun_induction weightedIndex weights drawn with
  | case1 => exact absurd h (Nat.not_lt_zero _)
  | case2 drawn w =>
    refine ⟨w, rfl, ?_⟩
    simp only [totalWeight] at h
    omega
  | case3 drawn w rest _ hle ih =>
    rw [totalWeight] at h
    rw [List.getElem?_cons_succ]
    exact ih (by omega)
  | case4 drawn w rest _ hlt => exact ⟨w, rfl, by omega⟩

variable {σ : Type} [WordSource σ] {s s' : σ}

/-- A number drawn from 64-bit words is below the size of the range. -/
theorem below64_lt {size k : Nat} (hsize : 0 < size) (h : below64 size s = some (k, s')) :
    k < size := by
  obtain ⟨word, hword⟩ := exists_word_of_untilAccepted h
  exact scale?_lt word.toNat_lt hsize hword

/-- A number drawn from 32-bit words is below the size of the range. -/
theorem below32_lt {size k : Nat} (hsize : 0 < size) (h : below32 size s = some (k, s')) :
    k < size := by
  obtain ⟨word, hword⟩ := exists_word_of_untilAccepted h
  exact scale?_lt word.toNat_lt hsize hword

/-- An index is below the number of things to choose from. -/
theorem index_lt {size i : Nat} (hsize : 0 < size) (h : index size s = some (i, s')) :
    i < size := by
  unfold index at h
  split at h
  · exact below32_lt hsize h
  · exact below64_lt hsize h

/-- A weighted choice falls on a positive weight. -/
theorem exists_weight_of_weighted {weights : List Nat} {i : Nat} (htotal : 0 < totalWeight weights)
    (h : weighted weights s = some (i, s')) : ∃ w, weights[i]? = some w ∧ 0 < w := by
  obtain ⟨word, hword⟩ := exists_word_of_untilAccepted h
  obtain ⟨drawn, hdrawn, rfl⟩ := Option.map_eq_some_iff.mp hword
  exact exists_weight_of_lt_total (scale?_lt word.toNat_lt htotal hdrawn)

/-- The width of an interval of 64-bit integers, counted modulo 2^64, is its true width. -/
theorem toNat_toUInt64_sub {min max : Int64} (h : min ≤ max) :
    ((max - min).toUInt64.toNat : Int) = max.toInt - min.toInt := by
  have hle := Int64.le_iff_toInt_le.mp h
  have hmin := BitVec.toInt_eq_toNat_cond min.toBitVec
  have hmax := BitVec.toInt_eq_toNat_cond max.toBitVec
  have hwidth : (max - min).toUInt64.toNat = (max.toBitVec - min.toBitVec).toNat := rfl
  rw [Int64.toInt_toBitVec] at hmin hmax
  rw [hwidth, BitVec.toNat_sub]
  omega

/-- An offset that is at most the width of an interval leads from its lower end to an integer
of the interval. -/
theorem toInt_add_offset {min max : Int64} {offset : Nat}
    (h : (offset : Int) ≤ max.toInt - min.toInt) :
    (min + (UInt64.ofNat offset).toInt64).toInt = min.toInt + offset := by
  have hlow := min.le_toInt
  have hhigh := max.toInt_lt
  have hmax := max.le_toInt
  have hsum : (min + (UInt64.ofNat offset).toInt64).toInt =
      (min.toBitVec + BitVec.ofNat 64 offset).toInt := rfl
  have hmin := BitVec.toInt_eq_toNat_cond min.toBitVec
  rw [Int64.toInt_toBitVec] at hmin
  rw [hsum, BitVec.toInt_eq_toNat_cond, BitVec.toNat_add, BitVec.toNat_ofNat]
  omega

/-- An integer drawn between two bounds lies between them. -/
theorem between_mem {min max n : Int64} (hle : min ≤ max) (h : between min max s = some (n, s')) :
    min ≤ n ∧ n ≤ max := by
  have hwidth := toNat_toUInt64_sub hle
  have hminInt := Int64.le_iff_toInt_le.mp hle
  have hbound := (max - min).toUInt64.toNat_lt
  simp only [between] at h
  split at h
  · -- Only all the 64-bit integers have a width of zero.
    rename_i hzero
    have hall := congrArg UInt64.toNat hzero
    rw [UInt64.toNat_add] at hall
    have hone : (1 : UInt64).toNat = 1 := rfl
    have hnone : (0 : UInt64).toNat = 0 := rfl
    have hlow := n.le_toInt
    have hhigh := n.toInt_lt
    have hmin := min.le_toInt
    have hmax := max.toInt_lt
    rw [Int64.le_iff_toInt_le, Int64.le_iff_toInt_le]
    omega
  · rename_i hzero
    obtain ⟨⟨offset, s''⟩, hoffset, hn⟩ := Option.map_eq_some_iff.mp h
    cases hn
    have hpos : 0 < ((max - min).toUInt64 + 1).toNat := by
      apply Nat.pos_of_ne_zero
      intro hnat
      exact hzero (UInt64.toNat_inj.mp hnat)
    have hlt := below64_lt hpos hoffset
    have hsucc : ((max - min).toUInt64 + 1).toNat ≤ (max - min).toUInt64.toNat + 1 := by
      rw [UInt64.toNat_add]
      exact Nat.mod_le _ _
    have hoff : (offset : Int) ≤ max.toInt - min.toInt := by omega
    have hvalue := toInt_add_offset hoff
    rw [Int64.le_iff_toInt_le, Int64.le_iff_toInt_le, hvalue]
    omega

end Sampling

end Crosscheck
