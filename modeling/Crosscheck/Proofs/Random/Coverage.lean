import Crosscheck.Proofs.Random.Sampling

/-!
# What a draw can hit

For every number of a range there is a word that a draw accepts and scales to this number, and
for every positive weight one that a weighted draw takes to its index. A draw from a tape that
goes on with such a word takes this word only.
-/

namespace Crosscheck

namespace Sampling

/-- Every number below the size of a range comes from a word, when no more numbers than words
are in the range and the zone has room for each number once. -/
theorem exists_scale?_eq {bits size zone k : Nat} (hk : k < size) (hsize : size ≤ Nat.pow 2 bits)
    (hzone : size ≤ zone + 1) :
    ∃ word < Nat.pow 2 bits, scale? bits size zone word = some k := by
  generalize hwords : Nat.pow 2 bits = words at hsize
  -- The least word whose product with the size is not below `k` times the number of words.
  have hrest := Nat.mod_lt (k * words + (size - 1)) (show 0 < size by omega)
  have hdivision := Nat.div_add_mod' (k * words + (size - 1)) size
  generalize (k * words + (size - 1)) / size = word at hdivision
  have hproduct : ∃ rest < size, word * size = rest + k * words :=
    ⟨word * size - k * words, by omega, by omega⟩
  obtain ⟨rest, hlt, hproduct⟩ := hproduct
  have hwordsPos : 0 < words := by omega
  refine ⟨word, ?_, ?_⟩
  · have hall : k * words + words ≤ size * words := by
      rw [← Nat.succ_mul]
      exact Nat.mul_le_mul_right words hk
    have hmul : word * size < words * size := by
      rw [Nat.mul_comm words size]
      omega
    exact Nat.lt_of_mul_lt_mul_right hmul
  · have hmod : word * size % words = rest := by
      rw [hproduct, Nat.add_mul_mod_self_right, Nat.mod_eq_of_lt (by omega)]
    have hdiv : word * size / words = k := by
      rw [hproduct, Nat.add_mul_div_right _ _ hwordsPos, Nat.div_eq_of_lt (by omega), Nat.zero_add]
    rw [scale?, hwords, hmod, hdiv, if_pos (by omega)]

/-- The zone of a single draw has room for each number once. -/
theorem size_le_shiftedZone (bits size : Nat) : size ≤ shiftedZone bits size + 1 := by
  have hpow : 0 < Nat.pow 2 (bits - 1 - size.log2) := Nat.two_pow_pos _
  have hle := Nat.le_mul_of_pos_right size hpow
  unfold shiftedZone
  omega

/-- The zone of a repeated draw has room for each number once. -/
theorem size_le_multipleZone {bits size : Nat} (hsize : size ≤ Nat.pow 2 bits) :
    size ≤ multipleZone bits size + 1 := by
  have hle := Nat.mod_le (Nat.pow 2 bits - size) size
  unfold multipleZone
  omega

/-- The sum of the weights before a positive weight leads to the index of this weight. -/
theorem weightedIndex_totalWeight_take {weights : List Nat} {i w : Nat}
    (hi : weights[i]? = some w) (hw : 0 < w) :
    weightedIndex weights (totalWeight (weights.take i)) = i ∧
      totalWeight (weights.take i) < totalWeight weights := by
  induction weights generalizing i with
  | nil => simp at hi
  | cons v rest ih =>
    cases i with
    | zero =>
      obtain rfl : v = w := by simpa using hi
      refine ⟨?_, by simp only [List.take_zero, totalWeight]; omega⟩
      cases rest with
      | nil => rfl
      | cons u us =>
        rw [List.take_zero, totalWeight, weightedIndex, if_neg (by omega)]
        simp
    | succ i =>
      obtain ⟨hindex, hlt⟩ := ih (by simpa using hi)
      cases rest with
      | nil => simp at hi
      | cons u us =>
        rw [List.take_succ_cons, totalWeight, totalWeight]
        refine ⟨?_, by omega⟩
        rw [weightedIndex, if_pos (by omega), Nat.add_sub_cancel_left, hindex]
        simp

end Sampling

namespace Tape

/-- The tape after its next words. -/
def skip (t : Tape) (count : Nat) : Tape := { t with position := t.position + count }

/-- Whether a tape goes on with the given words. -/
def StartsWith (t : Tape) : List UInt64 → Prop
  | [] => True
  | word :: words => t.next.1 = word ∧ t.next.2.StartsWith words

/-- Going on is going on in two steps. -/
theorem skip_add (t : Tape) (m n : Nat) : t.skip (m + n) = (t.skip m).skip n := by
  simp [skip, Nat.add_assoc]

/-- A tape goes on with two lists of words one after the other. -/
theorem startsWith_append {t : Tape} {words more : List UInt64} :
    t.StartsWith (words ++ more) ↔ t.StartsWith words ∧ (t.skip words.length).StartsWith more := by
  induction words generalizing t with
  | nil => simp [StartsWith, skip]
  | cons word words ih =>
    have hskip : t.skip (words.length + 1) = t.next.2.skip words.length := by
      rw [Nat.add_comm, skip_add]
      rfl
    rw [List.cons_append, StartsWith, ih, StartsWith, List.length_cons, hskip, and_assoc]

/-- There is a tape of any words. -/
theorem startsWith_ofWords (words : List UInt64) (patience : Nat) :
    ({ word := fun i => words.getD i 0, patience } : Tape).StartsWith words := by
  suffices ∀ before after : List UInt64,
      ({ word := fun i => (before ++ after).getD i 0, position := before.length, patience } :
        Tape).StartsWith after from this [] words
  intro before after
  induction after generalizing before with
  | nil => trivial
  | cons word after ih =>
    refine ⟨by simp [next], ?_⟩
    have hnext := ih (before ++ [word])
    simp only [List.append_assoc, List.cons_append, List.nil_append, List.length_append,
      List.length_cons, List.length_nil] at hnext
    exact hnext

end Tape

namespace Sampling

/-- Whether a draw can yield a value: there is a word such that every tape with some patience
that goes on with this word leads to the value and to the tape after the word. -/
def Hits {α : Type} (sample : Tape → Option (α × Tape)) (a : α) : Prop :=
  ∃ word, ∀ t : Tape, 0 < t.patience → t.next.1 = word → sample t = some (a, t.next.2)

/-- A draw with 64-bit words hits what it accepts some word for. -/
theorem hits_draw64 {α : Type} {accept : UInt64 → Option α} {a : α} {word : UInt64}
    (h : accept word = some a) : Hits (draw64 accept) a := by
  refine ⟨word, fun t hpatience hword => ?_⟩
  obtain ⟨patience, hsucc⟩ := Nat.exists_eq_add_one_of_ne_zero (Nat.pos_iff_ne_zero.mp hpatience)
  have hsource : WordSource.patience t = patience + 1 := hsucc
  have hnext : WordSource.next64 t = t.next := rfl
  simp only [draw64, hsource, untilAccepted, hnext, hword, h]

/-- A draw with 32-bit words hits what it accepts some word for. -/
theorem hits_draw32 {α : Type} {accept : UInt32 → Option α} {a : α} {word : UInt32}
    (h : accept word = some a) : Hits (draw32 accept) a := by
  refine ⟨word.toUInt64, fun t hpatience hword => ?_⟩
  obtain ⟨patience, hsucc⟩ := Nat.exists_eq_add_one_of_ne_zero (Nat.pos_iff_ne_zero.mp hpatience)
  have hsource : WordSource.patience t = patience + 1 := hsucc
  have hnext : WordSource.next32 t = (t.next.1.toUInt32, t.next.2) := rfl
  simp only [draw32, hsource, untilAccepted, hnext, hword, UInt32.toUInt32_toUInt64, h]

/-- A draw from 64-bit words hits every number of the range. -/
theorem hits_below64 {size k : Nat} (hk : k < size) (hsize : size ≤ UInt64.size) :
    Hits (below64 size) k := by
  have hwords : size ≤ Nat.pow 2 64 := hsize
  obtain ⟨word, hlt, hscale⟩ := exists_scale?_eq hk hwords (size_le_shiftedZone 64 size)
  have hword : (UInt64.ofNat word).toNat = word := UInt64.toNat_ofNat_of_lt' hlt
  exact hits_draw64 (hword.symm ▸ hscale)

/-- A draw from 32-bit words hits every number of the range. -/
theorem hits_below32 {size k : Nat} (hk : k < size) (hsize : size ≤ UInt32.size) :
    Hits (below32 size) k := by
  have hwords : size ≤ Nat.pow 2 32 := hsize
  obtain ⟨word, hlt, hscale⟩ := exists_scale?_eq hk hwords (size_le_shiftedZone 32 size)
  have hword : (UInt32.ofNat word).toNat = word := UInt32.toNat_ofNat_of_lt' hlt
  exact hits_draw32 (hword.symm ▸ hscale)

/-- Every index of a list that 64-bit words can count is hit. -/
theorem hits_index {size i : Nat} (hi : i < size) (hsize : size ≤ UInt64.size) :
    Hits (index size) i := by
  unfold index
  split
  · rename_i hsmall
    exact hits_below32 hi (Nat.le_of_lt hsmall)
  · exact hits_below64 hi hsize

/-- A weighted draw hits every index with a positive weight. -/
theorem hits_weighted {weights : List Nat} {i w : Nat} (hi : weights[i]? = some w) (hw : 0 < w)
    (htotal : totalWeight weights ≤ UInt32.size) : Hits (weighted weights) i := by
  obtain ⟨hindex, hlt⟩ := weightedIndex_totalWeight_take hi hw
  have hwords : totalWeight weights ≤ Nat.pow 2 32 := htotal
  obtain ⟨word, hsmall, hscale⟩ := exists_scale?_eq hlt hwords (size_le_multipleZone hwords)
  have hword : (UInt32.ofNat word).toNat = word := UInt32.toNat_ofNat_of_lt' hsmall
  have haccept := congrArg (Option.map (weightedIndex weights)) hscale
  rw [Option.map_some, hindex] at haccept
  exact hits_draw32 (hword.symm ▸ haccept)

/-- A draw between two bounds hits every integer between them. -/
theorem hits_between {min max n : Int64} (hmin : min ≤ n) (hmax : n ≤ max) :
    Hits (between min max) n := by
  have hwidth := toNat_toUInt64_sub (Int64.le_trans hmin hmax)
  rw [Int64.le_iff_toInt_le] at hmin hmax
  by_cases hzero : (max - min).toUInt64 + 1 = 0
  · refine ⟨n.toUInt64, fun t _ hword => ?_⟩
    have hnext : WordSource.next64 t = t.next := rfl
    simp only [between, if_pos hzero, hnext, hword, Int64.toInt64_toUInt64]
  · -- The offset of the integer from the lower bound is below the width.
    have hbound := (max - min).toUInt64.toNat_lt
    have hsucc : ((max - min).toUInt64 + 1).toNat = (max - min).toUInt64.toNat + 1 := by
      have hne : (max - min).toUInt64.toNat + 1 ≠ 2 ^ 64 := by
        intro hall
        apply hzero
        rw [← UInt64.toNat_inj, UInt64.toNat_add]
        have hone : (1 : UInt64).toNat = 1 := rfl
        rw [hone, hall]
        rfl
      rw [UInt64.toNat_add]
      have hone : (1 : UInt64).toNat = 1 := rfl
      rw [hone]
      exact Nat.mod_eq_of_lt (by omega)
    obtain ⟨offset, hoffset⟩ : ∃ offset : Nat, (offset : Int) = n.toInt - min.toInt :=
      ⟨(n.toInt - min.toInt).toNat, by omega⟩
    obtain ⟨word, hhits⟩ := hits_below64
      (show offset < ((max - min).toUInt64 + 1).toNat by omega)
      (Nat.le_of_lt ((max - min).toUInt64 + 1).toNat_lt)
    refine ⟨word, fun t hpatience hword => ?_⟩
    have hsum : min + (UInt64.ofNat offset).toInt64 = n := by
      have hadd := toInt_add_offset (show (offset : Int) ≤ max.toInt - min.toInt by omega)
      rw [← Int64.toInt_inj, hadd]
      omega
    simp only [between, if_neg hzero, hhits t hpatience hword, Option.map_some, hsum]

end Sampling

end Crosscheck
