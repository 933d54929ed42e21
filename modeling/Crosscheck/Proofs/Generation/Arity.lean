import Crosscheck.Grammar.Shape
import Crosscheck.Proofs.Generation.Image
import Mathlib.Order.Interval.Set.Defs

/-!
# The number of arguments of a call

The generator draws the number of further arguments of a variadic call, and the checker has a
least and a greatest number of arguments for each name. Both describe the same numbers when calls
are drawn at all and the bound on further arguments leaves room for the first argument in a 64-bit
word. Without this room the checker has no greatest number and breaks off, although calls are drawn.
-/

namespace Crosscheck

namespace Dialect

/-- The numbers of arguments that calls to a function have when they are drawn for a slot, over
all slots and all sources of words. -/
def drawnCounts (d : Dialect) (name : String) : Set Nat :=
  {count | ∃ (σ : Type) (_ : WordSource σ) (s s' : σ) (slot : Nat) (first : Int64)
    (extra : List Int64), (d.drawSlot slot).run s = .ok (.call name first extra, s') ∧
      count = (first :: extra).length}

variable {d : Dialect} {name : String}

/-- Only the draws of the dialect are drawn for a slot. -/
theorem draws_of_drawSlot (hd : d.Usable) {σ : Type} [WordSource σ] {s s' : σ} {slot : Nat}
    {draw : SlotDraw} (h : (d.drawSlot slot).run s = .ok (draw, s')) : d.Draws draw := by
  have hyields := yields_drawSlot (σ := σ) hd slot s
  have hrun : d.drawSlot slot s = .ok (draw, s') := h
  rw [hrun] at hyields
  exact hyields.1

/-- Calls with every number of further arguments that the dialect draws are reached. -/
theorem succ_mem_drawnCounts (hd : d.Usable) (hindexable : d.Indexable)
    (hweight : 0 < d.weights.call) (hname : name ∈ d.functions) {count : Nat}
    (h : d.TakesExtra name count) : count + 1 ∈ d.drawnCounts name := by
  have hcontains (role : LiteralRole) : (d.range role).contains (d.range role).min = true :=
    LiteralRange.contains_iff.mpr ⟨Int64.le_refl _, hd.range_min_le_max role⟩
  have hdraws : d.Draws (.call name d.firstArgumentRange.min
      (List.replicate count d.extraArgumentRange.min)) := by
    refine ⟨⟨hname, hcontains .firstArgument, ?_⟩, hweight, by rwa [List.length_replicate]⟩
    intro n hn
    exact (List.mem_replicate.mp hn).2 ▸ hcontains .extraArgument
  have hreaches : (d.drawSlot 1).Reaches _ := reaches_drawSlot hd hindexable hdraws rfl
  obtain ⟨words, hwords⟩ := hreaches
  refine ⟨Tape, inferInstance, _, _, 1, _, _,
    hwords _ Nat.one_pos (Tape.startsWith_ofWords words 1), ?_⟩
  rw [List.length_cons, List.length_replicate]

/-- Calls are drawn with every number of arguments from the least one on, up to the bound. -/
theorem drawnCounts_eq_Icc (hd : d.Usable) (hindexable : d.Indexable)
    (hweight : 0 < d.weights.call) (hname : name ∈ d.functions) :
    d.drawnCounts name = Set.Icc (d.minArguments name) (d.mostArguments name) := by
  ext count
  constructor
  · rintro ⟨σ, _, s, s', slot, first, extra, hrun, rfl⟩
    exact takesExtra_iff.mp (draws_of_drawSlot hd hrun).2.2
  · intro hcount
    have hmin : 1 ≤ d.minArguments name := by
      unfold minArguments
      split <;> omega
    obtain ⟨extra, rfl⟩ := Nat.exists_eq_add_one_of_ne_zero
      (show count ≠ 0 by have hle := hcount.1; omega)
    exact succ_mem_drawnCounts hd hindexable hweight hname (takesExtra_iff.mpr hcount)

/-- Without a weight for calls, none is drawn. -/
theorem drawnCounts_eq_empty (hd : d.Usable) (hweight : d.weights.call = 0) :
    d.drawnCounts name = ∅ := by
  apply Set.eq_empty_of_forall_notMem
  rintro count ⟨σ, _, s, s', slot, first, extra, hrun, -⟩
  have hpos : 0 < d.weights.call := (draws_of_drawSlot hd hrun).2.1
  rw [hweight] at hpos
  exact absurd hpos (by decide)

/-- **Generator and checker agree on the number of arguments.** With a dialect that validation
accepts and a function for which all arguments can be counted in a 64-bit word, the checker allows
the numbers between its bounds. If the dialect draws calls, those to the function are drawn with
exactly these numbers of arguments; if it draws no calls, there is none to that function either. -/
theorem drawnCounts_eq_allowed (hvalid : d.validate = .ok ()) (hindexable : d.Indexable)
    (hname : name ∈ d.functions)
    (hcounted : d.isVariadic name = true → 1 + d.maxExtraArguments.toNat < UInt64.size) :
    ∃ most, d.maxArguments name = some most ∧
      {count | countError? d name count = none} = Set.Icc (d.minArguments name) most ∧
      (0 < d.weights.call → d.drawnCounts name = Set.Icc (d.minArguments name) most) ∧
      (d.weights.call = 0 → d.drawnCounts name = ∅) := by
  have hd := validate_eq_ok_iff.mp hvalid
  have hmost := maxArguments_eq_mostArguments hcounted
  refine ⟨d.mostArguments name, hmost, ?_, fun hweight => ?_, drawnCounts_eq_empty hd⟩
  · ext count
    exact countError?_eq_none_iff.trans (takesArguments_iff hmost count)
  · exact drawnCounts_eq_Icc hd hindexable hweight hname

/-- The largest bound that leaves room for the first argument. -/
theorem drawnCounts_eq_allowed_largest_countable :
    let d : Dialect := { maxExtraArguments := 18446744073709551614 }
    d.validate = .ok () ∧ d.Indexable ∧ "max" ∈ d.functions ∧
      d.maxArguments "max" = some 18446744073709551615 ∧
      d.drawnCounts "max" = Set.Icc 2 18446744073709551615 := by
  intro d
  have hvalid : d.validate = .ok () := by decide
  have hindexable : d.Indexable := ⟨by decide, by decide⟩
  have hname : "max" ∈ d.functions := by decide
  obtain ⟨most, hmost, -, hdrawn, -⟩ :=
    drawnCounts_eq_allowed hvalid hindexable hname fun _ => by decide
  have hbound : d.maxArguments "max" = some 18446744073709551615 := by decide
  obtain rfl : _ = most := Option.some.inj (hbound.symm.trans hmost)
  exact ⟨hvalid, hindexable, hname, hbound, hdrawn (by decide)⟩

/-- A dialect that draws no calls allows them all the same. With the largest bound of all, calls
with two arguments are drawn, and the check of such a call breaks off. -/
theorem drawnCounts_ne_allowed :
    (let d : Dialect := { weights := { call := 0 } }
    d.validate = .ok () ∧ "max" ∈ d.functions ∧ d.maxArguments "max" = some 15 ∧
      d.drawnCounts "max" ≠ Set.Icc (d.minArguments "max") 15) ∧
    (let d : Dialect := { maxExtraArguments := 18446744073709551615 }
    d.validate = .ok () ∧ "max" ∈ d.functions ∧ d.maxArguments "max" = none ∧
      2 ∈ d.drawnCounts "max" ∧ d.check "max(1,2)" = .error .overflow) := by
  constructor
  · intro d
    have hvalid : d.validate = .ok () := by decide
    have htwo : 2 ∈ Set.Icc (d.minArguments "max") 15 := ⟨by decide, by decide⟩
    refine ⟨hvalid, by decide, by decide, fun hsame => ?_⟩
    rw [← hsame, drawnCounts_eq_empty (validate_eq_ok_iff.mp hvalid) rfl] at htwo
    exact htwo
  · intro d
    have hvalid : d.validate = .ok () := by decide
    have hextra : d.TakesExtra "max" 1 := by decide
    have htwo : 2 ∈ d.drawnCounts "max" :=
      succ_mem_drawnCounts (validate_eq_ok_iff.mp hvalid) ⟨by decide, by decide⟩ (by decide)
        (by decide) hextra
    exact ⟨hvalid, by decide, by decide, htwo, by decide +kernel⟩

end Dialect

end Crosscheck
