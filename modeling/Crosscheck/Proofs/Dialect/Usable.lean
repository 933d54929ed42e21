import Crosscheck.Dialect.Validity

/-!
# What a usable dialect promises

Validation looks for the first fault in a fixed order. This file states what it means that
there is none, as one condition for each part of the dialect, and proves that validation
accepts exactly the dialects that meet all of them.
-/

namespace Crosscheck

open Text

namespace Dialect

/-- The conditions on a dialect that validation accepts. -/
structure Usable (d : Dialect) : Prop where
  operators_ne_nil : d.operators ≠ []
  isOperatorSymbol_of_mem : ∀ c ∈ d.operators, isOperatorSymbol c = true
  isName_of_mem : ∀ name ∈ d.functions, isName name = true
  mem_functions_of_mem : ∀ name ∈ d.variadicFunctions, name ∈ d.functions
  range_min_le_max : ∀ role, (d.range role).min ≤ (d.range role).max
  range_min_ne : ∀ role, (d.range role).min ≠ Int64.minValue
  operandRange_nonneg : 0 ≤ d.operandRange.min
  groupOperandRange_nonneg : 0 ≤ d.groupOperandRange.min
  total_pos : 0 < d.weights.total
  total_le : d.weights.total ≤ SlotWeights.maxTotal
  functions_ne_nil : 0 < d.weights.call → d.functions ≠ []

variable {d : Dialect}

/-- No operator is at fault. -/
theorem operatorFault?_eq_none_iff :
    d.operatorFault? = none ↔
      d.operators ≠ [] ∧ ∀ c ∈ d.operators, isOperatorSymbol c = true := by
  unfold operatorFault?
  split <;> simp_all

/-- No function is at fault. -/
theorem functionFault?_eq_none_iff :
    d.functionFault? = none ↔
      (∀ name ∈ d.functions, isName name = true) ∧
        ∀ name ∈ d.variadicFunctions, name ∈ d.functions := by
  simp [functionFault?, isFunction]

/-- No range is at fault. -/
theorem rangeFault?_eq_none_iff :
    d.rangeFault? = none ↔
      (∀ role, (d.range role).isUsable = true) ∧
        0 ≤ d.operandRange.min ∧ 0 ≤ d.groupOperandRange.min := by
  have hroles : (∀ role, (d.range role).isUsable = true) ↔
      ∀ role ∈ [LiteralRole.operand, .groupOperand, .firstArgument, .extraArgument],
        (d.range role).isUsable = true := by
    refine ⟨fun h role _ => h role, fun h role => h role ?_⟩
    cases role <;> simp
  have hsigns : 0 ≤ d.operandRange.min ∧ 0 ≤ d.groupOperandRange.min ↔
      ∀ role ∈ [LiteralRole.operand, .groupOperand], ¬(d.range role).min < 0 := by
    simp [range]
  rw [hroles, hsigns]
  simp [rangeFault?]

/-- No weight is at fault. -/
theorem weightFault?_eq_none_iff :
    d.weightFault? = none ↔
      0 < d.weights.total ∧ d.weights.total ≤ SlotWeights.maxTotal ∧
        (0 < d.weights.call → d.functions ≠ []) := by
  unfold weightFault?
  by_cases hzero : d.weights.total = 0
  · simp [hzero]
  · by_cases hmany : SlotWeights.maxTotal < d.weights.total
    · have hnot : ¬d.weights.total ≤ SlotWeights.maxTotal := by omega
      simp [hzero, hmany, hnot]
    · have hpos : 0 < d.weights.total := by omega
      have hle : d.weights.total ≤ SlotWeights.maxTotal := by omega
      simp [hzero, hmany, hpos, hle]

/-- **Validation accepts exactly the usable dialects.** -/
theorem validate_eq_ok_iff : d.validate = .ok () ↔ d.Usable := by
  have hfault : d.validate = .ok () ↔ d.operatorFault? = none ∧ d.functionFault? = none ∧
      d.rangeFault? = none ∧ d.weightFault? = none := by
    have hnone : d.validate = .ok () ↔ d.fault? = none := by
      unfold validate
      cases d.fault? <;> simp
    simp [hnone, fault?]
  rw [hfault, operatorFault?_eq_none_iff, functionFault?_eq_none_iff, rangeFault?_eq_none_iff,
    weightFault?_eq_none_iff]
  constructor
  · rintro ⟨⟨hne, hoperators⟩, ⟨hnames, hvariadic⟩, ⟨hranges, hoperand, hgroup⟩, hpos, hle, hcall⟩
    simp only [LiteralRange.isUsable, Bool.and_eq_true, decide_eq_true_eq, bne_iff_ne] at hranges
    exact ⟨hne, hoperators, hnames, hvariadic, fun role => (hranges role).1,
      fun role => (hranges role).2, hoperand, hgroup, hpos, hle, hcall⟩
  · intro h
    refine ⟨⟨h.operators_ne_nil, h.isOperatorSymbol_of_mem⟩,
      ⟨h.isName_of_mem, h.mem_functions_of_mem⟩,
      ⟨?_, h.operandRange_nonneg, h.groupOperandRange_nonneg⟩,
      h.total_pos, h.total_le, h.functions_ne_nil⟩
    intro role
    simp [LiteralRange.isUsable, h.range_min_le_max role, h.range_min_ne role]

/-- A variadic function that is reported as unknown is one, and not among the functions. -/
theorem of_fault?_eq_unknownVariadicFunction {name : String}
    (h : d.fault? = some (.unknownVariadicFunction name)) :
    name ∈ d.variadicFunctions ∧ name ∉ d.functions := by
  simp only [fault?, functionFault?, Option.orElse_eq_orElse, Option.orElse_eq_or,
    Option.or_eq_some_iff] at h
  rcases h with h | ⟨-, (h | ⟨-, h⟩) | ⟨-, h | ⟨-, h⟩⟩⟩
  · unfold operatorFault? at h
    split at h <;> simp at h
  · simp at h
  · simp only [Option.map_eq_some_iff, DialectFault.unknownVariadicFunction.injEq,
      exists_eq_right] at h
    refine ⟨List.mem_of_find?_eq_some h, ?_⟩
    simpa [isFunction] using List.find?_some h
  · simp [rangeFault?] at h
  · unfold weightFault? at h
    repeat' split at h
    all_goals cases h

end Dialect

end Crosscheck
