import Crosscheck.Proofs.Generation.Draws
import Crosscheck.Proofs.Random.Recording

/-!
# Longer expressions extend shorter ones

The slots of a shorter expression are the first slots of a longer one, and what is drawn for a
slot does not depend on the length. From the same position of a source, a longer expression
therefore takes the words of the shorter one first, and begins with its tokens, apart from the
close parens that balance it.
-/

namespace Crosscheck

namespace Draft

/-- Filled slots keep the tokens that are there. -/
theorem tokens_prefix_foldl_step (draws : List SlotDraw) (draft : Draft) :
    draft.tokens.toList <+: (draws.foldl step draft).tokens.toList := by
  induction draws generalizing draft with
  | nil => exact List.prefix_rfl
  | cons draw draws ih =>
    have hstep : draft.tokens.toList <+: (draft.step draw).tokens.toList :=
      ⟨draft.emitted draw, (draft.step_tokens draw).symm⟩
    exact hstep.trans (ih (draft.step draw))

end Draft

namespace Drawing

/-- A function applied to what an action yields leaves the source as the action does. -/
theorem map_apply {σ α β : Type} (f : α → β) (action : Drawing σ α) (s : σ) :
    (f <$> action) s = (action s).map fun (a, s') => (f a, s') := by
  simp only [Functor.map, StateT.map, Bind.bind, Except.bind]
  cases action s <;> rfl

section Records

variable {σ α β : Type} {recorded : Drawing (Recorded σ) α} {action : Drawing σ α}

/-- Whether an action on recorded sources is an action on the sources themselves that adds the
words it takes to the record. -/
def Records (recorded : Drawing (Recorded σ) α) (action : Drawing σ α) : Prop :=
  ∀ s, ∃ taken, ∀ words,
    recorded ⟨s, words⟩ = (action s).map fun (a, s') => (a, ⟨s', words ++ taken⟩)

/-- A value that is given takes no words. -/
theorem Records.pure (a : α) : Records (σ := σ) (Pure.pure a) (Pure.pure a) := fun s =>
  ⟨[], fun words => by
    rw [List.append_nil]
    rfl⟩

/-- What an action yields, it yields from every recorded source as well. -/
theorem Records.exists_of_eq_ok (h : Records recorded action) {s s' : σ} {a : α}
    (hrun : action s = .ok (a, s')) :
    ∃ taken, ∀ words, recorded ⟨s, words⟩ = .ok (a, ⟨s', words ++ taken⟩) := by
  obtain ⟨taken, htaken⟩ := h s
  rw [hrun] at htaken
  exact ⟨taken, htaken⟩

/-- A failure takes no words. -/
theorem records_throw (error : GenerationError) :
    Records (α := α) (σ := σ) (throw error) (throw error) := fun _ => ⟨[], fun _ => rfl⟩

/-- The words of an action come before those of the next one. -/
theorem Records.bind {nextRecorded : α → Drawing (Recorded σ) β} {next : α → Drawing σ β}
    (h : Records recorded action) (hnext : ∀ a, Records (nextRecorded a) (next a)) :
    Records (recorded >>= nextRecorded) (action >>= next) := by
  intro s
  obtain ⟨taken, htaken⟩ := h s
  cases hresult : action s with
  | error error =>
    refine ⟨[], fun words => ?_⟩
    simp only [Bind.bind, StateT.bind, Except.bind, htaken, hresult]
    rfl
  | ok result =>
    obtain ⟨more, hmore⟩ := hnext result.1 result.2
    refine ⟨taken ++ more, fun words => ?_⟩
    simp only [Bind.bind, StateT.bind, Except.bind, htaken, hresult, Except.map, hmore,
      List.append_assoc]

/-- A function applied to what an action yields takes no further words. -/
theorem Records.map (f : α → β) (h : Records recorded action) :
    Records (f <$> recorded) (f <$> action) := by
  rw [map_eq_pure_bind, map_eq_pure_bind]
  exact h.bind fun a => .pure (f a)

/-- A sample takes the words of the sampling function. -/
theorem records_ofSample {sampleRecorded : Recorded σ → Option (α × Recorded σ)}
    {sample : σ → Option (α × σ)} (h : Sampling.Records sampleRecorded sample) :
    Records (ofSample sampleRecorded) (ofSample sample) := by
  intro s
  obtain ⟨taken, htaken⟩ := h s
  refine ⟨taken, fun words => ?_⟩
  rw [ofSample, ofSample, htaken]
  cases sample s <;> rfl

/-- An action repeated takes the words of each repetition. -/
theorem Records.replicate (h : Records recorded action) (n : Nat) :
    Records (replicate recorded n) (replicate action n) := by
  induction n with
  | zero => exact .pure []
  | succ n ih => exact h.bind fun a => ih.bind fun as => .pure (a :: as)

end Records

variable {σ : Type} [WordSource σ]

/-- A choice from a list takes the words of its index. -/
theorem records_oneOf {α : Type} (items : List α) (ifEmpty : DialectFault) :
    Records (oneOf (σ := Recorded σ) items ifEmpty) (oneOf items ifEmpty) := by
  unfold oneOf
  split
  · exact records_throw _
  · refine (records_ofSample (Sampling.records_index items.length)).bind fun i => ?_
    cases items[i]? with
    | some item => exact .pure item
    | none => exact records_throw _

/-- A literal takes the words of an integer. -/
theorem records_literal (r : LiteralRange) :
    Records (literal (σ := Recorded σ) r) (literal r) :=
  records_ofSample (Sampling.records_between r.min r.max)

/-- A coin takes one word. -/
theorem records_coin : Records (coin (σ := Recorded σ)) coin := fun s =>
  ⟨[.wide (WordSource.next64 s).1], fun _ => rfl⟩

end Drawing

namespace Dialect

open Drawing

variable {σ : Type} [WordSource σ]

/-- The choices for a call are drawn alike from a recorded source. -/
theorem records_drawCall (d : Dialect) : Records (d.drawCall (σ := Recorded σ)) d.drawCall := by
  refine (records_oneOf d.functions .noFunctions).bind fun name => ?_
  refine (records_literal d.firstArgumentRange).bind fun first => ?_
  split
  · refine (records_ofSample (Sampling.records_below64 _)).bind fun fewer => ?_
    exact ((records_literal d.extraArgumentRange).replicate _).bind fun extra => .pure _
  · exact .pure _

/-- The choices for a parenthesised operand are drawn alike from a recorded source. -/
theorem records_drawGroup (d : Dialect) :
    Records (d.drawGroup (σ := Recorded σ)) d.drawGroup :=
  records_coin.bind fun _ => (records_literal d.groupOperandRange).bind fun _ => .pure _

/-- The choices for a slot are drawn alike from a recorded source. -/
theorem records_drawSlot (d : Dialect) (slot : Nat) :
    Records (d.drawSlot (σ := Recorded σ) slot) (d.drawSlot slot) := by
  unfold drawSlot
  split
  · exact (records_oneOf d.operators .noOperators).map _
  · refine (records_ofSample (Sampling.records_weighted _)).bind fun category => ?_
    split
    · exact d.records_drawCall
    · exact d.records_drawGroup
    · exact (records_literal d.operandRange).map _
    · exact records_throw _

/-- The choices for slots in a row are drawn alike from a recorded source. -/
theorem records_drawSlots (d : Dialect) (count slot : Nat) :
    Records (d.drawSlots (σ := Recorded σ) count slot) (d.drawSlots count slot) := by
  induction count generalizing slot with
  | zero => exact .pure []
  | succ count ih =>
    exact (d.records_drawSlot slot).bind fun draw => (ih (slot + 1)).bind fun draws => .pure _

/-- The draws for slots in a row are those for the first of them and then those for the others. -/
theorem drawSlots_add (d : Dialect) (count more slot : Nat) :
    d.drawSlots (σ := σ) (count + more) slot =
      d.drawSlots count slot >>= fun draws =>
        (draws ++ ·) <$> d.drawSlots more (slot + count) := by
  induction count generalizing slot with
  | zero =>
    rw [Nat.zero_add, Nat.add_zero, drawSlots, pure_bind]
    simp only [List.nil_append, id_map']
  | succ count ih =>
    rw [Nat.add_right_comm, drawSlots, drawSlots, bind_assoc]
    congr 1
    funext draw
    rw [ih, bind_assoc, bind_assoc]
    congr 1
    funext draws
    rw [pure_bind, Nat.add_assoc, Nat.add_comm 1 count]
    simp only [map_eq_pure_bind, bind_assoc, pure_bind, List.cons_append]

/-- Draws for slots in a row are made in two parts, the second of which goes on where the first
has left the source. -/
theorem drawSlots_add_eq_ok_iff {d : Dialect} {count more slot : Nat} {s s'' : σ}
    {draws : List SlotDraw} :
    d.drawSlots (count + more) slot s = .ok (draws, s'') ↔
      ∃ first s' further, d.drawSlots count slot s = .ok (first, s') ∧
        d.drawSlots more (slot + count) s' = .ok (further, s'') ∧ draws = first ++ further := by
  rw [drawSlots_add]
  simp only [Bind.bind, StateT.bind, Except.bind, map_apply]
  constructor
  · intro h
    cases hfirst : d.drawSlots count slot s with
    | error error =>
      rw [hfirst] at h
      cases h
    | ok first =>
      simp only [hfirst] at h
      cases hfurther : d.drawSlots more (slot + count) first.2 with
      | error error =>
        rw [hfurther] at h
        cases h
      | ok further =>
        rw [hfurther] at h
        cases h
        exact ⟨first.1, first.2, further.1, rfl, hfurther, rfl⟩
  · rintro ⟨first, s', further, hfirst, hfurther, rfl⟩
    simp only [hfirst, hfurther]
    rfl

/-- A longer expression has at least as many slots. -/
theorem lastSlot_le_lastSlot {n m : Nat} (hnm : n ≤ m) : lastSlot n ≤ lastSlot m := by
  unfold lastSlot
  split <;> split <;> omega

/-- The last slot is determined by half the length. -/
theorem lastSlot_eq_of_half_eq {n m : Nat} (hhalf : n / 2 = m / 2) : lastSlot n = lastSlot m := by
  unfold lastSlot
  split <;> split <;> omega

/-- An expression is drawn when its slots are. -/
theorem run_drawExpression {d : Dialect} {length : Nat} (hlength : minimumLength ≤ length)
    {s s' : σ} {draws : List SlotDraw} (h : d.drawSlots (lastSlot length) 1 s = .ok (draws, s')) :
    (d.drawExpression length).run s =
      .ok ((Draft.ofDraws draws).balance.tokens.toList, s') := by
  rw [drawExpression_eq_map hlength, StateT.run, map_apply, h]
  rfl

/-- When the draws for an expression stop, those for its slots do. -/
theorem exists_drawSlots_eq_ok {d : Dialect} (hd : d.Usable) {length : Nat}
    (hlength : minimumLength ≤ length) {s : σ}
    (hstops : (d.drawExpression length).run s ≠ .error .sourceExhausted) :
    ∃ draws s', d.drawSlots (lastSlot length) 1 s = .ok (draws, s') := by
  have hslots : d.drawSlots (lastSlot length) 1 s ≠ .error .sourceExhausted := by
    intro hstop
    apply hstops
    rw [drawExpression_eq_map hlength, StateT.run, map_apply, hstop]
    rfl
  obtain ⟨draws, s', hdraws, -⟩ := (yields_drawSlots hd (lastSlot length) 1).exists_ok hslots
  exact ⟨draws, s', hdraws⟩

/-- Drawing an expression of a length from a source yields the tokens, takes the words one after
the other, and leaves the source behind them. -/
structure Generates (d : Dialect) (length : Nat) (s : σ) (tokens : List Token)
    (words : List Word) (s' : σ) : Prop where
  run_eq : (d.drawExpression length).run s = .ok (tokens, s')
  run_recorded_eq : (d.drawExpression length).run ({ source := s } : Recorded σ) =
    .ok (tokens, ⟨s', words⟩)

/-- **Longer expressions extend shorter ones.** With a dialect that validation passes, let `m` be
a length for which the draws from a source stop, and let `n` be no greater. Then the draws for `n`
stop too. The words that they take are the first of those taken for `m`, and the expression of
length `m` begins with the tokens of the expression of length `n`, less the close parens that
balance it. Lengths with the same half, rounded down, lead to the same tokens and take the same
words. -/
theorem drawExpression_extends {d : Dialect} (hvalid : d.validate = .ok ()) {n m : Nat}
    (hn : 2 ≤ n) (hnm : n ≤ m) (s : σ)
    (hstops : (d.drawExpression m).run s ≠ .error .sourceExhausted) :
    ∃ draft words s' tokens more s'',
      (d.fillSlots (lastSlot n) 1 .empty).run s = .ok (draft, s') ∧
      d.Generates n s draft.balance.tokens.toList words s' ∧
      d.Generates m s tokens (words ++ more) s'' ∧
      draft.balance.tokens.toList = draft.tokens.toList ++ draft.closing ∧
      (∀ t ∈ draft.closing, t = .closeParen) ∧
      draft.tokens.toList <+: tokens ∧
      (n / 2 = m / 2 → tokens = draft.balance.tokens.toList ∧ more = [] ∧ s'' = s') := by
  have hd := validate_eq_ok_iff.mp hvalid
  have hm : minimumLength ≤ m := hn.trans hnm
  obtain ⟨j, hj⟩ := Nat.exists_eq_add_of_le (lastSlot_le_lastSlot hnm)
  obtain ⟨draws, s'', hdraws⟩ := exists_drawSlots_eq_ok hd hm hstops
  -- The draws for the slots of `m` are those for the slots of `n` and then the others.
  have hparts := hdraws
  rw [hj] at hparts
  obtain ⟨first, s', further, hfirst, hfurther, rfl⟩ := drawSlots_add_eq_ok_iff.mp hparts
  obtain ⟨words, hwords⟩ := (d.records_drawSlots _ _).exists_of_eq_ok hfirst
  obtain ⟨more, hmore⟩ := (d.records_drawSlots _ _).exists_of_eq_ok hfurther
  have hall : d.drawSlots (lastSlot m) 1 ({ source := s } : Recorded σ) =
      .ok (first ++ further, ⟨s'', words ++ more⟩) := by
    rw [hj]
    exact drawSlots_add_eq_ok_iff.mpr ⟨first, _, further, hwords [], hmore _, rfl⟩
  refine ⟨Draft.ofDraws first, words, s', _, more, s'', ?draft,
    ⟨run_drawExpression hn hfirst, run_drawExpression hn (hwords [])⟩,
    ⟨run_drawExpression hm hdraws, run_drawExpression hm hall⟩,
    Draft.pushAll_tokens _ _, fun t ht => List.eq_of_mem_replicate ht, ?tokens, ?half⟩
  case draft =>
    rw [fillSlots_eq_map, StateT.run, map_apply, hfirst]
    rfl
  case tokens =>
    have hprefix : (Draft.ofDraws first).tokens.toList <+:
        (Draft.ofDraws (first ++ further)).tokens.toList := by
      have hfold : Draft.ofDraws (first ++ further) =
          further.foldl Draft.step (Draft.ofDraws first) := List.foldl_append
      rw [hfold]
      exact Draft.tokens_prefix_foldl_step further _
    rw [Draft.balance_tokens]
    exact hprefix.trans (List.prefix_append _ _)
  case half =>
    intro hhalf
    rw [lastSlot_eq_of_half_eq hhalf] at hj
    obtain rfl : j = 0 := by omega
    have hnone := hmore []
    cases hfurther
    cases hnone
    exact ⟨by rw [List.append_nil], rfl, rfl⟩

/-- The expression `12-min(2,-12,-85)×(5)` of length 6 and the expression
`12-min(2,-12,-85)×(5-16)` of length 9: the group that balancing closes in the first goes on in
the second. -/
theorem drawExpression_extends_open_group :
    let d : Dialect := { operators := ['-', '×'], maxExtraArguments := 2 }
    let s : Tape :=
      { word := fun i => UInt64.ofNat ((i + 1) * 15074714826142052245), patience := 8 }
    ((d.drawExpression 6).run s).map (Token.text ·.1) = .ok "12-min(2,-12,-85)×(5)" ∧
      ((d.drawExpression 9).run s).map (Token.text ·.1) = .ok "12-min(2,-12,-85)×(5-16)" ∧
      ∃ (draft : Draft) (words more : List Word) (s' : Tape) (tokens : List Token) (s'' : Tape),
        d.Generates 6 s draft.balance.tokens.toList words s' ∧
        d.Generates 9 s tokens (words ++ more) s'' ∧
        draft.balance.tokens.toList = draft.tokens.toList ++ draft.closing ∧
        draft.tokens.toList <+: tokens := by
  intro d s
  have hshort : ((d.drawExpression 6).run s).map (Token.text ·.1) =
      .ok "12-min(2,-12,-85)×(5)" := by decide +kernel
  have hlong : ((d.drawExpression 9).run s).map (Token.text ·.1) =
      .ok "12-min(2,-12,-85)×(5-16)" := by decide +kernel
  have hstops : (d.drawExpression 9).run s ≠ .error .sourceExhausted := by
    intro hstop
    rw [hstop] at hlong
    cases hlong
  obtain ⟨draft, words, s', tokens, more, s'', -, hn, hm, hbalance, -, hprefix, -⟩ :=
    drawExpression_extends (d := d) (by decide +kernel) (show 2 ≤ 6 by decide)
      (show 6 ≤ 9 by decide) s hstops
  exact ⟨hshort, hlong, draft, words, more, s', tokens, s'', hn, hm, hbalance, hprefix⟩

end Dialect

end Crosscheck
