import Crosscheck.Proofs.Campaign.Verdicts
import Crosscheck.Proofs.Grammar.Detection
import Mathlib.Data.List.Basic

/-!
# The gate of a run

A run goes through its rounds in order and stops at the first one whose source fails, whose
text the dialect rejects, or whose check breaks off. No evaluator sees that text or asks for a later one, and what the
evaluators reply never stops the run. The source is arbitrary here: it may fail or give any
text in any round.
-/

namespace Crosscheck

/-- An action that fails keeps its journal, and the next one is not carried out. -/
theorem Running.run_bind_error {α β : Type} {action : Running α} {next : α → Running β}
    {j j' : Journal} {error : RunError} (h : action.run j = (.error error, j')) :
    (action >>= next).run j = (.error error, j') := by
  rw [ExceptT.run_bind]
  simp only [bind, StateT.bind, h]
  rfl

namespace Contest

/-- Why a round stops a run: its source fails, the dialect rejects the text of its source, or
the check of this text breaks off. -/
inductive Refuses (c : Contest) (seed : UInt64) (round : Nat) : RunError → Prop
  | failure {error : GenerationError} (hsource : c.source seed round = .error error) :
      Refuses c seed round (.generation error)
  | violation {text : String} {violation : Violation} (hsource : c.source seed round = .ok text)
      (hcheck : c.campaign.dialect.check text = .error (.violation violation)) :
      Refuses c seed round (.invalidExpression round text violation)
  | overflow {text : String} (hsource : c.source seed round = .ok text)
      (hcheck : c.campaign.dialect.check text = .error .overflow) :
      Refuses c seed round .overflow

variable {c : Contest} {seed : UInt64}

/-- A round that is not refused has a valid text. -/
theorem exists_supplies {round : Nat} (h : ∀ error, ¬c.Refuses seed round error) :
    ∃ text, c.Supplies seed round text := by
  cases hsource : c.source seed round with
  | error error => exact absurd (.failure hsource) (h _)
  | ok text =>
    match hcheck : c.campaign.dialect.check text with
    | .error (.violation violation) => exact absurd (.violation hsource hcheck) (h _)
    | .error .overflow => exact absurd (.overflow hsource hcheck) (h _)
    | .ok shape => exact ⟨text, hsource, shape, hcheck⟩

/-- In a refused round the source is asked and nothing else happens. -/
theorem Refuses.run_expression {round : Nat} {error : RunError} (h : c.Refuses seed round error)
    (j : Journal) :
    (c.expression seed round).run j =
      (.error error, { j with requested := j.requested.push round }) := by
  cases h with
  | failure hsource =>
    simp only [expression, hsource]
    rfl
  | violation hsource hcheck | overflow hsource hcheck =>
    simp only [expression, hsource, hcheck]
    rfl

/-- The step lemma: a run stops at a refused round. -/
theorem Refuses.runRounds {round : Nat} {error : RunError} (h : c.Refuses seed round error)
    (count : Nat) (tally : Tally) (j : Journal) :
    (c.runRounds seed (count + 1) round tally).run j =
      (.error error, { j with requested := j.requested.push round }) := by
  rw [Contest.runRounds]
  apply Running.run_bind_error
  rw [runRound]
  exact Running.run_bind_error (h.run_expression j)

/-- The run lemma: a run plays the rounds with valid texts and stops at the refused one. -/
theorem Refuses.run {texts : List String} {error : RunError}
    (hround : texts.length < c.campaign.rounds) (hall : c.SuppliesAll seed 0 texts)
    (h : c.Refuses seed texts.length error) (j : Journal) :
    let played := (c.playAll 0 texts ({ seed }, j)).2
    (c.run seed).run j =
      (.error error, { played with requested := played.requested.push texts.length }) := by
  intro played
  have hrun := runRounds_append hall (c.campaign.rounds - texts.length - 1 + 1) { seed } j
  have hcount : texts.length + (c.campaign.rounds - texts.length - 1 + 1) = c.campaign.rounds := by
    omega
  rw [hcount, Nat.zero_add, h.runRounds] at hrun
  exact hrun

end Contest

end Crosscheck
