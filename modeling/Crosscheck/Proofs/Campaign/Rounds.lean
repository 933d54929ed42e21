import Crosscheck.Campaign.Run

/-!
# Rounds that are played

A round whose expression is valid is played: both evaluators get the text, and the run goes
on whatever they reply. This file describes a played round as a pure function of the tally
and the journal, and proves that a run over valid expressions plays them one after the
other, whatever source they come from.
-/

namespace Crosscheck

/-- An action that succeeds hands its value and its journal to the next one. -/
theorem Running.run_bind {α β : Type} {action : Running α} {next : α → Running β}
    {j j' : Journal} {a : α} (h : action.run j = (.ok a, j')) :
    (action >>= next).run j = (next a).run j' := by
  rw [ExceptT.run_bind]
  simp only [bind, StateT.bind, h]

namespace Journal

/-- The journal after the source was asked for a round and both evaluators got its text. -/
def asked (j : Journal) (round : Nat) (text : String) : Journal :=
  { j with
    requested := j.requested.push round
    askedReference := j.askedReference.push text
    askedCandidate := j.askedCandidate.push text }

end Journal

namespace Contest

/-- Whether the source gives a text for a round, and the dialect accepts it. -/
def Supplies (c : Contest) (seed : UInt64) (round : Nat) (text : String) : Prop :=
  c.source seed round = .ok text ∧ ∃ shape, c.campaign.dialect.check text = .ok shape

/-- Whether the source gives valid texts for the rounds from `round` on. -/
def SuppliesAll (c : Contest) (seed : UInt64) : (round : Nat) → List String → Prop
  | _, [] => True
  | round, text :: texts => c.Supplies seed round text ∧ c.SuppliesAll seed (round + 1) texts

/-- The report of a round in which both evaluators are asked after what is in the journal. -/
def report (c : Contest) (j : Journal) (round : Nat) (text : String) : RoundReport :=
  let reference := c.withinDeadline (c.reference j.askedReference text)
  let candidate := c.withinDeadline (c.candidate j.askedCandidate text)
  ⟨round, text, reference, candidate, Verdict.of c.campaign.tolerance reference candidate⟩

/-- What a played round makes of the tally and the journal. -/
def play (c : Contest) (round : Nat) (text : String) (state : Tally × Journal) :
    Tally × Journal :=
  let report := c.report state.2 round text
  (state.1.record report.verdict,
    { state.2.asked round text with reports := state.2.reports.push report })

/-- What the played rounds from `round` on make of the tally and the journal. -/
def playAll (c : Contest) : (round : Nat) → List String → Tally × Journal → Tally × Journal
  | _, [], state => state
  | round, text :: texts, state => c.playAll (round + 1) texts (c.play round text state)

variable {c : Contest} {seed : UInt64}

/-- The source is asked for a valid expression, and nothing else happens. -/
theorem run_expression {round : Nat} {text : String} (h : c.Supplies seed round text)
    (j : Journal) :
    (c.expression seed round).run j =
      (.ok text, { j with requested := j.requested.push round }) := by
  obtain ⟨hsource, shape, hcheck⟩ := h
  simp only [expression, hsource, hcheck]
  rfl

/-- A round with a valid expression ends with a report, whatever the evaluators reply. -/
theorem run_runRound {round : Nat} {text : String} (h : c.Supplies seed round text)
    (j : Journal) :
    (c.runRound seed round).run j = (.ok (c.report j round text), j.asked round text) := by
  rw [runRound, Running.run_bind (run_expression h j)]
  rfl

/-- The step lemma: a run plays a round with a valid expression and goes on. -/
theorem runRounds_succ {round : Nat} {text : String} (h : c.Supplies seed round text)
    (count : Nat) (tally : Tally) (j : Journal) :
    (c.runRounds seed (count + 1) round tally).run j =
      (c.runRounds seed count (round + 1) (c.play round text (tally, j)).1).run
        (c.play round text (tally, j)).2 := by
  rw [runRounds, Running.run_bind (run_runRound h j)]
  rfl

/-- The run lemma: a run plays all rounds with valid expressions and goes on after them. -/
theorem runRounds_append {round : Nat} {texts : List String}
    (h : c.SuppliesAll seed round texts) (count : Nat) (tally : Tally) (j : Journal) :
    (c.runRounds seed (texts.length + count) round tally).run j =
      (c.runRounds seed count (round + texts.length) (c.playAll round texts (tally, j)).1).run
        (c.playAll round texts (tally, j)).2 := by
  induction texts generalizing round tally j with
  | nil =>
    rw [List.length_nil, Nat.zero_add, Nat.add_zero]
    rfl
  | cons text texts ih =>
    have hlength : (text :: texts).length + count = (texts.length + count) + 1 := by
      rw [List.length_cons]
      omega
    have hround : round + (text :: texts).length = round + 1 + texts.length := by
      rw [List.length_cons]
      omega
    rw [hlength, hround, runRounds_succ h.1, ih h.2]
    rfl

/-- A run whose expressions are all valid ends with the tally of the played rounds. -/
theorem run_of_suppliesAll {texts : List String} (hcount : texts.length = c.campaign.rounds)
    (h : c.SuppliesAll seed 0 texts) (j : Journal) :
    (c.run seed).run j =
      (.ok (c.playAll 0 texts ({ seed }, j)).1, (c.playAll 0 texts ({ seed }, j)).2) := by
  have hrun := runRounds_append h 0 { seed } j
  rw [Nat.add_zero, hcount] at hrun
  rw [run, hrun]
  rfl

section

variable (c : Contest) (round : Nat) (texts : List String) (state : Tally × Journal)

/-- Each played round counts once. -/
theorem playAll_rounds :
    (c.playAll round texts state).1.rounds = state.1.rounds + texts.length := by
  induction texts generalizing round state with
  | nil => rfl
  | cons text texts ih =>
    have hrecord : (c.play round text state).1.rounds = state.1.rounds + 1 := by
      simp only [play]
      cases (c.report state.2 round text).verdict <;> rfl
    rw [playAll, ih, hrecord, List.length_cons]
    omega

/-- Playing keeps the seed of the tally. -/
theorem playAll_seed : (c.playAll round texts state).1.seed = state.1.seed := by
  induction texts generalizing round state with
  | nil => rfl
  | cons text texts ih =>
    rw [playAll, ih, play]
    cases (c.report state.2 round text).verdict <;> rfl

/-- What each played round appends to a part of the journal, the played rounds append one
after the other. -/
theorem playAll_appends {α : Type} (part : Journal → List α) (entry : Nat → String → α)
    (h : ∀ round text state,
      part (c.play round text state).2 = part state.2 ++ [entry round text]) :
    part (c.playAll round texts state).2 =
      part state.2 ++ ((List.range' round texts.length).zip texts).map fun p => entry p.1 p.2 := by
  induction texts generalizing round state with
  | nil => simp [playAll]
  | cons text texts ih => simp [playAll, ih, h, List.range'_succ]

/-- The reference evaluator gets the texts of the played rounds, in order. -/
theorem playAll_askedReference :
    (c.playAll round texts state).2.askedReference.toList =
      state.2.askedReference.toList ++ texts := by
  rw [c.playAll_appends round texts state (·.askedReference.toList) (fun _ text => text)]
  · rw [List.map_snd_zip (by simp)]
  · intro round text state
    exact Array.toList_push

/-- The candidate evaluator gets the texts of the played rounds, in order. -/
theorem playAll_askedCandidate :
    (c.playAll round texts state).2.askedCandidate.toList =
      state.2.askedCandidate.toList ++ texts := by
  rw [c.playAll_appends round texts state (·.askedCandidate.toList) (fun _ text => text)]
  · rw [List.map_snd_zip (by simp)]
  · intro round text state
    exact Array.toList_push

/-- Each played round is reported with its number and its text. -/
theorem playAll_reports :
    ((c.playAll round texts state).2.reports.toList.map fun r => (r.round, r.expression)) =
      (state.2.reports.toList.map fun r => (r.round, r.expression)) ++
        (List.range' round texts.length).zip texts := by
  rw [c.playAll_appends round texts state (·.reports.toList.map fun r => (r.round, r.expression))
    Prod.mk]
  · rw [List.map_id']
  · intro round text state
    simp [play, report]

end

end Contest

end Crosscheck
