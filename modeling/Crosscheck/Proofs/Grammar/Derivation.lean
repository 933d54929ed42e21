import Crosscheck.Proofs.Grammar.Reading

/-!
# The grammar of expressions

An expression is one or more terms with operators between them; a term is a number, a
group between parens or a call. The checker scans the lexemes once with a flag and a
depth counter. This file proves that the scan accepts exactly the expressions of the
grammar. What the open groups of a scanner state still demand of the text is written
down as `Dialect.Trail`, which carries the direction from the scan to the grammar.
-/

namespace Crosscheck

/-- The nonterminals of the grammar. -/
inductive Nonterminal where
  | term
  | expr

/-- The lexemes that the grammar derives from a nonterminal. A term is a number, an
expression between parens or a call; an expression is a term, or a term, an operator of
the dialect and another expression. -/
inductive Dialect.Derives (d : Dialect) : Nonterminal → List Lexeme → Prop
  | number (n : Nat) : Derives d .term [.number n]
  | group {e : List Lexeme} :
      Derives d .expr e → Derives d .term (.openParen :: (e ++ [.closeParen]))
  | call {name : String} {xs : List Lexeme} :
      name ∈ d.functions → d.IsArgumentList name xs → Derives d .term (.ident name :: xs)
  | single {t : List Lexeme} : Derives d .term t → Derives d .expr t
  | operator {t e : List Lexeme} {c : Char} : Derives d .term t → c ∈ d.operators →
      Derives d .expr e → Derives d .expr (t ++ .operator c :: e)

/-- What may follow a term inside `depth` open groups: operators with their terms, and a
close paren for each of the groups. -/
inductive Dialect.Trail (d : Dialect) : (depth : Nat) → List Lexeme → Prop
  | nil : Trail d 0 []
  | operator {depth : Nat} {c : Char} {t xs : List Lexeme} : c ∈ d.operators →
      d.Derives .term t → Trail d depth xs → Trail d depth (.operator c :: (t ++ xs))
  | closeParen {depth : Nat} {xs : List Lexeme} :
      Trail d depth xs → Trail d (depth + 1) (.closeParen :: xs)

namespace Dialect

variable {d : Dialect}

/-- Outside of all groups, a term and its trail are an expression. -/
theorem Trail.derives {xs : List Lexeme} (h : d.Trail 0 xs) {t : List Lexeme}
    (ht : d.Derives .term t) : d.Derives .expr (t ++ xs) := by
  generalize hdepth : 0 = depth at h
  induction h generalizing t with
  | nil =>
    rw [List.append_nil]
    exact .single ht
  | operator hc ht' _ ih => exact .operator ht hc (ih ht' hdepth)
  | closeParen => omega

/-- Inside a group, a trail closes the group, and the term before it with what comes up to
the close paren is an expression. -/
theorem Trail.exists_closeParen {depth : Nat} {xs : List Lexeme} (h : d.Trail (depth + 1) xs) :
    ∃ ys zs, xs = ys ++ .closeParen :: zs ∧ d.Trail depth zs ∧
      ∀ {t}, d.Derives .term t → d.Derives .expr (t ++ ys) := by
  generalize hdepth : depth + 1 = k at h
  induction h with
  | nil => omega
  | @operator _ c t xs hc ht _ ih =>
    obtain ⟨ys, zs, rfl, htrail, hexpr⟩ := ih hdepth
    refine ⟨.operator c :: (t ++ ys), zs, by simp, htrail, ?_⟩
    intro t' ht'
    exact .operator ht' hc (hexpr ht)
  | @closeParen k xs htrail _ =>
    obtain rfl := Nat.succ.inj hdepth
    refine ⟨[], xs, rfl, htrail, ?_⟩
    intro t ht
    rw [List.append_nil]
    exact .single ht

end Dialect

namespace Progress

variable {d : Dialect} {p q : Progress}

/-- No group is open at the start, and one is after an open paren. -/
def Coherent (p : Progress) : Prop :=
  (p.last = .start → p.depth = 0) ∧ (p.last = .openParen → p.depth ≠ 0)

/-- The checker starts in a coherent state. -/
theorem coherent_start : Coherent {} := ⟨fun _ => rfl, by simp⟩

/-- Every transition leads to a coherent state. -/
theorem Reads.coherent {u : List Lexeme} (h : Reads d p u q) : q.Coherent := by
  cases h <;> simp [Coherent]

/-- A run to a good end reads a trail after an operand, and elsewhere a term with a trail
after it, unless it reads nothing at all. -/
theorem Runs.trail {xs : List Lexeme} (h : Runs d p xs q) (hp : p.Coherent) (hq : q.Complete) :
    (p.last = .operand → d.Trail p.depth xs) ∧
      (p.last ≠ .operand → (p.last = .start ∧ xs = []) ∨
        ∃ t ys, xs = t ++ ys ∧ d.Derives .term t ∧ d.Trail p.depth ys) := by
  induction h with
  | nil p =>
    constructor
    · intro _
      rw [hq.2]
      exact .nil
    · intro hlast
      left
      cases h : p.last with
      | start => exact ⟨rfl, rfl⟩
      | operand => exact absurd h hlast
      | operator => exact absurd h hq.1
      | openParen => exact absurd hq.2 (hp.2 h)
  | @cons p q r u xs hread _ ih =>
    obtain ⟨hafter, hbefore⟩ := ih hread.coherent hq
    cases hread with
    | number n hlast =>
      refine ⟨fun h => absurd h hlast, fun _ => .inr ?_⟩
      exact ⟨[.number n], xs, rfl, .number n, hafter rfl⟩
    | @operator c hlast hc =>
      refine ⟨fun _ => ?_, fun h => absurd hlast h⟩
      obtain ⟨t, ys, rfl, ht, hys⟩ := (hbefore (by simp)).resolve_left (by simp)
      change d.Trail p.depth (.operator c :: (t ++ ys))
      exact .operator hc ht hys
    | openParen hlast =>
      refine ⟨fun h => absurd h hlast, fun _ => .inr ?_⟩
      obtain ⟨t, ys, rfl, ht, hys⟩ := (hbefore (by simp)).resolve_left (by simp)
      obtain ⟨inner, after, rfl, htrail, hexpr⟩ := hys.exists_closeParen
      exact ⟨.openParen :: (t ++ inner ++ [.closeParen]), after, by simp, .group (hexpr ht), htrail⟩
    | closeParen hlast hdepth =>
      have hlast : p.last = .operand := hlast.resolve_left fun h => hdepth (hp.1 h)
      refine ⟨fun _ => ?_, fun h => absurd hlast h⟩
      have htrail := (hafter rfl).closeParen
      rwa [closeGroup_depth, Nat.sub_add_cancel (Nat.pos_of_ne_zero hdepth)] at htrail
    | @call name args hlast hname hargs =>
      refine ⟨fun h => absurd h hlast, fun _ => .inr ?_⟩
      exact ⟨.ident name :: args, xs, rfl, .call hname hargs, hafter rfl⟩

/-- Where an operand is due, the checker reads whatever the grammar derives, and ends after
an operand at the same depth. -/
theorem exists_runs_of_derives {s : Nonterminal} {xs : List Lexeme} (h : d.Derives s xs)
    (hp : p.last ≠ .operand) : ∃ q, Runs d p xs q ∧ q.last = .operand ∧ q.depth = p.depth := by
  induction h generalizing p with
  | number n => exact ⟨p.operand, (Reads.number n hp).runs, rfl, rfl⟩
  | group _ ih =>
    obtain ⟨q, hruns, hlast, hdepth⟩ := ih (p := p.openGroup) (by simp)
    rw [openGroup_depth] at hdepth
    refine ⟨q.closeGroup, ?_, rfl, ?_⟩
    · exact .cons (.openParen hp) (hruns.append (Reads.closeParen (.inr hlast) (by omega)).runs)
    · rw [closeGroup_depth]
      omega
  | call hname hargs => exact ⟨p.call, (Reads.call hp hname hargs).runs, rfl, rfl⟩
  | single _ ih => exact ih hp
  | operator _ hc _ iht ihe =>
    obtain ⟨q, hterm, hlast, hdepth⟩ := iht hp
    obtain ⟨r, hexpr, hlast', hdepth'⟩ := ihe (p := q.operator) (by simp)
    refine ⟨r, hterm.append (.cons (.operator hlast hc) hexpr), hlast', ?_⟩
    rw [hdepth', operator_depth, hdepth]

end Progress

namespace Dialect

variable {d : Dialect}

/-- Nothing derived is empty. -/
theorem Derives.ne_nil {s : Nonterminal} {xs : List Lexeme} (h : d.Derives s xs) : xs ≠ [] := by
  induction h <;> simp_all

/-- A list of lexemes is accepted exactly when it is derived from an expression. -/
theorem exists_checkLexemes_eq_ok_iff {ls : List Located} :
    (∃ s, d.checkLexemes ls = .ok s) ↔ d.Derives .expr (lexemes ls) := by
  constructor
  · rintro ⟨s, h⟩
    obtain ⟨hne, p, hruns, hcomplete, -⟩ := checkLexemes_eq_ok_iff.mp h
    rcases (hruns.trail Progress.coherent_start hcomplete).2 (by simp) with
      ⟨-, hnil⟩ | ⟨t, ys, hxs, ht, hys⟩
    · exact absurd (List.map_eq_nil_iff.mp hnil) hne
    · rw [hxs]
      exact hys.derives ht
  · intro h
    obtain ⟨p, hruns, hlast, hdepth⟩ := Progress.exists_runs_of_derives (p := {}) h (by simp)
    refine ⟨p.shape, checkLexemes_eq_ok_iff.mpr ⟨?_, p, hruns, ⟨by simp [hlast], hdepth⟩, rfl⟩⟩
    rintro rfl
    exact h.ne_nil rfl

/-- **The validator accepts exactly its grammar.** A text is accepted when it splits into
lexemes and these are derived from an expression. -/
theorem check_accepts_iff_derives (text : String) :
    (∃ s, d.check text = .ok s) ↔
      ∃ ls, Lexeme.ofText text = .ok ls ∧ d.Derives .expr (lexemes ls) := by
  cases h : Lexeme.ofText text with
  | error violation => simp [check_eq_ok_iff, h]
  | ok ls =>
    have hiff : (∃ s, d.checkLexemes ls = .ok s) ↔ d.Derives .expr (lexemes ls) :=
      exists_checkLexemes_eq_ok_iff
    simpa [check_of_ofText h] using hiff

end Dialect

end Crosscheck
