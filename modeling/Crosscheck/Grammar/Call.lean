import Crosscheck.Dialect.Basic
import Crosscheck.Grammar.Lexeme

/-!
# Calls

A call is the name of a function, then its arguments between parens, separated by
commas. An argument is a number, with or without a minus sign in front. The number
of arguments lies between the bounds that the dialect sets for the name; where the
upper bound is no 64-bit word, the check breaks off.
-/

namespace Crosscheck

/-- What an argument list can go on with. -/
inductive ArgumentPart where
  /-- An argument, with or without a sign. -/
  | argument
  /-- The number after a minus sign. -/
  | literal
  /-- A comma or the close paren. -/
  | separator
deriving DecidableEq

/-- What is wrong with an argument list. -/
inductive ArgumentFault where
  | empty
  | malformed
  | unclosed
deriving DecidableEq

/-- Reads the rest of an argument list up to its close paren, `count` arguments
having been read. Yields the number of arguments and the lexemes after the paren. -/
def readArguments (expected : ArgumentPart) (count : Nat) :
    List Located → Except ArgumentFault (Nat × List Located)
  | [] => .error .unclosed
  | ⟨_, lexeme⟩ :: rest =>
    match expected, lexeme with
    | .argument, .number _ => readArguments .separator (count + 1) rest
    | .argument, .operator '-' => readArguments .literal count rest
    | .argument, .closeParen => .error (if count = 0 then .empty else .malformed)
    | .literal, .number _ => readArguments .separator (count + 1) rest
    | .separator, .comma => readArguments .argument count rest
    | .separator, .closeParen => .ok (count, rest)
    | _, _ => .error .malformed

/-- An argument list takes up at least one lexeme. -/
theorem length_lt_of_readArguments {expected : ArgumentPart} {count n : Nat}
    {ls rest : List Located} (h : readArguments expected count ls = .ok (n, rest)) :
    rest.length < ls.length := by
  induction ls generalizing expected count with
  | nil => simp [readArguments] at h
  | cons l ls ih =>
    obtain ⟨_, lexeme⟩ := l
    simp only [readArguments] at h
    split at h
    · exact Nat.lt_succ_of_lt (ih h)
    · exact Nat.lt_succ_of_lt (ih h)
    · cases h
    · exact Nat.lt_succ_of_lt (ih h)
    · exact Nat.lt_succ_of_lt (ih h)
    · cases h
      exact Nat.lt_succ_self _
    · cases h

/-- The violation that a faulty argument list of a call amounts to. -/
def ArgumentFault.violation (name : String) (offset : Nat) : ArgumentFault → Violation
  | .empty => .emptyArgumentList name offset
  | .malformed => .malformedArgument name offset
  | .unclosed => .unclosedCall name offset

/-- What is wrong with the number of arguments of a call. -/
def countError? (d : Dialect) (name : String) (count : Nat) : Option CheckError :=
  match d.maxArguments name with
  | none => some .overflow
  | some most =>
    if d.minArguments name ≤ count ∧ count ≤ most then none
    else some (.violation (.arityMismatch name count (d.minArguments name) most))

/-- Checks the call whose name stands at `offset`, given the lexemes after the name.
Yields the lexemes after the call. -/
def checkCall (d : Dialect) (name : String) (offset : Nat) (ls : List Located) :
    Except CheckError (List Located) :=
  if !d.isFunction name then .error (.violation (.unknownFunction name offset))
  else
    match ls with
    | ⟨_, .openParen⟩ :: inner =>
      match readArguments .argument 0 inner with
      | .error fault => .error (.violation (fault.violation name offset))
      | .ok (count, rest) =>
        match countError? d name count with
        | some error => .error error
        | none => .ok rest
    | _ => .error (.violation (.callMissingOpenParen name offset))

/-- The lexemes after a call are fewer than those after its name. -/
theorem length_lt_of_checkCall {d : Dialect} {name : String} {offset : Nat}
    {ls rest : List Located} (h : checkCall d name offset ls = .ok rest) :
    rest.length < ls.length := by
  unfold checkCall at h
  split at h
  · cases h
  · split at h
    · split at h
      · cases h
      · rename_i hread
        split at h
        · cases h
        · cases h
          exact Nat.lt_succ_of_lt (length_lt_of_readArguments hread)
    · cases h

end Crosscheck
