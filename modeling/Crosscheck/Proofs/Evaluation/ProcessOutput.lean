import Crosscheck.Evaluation.Process
import Crosscheck.Proofs.Text.Line

/-!
# What a reply is read from

Of each output stream of a process only the last line that is not blank counts. The reply is the
same when a stream is changed in a way that keeps this line: more lines in front, white space at
the end, carriage returns before the newlines. A process that succeeds is not asked for its error
stream, and one that fails is asked for its output only when there is nothing in its error stream.
-/

namespace Crosscheck

open Text

/-- Changes of a text that keep its last line, one after the other: complete lines are put in front
of a text that is not blank, white space is appended, or each newline gets a carriage return. -/
inductive Reframes (text : List Char) : List Char → Prop
  | unchanged : Reframes text text
  | lines {changed : List Char} (lines : List (List Char)) :
      Reframes text changed → ¬IsBlank changed →
      Reframes text (lines.flatMap (· ++ ['\n']) ++ changed)
  | blank {changed : List Char} (blank : List Char) :
      Reframes text changed → IsBlank blank → Reframes text (changed ++ blank)
  | returns {changed : List Char} : Reframes text changed → Reframes text (withReturns changed)

/-- A changed text has the last line that it had. -/
theorem Reframes.lastLine?_eq {text changed : List Char} (h : Reframes text changed) :
    lastLine? changed = lastLine? text := by
  induction h with
  | unchanged => rfl
  | lines lines _ hcontent ih => rw [lastLine?_lines_append hcontent, ih]
  | blank blank _ hblank ih => rw [lastLine?_append_blank hblank, ih]
  | returns _ ih => rw [lastLine?_withReturns, ih]

variable {code : Option Int} {stdout stdout' stderr stderr' : List Char}

/-- A process that succeeds is answered for by its output. -/
theorem processReply_of_success (hout : lastLine? stdout' = lastLine? stdout) :
    processReply (some 0) stdout' stderr' = processReply (some 0) stdout stderr := by
  simp only [processReply, interpretOutput, hout, ↓reduceIte]

/-- A process that fails is answered for by its error stream, and by its output when there is no
line in the error stream. -/
theorem processReply_of_failure (hcode : code ≠ some 0)
    (herr : lastLine? stderr' = lastLine? stderr)
    (hout : lastLine? stderr = none → lastLine? stdout' = lastLine? stdout) :
    processReply code stdout' stderr' = processReply code stdout stderr := by
  have hline :
      (lastLine? stderr' <|> lastLine? stdout') = (lastLine? stderr <|> lastLine? stdout) := by
    cases hstderr : lastLine? stderr with
    | none => rw [herr, hstderr, hout hstderr]
    | some line =>
      rw [herr, hstderr]
      rfl
  have hinterpret :
      interpretOutput false stdout' stderr' = interpretOutput false stdout stderr := by
    simp only [interpretOutput, hline, Bool.false_eq_true, ↓reduceIte]
  have hlaunch : launchFailure? code stderr' = launchFailure? code stderr := by
    unfold launchFailure?
    rw [herr]
  rw [processReply, processReply, if_neg hcode, if_neg hcode, hlaunch, hinterpret]

/-- **The reply of a process is read from the last lines of its streams.** It stays the same when
both streams are changed without a change to their last lines. When the process succeeds, it does
not depend on the error stream at all, and when it fails, it does not depend on the output, unless
the error stream is blank. -/
theorem processReply_of_reframes (code : Option Int) (hout : Reframes stdout stdout')
    (herr : Reframes stderr stderr') :
    processReply code stdout' stderr' = processReply code stdout stderr ∧
    (code = some 0 → ∀ other, processReply code stdout other = processReply code stdout stderr) ∧
    (code ≠ some 0 → ¬IsBlank stderr →
      ∀ other, processReply code other stderr = processReply code stdout stderr) := by
  refine ⟨?streams, ?success, ?failure⟩
  case streams =>
    by_cases hcode : code = some 0
    · subst code
      exact processReply_of_success hout.lastLine?_eq
    · exact processReply_of_failure hcode herr.lastLine?_eq fun _ => hout.lastLine?_eq
  case success =>
    rintro rfl other
    exact processReply_of_success rfl
  case failure =>
    intro hcode hcontent other
    refine processReply_of_failure hcode rfl fun hnone => ?_
    exact absurd (lastLine?_eq_none_iff.mp hnone) hcontent

/-- An output with another line in front, an ideographic space and a lone carriage return behind,
and carriage returns before its newlines, and an error stream that is changed in the same way. The
output counts when the process succeeds, the error stream when it fails or could not be run. -/
theorem processReply_of_reframes_both_streams :
    let stdout := "loading\n\t-0x\n2.5 \n\n".toList
    let stderr := "panic\nnot found".toList
    let stdout' := "v1\r\n\r\nloading\r\n\t-0x\r\n2.5 \r\n\r\n\u3000\r".toList
    let stderr' := "sh: \npanic\nnot found\n \u00a0".toList
    Reframes stdout stdout' ∧ Reframes stderr stderr' ∧
      processReply (some 0) stdout' stderr' = .ok (.value ⟨0x4004000000000000⟩) ∧
      processReply (some 0) stdout [] = .ok (.value ⟨0x4004000000000000⟩) ∧
      processReply (some 127) stdout' stderr' =
        .error (.notStarted "exit status 127: not found") ∧
      processReply none [] stderr = .ok (.error "not found") := by
  intro stdout stderr stdout' stderr'
  have hout : Reframes stdout stdout' :=
    .blank "\u3000\r".toList (.returns (.lines ["v1".toList, []] .unchanged (by decide)))
      (by decide)
  have herr : Reframes stderr stderr' :=
    .blank "\n \u00a0".toList (.lines ["sh: ".toList] .unchanged (by decide)) (by decide)
  have hsuccess : processReply (some 0) stdout stderr = .ok (.value ⟨0x4004000000000000⟩) := by
    decide +kernel
  have hlaunch : processReply (some 127) stdout stderr =
      .error (.notStarted "exit status 127: not found") := by decide +kernel
  have hkilled : processReply none stdout stderr = .ok (.error "not found") := by decide +kernel
  obtain ⟨hzero, hquiet, -⟩ := processReply_of_reframes (some 0) hout herr
  obtain ⟨hmissing, -, -⟩ := processReply_of_reframes (some 127) hout herr
  obtain ⟨-, -, hstderr⟩ := processReply_of_reframes none hout herr
  refine ⟨hout, herr, ?_, ?_, ?_, ?_⟩
  · rw [hzero, hsuccess]
  · rw [hquiet rfl, hsuccess]
  · rw [hmissing, hlaunch]
  · rw [hstderr (by decide) (by decide), hkilled]

end Crosscheck
