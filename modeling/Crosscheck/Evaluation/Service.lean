import Crosscheck.Evaluation.Outcome
import Crosscheck.Json.Value

/-!
# Evaluators behind a web service

The reference evaluator is sent the expression as a JSON object and answers with another
one, of which the members `result` and `error` count. An error is the service's own report
that it refused the expression. A body that cannot be read means that the service is not
well when the status says so too, and that its answer is malformed otherwise.
-/

namespace Crosscheck

open Text

/-- The body that asks for the value of an expression. -/
def serviceRequest (expression : String) : String :=
  String.ofList ('\x7b' :: (Json.quote "expr" ++ ':' :: Json.quote expression ++ ['\x7d']))

/-- What counts in the body of an answer. -/
structure ServiceAnswer where
  result : Option Json.Value := none
  error : Option String := none

namespace ServiceAnswer

/-- How many arrays and objects may be inside one another in a result. -/
def maxDepth : Nat := 126

/-- A result: null stands for none. -/
def result? (s : Json.Syntax) : Option (Option Json.Value) :=
  match s with
  | .null => some none
  | s => (Json.Value.ofSyntax? maxDepth s).map some

/-- An error: a string, or null for none. -/
def error? (s : Json.Syntax) : Option (Option String) :=
  match s with
  | .null => some none
  | .string parts => (Json.string? parts).map some
  | _ => none

/-- A member that may be there once. -/
def member? {α : Type} (read : Json.Syntax → Option (Option α)) (name : String)
    (members : List (String × Json.Syntax)) : Option (Option α) :=
  match members.filter (·.1 == name) with
  | [] => some none
  | [(_, value)] => read value
  | _ => none

/-- Reads an answer: an object with the two members, or an array with the two values in
this order. What is missing is null, and other members are ignored. -/
def ofSyntax? : Json.Syntax → Option ServiceAnswer
  | .object members => do
    let members ← members.mapM fun (name, value) => do some (← Json.string? name, value)
    some ⟨← member? result? "result" members, ← member? error? "error" members⟩
  | .array [] => some {}
  | .array [result] => do some ⟨← result? result, none⟩
  | .array [result, error] => do some ⟨← result? result, ← error? error⟩
  | _ => none

/-- Reads the body of an answer. -/
def ofText? (body : List Char) : Option ServiceAnswer := do ofSyntax? (← Json.Syntax.ofText? body)

/-- The reply that an answer amounts to. A result that is text is read like any evaluator's
answer; one that is neither text nor a number is an error report. -/
def reply (a : ServiceAnswer) (body : List Char) : Reply :=
  match a.error, a.result with
  | some report, _ => .ok (.error report)
  | none, some (.string text) => .ok (.ofText text.toList)
  | none, some value =>
    match value.number? with
    | some x => .ok (.value x)
    | none => .ok (.error (String.join ["non-numeric result: ", String.ofList value.chars]))
  | none, none => .error (.malformedReply (String.ofList body))

end ServiceAnswer

/-- Reads the answer of the service. `unreadable` explains why a body is not an answer. -/
def interpretResponse (success : Bool) (status : Nat) (body : List Char)
    (unreadable : String := "not a JSON answer") : Reply :=
  match ServiceAnswer.ofText? body with
  | some answer => answer.reply body
  | none =>
    if success then .error (.malformedReply (String.join [unreadable, ": ", String.ofList body]))
    else
      .error (.unreachable
        (String.join ["HTTP ", numeral status, ": ", String.ofList (trim body)]))

/-- Whether a status reports success. -/
def isSuccessStatus (status : Nat) : Bool := 200 ≤ status && status ≤ 299

/-- How an exchange with the service went. -/
inductive ServiceExchange where
  /-- There was no answer, or only a part of one. -/
  | broken (detail : String)
  | answered (status : Nat) (body : List Char)

/-- The reply of the service. -/
def ServiceExchange.reply (unreadable : String) : ServiceExchange → Reply
  | .broken detail => .error (.unreachable detail)
  | .answered status body => interpretResponse (isSuccessStatus status) status body unreadable

end Crosscheck
