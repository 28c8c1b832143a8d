import Mathlib

/-! # `status.h`: operation status and results -/

namespace VoiceLife

/-- `ErrorCode`. -/
inductive ErrorCode where
  | none
  | invalidArgument
  | notFound
  | alreadyExists
  | conflict
  | unavailable
  | internal
deriving DecidableEq, Repr

/-- `Status`: a code and a message for people. -/
structure Status where
  code : ErrorCode := .none
  message : String := ""
deriving DecidableEq, Repr

namespace Status

/-- `Status::ok`. -/
def ok (status : Status) : Bool :=
  status.code == .none

/-- `Status::Ok`. -/
def success : Status := {}

/-- `Status::Error`. -/
def error (code : ErrorCode) (message : String) : Status :=
  { code, message }

@[simp] theorem ok_success : success.ok = true := rfl

@[simp] theorem ok_error (code : ErrorCode) (message : String) :
    (error code message).ok = (code == .none) := rfl

end Status

/-- `Result<T>` and `CommandResult<T>`: the value of a success or the status of a failure. -/
abbrev Result (α : Type) := Except Status α

/-- `Result::Failure`. -/
def Result.failure {α : Type} (code : ErrorCode) (message : String) : Result α :=
  .error (Status.error code message)

/-- The status that a result carries. -/
def Result.status {α : Type} : Result α → Status
  | .ok _ => Status.success
  | .error status => status

/-- A sequence of two steps succeeds when both do. -/
theorem bind_eq_ok {ε α β : Type} {x : Except ε α} {f : α → Except ε β} {b : β} :
    (x >>= f) = .ok b ↔ ∃ a, x = .ok a ∧ f a = .ok b := by
  cases x with
  | error status =>
      constructor
      · intro h
        cases h
      · rintro ⟨a, ha, -⟩
        cases ha
  | ok a =>
      constructor
      · exact fun h => ⟨a, rfl, h⟩
      · rintro ⟨a', ha, h⟩
        obtain rfl := Except.ok.inj ha
        exact h

end VoiceLife
