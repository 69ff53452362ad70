import Mathlib.Logic.Function.Basic

/-!
# Errors and addresses

`Result` is the result type of fallible functions.  An error is the text which
it prints with all the contexts that were added on the way up.  A function which
may also panic runs in `MayPanic`.
-/

namespace DmarcReportViewer

abbrev Result (α : Type) : Type :=
  Except String α

/-- Put a context in front of the error of a failed computation. -/
def Result.context {α : Type} (result : Result α) (message : String) : Result α :=
  match result with
  | .ok value => .ok value
  | .error error => .error (message ++ ": " ++ error)

/-- A computation which returns a result unless it panics, which is `none`. -/
abbrev MayPanic (α : Type) : Type :=
  ExceptT String Option α

/-- Put a context in front of the error of a failed computation, as for a result. -/
def MayPanic.context {α : Type} (computation : MayPanic α) (message : String) : MayPanic α :=
  ExceptT.mk (computation.run.map (Result.context · message))

/-- Turn a missing value into an error. -/
def orError {α : Type} (value : Option α) (message : String) : Result α :=
  match value with
  | some value => .ok value
  | none => .error message

@[simp]
theorem context_eq_ok_iff {α : Type} {result : Result α} {message : String} {value : α} :
    result.context message = .ok value ↔ result = .ok value := by
  cases result <;> simp [Result.context]

@[simp]
theorem run_context_eq_ok_iff {α : Type} {computation : MayPanic α} {message : String}
    {value : α} :
    (computation.context message).run = some (.ok value) ↔
      computation.run = some (.ok value) := by
  simp [MayPanic.context]

@[simp]
theorem orError_eq_ok_iff {α : Type} {found : Option α} {message : String} {value : α} :
    orError found message = .ok value ↔ found = some value := by
  cases found <;> simp [orError]

/-- An IPv4 or IPv6 address. -/
inductive IpAddr where
  | v4 (address : BitVec 32)
  | v6 (address : BitVec 128)
deriving DecidableEq

end DmarcReportViewer
