import LoadBinding.Settings.Choice
import LoadBinding.Text.Utf8

/-!
# Outcomes of record operations

An operation on records reports what happened as a value and never fails: a failure of the store,
an empty result and inconsistent data are all outcomes.
-/

namespace LoadBinding

/-- How an operation ended, what there is to say about it, and what it found. -/
structure Outcome (α : Type) where
  status : Status
  message : Option String := none
  data : Option α := none

namespace Outcome

variable {α β : Type}

/-- The operation did what was asked. -/
def ok (data : Option α) : Outcome α := { status := .ok, data := data }

/-- The operation failed, or found nothing to do. -/
def error (message : String) : Outcome α := { status := .error, message := some message }

/-- The operation found data that contradict what was asked. -/
def unexpected (message : String) : Outcome α :=
  { status := .unexpectedState, message := some message }

/-- Whether an outcome is that of success. -/
def isOk (o : Outcome α) : Bool := o.status == .ok

/-- Changes the data of an outcome. -/
def map (f : α → β) (o : Outcome α) : Outcome β :=
  { status := o.status, message := o.message, data := o.data.map f }

end Outcome

end LoadBinding
