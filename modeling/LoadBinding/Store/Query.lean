import LoadBinding.Document.Value

/-!
# Filters and projections

A filter asks of each of its fields either that it equals a value or that it is a text not below a
bound in code point order.  A missing field counts as null.  Comparing a bound with a value that is
no text is a mistake, which `Filter.holds` reports; null is not below anything and just fails the
condition.

A projection names the fields to return.  The field `_id` is always returned, and a projection that
names nothing returns the whole document.
-/

namespace LoadBinding

/-- The field that holds the key of a document. -/
def idField : String := "_id"

/-- What a filter asks of a field. -/
inductive Condition
  | equals (v : Value)
  /-- To be a text not below the bound. -/
  | atLeast (bound : String)

/-- What a filter asks of each of its fields. -/
abbrev Filter := Mapping Condition

/-- The fields to return, each with the flag 1. -/
abbrev Projection := Mapping Int

/-- A value that cannot be compared with a text. -/
structure Incomparable where
  kind : String
  deriving DecidableEq, Repr

/-- What a message says about values that cannot be compared. -/
def Incomparable.message (e : Incomparable) : String :=
  s!"'<' not supported between instances of '{e.kind}' and 'str'"

namespace Condition

/-- Whether the value of a field, null when missing, fulfils a condition. -/
def holds (v : Value) : Condition → Except Incomparable Bool
  | .equals w => .ok (v.same w)
  | .atLeast bound =>
    match v with
    | .null => .ok false
    | .text s => .ok (!decide (s < bound))
    | v => .error ⟨v.kindName⟩

/-- A condition as a value. -/
def toValue : Condition → Value
  | .equals v => v
  | .atLeast bound => .document [("$gte", .text bound)]

end Condition

namespace Filter

/-- Whether a document fulfils every condition; the conditions are tried in order, and the first
that fails ends the trial. -/
def holds : Filter → Document → Except Incomparable Bool
  | [], _ => .ok true
  | (field, condition) :: rest, doc =>
    match condition.holds ((doc.get? field).getD .null) with
    | .error e => .error e
    | .ok false => .ok false
    | .ok true => holds rest doc

/-- A filter as a document. -/
def toDocument (f : Filter) : Document :=
  f.mapValues Condition.toValue

end Filter

namespace Projection

/-- The flag that includes a field. -/
def included : Int := 1

/-- The projection on some fields. -/
def ofFields (fields : List String) : Projection :=
  fields.foldl (fun p field => p.set field included) []

/-- The part of a document that a projection returns. -/
def apply (projection : Option Projection) (doc : Document) : Document :=
  match projection with
  | none => doc
  | some [] => doc
  | some p => doc.filter fun pair => pair.1 == idField || p.has pair.1

/-- A projection as a document. -/
def toDocument (p : Projection) : Document :=
  p.mapValues Value.int

end Projection

end LoadBinding
