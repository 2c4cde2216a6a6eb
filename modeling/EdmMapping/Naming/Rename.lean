/-!
# Renames

What is said about an identifier that could not keep its name, and to whom.

* `RenameEvent` — the name as it was found, the name that stands for it, and the reason;
* `RenameSink` — a place that renames are told to; lists of events are one.
-/

set_option autoImplicit false

namespace EdmMapping

/-- Why an identifier does not keep its name. -/
inductive RenameReason where
  | reservedWord
  /-- The property, its type and its class share one name. -/
  | selfNamedProperty
  deriving DecidableEq, Repr

structure RenameEvent where
  given : String
  renamed : String
  reason : RenameReason
  deriving DecidableEq, Repr

/-- The sentence that tells the reader of a rename. -/
def RenameEvent.message (e : RenameEvent) : String :=
  match e.reason with
  | .reservedWord =>
    "'" ++ e.given ++ "' is a reserved word in Java, renamed to '" ++ e.renamed ++ "'"
  | .selfNamedProperty =>
    "property type '" ++ e.given ++ "' has the same name as its class, renamed to '"
      ++ e.renamed ++ "'"

/-- A place that renames are told to. -/
class RenameSink (σ : Type) where
  record : σ → RenameEvent → σ

/-- A list of events takes a new one at its end. -/
instance : RenameSink (List RenameEvent) where
  record events e := events ++ [e]

@[simp] theorem record_list (events : List RenameEvent) (e : RenameEvent) :
    RenameSink.record events e = events ++ [e] := rfl

end EdmMapping
