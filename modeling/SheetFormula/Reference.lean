import SheetFormula.Address

/-!
# References

A reference stands in a formula for a value that is kept elsewhere: a cell, written as an address,
or a named value, written with an `@`. Its label is the text as written.
-/

namespace SheetFormula

/-- What a reference refers to. -/
inductive ReferenceKind where
  | cell
  | named
  deriving DecidableEq, Repr

/-- A reference with its label as written. -/
structure Reference where
  kind : ReferenceKind
  label : String
  deriving DecidableEq, Repr

namespace Reference

/-- The reference with a given label: a label that starts with `@` is a name. -/
def ofLabel (label : String) : Reference :=
  match label.toList with
  | '@' :: _ => ⟨.named, label⟩
  | _ => ⟨.cell, label⟩

/-- Whether a reference is to a named value. -/
def isNamed (reference : Reference) : Bool :=
  reference.kind = .named

/-- The name of a named reference, without its `@`. -/
def name? (reference : Reference) : Option String :=
  match reference.kind, reference.label.toList with
  | .named, '@' :: name => some (String.ofList name)
  | _, _ => none

/-- The place on the grid of a reference to a cell. -/
def address (reference : Reference) : Except AddressError Address :=
  match reference.kind with
  | .cell => Address.parse reference.label
  | .named => .error (.named reference.label)

end Reference

end SheetFormula
