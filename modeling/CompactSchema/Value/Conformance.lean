import CompactSchema.Value

/-!
Contract: which values a field of a kind accepts.

Owns: the test for single values and for arrays.

Does not own: what a record has to hold, see `Record`.
-/

set_option autoImplicit false

namespace CompactSchema.Kind

/-- Whether a kind accepts a value that is not an array: null if it accepts
null, and otherwise a value of its type. -/
def acceptsSingle (kind : Kind) (value : Value) : Bool :=
  if value.isNull then kind.acceptsNull
  else value.scalarKind? == some kind.nonNullable

/-- Whether a field of this kind can hold a value. An array kind accepts null
and the arrays all of whose elements its element kind accepts; arrays do not
nest. -/
def accepts (kind : Kind) (value : Value) : Bool :=
  match kind.element? with
  | some element =>
    match value with
    | .null => true
    | .array items => items.all element.acceptsSingle
    | _ => false
  | none => kind.acceptsSingle value

end CompactSchema.Kind
