import CompactSchema.Fingerprint
import CompactSchema.Schema.Layout
import CompactSchema.SchemaError

/-!
Contract: schemas, the shared description of one type of record.

A schema is a type name and a set of fields in name order. Its id and the layout
of its fields follow from these alone, so two schemas with the same type name
and the same fields are equal, whatever order or layout their fields were
declared in. The layout is made with the declaration and kept in the schema.

Owns:
- field descriptors and the declaration of a schema from them, with its errors;
- the id, the lookup of a field, the descriptors with their placements;
- the comparison of schemas;
- the one-line text of a schema.

Does not own: JSON, see `Schema.Json`.
-/

set_option autoImplicit false

namespace CompactSchema

/-- A field with its placement, which is unassigned outside a schema. -/
structure Descriptor where
  name : String
  kind : Kind
  placement : Placement := .unassigned
deriving Repr

namespace Descriptor

/-- Two descriptors are the same field if name and kind agree; the placement is
derived data. -/
def sameField (first second : Descriptor) : Bool :=
  first.name == second.name && first.kind == second.kind

instance : BEq Descriptor := ⟨sameField⟩

end Descriptor

/-- The description of one type of record. -/
structure Schema where
  typeName : String
  /-- Names and kinds of the fields, in name order. -/
  fields : Entries String Kind
  named : typeName ≠ ""
  ordered : Entries.Ordered fields
  available : ∀ field ∈ fields, field.2 ≠ Kind.notAvailable
  layout : Layout := Layout.assign (Layout.unplaced fields)
  laidOut : layout = Layout.assign (Layout.unplaced fields) := by rfl

namespace Schema

theorem eq_of_fields {first second : Schema} (sameName : first.typeName = second.typeName)
    (sameFields : first.fields = second.fields) : first = second := by
  have sameLayout : first.layout = second.layout := by
    rw [first.laidOut, second.laidOut, sameFields]
  cases first
  cases second
  cases sameName
  cases sameFields
  cases sameLayout
  rfl

instance : DecidableEq Schema := fun first second =>
  decidable_of_iff (first.typeName = second.typeName ∧ first.fields = second.fields)
    ⟨fun same => eq_of_fields same.1 same.2, fun equal => equal ▸ ⟨rfl, rfl⟩⟩

/-! ## Declaration -/

/-- The first fault in a list of declared fields after some names have been
declared. A field that can not be declared at all is reported before a name that
repeats. -/
def firstFault? (typeName : String) (declared : List String) :
    List Descriptor → Option SchemaError
  | [] => none
  | descriptor :: rest =>
    if descriptor.kind = .notAvailable then
      some (.undeclarableKind descriptor.name typeName)
    else if descriptor.name ∈ declared then
      some (.repeatedField descriptor.name typeName)
    else firstFault? typeName (descriptor.name :: declared) rest

theorem available_of_firstFault? {typeName : String} {declared : List String}
    {descriptors : List Descriptor}
    (faultless : firstFault? typeName declared descriptors = none) :
    ∀ descriptor ∈ descriptors, descriptor.kind ≠ Kind.notAvailable := by
  induction descriptors generalizing declared with
  | nil => simp
  | cons head rest inductionHypothesis =>
      unfold firstFault? at faultless
      split at faultless
      · exact absurd faultless (by simp)
      · split at faultless
        · exact absurd faultless (by simp)
        · rename_i headAvailable _
          exact List.forall_mem_cons.2 ⟨headAvailable, inductionHypothesis faultless⟩

/-- The fields of a list of descriptors in name order. -/
def fieldsOf (descriptors : List Descriptor) : Entries String Kind :=
  Entries.ofList (descriptors.map fun descriptor => (descriptor.name, descriptor.kind))

theorem available_fieldsOf {descriptors : List Descriptor}
    (available : ∀ descriptor ∈ descriptors, descriptor.kind ≠ Kind.notAvailable) :
    ∀ field ∈ fieldsOf descriptors, field.2 ≠ Kind.notAvailable := by
  intro field member
  obtain ⟨descriptor, declared, same⟩ :=
    List.mem_map.1 (Entries.mem_of_mem_ofList member)
  rw [← same]
  exact available descriptor declared

/-- The fields of a list of descriptors in name order, with the placements they carry. -/
def placedFieldsOf (descriptors : List Descriptor) : PlacedFields :=
  Entries.ofList
    (descriptors.map fun descriptor => (descriptor.name, descriptor.kind, descriptor.placement))

theorem kinds_placedFieldsOf (descriptors : List Descriptor) :
    Layout.kinds (placedFieldsOf descriptors) = fieldsOf descriptors := by
  rw [Layout.kinds, placedFieldsOf, Entries.map_ofList Prod.fst, List.map_map]
  rfl

/-- Declare a schema. The type name must not be empty; the first field at fault
is the one reported. The fields are laid out anew, over the placements that the
descriptors carry. -/
def declare (typeName : String) (descriptors : List Descriptor) : Except SchemaError Schema :=
  if named : typeName = "" then .error .emptyTypeName
  else
    match faultless : firstFault? typeName [] descriptors with
    | some fault => .error fault
    | none =>
      .ok {
        typeName
        fields := fieldsOf descriptors
        named
        ordered := Entries.ordered_ofList _
        available := available_fieldsOf (available_of_firstFault? faultless)
        layout := Layout.assign (placedFieldsOf descriptors)
        laidOut := Layout.assign_eq_of_kinds_eq
          ((kinds_placedFieldsOf descriptors).trans (Layout.kinds_unplaced _).symm) }

/-! ## What follows from a schema -/

/-- The fingerprint of the type name and the fields in name order. -/
def id (schema : Schema) : Int64 := Fingerprint.compute schema.typeName schema.fields

/-- The kind of a declared field. -/
def kind? (schema : Schema) (name : String) : Option Kind := Entries.find? name schema.fields

def hasField (schema : Schema) (name : String) : Bool := (schema.kind? name).isSome

/-- The field names, in order. -/
def fieldNames (schema : Schema) : List String := Entries.keys schema.fields

/-- Length in bytes of the fixed-size section of a record. -/
def fixedLength (schema : Schema) : Nat := schema.layout.fixedLength

/-- Number of variable-size fields of a record. -/
def slotCount (schema : Schema) : Nat := schema.layout.slotCount

/-- Where a field lies; unassigned if it is not declared. -/
def placement (schema : Schema) (name : String) : Placement := schema.layout.placement name

/-- The declared fields with their placements, in name order. -/
def descriptors (schema : Schema) : List Descriptor :=
  schema.fields.map fun field => ⟨field.1, field.2, schema.placement field.1⟩

def descriptor? (schema : Schema) (name : String) : Option Descriptor :=
  (schema.kind? name).map fun kind => ⟨name, kind, schema.placement name⟩

/-- Whether two schemas are the same. Id, type name and fields are compared; the placements
are derived data. -/
def same (first second : Schema) : Bool :=
  first.id == second.id && first.typeName == second.typeName
    && first.descriptors == second.descriptors

/-! ## Text -/

/-- One field in the text of a schema. -/
def fieldText (field : String × Kind) : String := field.1 ++ ": " ++ field.2.name

/-- The one-line text of a schema, as it stands in messages. -/
def text (schema : Schema) : String :=
  "Schema \x7b type_name: " ++ schema.typeName ++ ", schema_id: " ++ toString schema.id
    ++ ", fields: [" ++ ", ".intercalate (schema.fields.map fieldText) ++ "] \x7d"

end Schema

end CompactSchema
