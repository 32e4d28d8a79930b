import CompactSchema.Proofs.Record.Validity
import CompactSchema.Proofs.Schema.Equality
import CompactSchema.Proofs.Value.Equality

/-!
Contract: records that are shared in memory compare as their contents do.

Copies of a record share its contents, so in memory a record is known by an address. A
comparison that meets one address on both sides answers at once that the records are
equal, at whatever depth of the two values it meets it. Nothing is lost by this, because
equality of contents is reflexive: what lies at one address is equal to itself.

Owns: values in memory, their comparison with this shortcut, and its agreement with the
comparison of contents.

Does not own: equality of contents, see `Proofs.Value.Equality`.
-/

set_option autoImplicit false

namespace CompactSchema

/-- The comparison of schemas part by part tells the equal ones. -/
theorem Schema.same_eq_beq (first second : Schema) : first.same second = (first == second) := by
  rw [Bool.eq_iff_iff, same_iff_eq, beq_iff_eq]

/-- A value in memory. Every record has an address, and shared ones have the same. -/
inductive Placed where
  | null
  | scalar (leaf : Scalar)
  | compact (address : Nat) (schema : Schema) (values : List (String × Placed))
  | array (items : List Placed)

namespace Placed

mutual

/-- The value, whatever its addresses. -/
def content : Placed → Value
  | null => .null
  | scalar leaf => .scalar leaf
  | compact _ schema values => .compact schema (contentFields values)
  | array items => .array (contentItems items)

def contentItems : List Placed → List Value
  | [] => []
  | item :: items => item.content :: contentItems items

def contentFields : List (String × Placed) → List (String × Value)
  | [] => []
  | (name, value) :: fields => (name, value.content) :: contentFields fields

end

mutual

/-- Equality of values in memory. Two records at one address are equal unseen; all others
are compared by their schemas and values. -/
def same : Placed → Placed → Bool
  | null, null => true
  | scalar first, scalar second => first.same second
  | compact address schema values, compact otherAddress otherSchema otherValues =>
    address == otherAddress || (schema.same otherSchema && sameFields values otherValues)
  | array items, array others => sameItems items others
  | _, _ => false

def sameItems : List Placed → List Placed → Bool
  | [], [] => true
  | item :: items, other :: others => item.same other && sameItems items others
  | _, _ => false

def sameFields : List (String × Placed) → List (String × Placed) → Bool
  | [], [] => true
  | (name, value) :: fields, (otherName, otherValue) :: others =>
    name == otherName && value.same otherValue && sameFields fields others
  | _, _ => false

end

/-- Every record of the value is the one that memory holds at its address. -/
inductive LiesIn (memory : Nat → Record) : Placed → Prop where
  | null : LiesIn memory .null
  | scalar (leaf : Scalar) : LiesIn memory (.scalar leaf)
  | array {items : List Placed} (parts : ∀ item ∈ items, LiesIn memory item) :
      LiesIn memory (.array items)
  | compact {address : Nat} {schema : Schema} {values : List (String × Placed)}
      (held : memory address = ⟨schema, contentFields values⟩)
      (parts : ∀ field ∈ values, LiesIn memory field.2) :
      LiesIn memory (.compact address schema values)

theorem sameItems_eq {items others : List Placed}
    (each : ∀ item ∈ items, ∀ other ∈ others,
      item.same other = item.content.same other.content) :
    sameItems items others = Value.sameItems (contentItems items) (contentItems others) := by
  induction items generalizing others with
  | nil => cases others <;> rfl
  | cons item rest inductionHypothesis =>
      cases others with
      | nil => rfl
      | cons other otherRest =>
          have headSame := each item List.mem_cons_self other List.mem_cons_self
          have tailSame := inductionHypothesis fun later member otherLater otherMember =>
            each later (List.mem_cons_of_mem _ member) otherLater
              (List.mem_cons_of_mem _ otherMember)
          rw [sameItems, contentItems, contentItems, Value.sameItems, headSame, tailSame]

theorem sameFields_eq {fields others : List (String × Placed)}
    (each : ∀ field ∈ fields, ∀ other ∈ others,
      field.2.same other.2 = field.2.content.same other.2.content) :
    sameFields fields others =
      Value.sameFields (contentFields fields) (contentFields others) := by
  induction fields generalizing others with
  | nil => cases others <;> rfl
  | cons field rest inductionHypothesis =>
      cases others with
      | nil => rfl
      | cons other otherRest =>
          have headSame := each field List.mem_cons_self other List.mem_cons_self
          have tailSame := inductionHypothesis fun later member otherLater otherMember =>
            each later (List.mem_cons_of_mem _ member) otherLater
              (List.mem_cons_of_mem _ otherMember)
          rw [sameFields, contentFields, contentFields, Value.sameFields, headSame, tailSame]

/-- By induction on the first value: a shortcut is taken only where both addresses, and so
both contents, are the same, and there the comparison of contents is reflexive. -/
theorem same_eq_content {memory : Nat → Record} {first second : Placed}
    (firstLies : first.LiesIn memory) (secondLies : second.LiesIn memory) :
    first.same second = first.content.same second.content := by
  induction firstLies generalizing second with
  | null => cases secondLies <;> rfl
  | scalar leaf => cases secondLies <;> rfl
  | array _ inductionHypothesis =>
      cases secondLies with
      | array otherParts =>
          exact sameItems_eq fun item member other otherMember =>
            inductionHypothesis item member (otherParts other otherMember)
      | _ => rfl
  | @compact address schema values held _ inductionHypothesis =>
      cases secondLies with
      | @compact otherAddress otherSchema otherValues otherHeld otherParts =>
          rw [same, content, content]
          by_cases shared : address = otherAddress
          · subst shared
            obtain ⟨rfl, sameValues⟩ := Record.mk.inj (held.symm.trans otherHeld)
            rw [sameValues, Value.same_refl]
            simp
          · have parts := sameFields_eq fun field member other otherMember =>
              inductionHypothesis field member (otherParts other otherMember)
            rw [Value.same, ← parts, Schema.same_eq_beq, beq_false_of_ne shared, Bool.false_or]
      | _ => rfl

end Placed

/-- A copy that is built without a change holds what its source holds. -/
theorem Record.Conforms.build_ofRecord {record : Record} (conforms : record.Conforms) :
    (Builder.ofRecord record).build = .ok record :=
  (Record.ofValues_ok_iff (Record.ordered_of_names conforms.names)).2 ⟨rfl, conforms⟩

/-- Equality of values is an equivalence, and so is equality of records, which are compared
field by field as the values that they are, whatever they hold at any depth: floats that are
not numbers and both zeros included. So a comparison that takes records at one address for
equal answers as the comparison of their contents does, and a record that is copied without a
change is equal to its source. Values that are equal have the same kind, and every kind
accepts both of them or neither. -/
theorem equality_is_equivalence :
    (Equivalence fun first second : Value => first.same second = true) ∧
    (Equivalence fun first second : Record => first.same second = true) ∧
    (∀ first second : Record, first.same second = first.toValue.same second.toValue) ∧
    (∀ {memory : Nat → Record} {first second : Placed},
      first.LiesIn memory → second.LiesIn memory →
      first.same second = first.content.same second.content) ∧
    (∀ {record : Record}, record.Obtainable →
      ∃ copy, (Builder.ofRecord record).build = .ok copy ∧ copy.same record = true) ∧
    ∀ {first second : Value}, first.same second = true →
      first.scalarKind? = second.scalarKind? ∧
        ∀ kind : Kind, kind.accepts first = true ↔ kind.accepts second = true := by
  refine ⟨Value.same_equivalence, Record.same_equivalence, Record.same_eq_toValue,
    Placed.same_eq_content, ?_, ?_⟩
  · intro record obtainable
    have conforms := (Record.valid_iff.1 (Value.Obtainable.valid obtainable)).1
    exact ⟨record, conforms.build_ofRecord, Record.same_equivalence.refl record⟩
  · intro first second isSame
    refine ⟨Value.scalarKind?_eq_of_same isSame, fun kind => ?_⟩
    rw [kind.accepts_eq_of_same isSame]

/-- A record with one wide float. -/
def Record.sensor (level : Value) : Record where
  schema := {
    typeName := "Sensor"
    fields := [("level", .plain .float64)]
    named := by decide
    ordered := by decide
    available := by decide }
  values := [("level", level)]

theorem equality_is_equivalence_sensor :
    let quiet : Scalar := .float64 ⟨0x7ff8000000000000⟩
    let signed : Scalar := .float64 ⟨0xfff8000000000001⟩
    let record := Record.sensor (.scalar quiet)
    let shared : Placed := .compact 7 record.schema [("level", .scalar quiet)]
    let copied : Placed := .compact 8 record.schema [("level", .scalar quiet)]
    let first : Placed := .array [shared, shared]
    let second : Placed := .array [shared, copied]
    first.same second = first.content.same second.content ∧
      record.Obtainable ∧
      (∃ copy, (Builder.ofRecord record).build = .ok copy ∧ copy.same record = true) ∧
      (Value.scalar quiet).same (.scalar signed) = true ∧
      ((Kind.plain .float64).accepts (.scalar quiet) = true ↔
        (Kind.plain .float64).accepts (.scalar signed) = true) := by
  intro quiet signed record shared copied first second
  obtain ⟨_, _, _, ofPlaced, ofRecord, ofSame⟩ := equality_is_equivalence
  have sharedLies : shared.LiesIn fun _ => record :=
    .compact rfl (List.forall_mem_singleton.2 (.scalar quiet))
  have copiedLies : copied.LiesIn fun _ => record :=
    .compact rfl (List.forall_mem_singleton.2 (.scalar quiet))
  have firstLies : first.LiesIn fun _ => record :=
    .array (List.forall_mem_cons.2 ⟨sharedLies, List.forall_mem_singleton.2 sharedLies⟩)
  have secondLies : second.LiesIn fun _ => record :=
    .array (List.forall_mem_cons.2 ⟨sharedLies, List.forall_mem_singleton.2 copiedLies⟩)
  have made : Record.ofValues record.schema record.values = .ok record := rfl
  have obtainable : record.Obtainable :=
    .assembled (by decide) (List.forall_mem_singleton.2 (.scalar quiet)) made
  have bothNaN : (Value.scalar quiet).same (.scalar signed) = true := by decide +kernel
  exact ⟨ofPlaced firstLies secondLies, obtainable, ofRecord obtainable, bothNaN,
    (ofSame bothNaN).2 _⟩

end CompactSchema
