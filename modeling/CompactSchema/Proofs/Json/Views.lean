import CompactSchema.Proofs.Json.Reading
import CompactSchema.Proofs.Number.Widening
import CompactSchema.Proofs.Record.Validity
import CompactSchema.Value.Sink

/-!
Contract: the text and the tree of a record show the same.

Both views are one walk over the record, into two sinks that refuse nothing. Printing the
tree is the walk into a third one, which differs from the text in how it writes the finite
numbers of 32 bits: a tree holds its members in name order, and a valid record lists its
fields in just this order at every depth.

Owns: the parts of a value, the walk in terms of what it makes of them, and the agreement
of the two views.

Does not own: what can be told from a view about the record, see `Proofs.Json.Exactness`.
-/

set_option autoImplicit false

namespace CompactSchema

/-! ## Parts -/

mutual

/-- A value and all values in it, at every depth. -/
def Value.parts : Value → List Value
  | .null => [.null]
  | .scalar leaf => [.scalar leaf]
  | .compact schema values => .compact schema values :: Value.fieldParts values
  | .array items => .array items :: Value.itemParts items

def Value.itemParts : List Value → List Value
  | [] => []
  | item :: items => item.parts ++ Value.itemParts items

def Value.fieldParts : List (String × Value) → List Value
  | [] => []
  | (_, value) :: fields => value.parts ++ Value.fieldParts fields

end

namespace Value

theorem itemParts_eq (items : List Value) : itemParts items = items.flatMap parts := by
  induction items with
  | nil => rfl
  | cons item rest inductionHypothesis =>
      rw [itemParts, inductionHypothesis, List.flatMap_cons]

theorem fieldParts_eq (fields : List (String × Value)) :
    fieldParts fields = fields.flatMap fun field => field.2.parts := by
  induction fields with
  | nil => rfl
  | cons field rest inductionHypothesis =>
      rw [fieldParts, inductionHypothesis, List.flatMap_cons]

theorem self_mem_parts (value : Value) : value ∈ value.parts := by
  cases value <;> exact List.mem_cons_self

theorem mem_parts_compact {schema : Schema} {values : List (String × Value)} {part : Value} :
    part ∈ (compact schema values).parts ↔
      part = .compact schema values ∨ ∃ field ∈ values, part ∈ field.2.parts := by
  rw [parts, fieldParts_eq, List.mem_cons, List.mem_flatMap]

theorem mem_parts_array {items : List Value} {part : Value} :
    part ∈ (array items).parts ↔ part = .array items ∨ ∃ item ∈ items, part ∈ item.parts := by
  rw [parts, itemParts_eq, List.mem_cons, List.mem_flatMap]

theorem Valid.of_mem_parts {value part : Value} (valid : value.Valid)
    (member : part ∈ value.parts) : part.Valid := by
  induction valid with
  | null =>
      rw [List.mem_singleton.1 member]
      exact .null
  | scalar leaf =>
      rw [List.mem_singleton.1 member]
      exact .scalar leaf
  | array parts inductionHypothesis =>
      rcases mem_parts_array.1 member with rfl | ⟨item, listed, inside⟩
      · exact .array parts
      · exact inductionHypothesis item listed inside
  | compact conforms parts inductionHypothesis =>
      rcases mem_parts_compact.1 member with rfl | ⟨field, listed, inside⟩
      · exact .compact conforms parts
      · exact inductionHypothesis field listed inside

/-! ## The walk -/

section Walk

variable {α : Type} {sink : Json.Sink α} {view : Value → α}

theorem writeItemsTo_eq_some {items : List Value}
    (each : ∀ item ∈ items, item.writeTo sink = some (view item)) :
    writeItemsTo sink items = some (items.map view) := by
  induction items with
  | nil => rfl
  | cons item rest inductionHypothesis =>
      obtain ⟨head, tail⟩ := List.forall_mem_cons.1 each
      rw [writeItemsTo, head, inductionHypothesis tail]
      rfl

theorem writeFieldsTo_eq_some {fields : List (String × Value)}
    (each : ∀ field ∈ fields, field.2.writeTo sink = some (view field.2)) :
    writeFieldsTo sink fields = some (fields.map fun field => (field.1, view field.2)) := by
  induction fields with
  | nil => rfl
  | cons field rest inductionHypothesis =>
      obtain ⟨head, tail⟩ := List.forall_mem_cons.1 each
      rw [writeFieldsTo, head, inductionHypothesis tail]
      rfl

/-- A view of a value is put together from the views of its parts just as a sink does it. -/
def MadeBy (sink : Json.Sink α) (view : Value → α) : Value → Prop
  | .null => sink.null = some (view .null)
  | .scalar leaf => leaf.writeTo sink = some (view (.scalar leaf))
  | .compact schema values =>
    ∃ body, sink.object (values.map fun field => (field.1, view field.2)) = some body ∧
      sink.object [(schema.typeName, body)] = some (view (.compact schema values))
  | .array items => sink.array (items.map view) = some (view (.array items))

/-- The walk makes a view that is made alike at every part. -/
theorem writeTo_eq_some (value : Value) (made : ∀ part ∈ value.parts, part.MadeBy sink view) :
    value.writeTo sink = some (view value) := by
  have whole := made value value.self_mem_parts
  induction value using Value.induction with
  | null => exact whole
  | scalar leaf => exact whole
  | compact schema values inductionHypothesis =>
      have fields := writeFieldsTo_eq_some fun field listed =>
        have inside := fun part member =>
          made part (mem_parts_compact.2 (.inr ⟨field, listed, member⟩))
        inductionHypothesis field listed inside (inside field.2 field.2.self_mem_parts)
      obtain ⟨body, isBody, isWhole⟩ := whole
      rw [writeTo, fields]
      simp only [bind, Option.bind, isBody, isWhole]
  | array items inductionHypothesis =>
      have written := writeItemsTo_eq_some fun item listed =>
        have inside := fun part member =>
          made part (mem_parts_array.2 (.inr ⟨item, listed, member⟩))
        inductionHypothesis item listed inside (inside item item.self_mem_parts)
      rw [writeTo, written]
      exact whole

end Walk

/-! ## The two views -/

theorem jsonItemTexts_eq_map (items : List Value) : jsonItemTexts items = items.map jsonText := by
  induction items with
  | nil => rfl
  | cons item rest inductionHypothesis =>
      rw [jsonItemTexts, inductionHypothesis, List.map_cons]

theorem jsonFieldTexts_eq_map (fields : List (String × Value)) :
    jsonFieldTexts fields = fields.map fun field => (field.1, field.2.jsonText) := by
  induction fields with
  | nil => rfl
  | cons field rest inductionHypothesis =>
      rw [jsonFieldTexts, inductionHypothesis, List.map_cons]

theorem toJsonItems_eq_map (items : List Value) : toJsonItems items = items.map toJson := by
  induction items with
  | nil => rfl
  | cons item rest inductionHypothesis =>
      rw [toJsonItems, inductionHypothesis, List.map_cons]

theorem toJsonFields_eq_map (fields : List (String × Value)) :
    toJsonFields fields = fields.map fun field => (field.1, field.2.toJson) := by
  induction fields with
  | nil => rfl
  | cons field rest inductionHypothesis =>
      rw [toJsonFields, inductionHypothesis, List.map_cons]

end Value

/-- How a finite number of 32 bits is written in the text. -/
def Binary32.digits (number : Binary32) : String := NumberStyle.json32.text32 number

/-- How a finite number of 32 bits is written when the tree is printed. -/
def Binary32.widenedDigits (number : Binary32) : String :=
  NumberStyle.json64.text64 number.widen

namespace Binary32

variable {number : Binary32}

theorem digits_of_not_finite (notFinite : number.isFinite = false) : number.digits = "null" := by
  unfold digits NumberStyle.text32
  unfold isFinite at notFinite
  cases isClass : number.classify with
  | nan => rfl
  | infinite negative => cases negative <;> rfl
  | finite negative mantissa exponent => simp [isClass] at notFinite

theorem widenedDigits_of_not_finite (notFinite : number.isFinite = false) :
    number.widenedDigits = "null" := by
  unfold widenedDigits NumberStyle.text64
  unfold isFinite at notFinite
  cases isClass : number.classify with
  | nan =>
      rw [classify_widen_nan isClass]
      rfl
  | infinite negative =>
      rw [classify_widen_infinite isClass]
      cases negative <;> rfl
  | finite negative mantissa exponent => simp [isClass] at notFinite

end Binary32

theorem Json.text_ofBinary64 (number : Binary64) :
    (Json.ofBinary64 number).text = NumberStyle.json64.text64 number := by
  unfold ofBinary64
  cases isClass : number.classify with
  | nan =>
      rw [NumberStyle.text64, isClass]
      rfl
  | infinite negative =>
      rw [NumberStyle.text64, isClass]
      cases negative <;> rfl
  | finite negative mantissa exponent => rfl

theorem Json.ofMembers_of_ordered {members : List (String × Json)}
    (ordered : Entries.Ordered members) : ofMembers members = .object members :=
  congrArg object (Entries.ofList_of_ordered ordered)

namespace Value

/-- The walk into a text is not refused. It makes the text of the value if the finite
numbers of 32 bits in it are written alike. -/
theorem writeTo_text {digits : Binary32 → String} (value : Value)
    (agree : ∀ number, .scalar (.float32 number) ∈ value.parts → number.isFinite = true →
      digits number = number.digits) :
    value.writeTo (.text digits) = some value.jsonText := by
  apply writeTo_eq_some value
  intro part member
  cases part with
  | null => rfl
  | scalar leaf =>
      cases leaf with
      | float32 number =>
          refine congrArg some ?_
          cases isFinite : number.isFinite with
          | true => exact agree number member isFinite
          | false => exact (Binary32.digits_of_not_finite isFinite).symm
      | _ => rfl
  | compact schema values =>
      refine ⟨_, rfl, ?_⟩
      rw [jsonText, jsonFieldTexts_eq_map]
      rfl
  | array items =>
      rw [MadeBy, jsonText, jsonItemTexts_eq_map]
      rfl

/-- The walk into the tree is not refused and makes the tree. -/
theorem writeTo_tree (value : Value) : value.writeTo .tree = some value.toJson := by
  apply writeTo_eq_some value
  intro part _
  cases part with
  | null => rfl
  | scalar leaf => cases leaf <;> rfl
  | compact schema values =>
      refine ⟨_, rfl, ?_⟩
      rw [toJson, toJsonFields_eq_map]
      rfl
  | array items =>
      rw [MadeBy, toJson, toJsonItems_eq_map]
      rfl

/-- A valid record lists its fields in name order, so the tree holds them as they stand. -/
theorem toJson_compact_of_valid {schema : Schema} {values : List (String × Value)}
    (valid : (compact schema values).Valid) :
    (compact schema values).toJson = .object [(schema.typeName,
      .object (values.map fun field => (field.1, field.2.toJson)))] := by
  have conforms : (⟨schema, values⟩ : Record).Conforms :=
    (Record.valid_iff.1 (show Record.Valid ⟨schema, values⟩ from valid)).1
  have ordered : Entries.Ordered (values.map fun field => (field.1, field.2.toJson)) :=
    (Entries.ordered_map_iff toJson).2 (Record.ordered_of_names conforms.names)
  rw [toJson, toJsonFields_eq_map, Json.ofMembers_of_ordered ordered]
  rfl

theorem text_toJson_compact_of_valid {schema : Schema} {values : List (String × Value)}
    (valid : (compact schema values).Valid) :
    (compact schema values).toJson.text = Json.objectText [(schema.typeName,
      Json.objectText (values.map fun field => (field.1, field.2.toJson.text)))] := by
  rw [toJson_compact_of_valid valid, Json.text, Json.memberTexts_eq_map, List.map_singleton,
    Json.text, Json.memberTexts_eq_map, List.map_map]
  rfl

/-- Printing the tree makes the view of each part as the text with the digits of widened
numbers does. -/
theorem madeBy_printed {part : Value} (valid : part.Valid) :
    part.MadeBy (.text Binary32.widenedDigits) fun value => value.toJson.text := by
  cases part with
  | null => rfl
  | scalar leaf =>
      cases leaf with
      | float32 number =>
          refine congrArg some (Eq.trans ?_ (Json.text_ofBinary64 number.widen).symm)
          cases isFinite : number.isFinite with
          | true => rfl
          | false => exact (Binary32.widenedDigits_of_not_finite isFinite).symm
      | float64 number => exact congrArg some (Json.text_ofBinary64 number).symm
      | _ => rfl
  | compact schema values =>
      exact ⟨_, rfl, congrArg some (text_toJson_compact_of_valid valid).symm⟩
  | array items =>
      rw [MadeBy, toJson, toJsonItems_eq_map, Json.text, Json.itemTexts_eq_map, List.map_map]
      rfl

theorem writeTo_printed {value : Value} (valid : value.Valid) :
    value.writeTo (.text Binary32.widenedDigits) = some value.toJson.text :=
  writeTo_eq_some value fun _ member => madeBy_printed (valid.of_mem_parts member)

theorem text_toJson_eq_jsonText {value : Value} (valid : value.Valid)
    (noNarrow : ∀ number, .scalar (.float32 number) ∈ value.parts → number.isFinite = false) :
    value.toJson.text = value.jsonText := by
  have sameText : value.writeTo (.text Binary32.widenedDigits) = some value.jsonText :=
    writeTo_text value fun number member isFinite =>
      absurd isFinite (by simp [noNarrow number member])
  exact Option.some.inj ((writeTo_printed valid).symm.trans sameText)

end Value

/-! ## The views agree -/

namespace Record

theorem jsonText_eq (record : Record) :
    record.jsonText = Json.objectText [(record.schema.typeName,
      Json.objectText (record.values.map fun field => (field.1, field.2.jsonText)))] := by
  rw [jsonText, Value.jsonFieldTexts_eq_map]
  rfl

theorem toValue_jsonText (record : Record) : record.toValue.jsonText = record.jsonText := by
  rw [toValue, Value.jsonText, jsonText]

/-- The text and the tree of a record that can be had show the same. Neither is refused
by the form that it is written in, and the tree is not null. If no finite number of 32
bits occurs in the record, at any depth, the tree prints as the text. In general both
texts are one walk over the record that writes these numbers in two ways, and a number
that is widened for the tree is finite still and keeps its value. Every record inside,
and the record itself, stands in both texts as an object with the name of its type for
its only member, which holds the fields of the record in ascending order of their
names. -/
theorem json_views_agree {record : Record} (obtainable : record.Obtainable) :
    (record.writeTo .tree = some record.toJson ∧ record.toJson ≠ .null) ∧
    record.writeTo (.text Binary32.digits) = some record.jsonText ∧
    ((∀ number, .scalar (.float32 number) ∈ record.toValue.parts → number.isFinite = false) →
      record.toJson.text = record.jsonText) ∧
    record.writeTo (.text Binary32.widenedDigits) = some record.toJson.text ∧
    (∀ {number : Binary32} {negative : Bool} {mantissa : Nat} {exponent : Int},
      number.classify = .finite negative mantissa exponent → ∃ shift : Nat,
        number.widen.classify = .finite negative (mantissa * 2 ^ shift) (exponent - shift)) ∧
    ∀ inner : Record, inner.toValue ∈ record.toValue.parts →
      inner.fieldNames = inner.schema.fieldNames ∧ Entries.Ordered inner.values ∧
      inner.jsonText = Json.objectText [(inner.schema.typeName,
        Json.objectText (inner.values.map fun field => (field.1, field.2.jsonText)))] ∧
      inner.toJson.text = Json.objectText [(inner.schema.typeName,
        Json.objectText (inner.values.map fun field => (field.1, field.2.toJson.text)))] := by
  have valid : record.toValue.Valid := Value.Obtainable.valid obtainable
  refine ⟨⟨record.toValue.writeTo_tree, ?_⟩, ?_, ?_, Value.writeTo_printed valid,
    Binary32.classify_widen, ?_⟩
  · rw [toJson, toValue, Value.toJson_compact_of_valid valid]
    exact Json.noConfusion
  · rw [← toValue_jsonText]
    exact record.toValue.writeTo_text fun _ _ _ => rfl
  · intro noNarrow
    rw [← toValue_jsonText]
    exact Value.text_toJson_eq_jsonText valid noNarrow
  · intro inner member
    have innerValid : inner.toValue.Valid := valid.of_mem_parts member
    have names := (valid_iff.1 innerValid).1.names
    exact ⟨names, ordered_of_names names, inner.jsonText_eq,
      Value.text_toJson_compact_of_valid innerValid⟩

/-- A record with a narrow float and a record of its own type. -/
def probe (level next : Value) : Record where
  schema := {
    typeName := "Probe"
    fields := [("level", .plain .float32), ("next", .varying .compact)]
    named := by decide
    ordered := by decide
    available := by decide }
  values := [("level", level), ("next", next)]

theorem json_views_agree_probe :
    let last := probe (.scalar (.float32 ⟨0x7fc00000⟩)) .null
    let record := probe (.scalar (.float32 ⟨0xff800000⟩)) last.toValue
    record.Obtainable ∧
      record.toJson.text = record.jsonText ∧
      last.jsonText = Json.objectText [("Probe",
        Json.objectText [("level", "null"), ("next", "null")])] ∧
      ∃ shift : Nat, (⟨0x3dcccccd⟩ : Binary32).widen.classify =
        .finite false (13421773 * 2 ^ shift) (-27 - shift) := by
  intro last record
  have lastObtainable : last.toValue.Obtainable :=
    .assembled (by decide) (List.forall_mem_cons.2 ⟨.scalar _, List.forall_mem_singleton.2 .null⟩)
      (show Record.ofValues last.schema last.values = .ok last from rfl)
  have obtainable : record.Obtainable :=
    .assembled (by decide)
      (List.forall_mem_cons.2 ⟨.scalar _, List.forall_mem_singleton.2 lastObtainable⟩)
      (show Record.ofValues record.schema record.values = .ok record from rfl)
  obtain ⟨_, _, sameText, _, widened, inside⟩ := json_views_agree obtainable
  have noNarrow : ∀ number, .scalar (.float32 number) ∈ record.toValue.parts →
      number.isFinite = false := by
    simp only [record, last, probe, toValue, Value.parts, Value.fieldParts]
    simp +decide
  have lastInside : last.toValue ∈ record.toValue.parts := by
    refine Value.mem_parts_compact.2 (.inr ⟨("next", last.toValue), by simp [record, probe], ?_⟩)
    exact last.toValue.self_mem_parts
  exact ⟨obtainable, sameText noNarrow, (inside last lastInside).2.2.1, widened (by decide)⟩

end Record

end CompactSchema
