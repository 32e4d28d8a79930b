import CompactSchema.Proofs.Record.Building
import CompactSchema.Record.Access

/-!
Contract: a record that was built reads back what was set.

Every setter has an accessor that undoes it. The setter turns its argument into a
value and the accessor turns the value into a payload again, so all that matters is
that the record still holds this value under a field of this kind. A chain that
builds leaves both in place for each of its calls, whatever the others set.

Owns: the accessor that matches a setter, and its answer on a record that holds
what the setter stores.

Does not own: what accessors of other types answer, and when building succeeds, see
`Proofs.Record.Building`.
-/

set_option autoImplicit false

namespace CompactSchema

/-! ## Values and payloads -/

namespace Assignment

variable {α : Type} {toValue : α → Value} {ofValue? : Value → Option α}

theorem ofValue?_optional (inverse : ∀ payload, ofValue? (toValue payload) = some payload)
    (null : ofValue? .null = none) (payload? : Option α) :
    ofValue? (optional toValue payload?) = payload? := by
  cases payload? with
  | none => exact null
  | some payload => exact inverse payload

theorem itemsOf?_optional (payloads? : Option (List α)) :
    Record.itemsOf? (optional (fun payloads => .array (payloads.map toValue)) payloads?) =
      payloads?.map (List.map toValue) := by
  cases payloads? <;> rfl

theorem map_itemsOf?_optional (inverse : ∀ payload, ofValue? (toValue payload) = some payload)
    (null : ofValue? .null = none) (payloads? : Option (List (Option α))) :
    (Record.itemsOf? (optional (fun payloads => .array (payloads.map (optional toValue)))
      payloads?)).map (List.map ofValue?) = payloads? := by
  rw [itemsOf?_optional, Option.map_map]
  cases payloads? with
  | none => rfl
  | some payloads =>
      rw [Option.map_some, Function.comp_apply, List.map_map]
      exact congrArg some (List.map_id'' (ofValue?_optional inverse null) payloads)

end Assignment

namespace Primitive

variable (type : Primitive)

theorem ofValue?_null : type.ofValue? .null = none := by
  cases type <;> rfl

theorem plain_mem_singleKinds : .plain type ∈ type.singleKinds := List.mem_cons_self

theorem nullable_mem_singleKinds : .nullable type ∈ type.singleKinds :=
  List.mem_cons_of_mem _ List.mem_cons_self

theorem arrayOf_mem_arrayKinds : .arrayOf type ∈ type.arrayKinds := List.mem_cons_self

theorem arrayOfNullable_mem_arrayKinds : .arrayOfNullable type ∈ type.arrayKinds :=
  List.mem_cons_of_mem _ List.mem_cons_self

end Primitive

theorem Varying.ofValue?_null (type : Varying) : type.ofValue? .null = none := by
  cases type <;> rfl

namespace Record

theorem payloads_map {α : Type} {toValue : α → Value} {ofValue? : Value → Option α}
    (inverse : ∀ payload, ofValue? (toValue payload) = some payload) (index : Nat)
    (items : List α) : payloads ofValue? index (items.map toValue) = .ok items := by
  induction items generalizing index with
  | nil => rfl
  | cons item rest inductionHypothesis =>
      rw [List.map_cons, payloads, inverse item]
      simp only [inductionHypothesis]
      rfl

/-! ## Reading a field -/

variable {record : Record} {name : String}

theorem read_of_held {kind : Kind} {value : Value} {kinds : List Kind}
    (declared : record.schema.kind? name = some kind) (held : record.value? name = some value)
    (readable : kind ∈ kinds) : record.read name kinds = .ok value := by
  rw [read, declared]
  simp only [if_pos readable, stored, held, Option.getD_some]

/-- The accessor that matches the setter of an assignment answers just what was
assigned. -/
def ReadsBack (record : Record) (name : String) : Assignment → Prop
  | .plain type payload => record.get type name = .ok payload
  | .nullable type payload? => record.getNullable type name = .ok payload?
  | .arrayOf type payloads? => record.getArrayOf type name = .ok payloads?
  | .arrayOfNullable type payloads? => record.getArrayOfNullable type name = .ok payloads?
  | .varying type payload? => record.getVarying type name = .ok payload?
  | .arrayOfVarying type payloads? => record.getArrayOfVarying type name = .ok payloads?

theorem readsBack_of_held {assignment : Assignment}
    (declared : record.schema.kind? name = some assignment.kind)
    (held : record.value? name = some assignment.value) : record.ReadsBack name assignment := by
  have found : ∀ {kinds}, assignment.kind ∈ kinds →
      record.read name kinds = .ok assignment.value := fun readable =>
    read_of_held declared held readable
  cases assignment with
  | plain type payload =>
      rw [ReadsBack, get, found type.plain_mem_singleKinds, Assignment.value]
      simp only [bind, Except.bind, type.ofValue?_toValue]
      rfl
  | nullable type payload? =>
      rw [ReadsBack, getNullable, found type.nullable_mem_singleKinds]
      exact congrArg Except.ok
        (Assignment.ofValue?_optional type.ofValue?_toValue type.ofValue?_null payload?)
  | arrayOf type payloads? =>
      rw [ReadsBack, getArrayOf, found type.arrayOf_mem_arrayKinds, Assignment.value]
      simp only [bind, Except.bind, Assignment.itemsOf?_optional]
      cases payloads? with
      | none => rfl
      | some payloads =>
          simp only [Option.map_some, payloads_map type.ofValue?_toValue]
          rfl
  | arrayOfNullable type payloads? =>
      rw [ReadsBack, getArrayOfNullable, found type.arrayOfNullable_mem_arrayKinds]
      exact congrArg Except.ok
        (Assignment.map_itemsOf?_optional type.ofValue?_toValue type.ofValue?_null payloads?)
  | varying type payload? =>
      rw [ReadsBack, getVarying, found (List.mem_singleton_self (Kind.varying type))]
      exact congrArg Except.ok
        (Assignment.ofValue?_optional type.ofValue?_toValue type.ofValue?_null payload?)
  | arrayOfVarying type payloads? =>
      rw [ReadsBack, getArrayOfVarying,
        found (List.mem_singleton_self (Kind.arrayOfVarying type))]
      exact congrArg Except.ok
        (Assignment.map_itemsOf?_optional type.ofValue?_toValue type.ofValue?_null payloads?)

end Record

/-! ## Reading what a builder set -/

namespace Origin

variable {origin : Origin} {chain : List Setting} {record : Record}

theorem kind?_of_run (sound : origin.Sound) (made : origin.run chain = .ok record)
    {setting : Setting} (member : setting ∈ chain) :
    record.schema.kind? setting.name = some setting.assignment.kind := by
  have passes := passes_of_run sound made
  have describes := (makes_of_run sound made).describes
  cases origin with
  | compact typeName => exact Schema.kind?_eq_some_iff.2 ((describes.2 _).2 ⟨setting, member, rfl⟩)
  | bound schema =>
      obtain rfl : record.schema = schema := describes
      exact passes.kind? rfl member
  | cloned source =>
      rw [show record.schema = source.schema from describes]
      exact passes.kind? rfl member

/-- A record that is built reads back, under every name that was set, exactly what
was set: for every type and every family of setters, null, empty arrays and null
elements included, and whatever the other calls of the chain set. -/
theorem readsBack_of_run (sound : origin.Sound) (made : origin.run chain = .ok record)
    {setting : Setting} (member : setting ∈ chain) :
    record.ReadsBack setting.name setting.assignment :=
  Record.readsBack_of_held (kind?_of_run sound made member)
    ((makes_of_run sound made).set setting member)

theorem readsBack_of_run_bag :
    let part := Record.point 3 4 .null
    let filled : List Setting := [
      ⟨"parts", .arrayOfVarying .compact (some [some part, none])⟩,
      ⟨"flags", .arrayOfNullable .boolean (some [none, some true])⟩,
      ⟨"sizes", .arrayOf .int16 (some [])⟩]
    let moved : List Setting := [⟨"label", .varying .string none⟩, ⟨"x", .plain .int32 5⟩]
    (∃ bag, (Origin.compact "Bag").run filled = .ok bag ∧
      bag.getArrayOfVarying .compact "parts" = .ok (some [some part, none]) ∧
      bag.getArrayOfNullable .boolean "flags" = .ok (some [none, some true]) ∧
      bag.getArrayOf .int16 "sizes" = .ok (some [])) ∧
    ∃ point, (Origin.cloned part).run moved = .ok point ∧
      point.getVarying .string "label" = .ok none ∧ point.get .int32 "x" = .ok 5 := by
  intro part filled moved
  let bag : Record := {
    schema := {
      typeName := "Bag"
      fields := [("flags", .arrayOfNullable .boolean), ("parts", .arrayOfVarying .compact),
        ("sizes", .arrayOf .int16)]
      named := by decide
      ordered := by decide
      available := by decide }
    values := [("flags", .array [.null, .scalar (.boolean true)]),
      ("parts", .array [part.toValue, .null]), ("sizes", .array [])] }
  have bagMade : (Origin.compact "Bag").run filled = .ok bag := by
    subst filled bag part
    rfl
  have bagSound : (Origin.compact "Bag").Sound := by
    rintro _ ⟨⟩
  have pointMade : (Origin.cloned part).run moved = .ok (Record.point 5 4 .null) := rfl
  have partMade : Record.ofValues part.schema part.values = .ok part := rfl
  have partSound : (Origin.cloned part).Sound := by
    rintro _ ⟨⟩
    exact ((Record.ofValues_ok_iff (by decide)).1 partMade).2
  have parts := readsBack_of_run bagSound bagMade (show filled[0] ∈ filled from List.mem_cons_self)
  have flags := readsBack_of_run bagSound bagMade (show filled[1] ∈ filled from List.getElem_mem _)
  have sizes := readsBack_of_run bagSound bagMade (show filled[2] ∈ filled from List.getElem_mem _)
  have label := readsBack_of_run partSound pointMade (show moved[0] ∈ moved from List.mem_cons_self)
  have x := readsBack_of_run partSound pointMade (show moved[1] ∈ moved from List.getElem_mem _)
  exact ⟨⟨bag, bagMade, parts, flags, sizes⟩, _, pointMade, label, x⟩

end Origin

end CompactSchema
