import CompactSchema.Value.Conformance
import CompactSchema.Value.Equality
import Mathlib.Data.List.Forall2
import Mathlib.Tactic.Ring

/-!
Contract: equality of values and of records is an equivalence that kinds respect.

Equality of two values is decided leaf by leaf. At a leaf it compares payloads, and for
four types different payloads can be equal: floats that are both NaN, decimals of one
value and timestamps of one instant. Each of these comparisons is an equivalence, and
arrays and records inherit it from their parts at every depth.

Owns: the equality of leaves by type, of lists element by element, and what equal values
share.

Does not own: records that are one and the same in memory, see `Proofs.Value.Sharing`.
-/

set_option autoImplicit false

namespace CompactSchema

/-! ## Leaves -/

namespace Binary32

theorem same_refl (number : Binary32) : number.same number = true := by
  simp [same]

theorem same_symm {first second : Binary32} (isSame : first.same second = true) :
    second.same first = true := by
  unfold same at *
  grind

theorem same_trans {first second third : Binary32} (isSame : first.same second = true)
    (isSameToo : second.same third = true) : first.same third = true := by
  cases first
  cases second
  cases third
  unfold same at *
  grind

end Binary32

namespace Binary64

theorem same_refl (number : Binary64) : number.same number = true := by
  simp [same]

theorem same_symm {first second : Binary64} (isSame : first.same second = true) :
    second.same first = true := by
  unfold same at *
  grind

theorem same_trans {first second third : Binary64} (isSame : first.same second = true)
    (isSameToo : second.same third = true) : first.same third = true := by
  cases first
  cases second
  cases third
  unfold same at *
  grind

end Binary64

namespace Decimal

variable {first second third : Decimal}

theorem same_iff :
    first.same second = true ↔
      first.mantissa * tenTo second.scale = second.mantissa * tenTo first.scale :=
  beq_iff_eq

/-- The scale in the middle is a factor of both sides and can be cancelled. -/
theorem same_trans (isSame : first.same second = true) (isSameToo : second.same third = true) :
    first.same third = true := by
  rw [same_iff] at *
  have positive : 0 < tenTo second.scale := Nat.pow_pos (by decide)
  apply mul_right_cancel₀ (Int.natCast_ne_zero.2 positive.ne')
  calc first.mantissa * tenTo third.scale * tenTo second.scale
      = first.mantissa * tenTo second.scale * tenTo third.scale := by ring
    _ = second.mantissa * tenTo first.scale * tenTo third.scale := by rw [isSame]
    _ = second.mantissa * tenTo third.scale * tenTo first.scale := by ring
    _ = third.mantissa * tenTo second.scale * tenTo first.scale := by rw [isSameToo]
    _ = third.mantissa * tenTo first.scale * tenTo second.scale := by ring

end Decimal

theorem ZonedTimestamp.same_iff {first second : ZonedTimestamp} :
    first.same second = true ↔ first.instant = second.instant :=
  beq_iff_eq

namespace Scalar

/-- Leaves that compare as equal: a leaf and itself, and leaves of one of the four types
in which different payloads can be equal. -/
inductive Alike : Scalar → Scalar → Prop where
  | refl (leaf : Scalar) : Alike leaf leaf
  | float32 {first second : Binary32} (isSame : first.same second = true) :
      Alike (.float32 first) (.float32 second)
  | float64 {first second : Binary64} (isSame : first.same second = true) :
      Alike (.float64 first) (.float64 second)
  | decimal {first second : Decimal} (isSame : first.same second = true) :
      Alike (.decimal first) (.decimal second)
  | timestampWithTimezone {first second : ZonedTimestamp} (isSame : first.same second = true) :
      Alike (.timestampWithTimezone first) (.timestampWithTimezone second)

variable {first second third : Scalar}

theorem same_iff_alike : first.same second = true ↔ Alike first second := by
  constructor
  · intro isSame
    unfold same at isSame
    split at isSame
    case h_6 => exact .float32 isSame
    case h_7 => exact .float64 isSame
    case h_9 => exact .decimal isSame
    case h_13 => exact .timestampWithTimezone isSame
    case h_14 => cases isSame
    all_goals
      cases eq_of_beq isSame
      exact .refl _
  · intro alike
    cases alike with
    | refl =>
        cases first with
        | float32 number => exact number.same_refl
        | float64 number => exact number.same_refl
        | decimal number => exact Decimal.same_iff.2 rfl
        | timestampWithTimezone moment => exact ZonedTimestamp.same_iff.2 rfl
        | _ => exact beq_self_eq_true _
    | _ => assumption

theorem Alike.symm (alike : Alike first second) : Alike second first := by
  cases alike with
  | refl => exact .refl first
  | float32 isSame => exact .float32 (Binary32.same_symm isSame)
  | float64 isSame => exact .float64 (Binary64.same_symm isSame)
  | decimal isSame => exact .decimal (Decimal.same_iff.2 (Decimal.same_iff.1 isSame).symm)
  | timestampWithTimezone isSame =>
      exact .timestampWithTimezone
        (ZonedTimestamp.same_iff.2 (ZonedTimestamp.same_iff.1 isSame).symm)

theorem Alike.trans (alike : Alike first second) (alikeToo : Alike second third) :
    Alike first third := by
  cases alike with
  | refl => exact alikeToo
  | float32 isSame =>
      cases alikeToo with
      | refl => exact .float32 isSame
      | float32 isSameToo => exact .float32 (Binary32.same_trans isSame isSameToo)
  | float64 isSame =>
      cases alikeToo with
      | refl => exact .float64 isSame
      | float64 isSameToo => exact .float64 (Binary64.same_trans isSame isSameToo)
  | decimal isSame =>
      cases alikeToo with
      | refl => exact .decimal isSame
      | decimal isSameToo => exact .decimal (Decimal.same_trans isSame isSameToo)
  | timestampWithTimezone isSame =>
      cases alikeToo with
      | refl => exact .timestampWithTimezone isSame
      | timestampWithTimezone isSameToo =>
          rw [ZonedTimestamp.same_iff] at isSame isSameToo
          exact .timestampWithTimezone (ZonedTimestamp.same_iff.2 (isSame.trans isSameToo))

theorem kind_eq_of_alike (alike : Alike first second) : first.kind = second.kind := by
  cases alike <;> rfl

end Scalar

/-! ## Lists, element by element -/

section Lists

variable {α : Type} {related : α → α → Prop} {first second third : List α}

theorem forall₂_symm_of_mem
    (each : ∀ item ∈ first, ∀ other, related item other → related other item)
    (both : List.Forall₂ related first second) : List.Forall₂ related second first := by
  have eachToo := (List.forall₂_and_left first second).2 ⟨each, both⟩
  exact .flip (eachToo.imp fun item other pair => pair.1 other pair.2)

theorem forall₂_trans_of_mem
    (each : ∀ item ∈ first, ∀ other last, related item other → related other last →
      related item last)
    (both : List.Forall₂ related first second) (bothToo : List.Forall₂ related second third) :
    List.Forall₂ related first third := by
  induction both generalizing third with
  | nil => exact bothToo
  | cons head _ inductionHypothesis =>
      obtain ⟨headTrans, tailTrans⟩ := List.forall_mem_cons.1 each
      cases bothToo with
      | cons headToo tailToo =>
          exact .cons (headTrans _ _ head headToo) (inductionHypothesis tailTrans tailToo)

end Lists

/-! ## Values -/

namespace Value

/-- Fields of one name with equal values. -/
def SameField (field other : String × Value) : Prop :=
  field.1 = other.1 ∧ field.2.same other.2 = true

theorem sameItems_iff {items others : List Value} :
    sameItems items others = true ↔
      List.Forall₂ (fun item other => item.same other = true) items others := by
  induction items generalizing others with
  | nil => cases others <;> simp [sameItems]
  | cons item rest inductionHypothesis =>
      cases others with
      | nil => simp [sameItems]
      | cons other otherRest => simp [sameItems, inductionHypothesis]

theorem sameFields_iff {fields others : List (String × Value)} :
    sameFields fields others = true ↔ List.Forall₂ SameField fields others := by
  induction fields generalizing others with
  | nil => cases others <;> simp [sameFields]
  | cons field rest inductionHypothesis =>
      cases others with
      | nil => simp [sameFields]
      | cons other otherRest => simp [sameFields, SameField, inductionHypothesis]

variable {first second third : Value}

theorem same_compact_iff {schema otherSchema : Schema} {values otherValues : List (String × Value)} :
    (compact schema values).same (compact otherSchema otherValues) = true ↔
      schema = otherSchema ∧ List.Forall₂ SameField values otherValues := by
  rw [same, Bool.and_eq_true, beq_iff_eq, sameFields_iff]

theorem same_array_iff {items others : List Value} :
    (array items).same (array others) = true ↔
      List.Forall₂ (fun item other => item.same other = true) items others := by
  rw [same, sameItems_iff]

theorem same_scalar_iff {leaf other : Scalar} :
    (scalar leaf).same (scalar other) = true ↔ leaf.Alike other := by
  rw [same, Scalar.same_iff_alike]

theorem same_refl (value : Value) : value.same value = true := by
  induction value using Value.induction with
  | null => rfl
  | scalar leaf => exact same_scalar_iff.2 (.refl leaf)
  | compact schema values inductionHypothesis =>
      refine same_compact_iff.2 ⟨rfl, List.forall₂_same.2 fun field member => ?_⟩
      exact ⟨rfl, inductionHypothesis field member⟩
  | array items inductionHypothesis =>
      exact same_array_iff.2 (List.forall₂_same.2 inductionHypothesis)

theorem same_symm (isSame : first.same second = true) : second.same first = true := by
  induction first using Value.induction generalizing second with
  | null =>
      cases second with
      | null => rfl
      | _ => cases isSame
  | scalar leaf =>
      cases second with
      | scalar other => exact same_scalar_iff.2 (same_scalar_iff.1 isSame).symm
      | _ => cases isSame
  | compact schema values inductionHypothesis =>
      cases second with
      | compact otherSchema otherValues =>
          obtain ⟨sameSchema, sameValues⟩ := same_compact_iff.1 isSame
          refine same_compact_iff.2 ⟨sameSchema.symm, forall₂_symm_of_mem ?_ sameValues⟩
          intro field member other sameField
          exact ⟨sameField.1.symm, inductionHypothesis field member sameField.2⟩
      | _ => cases isSame
  | array items inductionHypothesis =>
      cases second with
      | array others =>
          refine same_array_iff.2 (forall₂_symm_of_mem ?_ (same_array_iff.1 isSame))
          exact fun item member _ sameItem => inductionHypothesis item member sameItem
      | _ => cases isSame

theorem same_trans (isSame : first.same second = true) (isSameToo : second.same third = true) :
    first.same third = true := by
  induction first using Value.induction generalizing second third with
  | null =>
      cases second with
      | null => exact isSameToo
      | _ => cases isSame
  | scalar leaf =>
      cases second with
      | scalar other =>
          cases third with
          | scalar last =>
              have alike := same_scalar_iff.1 isSame
              exact same_scalar_iff.2 (alike.trans (same_scalar_iff.1 isSameToo))
          | _ => cases isSameToo
      | _ => cases isSame
  | compact schema values inductionHypothesis =>
      cases second with
      | compact otherSchema otherValues =>
          cases third with
          | compact lastSchema lastValues =>
              obtain ⟨sameSchema, sameValues⟩ := same_compact_iff.1 isSame
              obtain ⟨sameSchemaToo, sameValuesToo⟩ := same_compact_iff.1 isSameToo
              refine same_compact_iff.2 ⟨sameSchema.trans sameSchemaToo,
                forall₂_trans_of_mem ?_ sameValues sameValuesToo⟩
              intro field member other last sameField sameFieldToo
              exact ⟨sameField.1.trans sameFieldToo.1,
                inductionHypothesis field member sameField.2 sameFieldToo.2⟩
          | _ => cases isSameToo
      | _ => cases isSame
  | array items inductionHypothesis =>
      cases second with
      | array others =>
          cases third with
          | array lasts =>
              refine same_array_iff.2 (forall₂_trans_of_mem ?_ (same_array_iff.1 isSame)
                (same_array_iff.1 isSameToo))
              exact fun item member _ _ sameItem sameItemToo =>
                inductionHypothesis item member sameItem sameItemToo
          | _ => cases isSameToo
      | _ => cases isSame

theorem same_equivalence : Equivalence fun first second : Value => first.same second = true :=
  ⟨same_refl, same_symm, same_trans⟩

/-! ## Equal values and kinds -/

theorem scalarKind?_eq_of_same (isSame : first.same second = true) :
    first.scalarKind? = second.scalarKind? := by
  cases first with
  | scalar leaf =>
      cases second with
      | scalar other =>
          exact congrArg some (Scalar.kind_eq_of_alike (same_scalar_iff.1 isSame))
      | _ => cases isSame
  | _ =>
      cases second with
      | scalar other => cases isSame
      | _ => first | rfl | cases isSame

theorem isNull_eq_of_same (isSame : first.same second = true) : first.isNull = second.isNull := by
  cases first <;> cases second <;> first | rfl | cases isSame

end Value

namespace Kind

variable {first second : Value}

theorem acceptsSingle_eq_of_same (kind : Kind) (isSame : first.same second = true) :
    kind.acceptsSingle first = kind.acceptsSingle second := by
  rw [acceptsSingle, acceptsSingle, Value.isNull_eq_of_same isSame,
    Value.scalarKind?_eq_of_same isSame]

theorem all_acceptsSingle_eq_of_same (kind : Kind) {items others : List Value}
    (same : List.Forall₂ (fun item other => item.same other = true) items others) :
    items.all kind.acceptsSingle = others.all kind.acceptsSingle := by
  induction same with
  | nil => rfl
  | cons head _ inductionHypothesis =>
      rw [List.all_cons, List.all_cons, inductionHypothesis,
        kind.acceptsSingle_eq_of_same head]

theorem accepts_eq_of_same (kind : Kind) (isSame : first.same second = true) :
    kind.accepts first = kind.accepts second := by
  unfold accepts
  cases kind.element? with
  | none => exact kind.acceptsSingle_eq_of_same isSame
  | some element =>
      cases first with
      | array items =>
          cases second with
          | array others =>
              exact element.all_acceptsSingle_eq_of_same (Value.same_array_iff.1 isSame)
          | _ => cases isSame
      | _ =>
          cases second with
          | array others => cases isSame
          | _ => first | rfl | cases isSame

end Kind

/-! ## Records -/

namespace Record

variable {first second third : Record}

/-- Records are compared as the values that they are. -/
theorem same_eq_toValue (first second : Record) :
    first.same second = first.toValue.same second.toValue := by
  rw [same, toValue, toValue, Value.same]

theorem same_equivalence : Equivalence fun first second : Record => first.same second = true where
  refl record := by
    rw [same_eq_toValue]
    exact record.toValue.same_refl
  symm isSame := by
    rw [same_eq_toValue] at *
    exact Value.same_symm isSame
  trans isSame isSameToo := by
    rw [same_eq_toValue] at *
    exact Value.same_trans isSame isSameToo

end Record

end CompactSchema
