import CompactSchema.Proofs.Fingerprint.Window

/-!
Contract: a stream can be read back.

Every part of a stream says where it ends, a number by its width and a text by the
length in front of it, and the number of fields stands before the fields. So what
follows a part is known once the part is, and a stream that begins another one is that
stream. This needs the lengths and the number of fields to fit the four bytes that
they are given.

Owns: reading the parts of a stream off its front, and what a stream determines.

Does not own: which different streams share a fingerprint.
-/

set_option autoImplicit false

namespace CompactSchema.Fingerprint

/-- Nothing that the stream counts is too large for the four bytes of a number. -/
structure Fits (typeName : String) (fields : List (String × Kind)) : Prop where
  typeName : typeName.utf8ByteSize < 2 ^ 32
  count : fields.length < 2 ^ 32
  names : ∀ field ∈ fields, field.1.utf8ByteSize < 2 ^ 32

/-! ## Parts at the front of a stream -/

theorem numberStream_append_inj {first second : Nat} {rest others : List UInt8}
    (fits : first < 2 ^ 32) (otherFits : second < 2 ^ 32)
    (same : numberStream first ++ rest = numberStream second ++ others) :
    first = second ∧ rest = others := by
  have sameLength : (numberStream first).length = (numberStream second).length := by
    rw [length_numberStream, length_numberStream]
  obtain ⟨sameNumber, sameRest⟩ := List.append_inj same sameLength
  exact ⟨numberStream_injective fits otherFits sameNumber, sameRest⟩

theorem length_bytes (text : String) : text.toUTF8.data.toList.length = text.utf8ByteSize := by
  rw [Array.length_toList]
  rfl

theorem bytes_injective {text other : String}
    (same : text.toUTF8.data.toList = other.toUTF8.data.toList) : text = other :=
  String.toByteArray_inj.1 (ByteArray.ext (Array.toList_inj.1 same))

theorem textStream_append_inj {text other : String} {rest others : List UInt8}
    (fits : text.utf8ByteSize < 2 ^ 32) (otherFits : other.utf8ByteSize < 2 ^ 32)
    (same : textStream text ++ rest = textStream other ++ others) :
    text = other ∧ rest = others := by
  unfold textStream at same
  simp only [List.append_assoc] at same
  rw [length_bytes, length_bytes] at same
  obtain ⟨sameLength, sameTail⟩ := numberStream_append_inj fits otherFits same
  rw [← length_bytes, ← length_bytes] at sameLength
  obtain ⟨sameBytes, sameRest⟩ := List.append_inj sameTail sameLength
  exact ⟨bytes_injective sameBytes, sameRest⟩

theorem fieldStream_append_inj {field other : String × Kind} {rest others : List UInt8}
    (fits : field.1.utf8ByteSize < 2 ^ 32) (otherFits : other.1.utf8ByteSize < 2 ^ 32)
    (same : fieldStream field ++ rest = fieldStream other ++ others) :
    field = other ∧ rest = others := by
  unfold fieldStream at same
  simp only [List.append_assoc] at same
  obtain ⟨sameName, sameTail⟩ := textStream_append_inj fits otherFits same
  obtain ⟨sameId, sameRest⟩ := numberStream_append_inj field.2.id_lt other.2.id_lt sameTail
  exact ⟨Prod.ext sameName (Kind.id_injective sameId), sameRest⟩

/-- As many fields from the front of a stream. The ends of the fields are found one
after the other, so it does not matter what the names look like. -/
theorem fieldStreams_append_inj {fields others : List (String × Kind)} {rest tail : List UInt8}
    (sameLength : fields.length = others.length)
    (fits : ∀ field ∈ fields, field.1.utf8ByteSize < 2 ^ 32)
    (otherFits : ∀ field ∈ others, field.1.utf8ByteSize < 2 ^ 32)
    (same : fields.flatMap fieldStream ++ rest = others.flatMap fieldStream ++ tail) :
    fields = others := by
  induction fields generalizing others with
  | nil => exact (List.length_eq_zero_iff.1 sameLength.symm).symm
  | cons field fields inductionHypothesis =>
      cases others with
      | nil => cases sameLength
      | cons other others =>
          obtain ⟨headFits, restFit⟩ := List.forall_mem_cons.1 fits
          obtain ⟨otherHeadFits, otherRestFit⟩ := List.forall_mem_cons.1 otherFits
          simp only [List.flatMap_cons, List.append_assoc] at same
          obtain ⟨sameHead, sameTail⟩ := fieldStream_append_inj headFits otherHeadFits same
          rw [sameHead, inductionHypothesis (Nat.succ.inj sameLength) restFit otherRestFit sameTail]

/-! ## Whole streams -/

theorem eq_of_stream_begins {typeName otherName : String} {fields others : List (String × Kind)}
    (fits : Fits typeName fields) (otherFits : Fits otherName others)
    (begins : stream typeName fields <+: stream otherName others) :
    typeName = otherName ∧ fields = others := by
  obtain ⟨rest, whole⟩ := begins
  unfold stream at whole
  simp only [List.append_assoc] at whole
  obtain ⟨sameName, afterName⟩ := textStream_append_inj fits.typeName otherFits.typeName whole
  obtain ⟨sameCount, afterCount⟩ := numberStream_append_inj fits.count otherFits.count afterName
  rw [← List.append_nil (others.flatMap fieldStream)] at afterCount
  exact ⟨sameName, fieldStreams_append_inj sameCount fits.names otherFits.names afterCount⟩

/-- The id absorbs exactly the bytes of the stream, and the stream determines what it
was made from: if one stream begins another, type names and fields are the same. So
different type names or fields with the same id are different messages with the same
Rabin fingerprint. -/
theorem stream_determines {typeName otherName : String} {fields others : List (String × Kind)}
    (fits : Fits typeName fields) (otherFits : Fits otherName others) :
    (compute typeName fields = (absorbBytes seed (stream typeName fields)).toInt64 ∧
      compute otherName others = (absorbBytes seed (stream otherName others)).toInt64) ∧
    (stream typeName fields <+: stream otherName others ∨
        stream otherName others <+: stream typeName fields →
      typeName = otherName ∧ fields = others) ∧
    (compute typeName fields = compute otherName others →
      ¬ (typeName = otherName ∧ fields = others) →
      stream typeName fields ≠ stream otherName others ∧
        Rabin.fingerprint (stream typeName fields) =
          Rabin.fingerprint (stream otherName others)) := by
  refine ⟨⟨compute_eq_absorbBytes _ _, compute_eq_absorbBytes _ _⟩, ?_, ?_⟩
  · rintro (begins | begins)
    · exact eq_of_stream_begins fits otherFits begins
    · obtain ⟨sameName, sameFields⟩ := eq_of_stream_begins otherFits fits begins
      exact ⟨sameName.symm, sameFields.symm⟩
  · intro sameId different
    constructor
    · intro sameStream
      exact different (eq_of_stream_begins fits otherFits (sameStream ▸ List.prefix_rfl))
    · rw [← compute_toBitVec, ← compute_toBitVec, sameId]

/-- The fingerprint does collide: two type names without fields that have the same id. -/
theorem compute_collides : compute "aaaaaaabaaaaa" [] = compute "tpgawtyxugbfn" [] := by
  rw [← Int64.toBitVec_inj, compute_toBitVec, compute_toBitVec]
  decide +kernel

theorem stream_determines_collision :
    (Fits "aaaaaaabaaaaa" [] ∧ Fits "tpgawtyxugbfn" []) ∧
      compute "aaaaaaabaaaaa" [] = compute "tpgawtyxugbfn" [] ∧
      (¬ stream "aaaaaaabaaaaa" [] <+: stream "tpgawtyxugbfn" [] ∧
        stream "aaaaaaabaaaaa" [] ≠ stream "tpgawtyxugbfn" []) ∧
      Rabin.fingerprint (stream "aaaaaaabaaaaa" []) =
        Rabin.fingerprint (stream "tpgawtyxugbfn" []) := by
  have fits : Fits "aaaaaaabaaaaa" [] := ⟨by decide, by decide, by simp⟩
  have otherFits : Fits "tpgawtyxugbfn" [] := ⟨by decide, by decide, by simp⟩
  have different : ¬ ("aaaaaaabaaaaa" = "tpgawtyxugbfn" ∧ ([] : List (String × Kind)) = []) := by
    decide
  obtain ⟨_, determined, collision⟩ := stream_determines fits otherFits
  obtain ⟨differentStream, sameFingerprint⟩ := collision compute_collides different
  exact ⟨⟨fits, otherFits⟩, compute_collides,
    ⟨fun begins => different (determined (.inl begins)), differentStream⟩, sameFingerprint⟩

end CompactSchema.Fingerprint
