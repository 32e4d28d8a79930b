import CompactSchema.Json
import CompactSchema.Json.Reader
import CompactSchema.Proofs.Json.Scanning
import Mathlib.Data.List.Forall2

/-!
Contract: a JSON value that was written is read back.

A value is read wherever one may stand, whatever containers are open around it and
whatever text follows, and reading goes on after it. So the parts of a container are
read one after the other, and the whole text of a value is read to its end. Arrays and
objects are two sorts of container, with one proof for both.

Owns: that strings, arrays and objects of such are read back.

Does not own: what a document has to hold, see `Proofs.Schema.Reading`.
-/

set_option autoImplicit false

namespace CompactSchema.Json

/-! ## Punctuation -/

theorem tokens_openArray (rest : List Char) : tokens ('[' :: rest) = .openArray :: tokens rest :=
  tokens_cons rfl rfl (by simp)

theorem tokens_closeArray (rest : List Char) :
    tokens (']' :: rest) = .closeArray :: tokens rest :=
  tokens_cons rfl rfl (by simp)

theorem tokens_openObject (rest : List Char) :
    tokens ('{' :: rest) = .openObject :: tokens rest :=
  tokens_cons rfl rfl (by simp)

theorem tokens_closeObject (rest : List Char) :
    tokens ('}' :: rest) = .closeObject :: tokens rest :=
  tokens_cons rfl rfl (by simp)

theorem tokens_comma (rest : List Char) : tokens (',' :: rest) = .comma :: tokens rest :=
  tokens_cons rfl rfl (by simp)

theorem tokens_colon (rest : List Char) : tokens (':' :: rest) = .colon :: tokens rest :=
  tokens_cons rfl rfl (by simp)

/-! ## Going on after a value -/

/-- What comes of the tokens after some progress. -/
def Progress.resume (rest : List Token) : Progress → Reading
  | .going stage frames => run stage frames rest
  | .done document => ⟨document, rest.isEmpty⟩
  | .failed => ⟨.broken, false⟩

/-- A value may stand inside the given containers. -/
def Ready (frames : List Frame) : Prop := ∀ document, finish document frames ≠ .failed

theorem ready_nil : Ready [] := fun _ => Progress.noConfusion

theorem ready_items (items : List Document) (frames : List Frame) :
    Ready (.items items :: frames) :=
  fun _ => Progress.noConfusion

theorem ready_pending (members : List (Option String × Document)) (name? : Option String)
    (frames : List Frame) : Ready (.pending members name? :: frames) :=
  fun _ => Progress.noConfusion

theorem run_cons {stage : Stage} {frames : List Frame} {token : Token} {progress : Progress}
    (advanced : advance stage frames token = progress) (proceeds : progress ≠ .failed)
    (rest : List Token) : run stage frames (token :: rest) = progress.resume rest := by
  subst advanced
  rw [run]
  cases progress : advance stage frames token with
  | going => rfl
  | done => rfl
  | failed => exact absurd progress proceeds

/-- A value may come next, as the first or a later part of a container or alone. -/
def Stage.AwaitsValue (stage : Stage) : Prop := stage = .value ∨ stage = .firstItem

theorem advance_of_awaitsValue {stage : Stage} (awaits : stage.AwaitsValue) (frames : List Frame)
    {token : Token} (notClose : token ≠ .closeArray) :
    advance stage frames token = beginValue frames token := by
  obtain rfl | rfl := awaits
  · rw [advance]
  · rw [advance]
    exact fun _ _ _ isClose => notClose isClose

/-- The text of a value is read as a document wherever a value may stand. -/
def Reads (json : Json) (document : Document) : Prop :=
  ∀ ⦃stage : Stage⦄ ⦃frames : List Frame⦄, stage.AwaitsValue → Ready frames →
    ∀ rest : List Char, run stage frames (tokens (json.text.toList ++ rest)) =
      (finish document frames).resume (tokens rest)

/-! ## Strings -/

theorem reads_string (text : String) : Reads (.string text) (.string (some text)) := by
  intro stage frames awaits ready rest
  rw [Json.text, tokens_quote]
  apply run_cons _ (ready _)
  rw [advance_of_awaitsValue awaits frames (by simp), beginValue]

/-! ## Containers -/

/-- One sort of container: how its parts are written, what stands around them, and how
they are taken in one after the other. -/
structure Container (π ω : Type) where
  text : π → String
  Reads : π → ω → Prop
  opening : Char
  closing : Char
  frame : List ω → Frame
  whole : List ω → Document
  /-- What may come next after the opening. -/
  first : Stage
  /-- What may come next after a comma. -/
  next : Stage
  opens : ∀ ⦃stage : Stage⦄, stage.AwaitsValue → ∀ (frames : List Frame) (rest : List Char),
    run stage frames (tokens (opening :: rest)) = run first (frame [] :: frames) (tokens rest)
  separates : ∀ (before : List ω) (frames : List Frame) (rest : List Char),
    run .separator (frame before :: frames) (tokens (',' :: rest)) =
      run next (frame before :: frames) (tokens rest)
  takes : ∀ ⦃stage : Stage⦄, stage = first ∨ stage = next → ∀ ⦃part : π⦄ ⦃result : ω⦄,
    Reads part result → ∀ (before : List ω) (frames : List Frame) (rest : List Char),
      run stage (frame before :: frames) (tokens ((text part).toList ++ rest)) =
        run .separator (frame (result :: before) :: frames) (tokens rest)
  closes : ∀ ⦃stage : Stage⦄, stage = first ∨ stage = .separator → ∀ (before : List ω)
    ⦃frames : List Frame⦄, Ready frames → ∀ rest : List Char,
      run stage (frame before :: frames) (tokens (closing :: rest)) =
        (finish (whole before.reverse) frames).resume (tokens rest)

namespace Container

variable {π ω : Type} (container : Container π ω) {parts : List π} {results : List ω}
  (reads : List.Forall₂ container.Reads parts results)

/-- The characters of a container. -/
def write (parts : List π) : List Char :=
  container.opening :: (",".intercalate (parts.map container.text)).toList ++ [container.closing]

theorem toList_intercalate_comma (first : String) (others : List String) :
    (",".intercalate (first :: others)).toList =
      first.toList ++ others.flatMap fun other => ',' :: other.toList := by
  induction others generalizing first with
  | nil => simp
  | cons second others inductionHypothesis =>
      rw [String.intercalate_cons_cons, String.toList_append, String.toList_append,
        inductionHypothesis, List.flatMap_cons]
      simp

include reads

/-- Later parts, each behind a comma, are taken in until the container is closed. -/
theorem run_later (before : List ω) {frames : List Frame} (ready : Ready frames)
    (rest : List Char) : run .separator (container.frame before :: frames)
        (tokens ((parts.flatMap fun part => ',' :: (container.text part).toList)
          ++ container.closing :: rest)) =
      (finish (container.whole (before.reverse ++ results)) frames).resume (tokens rest) := by
  induction reads generalizing before with
  | nil =>
      rw [List.flatMap_nil, List.nil_append, List.append_nil]
      exact container.closes (.inr rfl) before ready rest
  | @cons part result parts results readsPart _ inductionHypothesis =>
      rw [List.flatMap_cons, List.append_assoc, List.cons_append, container.separates,
        container.takes (.inr rfl) readsPart, inductionHypothesis, List.reverse_cons,
        List.append_assoc, List.singleton_append]

theorem run_write {stage : Stage} (awaits : stage.AwaitsValue) {frames : List Frame}
    (ready : Ready frames) (rest : List Char) :
    run stage frames (tokens (container.write parts ++ rest)) =
      (finish (container.whole results) frames).resume (tokens rest) := by
  cases reads with
  | nil =>
      have written : container.write [] ++ rest = container.opening :: container.closing :: rest := by
        simp [write]
      rw [written, container.opens awaits, container.closes (.inl rfl) [] ready]
      rfl
  | @cons part result parts results readsPart readsLater =>
      have written : container.write (part :: parts) ++ rest =
          container.opening :: ((container.text part).toList ++
            ((parts.flatMap fun part => ',' :: (container.text part).toList)
              ++ container.closing :: rest)) := by
        rw [write, List.map_cons, toList_intercalate_comma, List.flatMap_map]
        simp
      rw [written, container.opens awaits, container.takes (.inl rfl) readsPart]
      exact container.run_later readsLater [result] ready rest

end Container

/-! ## Arrays -/

/-- Arrays of values. -/
def arrays : Container Json Document where
  text := Json.text
  Reads := Reads
  opening := '['
  closing := ']'
  frame := .items
  whole := fun items => .array items true
  first := .firstItem
  next := .value
  opens := by
    intro stage awaits frames rest
    have opened : advance stage frames .openArray = .going .firstItem (.items [] :: frames) := by
      rw [advance_of_awaitsValue awaits frames (by simp), beginValue]
    rw [tokens_openArray, run_cons opened Progress.noConfusion, Progress.resume]
  separates := by
    intro before frames rest
    rw [tokens_comma, run_cons rfl Progress.noConfusion]
    rfl
  takes := by
    intro stage isStage item document reads before frames rest
    exact reads isStage.symm (ready_items before frames) rest
  closes := by
    intro stage isStage before frames ready rest
    have closed : advance stage (.items before :: frames) .closeArray =
        finish (.array before.reverse true) frames := by
      obtain rfl | rfl := isStage <;> rfl
    rw [tokens_closeArray]
    exact run_cons closed (ready _) _

theorem itemTexts_eq_map (items : List Json) : itemTexts items = items.map text := by
  induction items with
  | nil => rfl
  | cons item items inductionHypothesis => rw [itemTexts, inductionHypothesis, List.map_cons]

theorem reads_array {items : List Json} {documents : List Document}
    (reads : List.Forall₂ Reads items documents) :
    Reads (.array items) (.array documents true) := by
  intro stage frames awaits ready rest
  have written : (Json.array items).text.toList = arrays.write items := by
    rw [Json.text, arrayText, itemTexts_eq_map, String.toList_append, String.toList_append]
    rfl
  rw [written]
  exact arrays.run_write reads awaits ready rest

/-! ## Objects -/

/-- A member is read with its name. -/
def ReadsMember (member : String × Json) (part : Option String × Document) : Prop :=
  part.1 = some member.1 ∧ Reads member.2 part.2

theorem Reads.member {value : Json} {document : Document} (reads : Reads value document)
    (name : String) : ReadsMember (name, value) (some name, document) :=
  ⟨rfl, reads⟩

/-- The text of a member. -/
def memberText (member : String × Json) : String := quote member.1 ++ ":" ++ member.2.text

theorem run_member {stage : Stage} (isStage : stage = .firstName ∨ stage = .name)
    {member : String × Json} {part : Option String × Document} (reads : ReadsMember member part)
    (before : List (Option String × Document)) (frames : List Frame) (rest : List Char) :
    run stage (.members before :: frames) (tokens ((memberText member).toList ++ rest)) =
      run .separator (.members (part :: before) :: frames) (tokens rest) := by
  obtain ⟨name, value⟩ := member
  obtain ⟨_, document⟩ := part
  obtain ⟨rfl, readsValue⟩ := reads
  have named : advance stage (.members before :: frames) (.string (some name)) =
      .going .colon (.pending before (some name) :: frames) := by
    obtain rfl | rfl := isStage <;> rfl
  have written : (memberText (name, value)).toList ++ rest =
      (quote name).toList ++ ':' :: (value.text.toList ++ rest) := by
    rw [memberText, String.toList_append, String.toList_append]
    simp
  rw [written, tokens_quote, run_cons named Progress.noConfusion, tokens_colon]
  show run .colon _ _ = _
  rw [run_cons rfl Progress.noConfusion]
  exact readsValue (.inl rfl) (ready_pending before (some name) frames) rest

/-- Objects of named values. -/
def objects : Container (String × Json) (Option String × Document) where
  text := memberText
  Reads := ReadsMember
  opening := '{'
  closing := '}'
  frame := .members
  whole := fun members => .object members true
  first := .firstName
  next := .name
  opens := by
    intro stage awaits frames rest
    have opened : advance stage frames .openObject =
        .going .firstName (.members [] :: frames) := by
      rw [advance_of_awaitsValue awaits frames (by simp), beginValue]
    rw [tokens_openObject, run_cons opened Progress.noConfusion, Progress.resume]
  separates := by
    intro before frames rest
    rw [tokens_comma, run_cons rfl Progress.noConfusion]
    rfl
  takes := fun _ isStage _ _ reads => run_member isStage reads
  closes := by
    intro stage isStage before frames ready rest
    have closed : advance stage (.members before :: frames) .closeObject =
        finish (.object before.reverse true) frames := by
      obtain rfl | rfl := isStage <;> rfl
    rw [tokens_closeObject]
    exact run_cons closed (ready _) _

theorem memberTexts_eq_map (members : List (String × Json)) :
    memberTexts members = members.map fun member => (member.1, member.2.text) := by
  induction members with
  | nil => rfl
  | cons member members inductionHypothesis =>
      rw [memberTexts, inductionHypothesis, List.map_cons]

theorem reads_object {members : List (String × Json)} {parts : List (Option String × Document)}
    (reads : List.Forall₂ ReadsMember members parts) :
    Reads (.object members) (.object parts true) := by
  intro stage frames awaits ready rest
  have written : (Json.object members).text.toList = objects.write members := by
    rw [Json.text, objectText, memberTexts_eq_map, List.map_map, String.toList_append,
      String.toList_append]
    rfl
  rw [written]
  exact objects.run_write reads awaits ready rest

/-! ## Whole texts -/

theorem read_text {json : Json} {document : Document} (reads : Reads json document) :
    read json.text = ⟨document, true⟩ := by
  have whole := reads (.inl rfl) ready_nil []
  rw [List.append_nil] at whole
  exact whole

theorem Reader.text_of_reads {α : Type} {json : Json} {document : Document}
    (reads : Reads json document) (reader : Document → Except ReadError α) :
    Reader.text reader json.text = reader document := by
  rw [Reader.text, read_text reads]
  show (reader document >>= fun value => Reader.ended true >>= fun _ => pure value) = _
  cases reader document <;> rfl

end CompactSchema.Json
