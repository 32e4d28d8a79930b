import CompactSchema.Json.Quoted
import CompactSchema.Json.Token

/-!
Contract: JSON text token by token.

Every token takes at least one character, so the number of steps that a division into
tokens is given never cuts it short, and the tokens of a text are its first token and
the tokens of what follows. A string that was written in quotes is read back as it was:
each character is written as one part, and the parts stand for the characters again.

Owns: the first token of a text, and reading a quoted string.

Does not own: how tokens nest, see `Proofs.Json.Reading`.
-/

set_option autoImplicit false

namespace CompactSchema.Json

/-! ## Every token takes a character -/

theorem length_scanPieces {text after : List Char} {pieces : List Piece}
    (scanned : scanPieces text = some (pieces, after)) : after.length < text.length := by
  fun_induction scanPieces text generalizing pieces after with
  | case1 => cases scanned
  | case2 => grind
  | case3 a b c d rest number others later found _ inductionHypothesis =>
      have shorter := inductionHypothesis found
      obtain ⟨_, rfl⟩ := Prod.mk.inj (Option.some.inj scanned)
      simp only [List.length_cons]
      omega
  | case4 => cases scanned
  | case5 => grind
  | case6 => cases scanned
  | case7 => cases scanned
  | case8 => grind
  | case9 => cases scanned

theorem length_spanDigits {text digits after : List Char}
    (spanned : spanDigits text = (digits, after)) :
    digits.length + after.length = text.length := by
  obtain ⟨rfl, rfl⟩ := Prod.mk.inj spanned
  rw [← List.length_append, List.takeWhile_append_dropWhile]

theorem length_skipFraction? {text after : List Char} {fractional : Bool}
    (skipped : skipFraction? text = some (fractional, after)) : after.length ≤ text.length := by
  unfold skipFraction? at skipped
  split at skipped
  · split at skipped
    · cases skipped
    · rename_i spanned
      have total := length_spanDigits spanned
      cases skipped
      rw [List.length_cons]
      omega
  · cases skipped
    exact Nat.le_refl _

theorem length_skipSign (text : List Char) : (skipSign text).length ≤ text.length := by
  unfold skipSign
  split <;> simp

theorem length_skipExponent? {text after : List Char} {scaled : Bool}
    (skipped : skipExponent? text = some (scaled, after)) : after.length ≤ text.length := by
  unfold skipExponent? at skipped
  split at skipped
  · rename_i mark rest
    split at skipped
    · split at skipped
      · cases skipped
      · rename_i spanned
        have total := length_spanDigits spanned
        have signed := length_skipSign rest
        cases skipped
        rw [List.length_cons]
        omega
    · cases skipped
      exact Nat.le_refl _
  · cases skipped
    exact Nat.le_refl _

theorem length_scanUnsigned {text after : List Char} {natural? : Option Nat}
    (scanned : scanUnsigned text = some (natural?, after)) : after.length < text.length := by
  unfold scanUnsigned at scanned
  rcases spanned : spanDigits text with ⟨digits, rest⟩
  have total := length_spanDigits spanned
  rw [spanned] at scanned
  dsimp only at scanned
  split at scanned
  · cases scanned
  · rename_i someDigits
    have positive : digits.length ≠ 0 := fun none =>
      someDigits (.inl (List.length_eq_zero_iff.1 none))
    split at scanned
    · cases scanned
    · rename_i fraction
      split at scanned
      · cases scanned
      · rename_i exponent
        have afterFraction := length_skipFraction? fraction
        have afterExponent := length_skipExponent? exponent
        cases scanned
        omega

theorem length_scanNumber {text after : List Char} {natural? : Option Nat}
    (scanned : scanNumber text = some (natural?, after)) : after.length < text.length := by
  unfold scanNumber at scanned
  split at scanned
  · rename_i rest
    obtain ⟨⟨_, _⟩, unsigned, same⟩ := Option.map_eq_some_iff.1 scanned
    obtain ⟨_, rfl⟩ := Prod.mk.inj same
    exact Nat.lt_succ_of_lt (length_scanUnsigned unsigned)
  · exact length_scanUnsigned scanned

theorem length_scanToken {text after : List Char} {token : Token}
    (scanned : scanToken text = (token, after)) (whole : token ≠ .fault) :
    after.length < text.length := by
  unfold scanToken at scanned
  split at scanned
  case h_11 rest =>
    split at scanned
    · rename_i found
      have shorter := length_scanPieces found
      cases scanned
      rw [List.length_cons]
      omega
    · cases scanned
      exact absurd rfl whole
  case h_12 =>
    split at scanned
    · rename_i found
      cases scanned
      exact length_scanNumber found
    · cases scanned
      exact absurd rfl whole
  case h_1 =>
    cases scanned
    exact absurd rfl whole
  all_goals
    cases scanned
    simp only [List.length_cons]
    omega

/-! ## Tokens without counting steps -/

theorem length_dropWhile_le (test : Char → Bool) (text : List Char) :
    (text.dropWhile test).length ≤ text.length :=
  (List.dropWhile_suffix test).length_le

theorem tokensWithin_eq {first second : Nat} {text : List Char} (enough : text.length ≤ first)
    (enoughToo : text.length ≤ second) : tokensWithin first text = tokensWithin second text := by
  induction first generalizing second text with
  | zero =>
      obtain rfl := List.length_eq_zero_iff.1 (Nat.le_zero.1 enough)
      cases second <;> rfl
  | succ first inductionHypothesis =>
      cases second with
      | zero =>
          obtain rfl := List.length_eq_zero_iff.1 (Nat.le_zero.1 enoughToo)
          rfl
      | succ second =>
          have dropped := length_dropWhile_le isBlank text
          unfold tokensWithin
          split
          · rfl
          · rename_i char rest unblanked
            rw [unblanked] at dropped
            split
            · rfl
            · rename_i token after whole scanned
              have shorter := length_scanToken scanned whole
              have same : tokensWithin first after = tokensWithin second after :=
                inductionHypothesis (by omega) (by omega)
              rw [same]

/-- The tokens of a text that does not start with a blank: the first one, and those of
the text after it. -/
theorem tokens_cons {char : Char} {rest after : List Char} {token : Token}
    (visible : isBlank char = false) (scanned : scanToken (char :: rest) = (token, after))
    (whole : token ≠ .fault) : tokens (char :: rest) = token :: tokens after := by
  have shorter := length_scanToken scanned whole
  have unblanked : (char :: rest).dropWhile isBlank = char :: rest := by
    rw [List.dropWhile_cons, visible]
    rfl
  rw [tokens, List.length_cons, tokensWithin, unblanked]
  dsimp only
  split
  · rename_i found
    cases scanned.symm.trans found
    exact absurd rfl whole
  · rename_i other later _ found
    cases scanned.symm.trans found
    rw [List.length_cons] at shorter
    rw [tokens, tokensWithin_eq (by omega) (Nat.le_refl _)]

/-! ## Quoted strings -/

theorem scanPieces_short {letter char : Char} (escape : shortEscape? letter = some char)
    (rest : List Char) : scanPieces ('\\' :: letter :: rest) =
      (scanPieces rest).map fun scanned => (.char char :: scanned.1, scanned.2) := by
  have notUnit : letter ≠ 'u' := by
    rintro rfl
    cases escape
  rw [scanPieces, escape]
  · cases scanPieces rest <;> rfl
  · exact fun _ _ _ _ _ isUnit _ => notUnit isUnit

theorem scanPieces_unit {a b c d : Char} {number : Nat} (escape : hexUnit? a b c d = some number)
    (rest : List Char) : scanPieces ('\\' :: 'u' :: a :: b :: c :: d :: rest) =
      (scanPieces rest).map fun scanned => (.unit number :: scanned.1, scanned.2) := by
  rw [scanPieces, escape]
  cases scanPieces rest <;> rfl

theorem scanPieces_plain {char : Char} (notQuote : char ≠ '"') (notEscape : char ≠ '\\')
    (printable : ¬ char.toNat < 0x20) (rest : List Char) : scanPieces (char :: rest) =
      (scanPieces rest).map fun scanned => (.char char :: scanned.1, scanned.2) := by
  rw [scanPieces, if_neg (not_or.2 ⟨notEscape, printable⟩)]
  · cases scanPieces rest <;> rfl
  · exact notQuote
  · exact fun _ _ _ _ _ isEscape _ => notEscape isEscape
  · exact fun _ _ isEscape _ => notEscape isEscape

theorem assemble?_unit {number : Nat} (single : number < 0xd800) (pieces : List Piece) :
    assemble? (.unit number :: pieces) = (assemble? pieces).map (Char.ofNat number :: ·) := by
  have notHigh : ¬ (0xd800 ≤ number ∧ number < 0xdc00) := by omega
  have notLow : ¬ (0xdc00 ≤ number ∧ number < 0xe000) := by omega
  have notHalf : ¬ (0xd800 ≤ number ∧ number < 0xe000) := by omega
  cases pieces with
  | nil => simp [assemble?, notHalf]
  | cons head rest =>
      cases head with
      | char char => simp [assemble?, notHalf]
      | unit low => rw [assemble?, if_neg notHigh, if_neg notLow]

theorem hexUnit?_control :
    ∀ number < 0x20, hexUnit? '0' '0' (Nat.digitChar (number / 16)) (Nat.digitChar (number % 16)) =
      some number := by
  decide

/-- A quoted character is read as one part that stands for it, whatever follows. -/
theorem exists_piece (char : Char) : ∃ piece,
    (∀ rest, scanPieces (quoteChar char ++ rest) =
      (scanPieces rest).map fun scanned => (piece :: scanned.1, scanned.2)) ∧
    ∀ pieces, assemble? (piece :: pieces) = (assemble? pieces).map (char :: ·) := by
  generalize quoted : quoteChar char = chars
  unfold quoteChar at quoted
  split at quoted
  case h_8 notQuote notEscape _ _ _ _ _ =>
    split at quoted
    · rename_i control
      subst quoted
      refine ⟨.unit char.toNat, scanPieces_unit (hexUnit?_control _ control), fun pieces => ?_⟩
      rw [assemble?_unit (by omega), Char.ofNat_toNat]
    · rename_i printable
      subst quoted
      exact ⟨.char char, scanPieces_plain notQuote notEscape printable, fun _ => rfl⟩
  all_goals
    subst quoted
    exact ⟨.char _, scanPieces_short rfl, fun _ => rfl⟩

theorem exists_pieces (chars rest : List Char) : ∃ pieces,
    scanPieces (chars.flatMap quoteChar ++ '"' :: rest) = some (pieces, rest) ∧
      assemble? pieces = some chars := by
  induction chars with
  | nil => exact ⟨[], rfl, rfl⟩
  | cons char chars inductionHypothesis =>
      obtain ⟨pieces, scanned, assembled⟩ := inductionHypothesis
      obtain ⟨piece, scannedFirst, assembledFirst⟩ := exists_piece char
      refine ⟨piece :: pieces, ?_, ?_⟩
      · rw [List.flatMap_cons, List.append_assoc, scannedFirst, scanned]
        rfl
      · rw [assembledFirst, assembled]
        rfl

/-- A quoted string is one token, which holds the string. -/
theorem tokens_quote (text : String) (rest : List Char) :
    tokens ((quote text).toList ++ rest) = .string (some text) :: tokens rest := by
  obtain ⟨pieces, scanned, assembled⟩ := exists_pieces text.toList rest
  have written : (quote text).toList ++ rest =
      '"' :: (text.toList.flatMap quoteChar ++ '"' :: rest) := by
    rw [quote, String.toList_ofList]
    simp
  rw [written]
  apply tokens_cons rfl _ (by simp)
  rw [scanToken, scanned]
  simp [assembled]

end CompactSchema.Json
