import HitMonitor.Proofs.Json.Grammar

/-!
# Passing over values

The machine that passes over a value nobody asked for ends up behind it, whatever the value is and
however deep it goes.  Each kind of lexeme takes the machine from where it begins to the state behind
a complete value, in which it stays within the brackets that are still open.
-/

namespace HitMonitor.Json

variable {state next : SkipState} {brackets opened : List Bracket} {byte : UInt8} {rest : Bytes}

/-! ## Steps -/

theorem skipRest_go (step : skipStep state brackets byte = .go next opened) (rest : Bytes) :
    skipRest state brackets (byte :: rest) = skipRest next opened rest := by
  rw [skipRest, step]

/-- Behind a value that closes all brackets nothing more is taken. -/
theorem skipRest_done (rest : Bytes) : skipRest .after [] rest = .ok rest := by
  cases rest <;> rfl

theorem skipRest_end (step : skipStep state brackets byte = endValue opened) (rest : Bytes) :
    skipRest state brackets (byte :: rest) = skipRest .after opened rest := by
  rw [skipRest, step]
  cases opened with
  | nil => exact (skipRest_done rest).symm
  | cons => rfl

/-- Bytes that do not change the state. -/
theorem skipRest_stay {bytes : Bytes}
    (stays : ∀ byte ∈ bytes, skipStep state brackets byte = .go state brackets) (rest : Bytes) :
    skipRest state brackets (bytes ++ rest) = skipRest state brackets rest := by
  induction bytes with
  | nil => rfl
  | cons byte bytes ih =>
      rw [List.forall_mem_cons] at stays
      rw [List.cons_append, skipRest_go stays.1, ih stays.2]

/-- In front of a value, of a key, of a colon or of what follows a value within brackets. -/
inductive Waits : SkipState → List Bracket → Prop
  | value {brackets : List Bracket} : Waits .value brackets
  | firstItem {brackets : List Bracket} : Waits .firstItem brackets
  | key {brackets : List Bracket} : Waits .key brackets
  | firstKey {brackets : List Bracket} : Waits .firstKey brackets
  | colon {brackets : List Bracket} : Waits .colon brackets
  | after {bracket : Bracket} {brackets : List Bracket} : Waits .after (bracket :: brackets)

/-- A state that waits stays over blanks. -/
theorem skipRest_blanks {blanks : Bytes} (waits : Waits state brackets) (blank : Blank blanks)
    (rest : Bytes) : skipRest state brackets (blanks ++ rest) = skipRest state brackets rest := by
  refine skipRest_stay (fun byte member => ?_) rest
  have isBlank := blank byte member
  cases waits <;> simp [skipStep, beginValue, continueAfter, isBlank]

/-! ## Strings -/

theorem skipRest_piece (piece : Piece) (isKey : Bool) (brackets : List Bracket) (rest : Bytes) :
    skipRest (.string isKey) brackets (piece.bytes ++ rest) =
      skipRest (.string isKey) brackets rest := by
  cases piece with
  | plain byte plain =>
      obtain ⟨noQuote, noEscape, noControl⟩ := isPlain_iff.mp plain
      apply skipRest_go
      simp [skipStep, noQuote, noEscape, noControl]
  | escape letter meant known =>
      have noUnit : letter ≠ code 'u' := by
        rintro rfl
        cases known
      have escaped : skipStep (.escape isKey) brackets letter = .go (.string isKey) brackets := by
        simp [skipStep, noUnit, known]
      exact (skipRest_go rfl _).trans (skipRest_go escaped rest)
  | unit first second third fourth value written =>
      have last : skipStep (.unicode isKey [first, second, third]) brackets fourth =
          .go (.string isKey) brackets := by
        simp [skipStep, written]
      calc skipRest (.string isKey) brackets
            (code '\\' :: code 'u' :: first :: second :: third :: fourth :: rest)
        _ = skipRest (.unicode isKey []) brackets (first :: second :: third :: fourth :: rest) :=
            (skipRest_go rfl _).trans (skipRest_go rfl _)
        _ = skipRest (.unicode isKey [first, second, third]) brackets (fourth :: rest) :=
            (skipRest_go rfl _).trans ((skipRest_go rfl _).trans (skipRest_go rfl _))
        _ = skipRest (.string isKey) brackets rest := skipRest_go last rest

theorem skipRest_spelled (pieces : List Piece) (isKey : Bool) (brackets : List Bracket)
    (rest : Bytes) :
    skipRest (.string isKey) brackets (spelled pieces ++ rest) =
      skipRest (.string isKey) brackets rest := by
  induction pieces with
  | nil => rfl
  | cons piece pieces ih =>
      rw [spelled, List.flatMap_cons, List.append_assoc, skipRest_piece]
      exact ih

/-! ## Numbers -/

/-- Behind the digits of a number that may go on but need not. -/
inductive Completed : SkipState → Prop
  | zero : Completed .zero
  | whole : Completed .whole
  | fraction : Completed .fraction
  | exponent : Completed .exponent

/-- A number ends where something stands that does not continue it. -/
theorem skipRest_completed (completed : Completed state) (delimited : Delimited rest) :
    skipRest state brackets rest = skipRest .after brackets rest := by
  cases rest with
  | nil => cases completed <;> rfl
  | cons byte rest =>
      obtain ⟨noDigit, noPoint, noExponent, noCapital⟩ :=
        continuesNumber_eq_false_iff.mp (delimited byte rfl)
      have same : skipStep state brackets byte = skipStep .after brackets byte := by
        cases completed <;>
          simp [skipStep, continueNumber, noDigit, noPoint, noExponent, noCapital]
      rw [skipRest, skipRest, same]

theorem beginValue_digit {digit : UInt8} (decimal : isDigit digit = true)
    (brackets : List Bracket) :
    beginValue digit brackets = .go (if digit = code '0' then .zero else .whole) brackets := by
  have noQuote : digit ≠ code '"' := ne_of_isDigit decimal rfl
  have noList : digit ≠ code '[' := ne_of_isDigit decimal rfl
  have noObject : digit ≠ code '\x7b' := ne_of_isDigit decimal rfl
  have noSign : digit ≠ code '-' := ne_of_isDigit decimal rfl
  rw [beginValue, isBlank_of_isDigit decimal]
  by_cases zero : digit = code '0'
  · rw [zero]
    rfl
  · simp [noQuote, noList, noObject, noSign, zero, decimal]

/-- The machine is in front of a number or behind its sign. -/
theorem skipRest_whole (numeral : Numeral)
    (begins : ∀ digit, isDigit digit = true → skipStep state brackets digit =
      .go (if digit = code '0' then .zero else .whole) brackets) :
    ∃ next, (next = .zero ∨ next = .whole) ∧ ∀ rest,
      skipRest state brackets (numeral.whole ++ rest) = skipRest next brackets rest := by
  obtain ⟨first, more, digits⟩ := List.exists_cons_of_ne_nil numeral.whole_ne_nil
  have decimal := numeral.whole_decimal
  rw [digits, List.forall_mem_cons] at decimal
  by_cases zero : first = code '0'
  · have alone := numeral.whole_of_zero (by rw [digits, zero]; rfl)
    refine ⟨.zero, .inl rfl, fun rest => ?_⟩
    rw [alone, List.singleton_append, skipRest_go (begins _ (by decide))]
    rfl
  · refine ⟨.whole, .inr rfl, fun rest => ?_⟩
    rw [digits, List.cons_append, skipRest_go (begins first decimal.1), if_neg zero,
      skipRest_stay fun digit member => ?_]
    simp [skipStep, decimal.2 digit member]

theorem skipRest_exponent (exponent : Exponent)
    (begins : state = .zero ∨ state = .whole ∨ state = .fraction) (rest : Bytes) :
    skipRest state brackets (exponent.bytes ++ rest) = skipRest .exponent brackets rest := by
  obtain ⟨first, more, digits⟩ := List.exists_cons_of_ne_nil exponent.digits_ne_nil
  have decimal := exponent.decimal
  rw [digits, List.forall_mem_cons] at decimal
  have letter : skipStep state brackets exponent.letter = .go .exponentSign brackets := by
    rcases exponent.letter_eq with same | same <;> rw [same] <;>
      rcases begins with rfl | rfl | rfl <;> rfl
  have behind : skipRest .exponent brackets (more ++ rest) = skipRest .exponent brackets rest :=
    skipRest_stay (fun digit member => by simp [skipStep, decimal.2 digit member]) rest
  rw [Exponent.bytes, List.cons_append, skipRest_go letter, digits]
  cases sign : exponent.sign with
  | none =>
      have noSign : first ≠ code '+' ∧ first ≠ code '-' :=
        ⟨ne_of_isDigit decimal.1 rfl, ne_of_isDigit decimal.1 rfl⟩
      refine (skipRest_go ?_ _).trans behind
      simp [skipStep, noSign, decimal.1]
  | some byte =>
      have signed : skipStep .exponentSign brackets byte = .go .exponentLeading brackets :=
        if_pos (exponent.sign_eq byte (by rw [sign]; rfl))
      refine (skipRest_go signed _).trans ((skipRest_go ?_ _).trans behind)
      simp [skipStep, decimal.1]

theorem skipRest_fraction (numeral : Numeral) (begins : state = .zero ∨ state = .whole) :
    ∃ next, (next = .zero ∨ next = .whole ∨ next = .fraction) ∧ ∀ rest,
      skipRest state brackets
          ((if numeral.fraction = [] then [] else code '.' :: numeral.fraction) ++ rest) =
        skipRest next brackets rest := by
  have decimal := numeral.fraction_decimal
  cases digits : numeral.fraction with
  | nil => exact ⟨state, begins.imp_right .inl, fun _ => rfl⟩
  | cons first more =>
      rw [digits, List.forall_mem_cons] at decimal
      have pointed : skipStep state brackets (code '.') = .go .pointed brackets := by
        rcases begins with rfl | rfl <;> rfl
      have leading : skipStep .pointed brackets first = .go .fraction brackets :=
        if_pos decimal.1
      refine ⟨.fraction, .inr (.inr rfl), fun rest => ?_⟩
      rw [if_neg (List.cons_ne_nil _ _), List.cons_append, skipRest_go pointed, List.cons_append,
        skipRest_go leading, skipRest_stay fun digit member => ?_]
      exact if_pos (decimal.2 digit member)

/-- What stands behind the whole digits leaves the number complete. -/
theorem skipRest_scale (numeral : Numeral) (begins : state = .zero ∨ state = .whole) :
    ∃ next, Completed next ∧ ∀ rest,
      skipRest state brackets (numeral.scale ++ rest) = skipRest next brackets rest := by
  obtain ⟨next, reached, passed⟩ := @skipRest_fraction state brackets numeral begins
  unfold Numeral.scale
  cases numeral.exponent with
  | none =>
      refine ⟨next, ?_, fun rest => ?_⟩
      · rcases reached with rfl | rfl | rfl <;> constructor
      · rw [List.append_assoc, passed]
        rfl
  | some exponent =>
      refine ⟨.exponent, .exponent, fun rest => ?_⟩
      rw [List.append_assoc, passed]
      exact skipRest_exponent exponent reached rest

theorem skipRest_number (numeral : Numeral) (brackets : List Bracket)
    (delimited : Delimited rest) :
    skipRest .value brackets (numeral.bytes ++ rest) = skipRest .after brackets rest := by
  -- The sign leads to a state in which a digit is read just as in front of the number.
  obtain ⟨state, begins, signed⟩ : ∃ state,
      (∀ digit, isDigit digit = true → skipStep state brackets digit =
        .go (if digit = code '0' then .zero else .whole) brackets) ∧
      ∀ rest, skipRest .value brackets
        ((if numeral.negative then [code '-'] else []) ++ rest) = skipRest state brackets rest := by
    cases numeral.negative with
    | false => exact ⟨.value, fun digit decimal => beginValue_digit decimal brackets, fun _ => rfl⟩
    | true =>
        refine ⟨.leading, fun digit decimal => ?_, fun rest => skipRest_go rfl rest⟩
        by_cases zero : digit = code '0' <;> simp [skipStep, zero, decimal]
  obtain ⟨afterWhole, whole, passedWhole⟩ := skipRest_whole numeral begins
  obtain ⟨afterScale, completed, passedScale⟩ :=
    @skipRest_scale afterWhole brackets numeral whole
  rw [Numeral.bytes, List.append_assoc, signed, List.append_assoc, passedWhole, passedScale,
    skipRest_completed completed delimited]

/-! ## Values -/

/-- Where a value may stand, its first byte decides. -/
theorem skipRest_firstItem {text : Bytes} {tree : Tree} (writes : Writes (.value tree) text)
    (rest : Bytes) :
    skipRest .firstItem brackets (text ++ rest) = skipRest .value brackets (text ++ rest) := by
  obtain ⟨byte, more, rfl, starts⟩ := writes.exists_start
  obtain ⟨solid, noEnd⟩ := ne_of_startsValue starts
  have same : skipStep .firstItem brackets byte = skipStep .value brackets byte := by
    simp [skipStep, solid, noEnd]
  rw [List.cons_append, skipRest, skipRest, same]

/-- Behind a gap the machine is in front of an item. -/
theorem skipRest_gap_item {isFirst : Bool} {gap : Bytes} (separate : Gap isFirst gap)
    {text : Bytes} {tree : Tree} (writes : Writes (.value tree) text) (rest : Bytes) :
    skipRest (if isFirst then .firstItem else .after) (.list :: brackets)
        (gap ++ (text ++ rest)) =
      skipRest .value (.list :: brackets) (text ++ rest) := by
  cases separate with
  | first blank => rw [if_pos rfl, skipRest_blanks .firstItem blank, skipRest_firstItem writes]
  | further blankBefore blankBehind =>
      rw [if_neg Bool.false_ne_true, List.append_assoc, skipRest_blanks .after blankBefore,
        List.cons_append, skipRest_go rfl, skipRest_blanks .value blankBehind]

/-- Behind a gap the machine enters a key, and behind the key and its colon a value. -/
theorem skipRest_gap_member {isFirst : Bool} {gap before behind : Bytes}
    (separate : Gap isFirst gap) (key : List Piece) (blankBefore : Blank before)
    (blankBehind : Blank behind) (rest : Bytes) :
    skipRest (if isFirst then .firstKey else .after) (.object :: brackets)
        (gap ++ code '"' :: (spelled key ++ code '"' ::
          (before ++ code ':' :: (behind ++ rest)))) =
      skipRest .value (.object :: brackets) rest := by
  have entered : skipRest (if isFirst then .firstKey else .after) (.object :: brackets)
        (gap ++ code '"' :: (spelled key ++ code '"' ::
          (before ++ code ':' :: (behind ++ rest)))) =
      skipRest (.string true) (.object :: brackets) (spelled key ++ code '"' ::
          (before ++ code ':' :: (behind ++ rest))) := by
    cases separate with
    | first blank => rw [if_pos rfl, skipRest_blanks .firstKey blank, skipRest_go rfl]
    | further blankBefore blankBehind =>
        rw [if_neg Bool.false_ne_true, List.append_assoc, skipRest_blanks .after blankBefore,
          List.cons_append, skipRest_go rfl, skipRest_blanks .key blankBehind, skipRest_go rfl]
  rw [entered, skipRest_spelled, skipRest_go rfl, skipRest_blanks .colon blankBefore,
    skipRest_go rfl, skipRest_blanks .value blankBehind]

/-- What passing over a part means: the machine goes from the front of the part to the state behind
the value that the part ends. -/
def Skips : Part → Bytes → Prop
  | .value _, written => ∀ brackets rest, Delimited rest →
      skipRest .value brackets (written ++ rest) = skipRest .after brackets rest
  | .items isFirst _, written => ∀ brackets rest,
      skipRest (if isFirst then .firstItem else .after) (.list :: brackets) (written ++ rest) =
        skipRest .after brackets rest
  | .members isFirst _, written => ∀ brackets rest,
      skipRest (if isFirst then .firstKey else .after) (.object :: brackets) (written ++ rest) =
        skipRest .after brackets rest

/-- Every part is passed over.  The induction is on how the text is made up, so values within values
are passed over in turn. -/
theorem Writes.skips {part : Part} {text : Bytes} (writes : Writes part text) :
    Skips part text := by
  induction writes with
  | null => exact fun _ rest _ => (skipRest_go rfl _).trans ((skipRest_go rfl _).trans
      ((skipRest_go rfl _).trans (skipRest_end rfl rest)))
  | yes => exact fun _ rest _ => (skipRest_go rfl _).trans ((skipRest_go rfl _).trans
      ((skipRest_go rfl _).trans (skipRest_end rfl rest)))
  | no => exact fun _ rest _ => (skipRest_go rfl _).trans ((skipRest_go rfl _).trans
      ((skipRest_go rfl _).trans ((skipRest_go rfl _).trans (skipRest_end rfl rest))))
  | number numeral => exact fun brackets _ delimited => skipRest_number numeral brackets delimited
  | string content =>
      intro brackets rest _
      rw [List.cons_append, skipRest_go rfl, List.append_assoc, skipRest_spelled]
      exact skipRest_end rfl rest
  | list inner ih =>
      intro brackets rest _
      exact (skipRest_go rfl _).trans (ih brackets rest)
  | object inner ih =>
      intro brackets rest _
      exact (skipRest_go rfl _).trans (ih brackets rest)
  | @noItem isFirst blanks blank =>
      intro brackets rest
      rw [List.append_assoc]
      cases isFirst with
      | true => exact (skipRest_blanks .firstItem blank _).trans (skipRest_end rfl rest)
      | false => exact (skipRest_blanks .after blank _).trans (skipRest_end rfl rest)
  | item separate value further valueSkips furtherSkips =>
      intro brackets rest
      rw [List.append_assoc, List.append_assoc, skipRest_gap_item separate value,
        valueSkips _ _ (further.delimited_items rest)]
      exact furtherSkips brackets rest
  | @noMember isFirst blanks blank =>
      intro brackets rest
      rw [List.append_assoc]
      cases isFirst with
      | true => exact (skipRest_blanks .firstKey blank _).trans (skipRest_end rfl rest)
      | false => exact (skipRest_blanks .after blank _).trans (skipRest_end rfl rest)
  | @member isFirst key _ _ _ _ _ _ _ separate blankBefore blankBehind value further valueSkips
      furtherSkips =>
      intro brackets rest
      rw [append_member, skipRest_gap_member separate key blankBefore blankBehind,
        valueSkips _ _ (further.delimited_members rest)]
      exact furtherSkips brackets rest

/-- A value is passed over wherever it stands, up to its last byte. -/
theorem skipValue_of_writes {tree : Tree} {text blanks : Bytes}
    (writes : Writes (.value tree) text) (blank : Blank blanks) (delimited : Delimited rest) :
    skipValue (blanks ++ (text ++ rest)) = .ok rest := by
  rw [skipValue, skipRest_blanks .value blank, writes.skips [] rest delimited, skipRest_done]

end HitMonitor.Json
