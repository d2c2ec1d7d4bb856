import HitMonitor.Proofs.Json.Record
import HitMonitor.Proofs.Json.Skipping

/-!
# What values mean to their readers

A reader gives a tree a meaning if it reads every text of the tree as that meaning and refuses the
texts of a tree without one.  Nothing is said about the reason of a refusal.
-/

namespace HitMonitor.Json

/-! ## Strings -/

/-- The bytes that pieces stand for, behind a leading surrogate if there is one.  A surrogate without
its partner stands for nothing. -/
def decodeFrom? : (lead : Option Nat) → List Piece → Option Bytes
  | none, [] => some []
  | none, .plain byte _ :: pieces => (decodeFrom? none pieces).map (byte :: ·)
  | none, .escape _ meant _ :: pieces => (decodeFrom? none pieces).map (meant :: ·)
  | some _, [] => none
  | some _, .plain _ _ :: _ => none
  | some _, .escape _ _ _ :: _ => none
  | lead, .unit _ _ _ _ value _ :: pieces =>
      match unitEscape lead value with
      | .error _ => none
      | .ok (.inl bytes) => (decodeFrom? none pieces).map (bytes ++ ·)
      | .ok (.inr lead) => decodeFrom? (some lead) pieces

/-- The text that pieces stand for. -/
def content? (pieces : List Piece) : Option String :=
  (decodeFrom? none pieces).bind fun bytes => String.fromUTF8? ⟨bytes.toArray⟩

/-- Where the reader of a string stands in front of a piece. -/
def pieceState : (lead : Option Nat) → StringState
  | none => .plain
  | some unit => .lead unit

theorem spelled_cons_append (piece : Piece) (pieces : List Piece) (rest : Bytes) :
    spelled (piece :: pieces) ++ rest = piece.bytes ++ (spelled pieces ++ rest) := by
  rw [spelled, List.flatMap_cons, List.append_assoc]
  rfl

/-- A code unit is read to its last digit before it is asked what it stands for. -/
theorem readStringBytes_unit (lead : Option Nat) (taken rest : Bytes)
    {first second third fourth : UInt8} {value : Nat}
    (written : hexNumber? [first, second, third, fourth] = some value) :
    readStringBytes (pieceState lead) taken
        (code '\\' :: code 'u' :: first :: second :: third :: fourth :: rest) =
      match unitEscape lead value with
      | .error error => .error error
      | .ok (.inl bytes) => readStringBytes .plain (bytes.reverse ++ taken) rest
      | .ok (.inr lead) => readStringBytes (.lead lead) taken rest := by
  have opened : readStringBytes (pieceState lead) taken
        (code '\\' :: code 'u' :: first :: second :: third :: fourth :: rest) =
      readStringBytes (.unicode lead []) taken (first :: second :: third :: fourth :: rest) := by
    cases lead <;> rfl
  rw [opened]
  rcases meant : unitEscape lead value with error | bytes | next <;>
    simp only [readStringBytes, List.nil_append, List.cons_append, List.length_cons,
      List.length_nil, Nat.reduceAdd, Nat.reduceLT, Nat.lt_irrefl, if_true, if_false, written, meant]

theorem readStringBytes_spelled (pieces : List Piece) (lead : Option Nat) (taken rest : Bytes) :
    (readStringBytes (pieceState lead) taken (spelled pieces ++ code '"' :: rest)).toOption =
      (decodeFrom? lead pieces).map fun bytes => (taken.reverse ++ bytes, rest) := by
  induction pieces generalizing lead taken with
  | nil =>
      cases lead with
      | none => simp [spelled, pieceState, readStringBytes, decodeFrom?, Except.toOption]
      | some unit => rfl
  | cons piece pieces ih =>
      rw [spelled_cons_append]
      cases piece with
      | plain byte plain =>
          obtain ⟨noQuote, noEscape, noControl⟩ := isPlain_iff.mp plain
          cases lead with
          | none =>
              have further := ih none (byte :: taken)
              simp only [pieceState] at further
              simp [Piece.bytes, pieceState, readStringBytes, noQuote, noEscape, noControl,
                decodeFrom?, further, Function.comp_def]
          | some unit =>
              simp [Piece.bytes, pieceState, readStringBytes, noEscape, decodeFrom?,
                Except.toOption]
      | escape letter meant known =>
          have noUnit : letter ≠ code 'u' := by
            rintro rfl
            cases known
          cases lead with
          | none =>
              have further := ih none (meant :: taken)
              simp only [pieceState] at further
              have escaped : readStringBytes .plain taken
                    (code '\\' :: letter :: (spelled pieces ++ code '"' :: rest)) =
                  readStringBytes .escape taken (letter :: (spelled pieces ++ code '"' :: rest)) :=
                rfl
              simp [Piece.bytes, pieceState, escaped, readStringBytes, noUnit, known, decodeFrom?,
                further, Function.comp_def]
          | some unit =>
              have escaped : readStringBytes (.lead unit) taken
                    (code '\\' :: letter :: (spelled pieces ++ code '"' :: rest)) =
                  readStringBytes (.leadEscape unit) taken
                    (letter :: (spelled pieces ++ code '"' :: rest)) := rfl
              simp [Piece.bytes, pieceState, escaped, readStringBytes, noUnit, decodeFrom?,
                Except.toOption]
      | unit first second third fourth value written =>
          have unit := readStringBytes_unit lead taken (spelled pieces ++ code '"' :: rest) written
          simp only [Piece.bytes, List.cons_append, List.nil_append, unit, decodeFrom?]
          rcases unitEscape lead value with error | bytes | next
          · rfl
          · have further := ih none (bytes.reverse ++ taken)
            simp only [pieceState] at further
            simp [further, Function.comp_def]
          · exact ih (some next) taken

theorem readString_spelled (pieces : List Piece) (rest : Bytes) :
    (readString (spelled pieces ++ code '"' :: rest)).toOption =
      (content? pieces).map (·, rest) := by
  have bytes := readStringBytes_spelled pieces none [] rest
  simp only [pieceState, List.reverse_nil, List.nil_append] at bytes
  rw [readString, toOption_bind, bytes, content?]
  cases decodeFrom? none pieces with
  | none => rfl
  | some bytes =>
      simp only [Option.map_some, Option.bind_some]
      cases String.fromUTF8? ⟨bytes.toArray⟩ <;> rfl

/-- The pieces of a text that needs no escapes. -/
def Plain.pieces {text : String} (plain : Plain text) : List Piece :=
  (encode text.toList).pmap .plain plain

theorem decodeFrom?_plain {content : Bytes} (plain : ∀ byte ∈ content, isPlain byte = true) :
    decodeFrom? none (content.pmap .plain plain) = some content := by
  induction content with
  | nil => rfl
  | cons byte content ih =>
      rw [List.pmap, decodeFrom?, ih (List.forall_mem_cons.mp plain).2]
      rfl

@[simp] theorem Plain.content?_pieces {text : String} (plain : Plain text) :
    content? plain.pieces = some text := by
  have bytes : decodeFrom? none plain.pieces = some (encode text.toList) := decodeFrom?_plain plain
  rw [content?, bytes, Option.bind_some, fromUTF8?_encode]

/-! ## Numbers -/

/-- The number that decimal digits write behind others. -/
def decimalValue (start : Nat) (digits : Bytes) : Nat :=
  digits.foldl (fun number digit => 10 * number + digitValue digit) start

theorem le_decimalValue (start : Nat) (digits : Bytes) : start ≤ decimalValue start digits := by
  induction digits generalizing start with
  | nil => exact Nat.le_refl start
  | cons digit digits ih =>
      have further := ih (10 * start + digitValue digit)
      rw [decimalValue, List.foldl_cons, ← decimalValue]
      omega

/-- A significand takes all digits of a number that fits a word. -/
theorem extendSignificand_of_le {digits : Bytes} {start : Nat}
    (fits : decimalValue start digits ≤ word64Max) :
    extendSignificand start digits = (decimalValue start digits, digits.length) := by
  induction digits generalizing start with
  | nil => rfl
  | cons digit digits ih =>
      have inside := Nat.le_trans (le_decimalValue (10 * start + digitValue digit) digits) fits
      rw [extendSignificand, if_neg (Nat.not_lt_of_le inside), ih fits]
      rfl

/-- It leaves some of a longer number. -/
theorem extendSignificand_of_lt {digits : Bytes} {start : Nat} (word : start ≤ word64Max)
    (long : word64Max < decimalValue start digits) :
    (extendSignificand start digits).2 < digits.length := by
  induction digits generalizing start with
  | nil => exact absurd long (Nat.not_lt_of_le word)
  | cons digit digits ih =>
      rw [extendSignificand]
      split
      next => exact Nat.succ_pos _
      next inside => exact Nat.succ_lt_succ (ih (Nat.le_of_not_lt inside) long)

namespace Numeral

/-- The number that the whole digits write. -/
def wholeValue (numeral : Numeral) : Nat := decimalValue 0 numeral.whole

/-- A number without a sign, a point and an exponent. -/
def natural? (numeral : Numeral) : Option Nat :=
  if numeral.negative = false ∧ numeral.scale = [] then some numeral.wholeValue else none

/-- A number with a sign, a fraction or an exponent, or above a limit, is none up to the limit. -/
theorem natural?_filter_eq_none {numeral : Numeral} {limit : Nat}
    (refused : numeral.negative = true ∨ numeral.scale ≠ [] ∨ limit < numeral.wholeValue) :
    numeral.natural?.filter (· ≤ limit) = none := by
  rw [Option.filter_eq_none_iff]
  intro value number inside
  simp only [natural?, Option.ite_none_right_eq_some, Option.some.injEq] at number
  obtain ⟨⟨positive, plain⟩, rfl⟩ := number
  rcases refused with negative | scaled | large
  · exact Bool.false_ne_true (positive.symm.trans negative)
  · exact scaled plain
  · exact Nat.not_le_of_lt large (of_decide_eq_true inside)

/-- What scales a number begins with a point or with the letter of an exponent. -/
theorem scale_head (numeral : Numeral) : ∀ byte ∈ numeral.scale.head?,
    byte = code '.' ∨ byte = code 'e' ∨ byte = code 'E' := by
  intro byte head
  unfold scale at head
  cases digits : numeral.fraction with
  | cons first more =>
      rw [digits, if_neg (List.cons_ne_nil _ _)] at head
      cases head
      exact .inl rfl
  | nil =>
      rw [digits, if_pos rfl] at head
      cases scaled : numeral.exponent with
      | none =>
          rw [scaled] at head
          cases head
      | some exponent =>
          rw [scaled] at head
          cases head
          exact .inr exponent.letter_eq

/-- The digits of a number end with its whole digits. -/
theorem digits_whole (numeral : Numeral) {rest : Bytes} (delimited : Delimited rest) :
    (numeral.whole ++ (numeral.scale ++ rest)).takeWhile isDigit = numeral.whole ∧
      (numeral.whole ++ (numeral.scale ++ rest)).dropWhile isDigit = numeral.scale ++ rest := by
  apply digits_of_ended numeral.whole_decimal
  intro byte head
  cases scale : numeral.scale with
  | nil =>
      rw [scale] at head
      exact (continuesNumber_eq_false_iff.mp (delimited byte head)).1
  | cons first more =>
      rw [scale] at head
      cases head
      rcases numeral.scale_head byte (by rw [scale]; rfl) with rfl | rfl | rfl <;> rfl

end Numeral

/-- A number is read as an integer if it is written as one that fits a word, and as a float or not at
all otherwise. -/
theorem readNumber_numeral (numeral : Numeral) {rest : Bytes} (delimited : Delimited rest) :
    (numeral.scale = [] ∧ numeral.wholeValue ≤ word64Max ∧
      readNumber numeral.negative (numeral.whole ++ (numeral.scale ++ rest)) =
        .ok (integerNumber numeral.negative numeral.wholeValue, rest)) ∨
    ((numeral.scale ≠ [] ∨ word64Max < numeral.wholeValue) ∧
      ∃ reading : Except JsonError (Float × Bytes),
        readNumber numeral.negative (numeral.whole ++ (numeral.scale ++ rest)) =
          reading.map fun (value, rest) => (.float value, rest)) := by
  obtain ⟨front, behind⟩ := numeral.digits_whole delimited
  obtain ⟨first, more, digits⟩ := List.exists_cons_of_ne_nil numeral.whole_ne_nil
  have leading : ¬ (first = code '0' ∧ more ≠ []) := by
    rintro ⟨rfl, several⟩
    have alone := numeral.whole_of_zero (by rw [digits]; rfl)
    rw [digits] at alone
    exact several (List.cons.inj alone).2
  rw [readNumber, front, behind]
  simp only [digits, if_neg leading]
  cases scale : numeral.scale with
  | cons byte more =>
      refine .inr ⟨.inl (List.cons_ne_nil _ _), ?_⟩
      rw [List.cons_append]
      rcases numeral.scale_head byte (by rw [scale]; rfl) with rfl | rfl | rfl
      · exact ⟨_, rfl⟩
      · exact ⟨_, rfl⟩
      · exact ⟨_, rfl⟩
  | nil =>
      rw [List.nil_append]
      by_cases fits : numeral.wholeValue ≤ word64Max
      · have significand := extendSignificand_of_le fits
        rw [digits, List.length_cons] at significand
        have value : numeral.wholeValue = decimalValue 0 (first :: more) := by
          rw [Numeral.wholeValue, digits]
        refine .inl ⟨rfl, fits, ?_⟩
        simp only [significand, Nat.sub_self, value]
        cases rest with
        | nil => rfl
        | cons byte rest =>
            obtain ⟨-, noPoint, noExponent, noCapital⟩ :=
              continuesNumber_eq_false_iff.mp (delimited byte rfl)
            simp [noPoint, noExponent, noCapital]
      · have left := extendSignificand_of_lt (Nat.zero_le _) (Nat.lt_of_not_le fits)
        rw [digits, List.length_cons] at left
        have passed : more.length + 1 - (extendSignificand 0 (first :: more)).2 ≠ 0 := by omega
        refine .inr ⟨.inr (Nat.lt_of_not_le fits), ?_⟩
        cases rest with
        | nil => exact ⟨_, if_pos passed⟩
        | cons byte rest =>
            have noPoint := (continuesNumber_eq_false_iff.mp (delimited byte rfl)).2.1
            exact ⟨_, (if_neg noPoint).trans (if_pos (.inr (.inr passed)))⟩

/-! ## Readers -/

variable {Value Result : Type}

/-- A reader gives trees a meaning, wherever a text of theirs stands. -/
def Means (read : Bytes → Except JsonError (Value × Bytes)) (meaning : Tree → Option Value) :
    Prop :=
  ∀ ⦃tree text⦄, Writes (.value tree) text → ∀ ⦃blanks rest⦄, Blank blanks → Delimited rest →
    (read (blanks ++ (text ++ rest))).toOption = (meaning tree).map (·, rest)

/-- What is done with a value that has been read. -/
theorem Means.map {read : Bytes → Except JsonError (Value × Bytes)} {meaning : Tree → Option Value}
    (means : Means read meaning) (change : Value → Result) :
    Means (fun input => (read input).map fun (value, rest) => (change value, rest))
      (fun tree => (meaning tree).map change) := by
  intro tree text writes blanks rest blank delimited
  rw [toOption_map, means writes blank delimited, Option.map_map, Option.map_map]
  rfl

theorem toOption_refuseType (expected : String) (input : Bytes) :
    (refuseType expected input : Except JsonError (Value × Bytes)).toOption = none := by
  cases found : (refuseType expected input : Except JsonError (Value × Bytes)) with
  | error => rfl
  | ok value => exact (refuseType_ne_ok found).elim

namespace Tree

/-- An integer literal from zero to a limit. -/
def natural? (limit : Nat) : Tree → Option Nat
  | .number numeral => numeral.natural?.filter (· ≤ limit)
  | _ => none

/-- A value that may be `null`. -/
def optional? (meaning : Tree → Option Value) : Tree → Option (Option Value)
  | .null => some none
  | tree => (meaning tree).map some

end Tree

/-- An integer literal with a minus sign or with a value above a limit. -/
def Numeral.Outside (numeral : Numeral) (limit : Nat) : Prop :=
  numeral.scale = [] ∧ (numeral.negative = true ∨ limit < numeral.wholeValue)

theorem natural?_of_outside {numeral : Numeral} {limit : Nat} (outside : numeral.Outside limit) :
    (Tree.number numeral).natural? limit = none :=
  Numeral.natural?_filter_eq_none (outside.2.imp_right .inr)

theorem readUnsigned_blanks {limit : Nat} {name : String} {blanks : Bytes} (blank : Blank blanks)
    (input : Bytes) :
    readUnsigned limit name (blanks ++ input) = readUnsigned limit name input := by
  rw [readUnsigned, skipBlanks_append blank]
  rfl

/-- A number with a sign is no unsigned integer, whether it is read as an integer or as a float. -/
theorem readUnsigned_negative (limit : Nat) (name : String) {numeral : Numeral}
    (sign : numeral.negative = true) {rest : Bytes} (delimited : Delimited rest) :
    (readUnsigned limit name (numeral.bytes ++ rest)).toOption = none := by
  have read := readNumber_numeral numeral delimited
  have bytes : numeral.bytes ++ rest =
      code '-' :: (numeral.whole ++ (numeral.scale ++ rest)) := by
    simp [Numeral.bytes, sign]
  rw [sign] at read
  rw [bytes, readUnsigned, skipBlanks_cons (by rfl)]
  simp only [true_or, if_true, decide_true]
  rcases read with ⟨-, -, read⟩ | ⟨-, reading, read⟩
  · simp only [read, integerNumber, not_true_eq_false, if_false]
    by_cases float : numeral.wholeValue = 0 ∨ Nat.pow 2 63 < numeral.wholeValue
    · rw [if_pos float]
      rfl
    · rw [if_neg float]
      rfl
  · simp only [read]
    cases reading <;> rfl

/-- A number without a sign is one if it is read as an integer that does not exceed the limit. -/
theorem readUnsigned_whole {limit : Nat} (word : limit ≤ word64Max) (name : String)
    {numeral : Numeral} (sign : numeral.negative = false) {rest : Bytes}
    (delimited : Delimited rest) :
    (readUnsigned limit name (numeral.bytes ++ rest)).toOption =
      (numeral.natural?.filter (· ≤ limit)).map (·, rest) := by
  have read := readNumber_numeral numeral delimited
  obtain ⟨first, more, digits⟩ := List.exists_cons_of_ne_nil numeral.whole_ne_nil
  have digit : isDigit first = true := numeral.whole_decimal first (by simp [digits])
  have noSign : first ≠ code '-' := ne_of_isDigit digit rfl
  have bytes : numeral.bytes ++ rest = first :: (more ++ (numeral.scale ++ rest)) := by
    simp [Numeral.bytes, sign, digits]
  rw [sign, digits, List.cons_append] at read
  rw [bytes, readUnsigned, skipBlanks_cons (isBlank_of_isDigit digit)]
  simp only [digit, or_true, if_true, noSign, decide_false, if_false]
  rcases read with ⟨plain, fits, read⟩ | ⟨noInteger, reading, read⟩
  · have number : numeral.natural? = some numeral.wholeValue := if_pos ⟨sign, plain⟩
    rw [read, number]
    simp only [integerNumber, Bool.false_eq_true, not_false_eq_true, if_true]
    by_cases inside : numeral.wholeValue ≤ limit <;>
      simp [inside, Except.toOption, Option.filter]
  · rw [read, Numeral.natural?_filter_eq_none
      (.inr (noInteger.imp_right fun long => Nat.lt_of_le_of_lt word long))]
    cases reading <;> rfl

/-- An unsigned integer is read exactly if it is written as a literal without sign, point and
exponent and does not exceed the limit, however many digits it has. -/
theorem means_unsigned {limit : Nat} (word : limit ≤ word64Max) (name : String) :
    Means (readUnsigned limit name) (Tree.natural? limit) := by
  have refuses {byte : UInt8} (solid : isBlank byte = false)
      (noNumber : ¬ (byte = code '-' ∨ isDigit byte = true)) (rest : Bytes) :
      (readUnsigned limit name (byte :: rest)).toOption = none := by
    rw [readUnsigned, skipBlanks_cons solid]
    simp only [if_neg noNumber, toOption_refuseType]
  intro tree text writes blanks rest blank delimited
  rw [readUnsigned_blanks blank]
  cases writes with
  | null => exact refuses rfl (by decide) _
  | yes => exact refuses rfl (by decide) _
  | no => exact refuses rfl (by decide) _
  | string => exact refuses rfl (by decide) _
  | list => exact refuses rfl (by decide) _
  | object => exact refuses rfl (by decide) _
  | number numeral =>
      cases sign : numeral.negative with
      | true =>
          rw [readUnsigned_negative limit name sign delimited, Tree.natural?,
            Numeral.natural?_filter_eq_none (.inl sign)]
          rfl
      | false => exact readUnsigned_whole word name sign delimited

theorem Tree.optional?_of_ne (meaning : Tree → Option Value) {tree : Tree} (other : tree ≠ .null) :
    tree.optional? meaning = (meaning tree).map some := by
  cases tree with
  | null => exact (other rfl).elim
  | _ => rfl

/-- Only `null` begins with its first letter. -/
theorem Writes.start_ne {tree : Tree} {text : Bytes} (writes : Writes (.value tree) text)
    (other : tree ≠ .null) :
    ∃ byte more, text = byte :: more ∧ isBlank byte = false ∧ byte ≠ code 'n' := by
  cases writes with
  | null => exact (other rfl).elim
  | yes => exact ⟨_, _, rfl, rfl, by decide⟩
  | no => exact ⟨_, _, rfl, rfl, by decide⟩
  | number numeral =>
      obtain ⟨byte, more, bytes, sign | digit⟩ := numeral.exists_start
      · exact ⟨byte, more, bytes, by rw [sign]; rfl, by rw [sign]; decide⟩
      · exact ⟨byte, more, bytes, isBlank_of_isDigit digit, ne_of_isDigit digit rfl⟩
  | string => exact ⟨_, _, rfl, rfl, by decide⟩
  | list => exact ⟨_, _, rfl, rfl, by decide⟩
  | object => exact ⟨_, _, rfl, rfl, by decide⟩

theorem means_optional {read : Bytes → Except JsonError (Value × Bytes)}
    {meaning : Tree → Option Value} (means : Means read meaning) :
    Means (readOptional read) (Tree.optional? meaning) := by
  intro tree text writes blanks rest blank delimited
  have found := means writes blank_nil delimited
  rw [readOptional, writes.skipBlanks_eq blank]
  by_cases null : tree = .null
  · subst null
    cases writes
    rfl
  · obtain ⟨byte, more, rfl, solid, notNull⟩ := writes.start_ne null
    rw [List.nil_append, List.cons_append] at found
    simp only [List.cons_append, if_neg notNull, toOption_map, found,
      Tree.optional?_of_ne meaning null, Option.map_map]
    rfl

end HitMonitor.Json
