import HitMonitor.Proofs.Json.RoundTrip

/-!
# Texts of values

Which texts a document can hold for a value.  A tree keeps what a text says: the digits of a number,
the pieces of a string with their escapes, the items of a list and the members of an object in their
order.  The blanks around them are not kept, so a value has many texts.
-/

namespace HitMonitor.Json

/-! ## Strings -/

/-- A piece of a string between its quotes. -/
inductive Piece where
  /-- A byte that stands for itself. -/
  | plain (byte : UInt8) (isPlain : isPlain byte = true)
  /-- A letter behind a backslash. -/
  | escape (letter meant : UInt8) (known : simpleEscape? letter = some meant)
  /-- A code unit in hexadecimal digits. -/
  | unit (first second third fourth : UInt8) (value : Nat)
    (written : hexNumber? [first, second, third, fourth] = some value)

def Piece.bytes : Piece → Bytes
  | .plain byte _ => [byte]
  | .escape letter _ _ => [code '\\', letter]
  | .unit first second third fourth _ _ =>
      [code '\\', code 'u', first, second, third, fourth]

/-- The bytes between the quotes. -/
def spelled (pieces : List Piece) : Bytes := pieces.flatMap Piece.bytes

/-! ## Numbers -/

/-- An exponent, with the letter that stands before it. -/
structure Exponent where
  letter : UInt8
  sign : Option UInt8
  digits : Bytes
  letter_eq : letter = code 'e' ∨ letter = code 'E'
  sign_eq : ∀ byte ∈ sign, byte = code '+' ∨ byte = code '-'
  digits_ne_nil : digits ≠ []
  decimal : ∀ digit ∈ digits, isDigit digit = true

def Exponent.bytes (exponent : Exponent) : Bytes :=
  exponent.letter :: (exponent.sign.toList ++ exponent.digits)

/-- A number as it is written.  Digits stand behind a point or there is none. -/
structure Numeral where
  negative : Bool
  whole : Bytes
  fraction : Bytes
  exponent : Option Exponent
  whole_ne_nil : whole ≠ []
  whole_decimal : ∀ digit ∈ whole, isDigit digit = true
  /-- No digit stands behind a leading zero. -/
  whole_of_zero : whole.head? = some (code '0') → whole = [code '0']
  fraction_decimal : ∀ digit ∈ fraction, isDigit digit = true

namespace Numeral

/-- The bytes behind the whole digits. -/
def scale (numeral : Numeral) : Bytes :=
  (if numeral.fraction = [] then [] else code '.' :: numeral.fraction) ++
    (numeral.exponent.map Exponent.bytes).getD []

def bytes (numeral : Numeral) : Bytes :=
  (if numeral.negative then [code '-'] else []) ++ (numeral.whole ++ numeral.scale)

/-- A number that has neither a fraction nor an exponent. -/
def integer (negative : Bool) (digits : Bytes) (notEmpty : digits ≠ [])
    (decimal : digits.all isDigit = true)
    (ofZero : digits.head? = some (code '0') → digits = [code '0']) : Numeral where
  negative := negative
  whole := digits
  fraction := []
  exponent := none
  whole_ne_nil := notEmpty
  whole_decimal := List.all_eq_true.mp decimal
  whole_of_zero := ofZero
  fraction_decimal := fun _ impossible => nomatch impossible

end Numeral

/-! ## Values -/

/-- What a text of a value says. -/
inductive Tree where
  | null
  | boolean (value : Bool)
  | number (numeral : Numeral)
  | string (content : List Piece)
  | list (items : List Tree)
  | object (members : List (List Piece × Tree))

/-- What stands in front of an item or a member: blanks, and a comma unless it is the first. -/
inductive Gap : (isFirst : Bool) → Bytes → Prop
  | first {blanks : Bytes} (blank : Blank blanks) : Gap true blanks
  | further {before behind : Bytes} (blankBefore : Blank before) (blankBehind : Blank behind) :
      Gap false (before ++ code ',' :: behind)

/-- A part of a document: a value, or the items or members up to the closing bracket. -/
inductive Part where
  | value (tree : Tree)
  | items (isFirst : Bool) (items : List Tree)
  | members (isFirst : Bool) (members : List (List Piece × Tree))

/-- The texts of a part. -/
inductive Writes : Part → Bytes → Prop
  | null : Writes (.value .null) [code 'n', code 'u', code 'l', code 'l']
  | yes : Writes (.value (.boolean true)) [code 't', code 'r', code 'u', code 'e']
  | no : Writes (.value (.boolean false)) [code 'f', code 'a', code 'l', code 's', code 'e']
  | number (numeral : Numeral) : Writes (.value (.number numeral)) numeral.bytes
  | string (content : List Piece) :
      Writes (.value (.string content)) (code '"' :: (spelled content ++ [code '"']))
  | list {items : List Tree} {text : Bytes} (inner : Writes (.items true items) text) :
      Writes (.value (.list items)) (code '[' :: text)
  | object {members : List (List Piece × Tree)} {text : Bytes}
      (inner : Writes (.members true members) text) :
      Writes (.value (.object members)) (code '\x7b' :: text)
  | noItem {isFirst : Bool} {blanks : Bytes} (blank : Blank blanks) :
      Writes (.items isFirst []) (blanks ++ [code ']'])
  | item {isFirst : Bool} {tree : Tree} {items : List Tree} {gap text further : Bytes}
      (separate : Gap isFirst gap) (value : Writes (.value tree) text)
      (rest : Writes (.items false items) further) :
      Writes (.items isFirst (tree :: items)) (gap ++ (text ++ further))
  | noMember {isFirst : Bool} {blanks : Bytes} (blank : Blank blanks) :
      Writes (.members isFirst []) (blanks ++ [code '\x7d'])
  | member {isFirst : Bool} {key : List Piece} {tree : Tree} {members : List (List Piece × Tree)}
      {gap before behind text further : Bytes} (separate : Gap isFirst gap)
      (blankBefore : Blank before) (blankBehind : Blank behind)
      (value : Writes (.value tree) text) (rest : Writes (.members false members) further) :
      Writes (.members isFirst ((key, tree) :: members))
        (gap ++ code '"' :: (spelled key ++ code '"' ::
          (before ++ code ':' :: (behind ++ (text ++ further)))))

/-- What stands behind a member stands behind the members that follow it. -/
theorem append_member (key : List Piece) (gap before behind text further rest : Bytes) :
    (gap ++ code '"' :: (spelled key ++ code '"' ::
        (before ++ code ':' :: (behind ++ (text ++ further))))) ++ rest =
      gap ++ code '"' :: (spelled key ++ code '"' ::
        (before ++ code ':' :: (behind ++ (text ++ (further ++ rest))))) := by
  simp only [List.append_assoc, List.cons_append]

/-- A document writes a value with blanks around it. -/
def Documents (tree : Tree) (document : Bytes) : Prop :=
  ∃ before text behind, Blank before ∧ Blank behind ∧ Writes (.value tree) text ∧
    document = before ++ (text ++ behind)

/-! ## First bytes -/

/-- A byte that can begin a value. -/
def startsValue (byte : UInt8) : Bool :=
  isDigit byte || ['"', '[', '\x7b', '-', 'n', 't', 'f'].any fun start => byte == code start

theorem Numeral.exists_start (numeral : Numeral) :
    ∃ byte more, numeral.bytes = byte :: more ∧ (byte = code '-' ∨ isDigit byte = true) := by
  obtain ⟨first, more, digits⟩ := List.exists_cons_of_ne_nil numeral.whole_ne_nil
  have decimal : isDigit first = true := numeral.whole_decimal first (by simp [digits])
  cases sign : numeral.negative with
  | false => exact ⟨first, more ++ numeral.scale, by simp [bytes, sign, digits], .inr decimal⟩
  | true => exact ⟨code '-', numeral.whole ++ numeral.scale, by simp [bytes, sign], .inl rfl⟩

theorem Writes.exists_start {tree : Tree} {text : Bytes} (writes : Writes (.value tree) text) :
    ∃ byte more, text = byte :: more ∧ startsValue byte = true := by
  cases writes with
  | null => exact ⟨_, _, rfl, rfl⟩
  | yes => exact ⟨_, _, rfl, rfl⟩
  | no => exact ⟨_, _, rfl, rfl⟩
  | number numeral =>
      obtain ⟨byte, more, bytes, sign | digit⟩ := numeral.exists_start
      · exact ⟨byte, more, bytes, by rw [sign]; rfl⟩
      · exact ⟨byte, more, bytes, by rw [startsValue, digit, Bool.true_or]⟩
  | string => exact ⟨_, _, rfl, rfl⟩
  | list => exact ⟨_, _, rfl, rfl⟩
  | object => exact ⟨_, _, rfl, rfl⟩

/-- A byte that begins a value is neither a blank nor a closing bracket. -/
theorem ne_of_startsValue {byte : UInt8} (starts : startsValue byte = true) :
    isBlank byte = false ∧ byte ≠ code ']' := by
  rw [startsValue, Bool.or_eq_true, List.any_eq_true] at starts
  rcases starts with digit | ⟨start, member, same⟩
  · exact ⟨isBlank_of_isDigit digit, ne_of_isDigit digit rfl⟩
  · rw [beq_iff_eq] at same
    subst same
    simp only [List.mem_cons, List.not_mem_nil, or_false] at member
    rcases member with rfl | rfl | rfl | rfl | rfl | rfl | rfl <;> decide

/-- Blanks in front of a value are passed over, and the value is left whole. -/
theorem Writes.skipBlanks_eq {tree : Tree} {text blanks : Bytes}
    (writes : Writes (.value tree) text) (blank : Blank blanks) (rest : Bytes) :
    skipBlanks (blanks ++ (text ++ rest)) = text ++ rest := by
  obtain ⟨byte, more, rfl, starts⟩ := writes.exists_start
  rw [skipBlanks_append blank, List.cons_append, skipBlanks_cons (ne_of_startsValue starts).1]

/-! ## What ends a number -/

theorem delimited_of_blank {blanks : Bytes} (blank : Blank blanks) {rest : Bytes}
    (delimited : Delimited rest) : Delimited (blanks ++ rest) := by
  cases blanks with
  | nil => exact delimited
  | cons byte blanks =>
      refine delimited_cons ?_ _
      have first := blank byte List.mem_cons_self
      simp only [isBlank, Bool.or_eq_true, beq_iff_eq] at first
      rcases first with ((rfl | rfl) | rfl) | rfl <;> decide

theorem Gap.delimited {gap : Bytes} (separate : Gap false gap) (rest : Bytes) :
    Delimited (gap ++ rest) := by
  cases separate with
  | further blankBefore blankBehind =>
      rw [List.append_assoc]
      exact delimited_of_blank blankBefore (delimited_cons (by decide) _)

/-- Behind an item stands something that ends a number. -/
theorem Writes.delimited_items {items : List Tree} {text : Bytes}
    (writes : Writes (.items false items) text) (rest : Bytes) : Delimited (text ++ rest) := by
  cases writes with
  | noItem blank =>
      rw [List.append_assoc]
      exact delimited_of_blank blank (delimited_cons (by decide) _)
  | item separate value further =>
      rw [List.append_assoc]
      exact separate.delimited _

/-- So it does behind a member. -/
theorem Writes.delimited_members {members : List (List Piece × Tree)} {text : Bytes}
    (writes : Writes (.members false members) text) (rest : Bytes) : Delimited (text ++ rest) := by
  cases writes with
  | noMember blank =>
      rw [List.append_assoc]
      exact delimited_of_blank blank (delimited_cons (by decide) _)
  | member separate =>
      rw [List.append_assoc]
      exact separate.delimited _

end HitMonitor.Json
