import HitMonitor.Json.Record
import HitMonitor.Proofs.Decimal.Digits
import HitMonitor.Proofs.Except
import HitMonitor.Proofs.Json.Written

/-!
# Reading back what was written

A reader takes bytes for a value if it does so wherever they stand: behind blanks, and before
anything that does not continue a number.  The readers of numbers, texts, optional values and named
values take what is written for them, and a record takes its members one after the other, because
what stands behind each value is a comma or the closing brace.
-/

namespace HitMonitor.Json

/-! ## Places -/

/-- Bytes that only separate lexemes. -/
def Blank (bytes : Bytes) : Prop := ∀ byte ∈ bytes, isBlank byte = true

instance (bytes : Bytes) : Decidable (Blank bytes) :=
  decidable_of_iff (bytes.all isBlank = true) List.all_eq_true

theorem blank_nil : Blank [] := fun _ impossible => by cases impossible

theorem skipBlanks_append {blanks : Bytes} (blank : Blank blanks) (input : Bytes) :
    skipBlanks (blanks ++ input) = skipBlanks input :=
  List.dropWhile_append_of_pos blank

theorem skipBlanks_cons {byte : UInt8} (solid : isBlank byte = false) (rest : Bytes) :
    skipBlanks (byte :: rest) = byte :: rest :=
  List.dropWhile_cons_of_neg (by rw [solid]; decide)

/-- A byte that a number takes in if it stands behind the digits. -/
def continuesNumber (byte : UInt8) : Bool :=
  isDigit byte || byte == code '.' || byte == code 'e' || byte == code 'E'

theorem continuesNumber_eq_false_iff {byte : UInt8} :
    continuesNumber byte = false ↔
      isDigit byte = false ∧ byte ≠ code '.' ∧ byte ≠ code 'e' ∧ byte ≠ code 'E' := by
  simp [continuesNumber, and_assoc]

/-- Bytes behind which a number has ended. -/
def Delimited (rest : Bytes) : Prop := ∀ byte ∈ rest.head?, continuesNumber byte = false

theorem delimited_nil : Delimited [] := fun _ impossible => by cases impossible

theorem delimited_cons {byte : UInt8} (ends : continuesNumber byte = false) (rest : Bytes) :
    Delimited (byte :: rest) := by
  intro first here
  cases here
  exact ends

/-- What is written behind a member ends a number. -/
theorem delimited_membersBytes (members : List (String × Bytes)) (rest : Bytes) :
    Delimited (membersBytes false members ++ rest) := by
  cases members with
  | nil => exact delimited_cons (by decide) _
  | cons member members => exact delimited_cons (by decide) _

variable {Value Result : Type}

/-- A reader takes a text for a value wherever the text stands. -/
def Reads (read : Bytes → Except JsonError (Value × Bytes)) (text : Bytes) (value : Value) : Prop :=
  ∀ ⦃blanks rest⦄, Blank blanks → Delimited rest →
    read (blanks ++ (text ++ rest)) = .ok (value, rest)

namespace Reads

variable {read : Bytes → Except JsonError (Value × Bytes)} {text : Bytes} {value : Value}

/-- What is done with a value that has been read. -/
theorem map (reads : Reads read text value) (change : Value → Result) :
    Reads (fun input => (read input).map fun (value, rest) => (change value, rest)) text
      (change value) := by
  intro blanks rest blank delimited
  simp only [reads blank delimited]
  rfl

/-- Blanks in front of a text may count as a part of it. -/
theorem behind_blanks (reads : Reads read text value) {blanks : Bytes} (blank : Blank blanks) :
    Reads read (blanks ++ text) value := by
  intro before rest blankBefore delimited
  rw [List.append_assoc, ← List.append_assoc]
  refine reads (fun byte member => ?_) delimited
  rcases List.mem_append.mp member with front | behind
  · exact blankBefore byte front
  · exact blank byte behind

/-- A reader that takes a text for a value reads a document that holds no more than the text. -/
theorem readDocument (reads : Reads read text value) : readDocument read text = .ok value := by
  have whole : read text = .ok (value, []) := by
    have alone := reads blank_nil delimited_nil
    rwa [List.nil_append, List.append_nil] at alone
  rw [Json.readDocument, whole]
  rfl

end Reads

/-! ## Numbers -/

theorem encode_digits {digits : List Char} (decimal : ∀ digit ∈ digits, digit.isDigit = true) :
    encode digits = digits.map code := by
  induction digits with
  | nil => rfl
  | cons digit digits ih =>
      rw [List.forall_mem_cons] at decimal
      obtain ⟨-, above⟩ := Char.isDigit_iff_toNat.mp decimal.1
      have ascii : digit.utf8Size = 1 := by
        rw [Char.utf8Size_eq_one_iff, UInt32.le_iff_toNat_le]
        exact Nat.le_trans above (by decide)
      have byte : digit.val.toUInt8 = code digit := by
        rw [code, ← UInt8.toNat_inj]
        rfl
      rw [encode_cons, ih decimal.2, String.utf8EncodeChar_eq_singleton ascii, byte]
      rfl

/-- The byte of a decimal digit has the value of the digit. -/
theorem isDigit_code {digit : Char} (decimal : digit.isDigit = true) :
    isDigit (code digit) = true ∧ digitValue (code digit) = digit.toNat - '0'.toNat := by
  obtain ⟨below, above⟩ := Char.isDigit_iff_toNat.mp decimal
  have zero_toNat : '0'.toNat = 48 := rfl
  have nine_toNat : '9'.toNat = 57 := rfl
  have same : (code digit).toNat = digit.toNat := by
    rw [code, Nat.toUInt8, UInt8.toNat_ofNat', Nat.mod_eq_of_lt (by omega)]
  constructor
  · rw [isDigit, Bool.and_eq_true, decide_eq_true_eq, decide_eq_true_eq, UInt8.le_iff_toNat_le,
      UInt8.le_iff_toNat_le, same]
    exact ⟨below, above⟩
  · rw [digitValue, same]
    rfl

/-- A significand takes all digits of a number that fits a word. -/
theorem extendSignificand_digits {digits : List Char}
    (decimal : ∀ digit ∈ digits, digit.isDigit = true) {start : Nat}
    (fits : Nat.ofDigitChars 10 digits start ≤ word64Max) :
    extendSignificand start (digits.map code) =
      (Nat.ofDigitChars 10 digits start, digits.length) := by
  induction digits generalizing start with
  | nil => rfl
  | cons digit digits ih =>
      rw [List.forall_mem_cons] at decimal
      rw [Nat.ofDigitChars_cons] at fits ⊢
      have inside := Nat.le_trans (le_ofDigitChars digits _) fits
      rw [List.map_cons, extendSignificand, (isDigit_code decimal.1).2,
        if_neg (Nat.not_lt_of_le inside), ih decimal.2 fits]
      rfl

/-- Digits end where something else stands or the text ends. -/
theorem digits_of_ended {digits rest : Bytes} (decimal : ∀ byte ∈ digits, isDigit byte = true)
    (ended : ∀ byte ∈ rest.head?, isDigit byte = false) :
    (digits ++ rest).takeWhile isDigit = digits ∧ (digits ++ rest).dropWhile isDigit = rest := by
  rw [List.takeWhile_append_of_pos decimal, List.dropWhile_append_of_pos decimal]
  cases rest with
  | nil => exact ⟨List.append_nil digits, rfl⟩
  | cons byte rest =>
      have noDigit : ¬ isDigit byte = true := by
        rw [ended byte rfl]
        decide
      rw [List.takeWhile_cons_of_neg noDigit, List.dropWhile_cons_of_neg noDigit]
      exact ⟨List.append_nil digits, rfl⟩

/-- A delimiter is no digit. -/
theorem digits_of_delimited {digits rest : Bytes} (decimal : ∀ byte ∈ digits, isDigit byte = true)
    (delimited : Delimited rest) :
    (digits ++ rest).takeWhile isDigit = digits ∧ (digits ++ rest).dropWhile isDigit = rest :=
  digits_of_ended decimal fun byte here =>
    (continuesNumber_eq_false_iff.mp (delimited byte here)).1

/-- Only the digit zero has the byte of the digit zero. -/
theorem eq_zero_of_code {digit : Char} (decimal : digit.isDigit = true)
    (zero : code digit = code '0') : digit = '0' := by
  have value := (isDigit_code decimal).2
  rw [zero, (isDigit_code (rfl : '0'.isDigit = true)).2] at value
  have below := (Char.isDigit_iff_toNat.mp decimal).1
  exact Char.toNat_inj.mp (by omega)

/-- The digits of a number as bytes. -/
theorem encode_toDigits (number : Nat) :
    encode (Nat.toDigits 10 number) = (Nat.toDigits 10 number).map code :=
  encode_digits fun _ => isDigit_of_mem_toDigits

theorem isDigit_of_mem_encode {number : Nat} {byte : UInt8}
    (member : byte ∈ encode (Nat.toDigits 10 number)) : isDigit byte = true := by
  rw [encode_toDigits] at member
  obtain ⟨digit, inside, rfl⟩ := List.mem_map.mp member
  exact (isDigit_code (isDigit_of_mem_toDigits inside)).1

/-- There is a first digit. -/
theorem exists_encode_toDigits (number : Nat) : ∃ first more,
    encode (Nat.toDigits 10 number) = first :: more ∧ isDigit first = true := by
  obtain ⟨first, more, digits⟩ := List.exists_cons_of_ne_nil
    (Nat.toDigits_ne_nil : Nat.toDigits 10 number ≠ [])
  refine ⟨code first, more.map code, by rw [encode_toDigits, digits, List.map_cons], ?_⟩
  exact (isDigit_code (isDigit_of_mem_toDigits (by rw [digits]; exact List.mem_cons_self))).1

/-- The digits of a number that fits a word make up a significand. -/
theorem extendSignificand_encode {number : Nat} (fits : number ≤ word64Max) :
    extendSignificand 0 (encode (Nat.toDigits 10 number)) =
      (number, (encode (Nat.toDigits 10 number)).length) := by
  have value : Nat.ofDigitChars 10 (Nat.toDigits 10 number) 0 = number :=
    Nat.ofDigitChars_ten_toDigits
  rw [encode_toDigits, extendSignificand_digits (fun _ => isDigit_of_mem_toDigits)
    (by rw [value]; exact fits), value, List.length_map]

/-- No number of several digits begins with zero. -/
theorem not_leading_zero {number : Nat} {first : UInt8} {more : Bytes}
    (digits : encode (Nat.toDigits 10 number) = first :: more) :
    ¬ (first = code '0' ∧ more ≠ []) := by
  rintro ⟨rfl, several⟩
  rw [encode_toDigits] at digits
  obtain ⟨digit, rest, written, zero, rfl⟩ := List.map_eq_cons_iff.mp digits
  have decimal : digit.isDigit = true :=
    isDigit_of_mem_toDigits (by rw [written]; exact List.mem_cons_self)
  rw [eq_zero_of_code decimal zero] at written
  rw [eq_nil_of_toDigits_eq_zero_cons written] at several
  exact several rfl

/-- The digits of a number that fits a word are read as that number. -/
theorem readNumber_digits {number : Nat} (fits : number ≤ word64Max) {rest : Bytes}
    (delimited : Delimited rest) :
    readNumber false (encode (Nat.toDigits 10 number) ++ rest) = .ok (.natural number, rest) := by
  obtain ⟨front, behind⟩ := digits_of_delimited (fun _ => isDigit_of_mem_encode) delimited
  have significand := extendSignificand_encode fits
  obtain ⟨first, more, digits, -⟩ := exists_encode_toDigits number
  have leading := not_leading_zero digits
  rw [readNumber, front, behind]
  -- The significand takes every digit, so none is passed over and the number stays an integer.
  rw [digits, List.length_cons] at significand
  simp only [digits, if_neg leading, significand, Nat.sub_self]
  cases rest with
  | nil => rfl
  | cons byte rest =>
      obtain ⟨-, noPoint, noExponent, noCapital⟩ :=
        continuesNumber_eq_false_iff.mp (delimited byte rfl)
      simp [noPoint, noExponent, noCapital, integerNumber]

/-- A digit is neither a blank nor any other byte that a reader asks for. -/
theorem ne_of_isDigit {byte other : UInt8} (digit : isDigit byte = true)
    (noDigit : isDigit other = false) : byte ≠ other := by
  rintro rfl
  rw [digit] at noDigit
  cases noDigit

theorem isBlank_of_isDigit {byte : UInt8} (digit : isDigit byte = true) :
    isBlank byte = false := by
  have other : byte ≠ 0x20 ∧ byte ≠ 0x09 ∧ byte ≠ 0x0a ∧ byte ≠ 0x0d :=
    ⟨ne_of_isDigit digit rfl, ne_of_isDigit digit rfl, ne_of_isDigit digit rfl,
      ne_of_isDigit digit rfl⟩
  simp [isBlank, other]

/-- A natural up to the limit of its type is read back. -/
theorem reads_unsigned {limit value : Nat} (inside : value ≤ limit) (word : limit ≤ word64Max)
    (name : String) : Reads (readUnsigned limit name) (natural value).bytes value := by
  intro blanks rest blank delimited
  have number := readNumber_digits (Nat.le_trans inside word) delimited
  obtain ⟨first, more, digits, digit⟩ := exists_encode_toDigits value
  rw [digits, List.cons_append] at number
  have noSign : first ≠ code '-' := ne_of_isDigit digit rfl
  rw [readUnsigned, skipBlanks_append blank, bytes_natural, digits, List.cons_append,
    skipBlanks_cons (isBlank_of_isDigit digit)]
  simp [noSign, digit, number, inside]

/-! ## Texts -/

/-- A byte that stands for itself between quotes. -/
def isPlain (byte : UInt8) : Bool :=
  byte != code '"' && byte != code '\\' && !decide (byte < 0x20)

theorem isPlain_iff {byte : UInt8} :
    isPlain byte = true ↔ byte ≠ code '"' ∧ byte ≠ code '\\' ∧ ¬ byte < 0x20 := by
  simp [isPlain, and_assoc]

/-- A text that needs no escapes. -/
def Plain (text : String) : Prop := ∀ byte ∈ encode text.toList, isPlain byte = true

instance (text : String) : Decidable (Plain text) :=
  decidable_of_iff ((encode text.toList).all isPlain = true) List.all_eq_true

theorem readStringBytes_plain {content : Bytes} (plain : ∀ byte ∈ content, isPlain byte = true)
    (taken rest : Bytes) :
    readStringBytes .plain taken (content ++ code '"' :: rest) =
      .ok (taken.reverse ++ content, rest) := by
  induction content generalizing taken with
  | nil => rw [List.nil_append, readStringBytes, if_pos rfl, List.append_nil]
  | cons byte content ih =>
      rw [List.forall_mem_cons] at plain
      obtain ⟨noQuote, noEscape, noControl⟩ := isPlain_iff.mp plain.1
      rw [List.cons_append, readStringBytes, if_neg noQuote, if_neg noEscape, if_neg noControl,
        ih plain.2, List.reverse_cons, List.append_assoc]
      rfl

/-- The bytes of a text are the text again. -/
theorem fromUTF8?_encode (text : String) :
    String.fromUTF8? ⟨(encode text.toList).toArray⟩ = some text := by
  have bytes : (⟨(encode text.toList).toArray⟩ : ByteArray) = text.toByteArray := by
    rw [← toList_toUTF8, toList_byteArray]
    rfl
  rw [bytes, String.fromUTF8?, dif_pos text.isValidUTF8]
  rfl

theorem readString_plain {text : String} (plain : Plain text) (rest : Bytes) :
    readString (encode text.toList ++ code '"' :: rest) = .ok (text, rest) := by
  rw [readString, readStringBytes_plain plain]
  simp only [List.reverse_nil, List.nil_append, ok_bind, fromUTF8?_encode]
  rfl

/-- One of several names is read as the value it has. -/
theorem reads_variant {variants : List (String × Value)} {name : String} {value : Value}
    (known : variants.lookup name = some value) (plain : Plain name) :
    Reads (readVariant variants) (text name).bytes value := by
  intro blanks rest blank _
  rw [readVariant, skipBlanks_append blank, bytes_text, quotedBytes, List.cons_append,
    skipBlanks_cons (by rfl), List.append_assoc]
  simp [readString_plain plain, known]

/-! ## Optional values -/

variable {read : Bytes → Except JsonError (Value × Bytes)}

theorem reads_null : Reads (readOptional read) null.bytes none := by
  intro blanks rest blank _
  rw [readOptional, skipBlanks_append blank, bytes_null]
  rfl

/-- A natural is not mistaken for `null`. -/
theorem reads_some_natural {written : Nat} {value : Value}
    (reads : Reads read (natural written).bytes value) :
    Reads (readOptional read) (natural written).bytes (some value) := by
  intro blanks rest blank delimited
  have found := reads blank_nil delimited
  rw [bytes_natural] at found ⊢
  obtain ⟨first, more, digits, digit⟩ := exists_encode_toDigits written
  have notNull : first ≠ code 'n' := ne_of_isDigit digit rfl
  rw [digits, List.nil_append, List.cons_append] at found
  rw [readOptional, skipBlanks_append blank, digits, List.cons_append,
    skipBlanks_cons (isBlank_of_isDigit digit)]
  simp only [if_neg notNull, found]
  rfl

/-! ## Records -/

namespace RecordShape

variable {Partial : Type} {shape : RecordShape Partial}

/-- Members that fill a record one after the other: each has the key of a field that has not been
read, and its bytes are read into that field.  The last one leaves no field missing. -/
inductive Fills (shape : RecordShape Partial) :
    (seen : List String) → Partial → List (String × Bytes) → Partial → Prop
  | done {seen : List String} {result : Partial} (complete : shape.missing? seen = none) :
      Fills shape seen result [] result
  | field {seen : List String} {result next final : Partial} {field : RecordField Partial}
      {key : String} {value : Bytes} {members : List (String × Bytes)}
      (known : shape.fields.find? (·.key == key) = some field) (fresh : key ∉ seen)
      (plain : Plain key) (reads : Reads (field.read result) value next)
      (further : Fills shape (key :: seen) next members final) :
      Fills shape seen result ((key, value) :: members) final

/-- Where a member is written, its key is found. -/
theorem nextKey?_membersBytes (isFirst : Bool) (key : String) (value : Bytes)
    (members : List (String × Bytes)) (rest : Bytes) :
    nextKey? isFirst (membersBytes isFirst ((key, value) :: members) ++ rest) =
      .ok (true, encode key.toList ++ code '"' :: code ':' ::
        (value ++ (membersBytes false members ++ rest))) := by
  simp only [membersBytes, memberBytes, quotedBytes, List.append_assoc, List.cons_append,
    List.nil_append]
  cases isFirst <;> rfl

/-- Behind the last member stands the closing brace. -/
theorem nextKey?_closing (isFirst : Bool) (rest : Bytes) :
    nextKey? isFirst (membersBytes isFirst [] ++ rest) = .ok (false, rest) := by
  cases isFirst <;> rfl

theorem length_le_membersBytes (isFirst : Bool) (members : List (String × Bytes)) :
    members.length ≤ (membersBytes isFirst members).length := by
  induction members generalizing isFirst with
  | nil => exact Nat.zero_le _
  | cons member members ih =>
      have further := ih false
      simp only [membersBytes, memberBytes, quotedBytes, List.length_append, List.length_cons]
      omega

/-- Members that fill a record are read into it. -/
theorem readMembers_fills {seen : List String} {result final : Partial}
    {members : List (String × Bytes)} (fills : shape.Fills seen result members final) {fuel : Nat}
    (enough : members.length < fuel) (isFirst : Bool) (rest : Bytes) :
    shape.readMembers fuel isFirst seen result (membersBytes isFirst members ++ rest) =
      .ok (final, rest) := by
  induction fills generalizing fuel isFirst with
  | done complete =>
      obtain ⟨fuel, rfl⟩ := Nat.exists_eq_succ_of_ne_zero (Nat.ne_zero_of_lt enough)
      rw [readMembers, nextKey?_closing]
      simp only [complete]
  | @field seen result next final field key value members known fresh plain reads further ih =>
      obtain ⟨fuel, rfl⟩ := Nat.exists_eq_succ_of_ne_zero (Nat.ne_zero_of_lt enough)
      -- Whatever members are left, the value ends where it was written to end.
      have read := reads blank_nil (delimited_membersBytes members rest)
      rw [readMembers, nextKey?_membersBytes]
      simp only [readString_plain plain, ok_bind, known, if_neg fresh]
      have colon : expectColon (code ':' :: (value ++ (membersBytes false members ++ rest))) =
          .ok (value ++ (membersBytes false members ++ rest)) := rfl
      rw [List.nil_append] at read
      simp only [colon, ok_bind, read]
      exact ih (Nat.lt_of_succ_lt_succ enough) false

/-- Members that fill a record from its start are read as the record. -/
theorem reads_object {members : List (String × Bytes)} {final : Partial}
    (fills : shape.Fills [] shape.start members final) :
    Reads shape.read (code '\x7b' :: membersBytes true members) final := by
  intro blanks rest blank _
  rw [RecordShape.read, skipBlanks_append blank, List.cons_append, skipBlanks_cons (by rfl)]
  -- The fuel is a byte count, and every member has at least one byte.
  have enough : members.length < (membersBytes true members ++ rest).length + 1 := by
    have bounded := length_le_membersBytes true members
    rw [List.length_append]
    omega
  simp only [readMembers_fills fills enough]
  rfl

/-- Keys that tell the fields of a record apart and need no escapes. -/
structure WellKeyed (shape : RecordShape Partial) : Prop where
  distinct : (shape.fields.map (·.key)).Nodup
  plain : ∀ key ∈ shape.fields.map (·.key), Plain key

/-- Texts that are read into fields, one after the other and in the order of the fields. -/
inductive InOrder : List (RecordField Partial) → Partial → List (String × Bytes) → Partial → Prop
  | done {result : Partial} : InOrder [] result [] result
  | field {result next final : Partial} {field : RecordField Partial}
      {fields : List (RecordField Partial)} {value : Bytes} {members : List (String × Bytes)}
      (reads : Reads (field.read result) value next) (further : InOrder fields next members final) :
      InOrder (field :: fields) result ((field.key, value) :: members) final

/-- The keys of the fields before a field are others. -/
theorem WellKeyed.key_ne (wellKeyed : shape.WellKeyed) {front behind : List (RecordField Partial)}
    {field other : RecordField Partial} (split : shape.fields = front ++ field :: behind)
    (member : other ∈ front) : other.key ≠ field.key := by
  have distinct := wellKeyed.distinct
  rw [split, List.map_append, List.nodup_append] at distinct
  exact distinct.2.2 _ (List.mem_map_of_mem member) _ List.mem_cons_self

/-- Members in the order of the fields fill a record. -/
theorem fills_of_inOrder (wellKeyed : shape.WellKeyed) {front fields : List (RecordField Partial)}
    {result final : Partial} {members : List (String × Bytes)}
    (inOrder : InOrder fields result members final) (split : shape.fields = front ++ fields) :
    shape.Fills (front.map (·.key)).reverse result members final := by
  induction inOrder generalizing front with
  | done =>
      apply Fills.done
      rw [missing?, split, List.append_nil]
      split
      next =>
        rw [List.find?_eq_none]
        intro key member
        simpa using member
      next => rfl
  | @field result next final field fields value members reads further ih =>
      have known : shape.fields.find? (·.key == field.key) = some field := by
        refine List.find?_eq_some_iff_append.mpr
          ⟨beq_self_eq_true _, front, fields, split, fun other member => ?_⟩
        rw [beq_eq_false_iff_ne.mpr (wellKeyed.key_ne split member)]
        rfl
      have fresh : field.key ∉ (front.map (·.key)).reverse := by
        intro seen
        obtain ⟨other, member, same⟩ := List.mem_map.mp (List.mem_reverse.mp seen)
        exact wellKeyed.key_ne split member same
      have plain : Plain field.key := by
        apply wellKeyed.plain
        rw [split]
        exact List.mem_map_of_mem (List.mem_append_right _ List.mem_cons_self)
      apply Fills.field known fresh plain reads
      have rest := ih (show shape.fields = (front ++ [field]) ++ fields by
        rw [split, List.append_assoc]
        rfl)
      rw [List.map_append, List.reverse_append] at rest
      exact rest

/-- An object whose members are the fields in their order is read as the record. -/
theorem reads_inOrder (wellKeyed : shape.WellKeyed) {members : List (String × Bytes)}
    {final : Partial} (inOrder : InOrder shape.fields shape.start members final) :
    Reads shape.read (code '\x7b' :: membersBytes true members) final :=
  reads_object (fills_of_inOrder wellKeyed inOrder (List.nil_append _).symm)

theorem reads_document (wellKeyed : shape.WellKeyed) {members : List (String × Json)}
    {final : Partial} (inOrder : InOrder shape.fields shape.start
      (members.map fun member => (member.1, member.2.bytes)) final) :
    Reads shape.read (object members).bytes final := by
  rw [bytes_object]
  exact reads_inOrder wellKeyed inOrder

end RecordShape

end HitMonitor.Json
