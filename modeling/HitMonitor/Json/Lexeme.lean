import HitMonitor.Json.Error

/-!
# Lexemes of a document

Readers take the bytes that remain and return what they read with the bytes after it, or the first
error from the left.  This module reads blanks, literals, strings and numbers, and passes over whole
values that nobody asked for.

Passing over a value is one pass of a stack machine over the bytes, so neither the depth nor the
length of the value matters.
-/

namespace HitMonitor.Json

abbrev Bytes := List UInt8

/-- The code of an ASCII character. -/
def code (character : Char) : UInt8 := character.toNat.toUInt8

def isBlank (byte : UInt8) : Bool :=
  byte == 0x20 || byte == 0x09 || byte == 0x0a || byte == 0x0d

def skipBlanks (input : Bytes) : Bytes := input.dropWhile isBlank

def isDigit (byte : UInt8) : Bool := 0x30 ≤ byte && byte ≤ 0x39

def digitValue (byte : UInt8) : Nat := byte.toNat - 0x30

/-- The value of a hexadecimal digit of either case. -/
def hexValue? (byte : UInt8) : Option Nat :=
  if isDigit byte then some (digitValue byte)
  else if 0x61 ≤ byte && byte ≤ 0x66 then some (byte.toNat - 0x61 + 10)
  else if 0x41 ≤ byte && byte ≤ 0x46 then some (byte.toNat - 0x41 + 10)
  else none

/-- The number that hexadecimal digits write. -/
def hexNumber? (digits : List UInt8) : Option Nat :=
  digits.foldlM (fun number digit => (hexValue? digit).map (16 * number + ·)) 0

/-- Read the rest of a literal. -/
def expectLiteral : (rest : List UInt8) → Bytes → Except JsonError Bytes
  | [], input => .ok input
  | _ :: _, [] => .error .unexpectedEnd
  | expected :: rest, byte :: input =>
      if byte = expected then expectLiteral rest input else .error .malformed

/-- Read a colon. -/
def expectColon (input : Bytes) : Except JsonError Bytes :=
  match skipBlanks input with
  | [] => .error .unexpectedEnd
  | byte :: rest => if byte = code ':' then .ok rest else .error .malformed

/-! ## Strings -/

/-- What a one-letter escape stands for. -/
def simpleEscape? (byte : UInt8) : Option UInt8 :=
  if byte = code '"' then some 0x22
  else if byte = code '\\' then some 0x5c
  else if byte = code '/' then some 0x2f
  else if byte = code 'b' then some 0x08
  else if byte = code 'f' then some 0x0c
  else if byte = code 'n' then some 0x0a
  else if byte = code 'r' then some 0x0d
  else if byte = code 't' then some 0x09
  else none

/-- Where the reader of a string stands.  A leading surrogate is kept until its partner arrives. -/
inductive StringState where
  | plain
  | escape
  | unicode (lead : Option Nat) (digits : List UInt8)
  | lead (unit : Nat)
  | leadEscape (unit : Nat)
  deriving DecidableEq

/-- The bytes of a code unit that stands alone or completes a pair, or the leading surrogate that
still waits for its partner. -/
def unitEscape (lead : Option Nat) (unit : Nat) : Except JsonError (List UInt8 ⊕ Nat) :=
  let isLead := 0xd800 ≤ unit ∧ unit ≤ 0xdbff
  let isTrail := 0xdc00 ≤ unit ∧ unit ≤ 0xdfff
  match lead with
  | none =>
      if isTrail then .error .malformed
      else if isLead then .ok (.inr unit)
      else .ok (.inl (String.utf8EncodeChar (Char.ofNat unit)))
  | some lead =>
      if isTrail then
        let point := 0x10000 + (lead - 0xd800) * 0x400 + (unit - 0xdc00)
        .ok (.inl (String.utf8EncodeChar (Char.ofNat point)))
      else .error .malformed

/-- Read a string behind its opening quote into bytes, `taken` holding those read so far from the
last to the first. -/
def readStringBytes : StringState → (taken : List UInt8) → Bytes →
    Except JsonError (List UInt8 × Bytes)
  | _, _, [] => .error .unexpectedEnd
  | .plain, taken, byte :: rest =>
      if byte = code '"' then .ok (taken.reverse, rest)
      else if byte = code '\\' then readStringBytes .escape taken rest
      else if byte < 0x20 then .error .malformed
      else readStringBytes .plain (byte :: taken) rest
  | .escape, taken, byte :: rest =>
      if byte = code 'u' then readStringBytes (.unicode none []) taken rest
      else
        match simpleEscape? byte with
        | some meant => readStringBytes .plain (meant :: taken) rest
        | none => .error .malformed
  | .unicode lead digits, taken, byte :: rest =>
      let digits := digits ++ [byte]
      if digits.length < 4 then readStringBytes (.unicode lead digits) taken rest
      else
        match hexNumber? digits with
        | none => .error .malformed
        | some unit =>
            match unitEscape lead unit with
            | .error error => .error error
            | .ok (.inl bytes) => readStringBytes .plain (bytes.reverse ++ taken) rest
            | .ok (.inr lead) => readStringBytes (.lead lead) taken rest
  | .lead unit, taken, byte :: rest =>
      if byte = code '\\' then readStringBytes (.leadEscape unit) taken rest
      else .error .malformed
  | .leadEscape unit, taken, byte :: rest =>
      if byte = code 'u' then readStringBytes (.unicode (some unit) []) taken rest
      else .error .malformed

/-- Read a string behind its opening quote. -/
def readString (input : Bytes) : Except JsonError (String × Bytes) := do
  let (bytes, rest) ← readStringBytes .plain [] input
  match String.fromUTF8? ⟨bytes.toArray⟩ with
  | some content => return (content, rest)
  | none => .error .malformed

/-! ## Numbers -/

/-- A number as a document can hold it.  An integer that no 64-bit word holds, and minus zero, are
floats. -/
inductive Number where
  | natural (value : Nat)
  | negative (value : Int)
  | float (value : Float)

/-- The greatest power of ten that is a binary64 number. -/
def greatestPower : Nat := 308

def powerOfTen (exponent : Nat) : Float := Float.ofScientific 1 false exponent

/-- A small number divided by a power of ten, taken out in steps of the greatest one. -/
def divideByPower (value : Float) (exponent : Nat) : Float :=
  if exponent ≤ greatestPower then value / powerOfTen exponent
  else if value == 0 then value
  else divideByPower (value / powerOfTen greatestPower) (exponent - greatestPower)
termination_by exponent
decreasing_by simp_all [greatestPower]; omega

/-- The float with a significand and a decimal exponent: the significand is rounded first and then
scaled by a power of ten.  A number beyond the floats is refused. -/
def scaledFloat (negative : Bool) (significand : Nat) (exponent : Int) : Except JsonError Float :=
  let rounded := Float.ofNat significand
  let signed := fun value : Float => if negative then -value else value
  if exponent < 0 then .ok (signed (divideByPower rounded exponent.natAbs))
  else if exponent.toNat ≤ greatestPower then
    let scaled := rounded * powerOfTen exponent.toNat
    if scaled.isInf then .error .malformed else .ok (signed scaled)
  else if significand = 0 then .ok (signed 0)
  else .error .malformed

/-- A significand after some more digits, and how many of the digits it took.  It takes digits as
long as it fits a 64-bit word. -/
def extendSignificand : (significand : Nat) → List UInt8 → Nat × Nat
  | significand, [] => (significand, 0)
  | significand, digit :: rest =>
      let next := 10 * significand + digitValue digit
      if word64Max < next then (significand, 0)
      else
        let (final, taken) := extendSignificand next rest
        (final, taken + 1)

/-- The greatest exponent that is worked out; a greater one only says zero or too large. -/
def greatestExponent : Nat := 0x7fffffff

/-- Read an exponent behind its letter and scale the number by it. -/
def readExponent (negative : Bool) (significand : Nat) (exponent : Int) (input : Bytes) :
    Except JsonError (Float × Bytes) :=
  let (negativeExponent, input) := match input with
    | byte :: rest =>
        if byte = code '-' then (true, rest)
        else if byte = code '+' then (false, rest)
        else (false, input)
    | [] => (false, [])
  match input.takeWhile isDigit with
  | [] => .error (if input.isEmpty then .unexpectedEnd else .malformed)
  | digits =>
      let rest := input.dropWhile isDigit
      let written := digits.foldl (fun number digit => 10 * number + digitValue digit) 0
      if written ≤ greatestExponent then do
        let total := if negativeExponent then exponent - written else exponent + written
        return (← scaledFloat negative significand total, rest)
      else if significand ≠ 0 ∧ ¬ negativeExponent then .error .malformed
      else .ok (if negative then -0.0 else 0.0, rest)

/-- Read an exponent if there is one, and scale the number. -/
def readScale (negative : Bool) (significand : Nat) (exponent : Int) (input : Bytes) :
    Except JsonError (Float × Bytes) :=
  match input with
  | byte :: rest =>
      if byte = code 'e' ∨ byte = code 'E' then readExponent negative significand exponent rest
      else do return (← scaledFloat negative significand exponent, input)
  | [] => do return (← scaledFloat negative significand exponent, input)

/-- Read the digits behind a decimal point.  Digits that the significand cannot take are passed
over. -/
def readFraction (negative : Bool) (significand : Nat) (exponent : Int) (input : Bytes) :
    Except JsonError (Float × Bytes) :=
  match input.takeWhile isDigit with
  | [] => .error (if input.isEmpty then .unexpectedEnd else .malformed)
  | digits =>
      let (extended, taken) := extendSignificand significand digits
      readScale negative extended (exponent - taken) (input.dropWhile isDigit)

/-- An integer literal as a number. -/
def integerNumber (negative : Bool) (value : Nat) : Number :=
  if ¬ negative then .natural value
  else if value = 0 ∨ Nat.pow 2 63 < value then .float (-Float.ofNat value)
  else .negative (-value)

/-- Read a number behind its sign. -/
def readNumber (negative : Bool) (input : Bytes) : Except JsonError (Number × Bytes) :=
  match input.takeWhile isDigit with
  | [] => .error (if input.isEmpty then .unexpectedEnd else .malformed)
  | first :: more =>
      if first = code '0' ∧ more ≠ [] then .error .malformed
      else
        let rest := input.dropWhile isDigit
        let (significand, taken) := extendSignificand 0 (first :: more)
        let passed := more.length + 1 - taken
        let asFloat (reading : Except JsonError (Float × Bytes)) :=
          reading.map fun (value, rest) => (Number.float value, rest)
        match rest with
        | byte :: behind =>
            if byte = code '.' then asFloat (readFraction negative significand passed behind)
            else if byte = code 'e' ∨ byte = code 'E' ∨ passed ≠ 0 then
              asFloat (readScale negative significand passed rest)
            else .ok (integerNumber negative significand, rest)
        | [] =>
            if passed ≠ 0 then asFloat (readScale negative significand passed rest)
            else .ok (integerNumber negative significand, rest)

/-! ## Values nobody asked for -/

/-- The brackets that can be open. -/
inductive Bracket where
  | list
  | object
  deriving DecidableEq

/-- What may come next while a value is passed over. -/
inductive SkipState where
  /-- A value. -/
  | value
  /-- A value, or the end of a list that has just begun. -/
  | firstItem
  /-- A key. -/
  | key
  /-- A key, or the end of an object that has just begun. -/
  | firstKey
  | colon
  /-- The rest of a literal. -/
  | literal (rest : List UInt8)
  /-- The rest of a string; the flag says whether it is a key. -/
  | string (isKey : Bool)
  | escape (isKey : Bool)
  | unicode (isKey : Bool) (digits : List UInt8)
  /-- The first digit of a number. -/
  | leading
  /-- A number that began with zero and takes no more digits before its point. -/
  | zero
  | whole
  /-- The first digit behind a point. -/
  | pointed
  | fraction
  /-- The sign or the first digit of an exponent. -/
  | exponentSign
  /-- The first digit of an exponent. -/
  | exponentLeading
  | exponent
  /-- A comma or a closing bracket. -/
  | after
  deriving DecidableEq

/-- One step of passing over a value: go on in a state within the open brackets, or stop before or
behind the byte. -/
inductive SkipStep where
  | go (state : SkipState) (brackets : List Bracket)
  | stopBefore
  | stopBehind
  | fail

/-- The state behind a complete value that ends with the byte just read. -/
def endValue (brackets : List Bracket) : SkipStep :=
  if brackets.isEmpty then .stopBehind else .go .after brackets

/-- The first byte of a value. -/
def beginValue (byte : UInt8) (brackets : List Bracket) : SkipStep :=
  if isBlank byte then .go .value brackets
  else if byte = code '"' then .go (.string false) brackets
  else if byte = code '[' then .go .firstItem (.list :: brackets)
  else if byte = code '\x7b' then .go .firstKey (.object :: brackets)
  else if byte = code '-' then .go .leading brackets
  else if byte = code '0' then .go .zero brackets
  else if isDigit byte then .go .whole brackets
  else if byte = code 'n' then .go (.literal [code 'u', code 'l', code 'l']) brackets
  else if byte = code 't' then .go (.literal [code 'r', code 'u', code 'e']) brackets
  else if byte = code 'f' then .go (.literal [code 'a', code 'l', code 's', code 'e']) brackets
  else .fail

/-- A byte behind a complete value. -/
def continueAfter (byte : UInt8) : List Bracket → SkipStep
  | [] => .stopBefore
  | bracket :: brackets =>
      if isBlank byte then .go .after (bracket :: brackets)
      else if byte = code ',' then
        match bracket with
        | .list => .go .value (bracket :: brackets)
        | .object => .go .key (bracket :: brackets)
      else
        match bracket with
        | .list => if byte = code ']' then endValue brackets else .fail
        | .object => if byte = code '\x7d' then endValue brackets else .fail

/-- A byte behind the digits of a number that is complete so far. -/
def continueNumber (byte : UInt8) (brackets : List Bracket) : SkipStep :=
  if byte = code 'e' ∨ byte = code 'E' then .go .exponentSign brackets
  else continueAfter byte brackets

/-- The state behind a string. -/
def endString (isKey : Bool) (brackets : List Bracket) : SkipStep :=
  if isKey then .go .colon brackets else endValue brackets

def skipStep (state : SkipState) (brackets : List Bracket) (byte : UInt8) : SkipStep :=
  match state with
  | .value => beginValue byte brackets
  | .firstItem =>
      if isBlank byte then .go .firstItem brackets
      else if byte = code ']' then endValue brackets.tail
      else beginValue byte brackets
  | .key =>
      if isBlank byte then .go .key brackets
      else if byte = code '"' then .go (.string true) brackets
      else .fail
  | .firstKey =>
      if isBlank byte then .go .firstKey brackets
      else if byte = code '\x7d' then endValue brackets.tail
      else if byte = code '"' then .go (.string true) brackets
      else .fail
  | .colon =>
      if isBlank byte then .go .colon brackets
      else if byte = code ':' then .go .value brackets
      else .fail
  | .literal [] => .fail
  | .literal [last] => if byte = last then endValue brackets else .fail
  | .literal (expected :: rest) => if byte = expected then .go (.literal rest) brackets else .fail
  | .string isKey =>
      if byte = code '"' then endString isKey brackets
      else if byte = code '\\' then .go (.escape isKey) brackets
      else if byte < 0x20 then .fail
      else .go (.string isKey) brackets
  | .escape isKey =>
      if byte = code 'u' then .go (.unicode isKey []) brackets
      else if (simpleEscape? byte).isSome then .go (.string isKey) brackets
      else .fail
  | .unicode isKey digits =>
      let digits := digits ++ [byte]
      if digits.length < 4 then .go (.unicode isKey digits) brackets
      else if (hexNumber? digits).isSome then .go (.string isKey) brackets
      else .fail
  | .leading =>
      if byte = code '0' then .go .zero brackets
      else if isDigit byte then .go .whole brackets
      else .fail
  | .zero =>
      if isDigit byte then .fail
      else if byte = code '.' then .go .pointed brackets
      else continueNumber byte brackets
  | .whole =>
      if isDigit byte then .go .whole brackets
      else if byte = code '.' then .go .pointed brackets
      else continueNumber byte brackets
  | .pointed => if isDigit byte then .go .fraction brackets else .fail
  | .fraction =>
      if isDigit byte then .go .fraction brackets else continueNumber byte brackets
  | .exponentSign =>
      if byte = code '+' ∨ byte = code '-' then .go .exponentLeading brackets
      else if isDigit byte then .go .exponent brackets
      else .fail
  | .exponentLeading => if isDigit byte then .go .exponent brackets else .fail
  | .exponent => if isDigit byte then .go .exponent brackets else continueAfter byte brackets
  | .after => continueAfter byte brackets

/-- What the end of the input means in a state.  A number that is complete may end there; a number
that lacks a digit is malformed rather than cut off. -/
def skipEnd (state : SkipState) (brackets : List Bracket) : Except JsonError Bytes :=
  match state with
  | .zero | .whole | .fraction | .exponent | .after =>
      if brackets.isEmpty then .ok [] else .error .unexpectedEnd
  | .leading | .pointed | .exponentSign | .exponentLeading => .error .malformed
  | _ => .error .unexpectedEnd

/-- Pass over the rest of a value. -/
def skipRest : SkipState → List Bracket → Bytes → Except JsonError Bytes
  | state, brackets, [] => skipEnd state brackets
  | state, brackets, byte :: rest =>
      match skipStep state brackets byte with
      | .go state brackets => skipRest state brackets rest
      | .stopBefore => .ok (byte :: rest)
      | .stopBehind => .ok rest
      | .fail => .error .malformed

/-- Pass over one value. -/
def skipValue (input : Bytes) : Except JsonError Bytes := skipRest .value [] input

end HitMonitor.Json
