import HitMonitor.Json.Lexeme

/-!
# Records in documents

A record is written as an object, or as a list with its fields in order.  Reading one goes from left
to right through a partial result that each field updates, and the first error wins.

In an object, unknown members are passed over and a known one may come only once.  A record either
needs all of its fields or keeps what it started from for those that are missing.
-/

namespace HitMonitor.Json

/-- Read the value at the front of the input, without its content if it is a list or an object. -/
def readFound (input : Bytes) : Except JsonError FoundValue :=
  match skipBlanks input with
  | [] => .error .unexpectedEnd
  | byte :: rest =>
      if byte = code 'n' then
        (expectLiteral [code 'u', code 'l', code 'l'] rest).map fun _ => .null
      else if byte = code 't' then
        (expectLiteral [code 'r', code 'u', code 'e'] rest).map fun _ => .boolean true
      else if byte = code 'f' then
        (expectLiteral [code 'a', code 'l', code 's', code 'e'] rest).map fun _ => .boolean false
      else if byte = code '"' then (readString rest).map fun (content, _) => .string content
      else if byte = code '[' then .ok .sequence
      else if byte = code '\x7b' then .ok .map
      else if byte = code '-' ∨ isDigit byte then
        let negative := byte = code '-'
        (readNumber negative (if negative then rest else byte :: rest)).map fun (number, _) =>
          match number with
          | .natural value => .integer value
          | .negative value => .integer value
          | .float value => .float value
      else .error .malformed

/-- Refuse the value at the front of the input because something else was expected.  A value that
cannot be read is refused for that reason. -/
def refuseType {Value : Type} (expected : String) (input : Bytes) : Except JsonError Value :=
  match readFound input with
  | .ok found => .error (.data (.invalidType found expected))
  | .error error => .error error

/-- Read an unsigned integer up to a limit, whose type has the given name. -/
def readUnsigned (limit : Nat) (name : String) (input : Bytes) : Except JsonError (Nat × Bytes) :=
  match skipBlanks input with
  | [] => .error .unexpectedEnd
  | byte :: rest =>
      if byte = code '-' ∨ isDigit byte then
        let negative := byte = code '-'
        match readNumber negative (if negative then rest else byte :: rest) with
        | .error error => .error error
        | .ok (.natural value, rest) =>
            if value ≤ limit then .ok (value, rest)
            else .error (.data (.invalidInteger value name))
        | .ok (.negative value, _) => .error (.data (.invalidInteger value name))
        | .ok (.float value, _) => .error (.data (.invalidType (.float value) name))
      else refuseType name (byte :: rest)

/-- Read a value that may be `null`. -/
def readOptional {Value : Type} (read : Bytes → Except JsonError (Value × Bytes))
    (input : Bytes) : Except JsonError (Option Value × Bytes) :=
  match skipBlanks input with
  | byte :: rest =>
      if byte = code 'n' then
        (expectLiteral [code 'u', code 'l', code 'l'] rest).map fun rest => (none, rest)
      else (read (byte :: rest)).map fun (value, rest) => (some value, rest)
  | [] => (read []).map fun (value, rest) => (some value, rest)

/-- A field that a record knows: its key and how its value changes the partial result. -/
structure RecordField (Partial : Type) where
  key : String
  read : Partial → Bytes → Except JsonError (Partial × Bytes)

/-- A kind of record. -/
structure RecordShape (Partial : Type) where
  /-- What is expected where the record should stand. -/
  name : String
  /-- The fields in their order in a list. -/
  fields : List (RecordField Partial)
  /-- Whether every field has to be there. -/
  needsAll : Bool
  /-- The partial result before the first field. -/
  start : Partial

namespace RecordShape

variable {Partial : Type}

/-- The start of the next item of a list, or nothing in front of the closing bracket. -/
def nextItem? (isFirst : Bool) (input : Bytes) : Except JsonError (Option Bytes) :=
  match skipBlanks input with
  | [] => .error .unexpectedEnd
  | byte :: rest =>
      if byte = code ']' then .ok none
      else if isFirst then .ok (some (byte :: rest))
      else if byte = code ',' then
        match skipBlanks rest with
        | [] => .error .unexpectedEnd
        | byte :: rest =>
            if byte = code ']' then .error .malformed else .ok (some (byte :: rest))
      else .error .malformed

/-- Read the items of a list into the fields of a record, of which `count` have been read. -/
def readItems (shape : RecordShape Partial) : List (RecordField Partial) → (count : Nat) →
    Partial → Bytes → Except JsonError (Partial × Bytes)
  | [], _, result, input => .ok (result, input)
  | field :: fields, count, result, input =>
      match nextItem? (count = 0) input with
      | .error error => .error error
      | .ok none =>
          if shape.needsAll then
            .error (.data (.invalidLength count
              s!"{shape.name} with {shape.fields.length} elements"))
          else .ok (result, input)
      | .ok (some input) =>
          match field.read result input with
          | .error error => .error error
          | .ok (result, input) => readItems shape fields (count + 1) result input

/-- Read the closing bracket of a list.  A further item is not well formed. -/
def closeList (input : Bytes) : Except JsonError Bytes :=
  match skipBlanks input with
  | [] => .error .unexpectedEnd
  | byte :: rest => if byte = code ']' then .ok rest else .error .malformed

/-- The text behind the opening quote of the next key, or nothing and the text behind the closing
brace. -/
def nextKey? (isFirst : Bool) (input : Bytes) : Except JsonError (Bool × Bytes) :=
  match skipBlanks input with
  | [] => .error .unexpectedEnd
  | byte :: rest =>
      if byte = code '\x7d' then .ok (false, rest)
      else if isFirst then
        if byte = code '"' then .ok (true, rest) else .error .malformed
      else if byte = code ',' then
        match skipBlanks rest with
        | [] => .error .unexpectedEnd
        | byte :: rest => if byte = code '"' then .ok (true, rest) else .error .malformed
      else .error .malformed

/-- The first field that has to be there and is not. -/
def missing? (shape : RecordShape Partial) (seen : List String) : Option String :=
  if shape.needsAll then (shape.fields.map (·.key)).find? (· ∉ seen) else none

/-- Read the members of an object into a record.  The keys of the known ones read so far are in
`seen`; `fuel` bounds the members by the bytes that hold them. -/
def readMembers (shape : RecordShape Partial) : (fuel : Nat) → (isFirst : Bool) →
    (seen : List String) → Partial → Bytes → Except JsonError (Partial × Bytes)
  | 0, _, _, _, _ => .error .unexpectedEnd
  | fuel + 1, isFirst, seen, result, input =>
      match nextKey? isFirst input with
      | .error error => .error error
      | .ok (false, rest) =>
          match shape.missing? seen with
          | some key => .error (.data (.missingField key))
          | none => .ok (result, rest)
      | .ok (true, rest) => do
          let (key, rest) ← readString rest
          match shape.fields.find? (·.key == key) with
          | some field =>
              if key ∈ seen then .error (.data (.duplicateField key))
              else do
                let rest ← expectColon rest
                let (result, rest) ← field.read result rest
                shape.readMembers fuel false (key :: seen) result rest
          | none => do
              let rest ← expectColon rest
              let rest ← skipValue rest
              shape.readMembers fuel false seen result rest

/-- Read a record. -/
def read (shape : RecordShape Partial) (input : Bytes) : Except JsonError (Partial × Bytes) :=
  match skipBlanks input with
  | [] => .error .unexpectedEnd
  | byte :: rest =>
      if byte = code '[' then do
        let (result, rest) ← shape.readItems shape.fields 0 shape.start rest
        return (result, ← closeList rest)
      else if byte = code '\x7b' then
        shape.readMembers (rest.length + 1) true [] shape.start rest
      else refuseType shape.name (byte :: rest)

end RecordShape

/-- Read one of some named values, written as its name or as an object whose only member has that
name and the value `null`. -/
def readVariant {Value : Type} (variants : List (String × Value)) (input : Bytes) :
    Except JsonError (Value × Bytes) :=
  let choose (name : String) : Except JsonError Value :=
    match variants.lookup name with
    | some value => .ok value
    | none => .error (.data (.unknownVariant name (variants.map (·.1))))
  match skipBlanks input with
  | [] => .error .unexpectedEnd
  | byte :: rest =>
      if byte = code '"' then do
        let (name, rest) ← readString rest
        return (← choose name, rest)
      else if byte = code '\x7b' then do
        let (name, rest) ← match skipBlanks rest with
          | [] => .error .unexpectedEnd
          | byte :: rest =>
              if byte = code '"' then readString rest else .error .malformed
        let value ← choose name
        let rest ← expectColon rest
        let rest ← match skipBlanks rest with
          | [] => .error .unexpectedEnd
          | byte :: rest =>
              if byte = code 'n' then expectLiteral [code 'u', code 'l', code 'l'] rest
              else refuseType "unit" (byte :: rest)
        match skipBlanks rest with
        | [] => .error .unexpectedEnd
        | byte :: rest => if byte = code '\x7d' then .ok (value, rest) else .error .malformed
      else .error .malformed

/-- Read a whole document: one value with nothing but blanks behind it. -/
def readDocument {Value : Type} (read : Bytes → Except JsonError (Value × Bytes))
    (input : Bytes) : Except JsonError Value := do
  let (value, rest) ← read input
  if (skipBlanks rest).isEmpty then return value else .error .malformed

end HitMonitor.Json
