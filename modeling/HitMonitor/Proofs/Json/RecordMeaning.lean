import HitMonitor.Proofs.Json.Overlay
import Mathlib.Data.List.Forall2

/-!
# What records mean to their readers

A reader of records takes in members or items as they stand in the text.  What it makes of a text is
what the tree of the text gives for the fields, laid over the start of the record.
-/

namespace HitMonitor.Json

namespace RecordShape

variable {Partial : Type}

/-! ## Between values -/

theorem nextKey?_gap {isFirst : Bool} {gap : Bytes} (separate : Gap isFirst gap) (rest : Bytes) :
    nextKey? isFirst (gap ++ code '"' :: rest) = .ok (true, rest) := by
  cases separate with
  | first blank =>
      rw [nextKey?, skipBlanks_append blank, skipBlanks_cons (by rfl)]
      rfl
  | further blankBefore blankBehind =>
      rw [nextKey?, List.append_assoc, skipBlanks_append blankBefore, List.cons_append,
        skipBlanks_cons (by rfl)]
      simp only [skipBlanks_append blankBehind]
      rfl

theorem nextKey?_end (isFirst : Bool) {blanks : Bytes} (blank : Blank blanks) (rest : Bytes) :
    nextKey? isFirst (blanks ++ code '\x7d' :: rest) = .ok (false, rest) := by
  rw [nextKey?, skipBlanks_append blank, skipBlanks_cons (by rfl)]
  rfl

theorem expectColon_blanks {blanks : Bytes} (blank : Blank blanks) (rest : Bytes) :
    expectColon (blanks ++ code ':' :: rest) = .ok rest := by
  rw [expectColon, skipBlanks_append blank, skipBlanks_cons (by rfl)]
  rfl

theorem nextItem?_gap {isFirst : Bool} {gap text : Bytes} {tree : Tree}
    (separate : Gap isFirst gap) (writes : Writes (.value tree) text) (rest : Bytes) :
    nextItem? isFirst (gap ++ (text ++ rest)) = .ok (some (text ++ rest)) := by
  obtain ⟨byte, more, rfl, starts⟩ := writes.exists_start
  obtain ⟨solid, noEnd⟩ := ne_of_startsValue starts
  cases separate with
  | first blank =>
      rw [nextItem?, skipBlanks_append blank, List.cons_append, skipBlanks_cons solid]
      simp [noEnd]
  | further blankBefore blankBehind =>
      rw [nextItem?, List.append_assoc, skipBlanks_append blankBefore, List.cons_append,
        skipBlanks_cons (by rfl)]
      simp only [skipBlanks_append blankBehind, List.cons_append, skipBlanks_cons solid, if_neg noEnd]
      rfl

theorem nextItem?_end (isFirst : Bool) {blanks : Bytes} (blank : Blank blanks) (rest : Bytes) :
    nextItem? isFirst (blanks ++ code ']' :: rest) = .ok none := by
  rw [nextItem?, skipBlanks_append blank, skipBlanks_cons (by rfl)]
  rfl

theorem closeList_end {blanks : Bytes} (blank : Blank blanks) (rest : Bytes) :
    closeList (blanks ++ code ']' :: rest) = .ok rest := by
  rw [closeList, skipBlanks_append blank, skipBlanks_cons (by rfl)]
  rfl

theorem closeList_gap {isFirst : Bool} {gap text : Bytes} {tree : Tree}
    (separate : Gap isFirst gap) (writes : Writes (.value tree) text) (rest : Bytes) :
    (closeList (gap ++ (text ++ rest))).toOption = none := by
  obtain ⟨byte, more, rfl, starts⟩ := writes.exists_start
  obtain ⟨solid, noEnd⟩ := ne_of_startsValue starts
  cases separate with
  | first blank =>
      rw [closeList, skipBlanks_append blank, List.cons_append, skipBlanks_cons solid]
      simp [noEnd, Except.toOption]
  | further blankBefore blankBehind =>
      rw [closeList, List.append_assoc, skipBlanks_append blankBefore, List.cons_append,
        skipBlanks_cons (by rfl)]
      rfl

end RecordShape

/-! ## Fields -/

variable {Partial : Type}

/-- A field is read as its meaning says. -/
structure RecordField.Has (field : RecordField Partial) (meaning : FieldMeaning Partial) :
    Prop where
  key_eq : field.key = meaning.key
  means : ∀ result, Means (field.read result) fun tree => meaning.change? tree result

namespace RecordShape

/-- A record has fields with certain meanings, whose keys tell them apart and which do not get in
each other's way. -/
structure Has (shape : RecordShape Partial) (fields : List (FieldMeaning Partial)) : Prop where
  each : List.Forall₂ RecordField.Has shape.fields fields
  distinct : (fields.map (·.key)).Nodup
  commute : fields.Pairwise (·.Commutes ·)

/-- What a record with some fields means. -/
def meaning (shape : RecordShape Partial) (fields : List (FieldMeaning Partial)) (tree : Tree) :
    Option Partial :=
  (tree.given? (fields.map (·.key))).bind (overlaid? shape.needsAll fields shape.start)

variable {shape : RecordShape Partial} {fields : List (FieldMeaning Partial)}

/-- A record means nothing if one of its fields does not. -/
theorem meaning_eq_none {field : FieldMeaning Partial} (member : field ∈ fields) {tree inner : Tree}
    (found : tree.field? (fields.map (·.key)) field.key = some inner)
    (refused : field.meaning inner = none) : shape.meaning fields tree = none := by
  obtain ⟨given, isGiven, atKey⟩ := Option.bind_eq_some_iff.mp found
  rw [meaning, isGiven, Option.bind_some, overlaid?, overlay_eq_none member atKey refused]
  exact ite_self none

/-- A key leads to a field and to its meaning, or to neither. -/
theorem find?_of_forall₂ {found : List (RecordField Partial)}
    (each : List.Forall₂ RecordField.Has found fields) (name : String) :
    (∃ field meaning, found.find? (·.key == name) = some field ∧
      fields.find? (·.key == name) = some meaning ∧ field.Has meaning) ∨
    (found.find? (·.key == name) = none ∧ fields.find? (·.key == name) = none) := by
  induction each with
  | nil => exact .inr ⟨rfl, rfl⟩
  | @cons field meaning found fields has each ih =>
      by_cases here : meaning.key = name
      · exact .inl ⟨field, meaning, by simp [has.key_eq, here], by simp [here], has⟩
      · simpa [has.key_eq, here] using ih

theorem keys_of_forall₂ {found : List (RecordField Partial)}
    (each : List.Forall₂ RecordField.Has found fields) :
    found.map (·.key) = fields.map (·.key) := by
  induction each with
  | nil => rfl
  | cons has each ih => rw [List.map_cons, List.map_cons, has.key_eq, ih]

theorem missing?_eq_none_iff (has : shape.Has fields) {seen : List String} :
    shape.missing? seen = none ↔
      (shape.needsAll = true → ∀ field ∈ fields, field.key ∈ seen) := by
  rw [missing?, keys_of_forall₂ has.each]
  cases shape.needsAll <;> simp

/-! ## Members -/

theorem length_le_of_writes {isFirst : Bool} {members : List (List Piece × Tree)} {text : Bytes}
    (writes : Writes (.members isFirst members) text) : members.length ≤ text.length := by
  induction members generalizing isFirst text with
  | nil => exact Nat.zero_le _
  | cons member members ih =>
      cases writes with
      | member separate _ _ value further =>
          have behind := ih further
          simp only [List.length_append, List.length_cons]
          omega

/-- Members are read as they are taken. -/
theorem toOption_readMembers (has : shape.Has fields) {isFirst : Bool}
    {members : List (List Piece × Tree)} {text : Bytes}
    (writes : Writes (.members isFirst members) text) {fuel : Nat}
    (enough : members.length < fuel) (seen : List String) (result : Partial) (rest : Bytes) :
    (shape.readMembers fuel isFirst seen result (text ++ rest)).toOption =
      (takeMembers shape.needsAll fields seen result members).map (·, rest) := by
  induction members generalizing isFirst text fuel seen result with
  | nil =>
      obtain ⟨fuel, rfl⟩ := Nat.exists_eq_succ_of_ne_zero (Nat.ne_zero_of_lt enough)
      cases writes with
      | noMember blank =>
          rw [List.append_assoc, List.singleton_append, readMembers, nextKey?_end isFirst blank,
            takeMembers]
          simp only [← missing?_eq_none_iff has]
          cases shape.missing? seen with
          | none => rfl
          | some key => rfl
  | cons member members ih =>
      obtain ⟨fuel, rfl⟩ := Nat.exists_eq_succ_of_ne_zero (Nat.ne_zero_of_lt enough)
      cases writes with
      | @member _ key tree _ _ _ _ _ _ separate blankBefore blankBehind value further =>
          rw [append_member, readMembers, nextKey?_gap separate, takeMembers]
          simp only [toOption_bind, readString_spelled]
          cases content? key with
          | none => rfl
          | some name =>
              simp only [Option.map_some, Option.bind_some]
              rcases find?_of_forall₂ has.each name with
                ⟨field, meaning, found, means, same⟩ | ⟨found, means⟩
              · simp only [found, means]
                by_cases again : name ∈ seen
                · simp [again]
                · have read := same.means result value blankBehind
                    (further.delimited_members rest)
                  simp only [if_neg again, toOption_bind, expectColon_blanks blankBefore,
                    toOption_ok, Option.bind_some, read]
                  cases meaning.change? tree result with
                  | none => rfl
                  | some next => exact ih further (Nat.lt_of_succ_lt_succ enough) _ next
              · simp only [found, means, toOption_bind, expectColon_blanks blankBefore, toOption_ok,
                  Option.bind_some,
                  skipValue_of_writes value blankBehind (further.delimited_members rest)]
                exact ih further (Nat.lt_of_succ_lt_succ enough) seen result

/-! ## Items -/

/-- Items are read as they are taken, up to the closing bracket. -/
theorem toOption_readItems (shape : RecordShape Partial) {found : List (RecordField Partial)}
    (each : List.Forall₂ RecordField.Has found fields) {count : Nat} {items : List Tree}
    {text : Bytes} (writes : Writes (.items (count = 0) items) text) (result : Partial)
    (rest : Bytes) :
    Except.toOption (do
        let (result, rest) ← shape.readItems found count result (text ++ rest)
        return (result, ← closeList rest)) =
      (takeItems shape.needsAll fields result items).map (·, rest) := by
  induction each generalizing count items text result with
  | nil =>
      cases writes with
      | noItem blank =>
          simp only [readItems, ok_bind, List.append_assoc, List.singleton_append,
            closeList_end blank]
          rfl
      | item separate value further =>
          simp only [readItems, ok_bind, List.append_assoc, toOption_bind,
            closeList_gap separate value]
          rfl
  | @cons field meaning found fields has each ih =>
      cases writes with
      | noItem blank =>
          rw [List.append_assoc, List.singleton_append, readItems, nextItem?_end _ blank,
            takeItems]
          cases shape.needsAll with
          | true => rfl
          | false => simp [closeList_end blank]
      | @item _ tree items gap text furtherText separate value further =>
          have read := has.means result value blank_nil (further.delimited_items rest)
          simp only [List.nil_append] at read
          rw [List.append_assoc, List.append_assoc, readItems, nextItem?_gap separate value,
            takeItems]
          cases change : meaning.change? tree result with
          | none =>
              rw [change] at read
              obtain ⟨error, reading⟩ := toOption_eq_none_iff.mp read
              simp only [reading]
              rfl
          | some next =>
              rw [change] at read
              simp only [toOption_eq_some_iff.mp read]
              exact @ih (count + 1) items furtherText further next

/-- A record is read from each of its texts as what is given there, whether it is written as an
object or as a list. -/
theorem means_read (has : shape.Has fields) : Means shape.read (shape.meaning fields) := by
  have refuses {byte : UInt8} (noRecord : byte ≠ code '[' ∧ byte ≠ code '\x7b')
      (solid : isBlank byte = false) (rest : Bytes) :
      (shape.read (byte :: rest)).toOption = none := by
    rw [RecordShape.read, skipBlanks_cons solid]
    simp only [if_neg noRecord.1, if_neg noRecord.2, toOption_refuseType]
  intro tree text writes blanks rest blank delimited
  have front : shape.read (blanks ++ (text ++ rest)) = shape.read (text ++ rest) := by
    rw [RecordShape.read, skipBlanks_append blank]
    rfl
  rw [front]
  cases writes with
  | null => exact refuses (by decide) rfl _
  | yes => exact refuses (by decide) rfl _
  | no => exact refuses (by decide) rfl _
  | string => exact refuses (by decide) rfl _
  | number numeral =>
      obtain ⟨byte, more, bytes, sign | digit⟩ := numeral.exists_start
      · rw [bytes, sign]
        exact refuses (by decide) rfl _
      · rw [bytes]
        exact refuses ⟨ne_of_isDigit digit rfl, ne_of_isDigit digit rfl⟩ (isBlank_of_isDigit digit) _
  | @list items text inner =>
      have taken := @toOption_readItems _ _ shape _ has.each 0 items text inner shape.start rest
      rw [takeItems_eq has.distinct] at taken
      rw [List.cons_append, RecordShape.read, skipBlanks_cons (by rfl)]
      exact taken
  | @object members text inner =>
      have enough : members.length < (text ++ rest).length + 1 := by
        have bounded := length_le_of_writes inner
        rw [List.length_append]
        omega
      have members := toOption_readMembers has inner enough [] shape.start rest
      rw [takeMembers_eq has.distinct has.commute] at members
      rw [List.cons_append, RecordShape.read, skipBlanks_cons (by rfl)]
      exact members

end RecordShape

end HitMonitor.Json
