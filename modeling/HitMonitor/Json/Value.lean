/-!
# Written documents

The documents this library writes hold naturals, texts, lists and objects whose members keep their
order.  `compact` writes one without blanks; `pretty` puts every member on a line of its own.
-/

namespace HitMonitor

inductive Json where
  | null
  | natural (value : Nat)
  /-- A text of characters that need no escape. -/
  | text (value : String)
  | list (items : List Json)
  | object (members : List (String × Json))

namespace Json

/-- A text between quotes. -/
def quotedKey (key : String) : List Char := '"' :: key.toList ++ ['"']

/-- Pieces of text with a separator between them. -/
def separated (separator : List Char) (pieces : List (List Char)) : List Char :=
  separator.intercalate pieces

/-- The characters of a document without blanks. -/
def compactChars : Json → List Char
  | .null => "null".toList
  | .natural value => (toString value).toList
  | .text value => quotedKey value
  | .list items =>
      '[' :: separated [','] (items.attach.map fun ⟨item, _⟩ => item.compactChars) ++ [']']
  | .object members =>
      '\x7b' :: separated [',']
        (members.attach.map fun ⟨(key, value), _⟩ => quotedKey key ++ ':' :: value.compactChars) ++
        ['\x7d']
termination_by document => document
decreasing_by
  · have smaller := List.sizeOf_lt_of_mem ‹_ ∈ items›
    simp only [list.sizeOf_spec]
    omega
  · have smaller := List.sizeOf_lt_of_mem ‹_ ∈ members›
    simp only [Prod.mk.sizeOf_spec] at smaller
    simp only [object.sizeOf_spec]
    omega

/-- A document without blanks. -/
def compact (document : Json) : String := String.ofList document.compactChars

/-- An object with one member on each line, indented by two blanks. -/
def prettyObject (members : List (String × Json)) : String :=
  if members.isEmpty then "\x7b\x7d"
  else
    "\x7b\n" ++
      ",\n".intercalate (members.map fun (key, value) =>
        "  \"" ++ key ++ "\": " ++ value.compact) ++
      "\n\x7d"

end Json

end HitMonitor
