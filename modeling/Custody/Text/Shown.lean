import Custody.Text.Quoted

/-!
# Diagnostic shapes

A diagnostic shows a value by its parts. `Shown` is the shape, and it is written in two ways: on one
line (`Shown.inline`), or with one part on a line and four blanks per level (`Shown.indented`).
-/

set_option autoImplicit false

namespace Custody.Text

inductive Shown where
  /-- A leaf; the second text is the one used when parts stand on lines of their own. -/
  | leaf (compact spread : String)
  | record (name : String) (fields : List (String × Shown))
  | tuple (name : String) (parts : List Shown)
  | sequence (parts : List Shown)

namespace Shown

def text (s : String) : Shown := .leaf s s

def quoted (s : String) : Shown := .text (quote s)

def number (n : Nat) : Shown := .text (toString n)

mutual

def inline : Shown → String
  | .leaf compact _ => compact
  | .record name fields =>
      if fields.isEmpty then name
      else name ++ " \x7b " ++ String.intercalate ", " (inlineFields fields) ++ " \x7d"
  | .tuple name parts =>
      if parts.isEmpty then name
      else name ++ "(" ++ String.intercalate ", " (inlineParts parts) ++ ")"
  | .sequence parts => "[" ++ String.intercalate ", " (inlineParts parts) ++ "]"

def inlineParts : List Shown → List String
  | [] => []
  | part :: rest => part.inline :: inlineParts rest

def inlineFields : List (String × Shown) → List String
  | [] => []
  | (name, part) :: rest => (name ++ ": " ++ part.inline) :: inlineFields rest

end

/-- Puts a text on lines of its own, four blanks to the right and closed by a comma. -/
def shifted (s : String) : String :=
  "    " ++ String.intercalate "\n    " (s.splitOn "\n") ++ ",\n"

mutual

def indented : Shown → String
  | .leaf _ spread => spread
  | .record name fields =>
      if fields.isEmpty then name
      else name ++ " \x7b\n" ++ String.join (indentedFields fields) ++ "\x7d"
  | .tuple name parts =>
      if parts.isEmpty then name
      else name ++ "(\n" ++ String.join (indentedParts parts) ++ ")"
  | .sequence parts =>
      if parts.isEmpty then "[]"
      else "[\n" ++ String.join (indentedParts parts) ++ "]"

def indentedParts : List Shown → List String
  | [] => []
  | part :: rest => shifted part.indented :: indentedParts rest

def indentedFields : List (String × Shown) → List String
  | [] => []
  | (name, part) :: rest => shifted (name ++ ": " ++ part.indented) :: indentedFields rest

end

end Shown

end Custody.Text
