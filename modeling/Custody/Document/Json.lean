import Custody.Decimal.Notation
import Custody.Document.Basic
import Custody.Text.Quoted

/-!
# Documents as JSON

JSON texts of documents, on one line (`Document.toJson`) or with one item on a line and two blanks
per level (`Document.toPrettyJson`). A moment has no JSON form and is written as null.
-/

set_option autoImplicit false

namespace Custody.Document

open Text (paddedHexDigits)

/-- One character inside a JSON string. Controls are escaped, all else stands for itself. -/
def jsonChar (c : Char) : String :=
  match c with
  | '"' => "\\\""
  | '\\' => "\\\\"
  | '\n' => "\\n"
  | '\r' => "\\r"
  | '\t' => "\\t"
  | '\x08' => "\\b"
  | '\x0c' => "\\f"
  | c => if c.toNat < 0x20 then "\\u" ++ paddedHexDigits 4 c.toNat else c.toString

def jsonText (s : String) : String :=
  "\"" ++ String.join (s.toList.map jsonChar) ++ "\""

/-- A float as a JSON number. What is not finite has no JSON form and is written as null. -/
def jsonFloat (x : Float) : String :=
  if x.isNaN || x.isInf then "null" else Decimal.write .compact x

mutual

def toJson : Document → String
  | .null | .moment => "null"
  | .boolean value => if value then "true" else "false"
  | .integer value => toString value
  | .float value => jsonFloat value
  | .text value => jsonText value
  | .sequence items => "[" ++ String.intercalate "," (itemsToJson items) ++ "]"
  | .mapping entries => "\x7b" ++ String.intercalate "," (entriesToJson entries) ++ "\x7d"

def itemsToJson : List Document → List String
  | [] => []
  | item :: rest => item.toJson :: itemsToJson rest

def entriesToJson : List (String × Document) → List String
  | [] => []
  | (key, value) :: rest => (jsonText key ++ ":" ++ value.toJson) :: entriesToJson rest

end

def jsonBlock (indentation opening closing : String) (lines : List String) : String :=
  if lines.isEmpty then opening ++ closing
  else
    let inner := indentation ++ "  "
    opening ++ "\n" ++ inner ++ String.intercalate (",\n" ++ inner) lines ++
      "\n" ++ indentation ++ closing

mutual

def toPrettyJsonAt (indentation : String) : Document → String
  | .null | .moment => "null"
  | .boolean value => if value then "true" else "false"
  | .integer value => toString value
  | .float value => jsonFloat value
  | .text value => jsonText value
  | .sequence items =>
      jsonBlock indentation "[" "]" (itemsToPrettyJson (indentation ++ "  ") items)
  | .mapping entries =>
      jsonBlock indentation "\x7b" "\x7d" (entriesToPrettyJson (indentation ++ "  ") entries)

def itemsToPrettyJson (indentation : String) : List Document → List String
  | [] => []
  | item :: rest => item.toPrettyJsonAt indentation :: itemsToPrettyJson indentation rest

def entriesToPrettyJson (indentation : String) : List (String × Document) → List String
  | [] => []
  | (key, value) :: rest =>
      (jsonText key ++ ": " ++ value.toPrettyJsonAt indentation) ::
        entriesToPrettyJson indentation rest

end

def toPrettyJson (d : Document) : String := d.toPrettyJsonAt ""

end Custody.Document
