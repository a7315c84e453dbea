/-!
# The lexical ground of TOML

Readers take the characters to come and return what they read with the characters after it, or
nothing where the text is malformed. Here are the ones for what stands between values: blanks, line
ends and comments.
-/

set_option autoImplicit false

namespace Custody.Toml

abbrev Reader (α : Type) := List Char → Option (α × List Char)

def isBlank (c : Char) : Bool := c == ' ' || c == '\t'

def skipBlanks (cs : List Char) : List Char := cs.dropWhile isBlank

/-- Whether a character may stand in a line: no control except the tab. -/
def isText (c : Char) : Bool := c == '\t' || (0x20 ≤ c.toNat && c.toNat != 0x7f)

/-- Skips an end of line. A carriage return is none by itself. -/
def skipNewline? : List Char → Option (List Char)
  | '\n' :: rest => some rest
  | '\r' :: '\n' :: rest => some rest
  | _ => none

/-- Skips what may follow at the end of a line: blanks, a comment, and the end of the line or of the
text. -/
def skipLineEnd? (cs : List Char) : Option (List Char) :=
  let cs := skipBlanks cs
  let cs :=
    match cs with
    | '#' :: rest => rest.dropWhile isText
    | cs => cs
  match cs with
  | [] => some []
  | cs => skipNewline? cs

/-- Skips blanks, ends of lines and comments. The flag says whether a comment is being skipped. -/
def skipSpaceFrom? : (inComment : Bool) → List Char → Option (List Char)
  | _, [] => some []
  | _, '\n' :: rest => skipSpaceFrom? false rest
  | _, '\r' :: '\n' :: rest => skipSpaceFrom? false rest
  | true, c :: rest => if isText c then skipSpaceFrom? true rest else none
  | false, c :: rest =>
      if isBlank c then skipSpaceFrom? false rest
      else if c = '#' then skipSpaceFrom? true rest
      else some (c :: rest)

def skipSpace? (cs : List Char) : Option (List Char) := skipSpaceFrom? false cs

end Custody.Toml
