/-!
# Bytes as text

Bytes are cut into pieces: the characters that they encode, and the shortest stretches that encode
none. `pieces` does the cutting, one byte after the other. A broken stretch ends before the first
byte that cannot belong to it, and that byte starts the next piece.
-/

set_option autoImplicit false

namespace Custody.Text

inductive Piece where
  | char (c : Char)
  | broken (size : Nat)
  | cutOff (size : Nat)
deriving DecidableEq

/-- A character under way: how many bytes it has so far, how many are missing, the range that the
next one must be in, and the bits collected. -/
structure Partial where
  seen : Nat
  missing : Nat
  low : UInt8
  high : UInt8
  bits : Nat

def Partial.ofLead? (b : UInt8) : Option Partial :=
  if 0xC2 ≤ b ∧ b ≤ 0xDF then some ⟨1, 1, 0x80, 0xBF, b.toNat - 0xC0⟩
  else if b = 0xE0 then some ⟨1, 2, 0xA0, 0xBF, 0⟩
  else if b = 0xED then some ⟨1, 2, 0x80, 0x9F, 13⟩
  else if 0xE1 ≤ b ∧ b ≤ 0xEF then some ⟨1, 2, 0x80, 0xBF, b.toNat - 0xE0⟩
  else if b = 0xF0 then some ⟨1, 3, 0x90, 0xBF, 0⟩
  else if 0xF1 ≤ b ∧ b ≤ 0xF3 then some ⟨1, 3, 0x80, 0xBF, b.toNat - 0xF0⟩
  else if b = 0xF4 then some ⟨1, 3, 0x80, 0x8F, 4⟩
  else none

/-- Starts a piece: what is complete at once, and what is under way then. -/
def startPiece (b : UInt8) : List Piece × Option Partial :=
  if b < 0x80 then ([.char (Char.ofNat b.toNat)], none)
  else
    match Partial.ofLead? b with
    | some p => ([], some p)
    | none => ([.broken 1], none)

/-- Goes on by one byte: the pieces that are complete then, and what is under way. -/
def nextByte (state : Option Partial) (b : UInt8) : List Piece × Option Partial :=
  match state with
  | none => startPiece b
  | some p =>
      if p.low ≤ b ∧ b ≤ p.high then
        let bits := p.bits * 64 + (b.toNat - 0x80)
        if p.missing ≤ 1 then ([.char (Char.ofNat bits)], none)
        else ([], some ⟨p.seen + 1, p.missing - 1, 0x80, 0xBF, bits⟩)
      else
        let (done, state) := startPiece b
        (.broken p.seen :: done, state)

def piecesFrom : Option Partial → List UInt8 → List Piece
  | none, [] => []
  | some p, [] => [.cutOff p.seen]
  | state, b :: rest =>
      let (done, state) := nextByte state b
      done ++ piecesFrom state rest

def pieces (bytes : List UInt8) : List Piece := piecesFrom none bytes

structure Utf8Error where
  validUpTo : Nat
  /-- The number of bytes that are not, unless the end cuts them off. -/
  errorLength : Option Nat

def Utf8Error.message (e : Utf8Error) : String :=
  match e.errorLength with
  | some n =>
      "invalid utf-8 sequence of " ++ toString n ++ " bytes from index " ++ toString e.validUpTo
  | none => "incomplete utf-8 byte sequence from index " ++ toString e.validUpTo

/-- The characters of pieces that are all characters, or the first one that is not. -/
def charsOf (before : Nat) : List Piece → Except Utf8Error (List Char)
  | [] => .ok []
  | .char c :: rest => do
      let cs ← charsOf (before + c.utf8Size) rest
      return c :: cs
  | .broken size :: _ => .error ⟨before, some size⟩
  | .cutOff _ :: _ => .error ⟨before, none⟩

def ofUtf8 (bytes : List UInt8) : Except Utf8Error String := do
  return String.ofList (← charsOf 0 (pieces bytes))

def replacement : Char := '\ufffd'

def ofUtf8Lossy (bytes : List UInt8) : String :=
  String.ofList <| (pieces bytes).map fun
    | .char c => c
    | .broken _ | .cutOff _ => replacement

end Custody.Text
