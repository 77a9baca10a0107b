import HelpCenter.Text.Basic

/-!
# UTF-8

Encoding refuses surrogates. Decoding is strict, or it drops or marks the bytes that are no part of
a character: the longest start of a well-formed sequence that breaks off counts as one piece.
-/

namespace HelpCenter

/-- A sequence of bytes. -/
abbrev Bytes := List UInt8

namespace CodePoint

/-- The UTF-8 bytes of a code point. -/
def utf8 (c : CodePoint) : Bytes :=
  let n := c.toNat
  if n < 0x80 then [n.toUInt8]
  else if n < 0x800 then [(0xC0 + n / 64).toUInt8, (0x80 + n % 64).toUInt8]
  else if n < 0x10000 then
    [(0xE0 + n / 4096).toUInt8, (0x80 + n / 64 % 64).toUInt8, (0x80 + n % 64).toUInt8]
  else
    [(0xF0 + n / 262144).toUInt8, (0x80 + n / 4096 % 64).toUInt8, (0x80 + n / 64 % 64).toUInt8,
      (0x80 + n % 64).toUInt8]

/-- How many bytes the code point takes. -/
def utf8Length (c : CodePoint) : Nat :=
  if c.toNat < 0x80 then 1 else if c.toNat < 0x800 then 2 else if c.toNat < 0x10000 then 3 else 4

end CodePoint

namespace Text

/-- The UTF-8 bytes of the text, unless it holds a surrogate. -/
def toUtf8? (t : Text) : Option Bytes :=
  if t.isEncodable then some (t.flatMap CodePoint.utf8) else none

end Text

namespace Utf8

/-- What stands at the front of a sequence of bytes: a character, or bytes that are none. -/
inductive Front where
  | char (c : CodePoint) (rest : Bytes)
  | broken (rest : Bytes)

/-- Whether a byte continues a sequence, given the bounds that its place imposes. -/
def continues (lo hi b : UInt8) : Bool := lo ≤ b && b ≤ hi

/-- The low six bits. -/
def payload (b : UInt8) : Nat := b.toNat % 64

/-- Reads the front, whose first byte is `b`. -/
def front (b : UInt8) (rest : Bytes) : Front :=
  if b < 0x80 then .char (CodePoint.ofNat b.toNat) rest
  else if b < 0xC2 then .broken rest
  else if b < 0xE0 then
    match rest with
    | c :: rest' =>
      if continues 0x80 0xBF c then .char (CodePoint.ofNat ((b.toNat - 0xC0) * 64 + payload c)) rest'
      else .broken rest
    | [] => .broken []
  else if b < 0xF0 then
    let lo := if b = 0xE0 then 0xA0 else 0x80
    let hi := if b = 0xED then 0x9F else 0xBF
    match rest with
    | c :: rest' =>
      if continues lo hi c then
        match rest' with
        | d :: rest'' =>
          if continues 0x80 0xBF d then
            .char (CodePoint.ofNat ((b.toNat - 0xE0) * 4096 + payload c * 64 + payload d)) rest''
          else .broken rest'
        | [] => .broken []
      else .broken rest
    | [] => .broken []
  else if b < 0xF5 then
    let lo := if b = 0xF0 then 0x90 else 0x80
    let hi := if b = 0xF4 then 0x8F else 0xBF
    match rest with
    | c :: rest' =>
      if continues lo hi c then
        match rest' with
        | d :: rest'' =>
          if continues 0x80 0xBF d then
            match rest'' with
            | e :: rest''' =>
              if continues 0x80 0xBF e then
                .char (CodePoint.ofNat
                  ((b.toNat - 0xF0) * 262144 + payload c * 4096 + payload d * 64 + payload e)) rest'''
              else .broken rest''
            | [] => .broken []
          else .broken rest'
        | [] => .broken []
      else .broken rest
    | [] => .broken []
  else .broken rest

/-! ## What is wrong with bytes -/

/-- Why bytes are no part of a character. -/
inductive Flaw where
  | invalidStart
  | invalidContinuation
  | unexpectedEnd
deriving DecidableEq

/-- The first bytes that are no part of a character. -/
structure Fault where
  /-- The number of bytes before them. -/
  position : Nat
  /-- The first of them. -/
  byte : UInt8
  length : Nat
  flaw : Flaw
deriving DecidableEq

/-- The text of a flaw. -/
def Flaw.message : Flaw → Text
  | .invalidStart => lit "invalid start byte"
  | .invalidContinuation => lit "invalid continuation byte"
  | .unexpectedEnd => lit "unexpected end of data"

/-- The text of a fault. -/
def Fault.message (f : Fault) : Text :=
  let bytes :=
    if f.length = 1 then
      lit "byte 0x" ++ Text.hexPadded 2 f.byte.toNat ++ lit " in position " ++ Text.ofNat f.position
    else
      lit "bytes in position " ++ Text.ofNat f.position ++ lit "-" ++
        Text.ofNat (f.position + f.length - 1)
  lit "'utf-8' codec can't decode " ++ bytes ++ lit ": " ++ f.flaw.message

/-- Whether a character can start with a byte. -/
def starts (b : UInt8) : Bool := b < 0x80 || (0xC2 ≤ b && b < 0xF5)

/-- The fault of the broken bytes between a position, where `b` stands, and `rest`. -/
def faultAt (position length : Nat) (b : UInt8) (rest : Bytes) : Fault where
  position
  byte := b
  length
  flaw :=
    if !starts b then .invalidStart
    else if rest.isEmpty then .unexpectedEnd
    else .invalidContinuation

/-! ## Decoding -/

/-- Reads at most `fuel` characters behind the first `position` bytes; the first bytes that are no
part of one are a fault. -/
def decodeFrom : (fuel position : Nat) → Bytes → Except Fault Text
  | _, _, [] => .ok []
  | 0, position, b :: rest => .error (faultAt position 0 b rest)
  | fuel + 1, position, b :: rest =>
    match front b rest with
    | .char c rest' => do
      let text ← decodeFrom fuel (position + c.utf8Length) rest'
      return c :: text
    | .broken rest' => .error (faultAt position (rest.length + 1 - rest'.length) b rest')

/-- The text of well-formed bytes, or what is wrong with them. -/
def decode (bytes : Bytes) : Except Fault Text := decodeFrom bytes.length 0 bytes

/-- Reads at most `fuel` characters; `mark` stands for bytes that are no part of one. -/
def decodeMarking (mark : Text) : (fuel : Nat) → Bytes → Text
  | _, [] => []
  | 0, _ :: _ => []
  | fuel + 1, b :: rest =>
    match front b rest with
    | .char c rest' => c :: decodeMarking mark fuel rest'
    | .broken rest' => mark ++ decodeMarking mark fuel rest'

/-- The text of the bytes without those that are no part of a character. -/
def decodeLenient (bytes : Bytes) : Text := decodeMarking [] bytes.length bytes

/-- The text of the bytes with the replacement character for those that are no part of a
character. -/
def decodeReplacing (bytes : Bytes) : Text :=
  decodeMarking [CodePoint.replacement] bytes.length bytes

end Utf8

end HelpCenter
