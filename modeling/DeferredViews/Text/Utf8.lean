import DeferredViews.Text.Digit

/-!
# Reading bytes as UTF-8

Decoding is strict: the first byte sequence that no character has is an error. The error tells the
position and length of the offending bytes: one byte when no character starts so, the well-formed
beginning of a character when a byte that does not continue it follows, and all that is left when
the text ends inside a character.
-/
namespace DeferredViews.Text

inductive Utf8Fault where
  | badStart
  | badContinuation
  | truncated
  deriving DecidableEq, Repr

/-- The first undecodable bytes: where they start, the bytes, and what is wrong with them. -/
structure Utf8Error where
  position : Nat
  bytes : List Nat
  fault : Utf8Fault
  deriving DecidableEq, Repr

def Utf8Fault.text : Utf8Fault → String
  | .badStart => "invalid start byte"
  | .badContinuation => "invalid continuation byte"
  | .truncated => "unexpected end of data"

def Utf8Error.message (e : Utf8Error) : String :=
  let at_ : String :=
    match e.bytes with
    | [b] => "byte 0x" ++ String.ofList (toHex 2 b) ++ " in position " ++ toString e.position
    | bs => "bytes in position " ++ toString e.position ++ "-" ++
        toString (e.position + bs.length - 1)
  "'utf-8' codec can't decode " ++ at_ ++ ": " ++ e.fault.text

/-- How a character may start: how many more bytes it has, the least and the greatest second byte,
and the bits that the first byte contributes. -/
def leadByte (b : Nat) : Option (Nat × Nat × Nat × Nat) :=
  if b < 0xC2 then none
  else if b < 0xE0 then some (1, 0x80, 0xBF, b - 0xC0)
  else if b = 0xE0 then some (2, 0xA0, 0xBF, 0)
  else if b = 0xED then some (2, 0x80, 0x9F, b - 0xE0)
  else if b < 0xF0 then some (2, 0x80, 0xBF, b - 0xE0)
  else if b = 0xF0 then some (3, 0x90, 0xBF, 0)
  else if b < 0xF4 then some (3, 0x80, 0xBF, b - 0xF0)
  else if b = 0xF4 then some (3, 0x80, 0x8F, 4)
  else none

/-- Read `more` continuation bytes, the first of them between `low` and `high`. The answer is the
code point, or how many bytes continued the character before it went wrong. -/
def continuation : Nat → Nat → Nat → Nat → List Nat → Except (Nat × Utf8Fault) Nat
  | 0, _, _, acc, _ => .ok acc
  | _ + 1, _, _, _, [] => .error (0, .truncated)
  | more + 1, low, high, acc, b :: rest =>
    if low ≤ b ∧ b ≤ high then
      match continuation more 0x80 0xBF (acc * 64 + (b - 0x80)) rest with
      | .ok n => .ok n
      | .error (k, f) => .error (k + 1, f)
    else .error (0, .badContinuation)

/-- Decode one character of a non-empty text: the character and the number of its bytes. -/
def decodeChar (position b : Nat) (rest : List Nat) : Except Utf8Error (Char × Nat) :=
  if b < 0x80 then .ok (Char.ofNat b, 1)
  else
    match leadByte b with
    | none => .error ⟨position, [b], .badStart⟩
    | some (more, low, high, acc) =>
      match continuation more low high acc rest with
      | .ok n => .ok (Char.ofNat n, more + 1)
      | .error (k, f) => .error ⟨position, b :: rest.take k, f⟩

/-- Decode from a position on; `skip` bytes belong to the character just read. -/
def decodeFrom : Nat → Nat → List Nat → Except Utf8Error (List Char)
  | _, _, [] => .ok []
  | position, skip + 1, _ :: rest => decodeFrom (position + 1) skip rest
  | position, 0, b :: rest =>
    match decodeChar position b rest with
    | .error e => .error e
    | .ok (c, size) =>
      match decodeFrom (position + 1) (size - 1) rest with
      | .error e => .error e
      | .ok cs => .ok (c :: cs)

/-- Decode a whole text. -/
def decodeUtf8 (bytes : List Nat) : Except Utf8Error (List Char) := decodeFrom 0 0 bytes

/-- The bytes of a character. -/
def encodeChar (c : Char) : List Nat :=
  let n := c.toNat
  if n < 0x80 then [n]
  else if n < 0x800 then [0xC0 + n / 64, 0x80 + n % 64]
  else if n < 0x10000 then [0xE0 + n / 4096, 0x80 + n / 64 % 64, 0x80 + n % 64]
  else [0xF0 + n / 262144, 0x80 + n / 4096 % 64, 0x80 + n / 64 % 64, 0x80 + n % 64]

def encodeUtf8 (s : List Char) : List Nat := s.flatMap encodeChar

end DeferredViews.Text
