/-!
# UTF-8

`decode` reads bytes into characters, with `none` for each longest stretch of bytes that begins a
character and does not end one, and for each byte that begins none. An ASCII byte is always read
as itself.
-/

namespace MetricWatch.Text.Utf8

/-- A character begun and not ended: the bytes still owed, the bounds of the next one, and the
bits read so far. -/
structure Pending where
  owed : Nat
  low : Nat
  high : Nat
  bits : Nat

/-- What a first byte begins: a whole character, a longer one, or nothing. -/
inductive Start
  | whole (c : Char)
  | longer (p : Pending)
  | stray

/-- The reading of a byte between characters. -/
def start (b : Nat) : Start :=
  if b < 0x80 then .whole (Char.ofNat b)
  else if 0xc2 ≤ b && b ≤ 0xdf then .longer ⟨1, 0x80, 0xbf, b - 0xc0⟩
  else if b == 0xe0 then .longer ⟨2, 0xa0, 0xbf, 0⟩
  else if b == 0xed then .longer ⟨2, 0x80, 0x9f, 0xd⟩
  else if 0xe1 ≤ b && b ≤ 0xef then .longer ⟨2, 0x80, 0xbf, b - 0xe0⟩
  else if b == 0xf0 then .longer ⟨3, 0x90, 0xbf, 0⟩
  else if b == 0xf4 then .longer ⟨3, 0x80, 0x8f, 4⟩
  else if 0xf1 ≤ b && b ≤ 0xf3 then .longer ⟨3, 0x80, 0xbf, b - 0xf0⟩
  else .stray

/-- The characters that a byte ends when it is read between characters, and what it begins. -/
def begin? (b : Nat) : List (Option Char) × Option Pending :=
  match start b with
  | .whole c => ([some c], none)
  | .longer p => ([], some p)
  | .stray => ([none], none)

/-- The characters that a byte ends, and what is pending after it. -/
def step (pending : Option Pending) (byte : UInt8) : List (Option Char) × Option Pending :=
  let b := byte.toNat
  match pending with
  | none => begin? b
  | some p =>
    if p.low ≤ b && b ≤ p.high then
      let bits := p.bits * 64 + (b - 0x80)
      if p.owed ≤ 1 then ([some (Char.ofNat bits)], none)
      else ([], some ⟨p.owed - 1, 0x80, 0xbf, bits⟩)
    else
      let (ended, next) := begin? b
      (none :: ended, next)

/-- The characters of the rest of a text, given what is pending. -/
def decodeFrom (pending : Option Pending) : List UInt8 → List (Option Char)
  | [] => if pending.isSome then [none] else []
  | b :: rest =>
    let (ended, next) := step pending b
    ended ++ decodeFrom next rest

/-- The characters of a text given by its bytes, `none` where they are not UTF-8. -/
def decode (bytes : List UInt8) : List (Option Char) := decodeFrom none bytes

/-- The text of bytes that are UTF-8 throughout. -/
def decode? (bytes : List UInt8) : Option String :=
  ((decode bytes).mapM id).map String.ofList

/-- The text of bytes, with the replacement character where they are not UTF-8. -/
def decodeLossy (bytes : List UInt8) : String :=
  String.ofList ((decode bytes).map fun c => c.getD '\uFFFD')

/-- The bytes of a text. -/
def encode (s : String) : List UInt8 := s.toUTF8.toList

end MetricWatch.Text.Utf8
