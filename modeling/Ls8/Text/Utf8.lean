/-! # Text in bytes

UTF-8. `scan` cuts a byte sequence into characters and maximal ill-formed pieces: a piece ends as
soon as no well-formed sequence could continue it, and the byte that ended it is looked at again.
Strict decoding needs every piece to be a character; lenient decoding shows each ill-formed piece
as one replacement character. -/

namespace Ls8.Text.Utf8

/-- A sequence that has begun: how many bytes it still needs, the range in which the next of them
must lie, and the value of the bits read so far. -/
structure Pending where
  missing : Nat
  low : UInt8
  high : UInt8
  value : Nat

/-- What a byte at the start of a longer sequence announces. The ranges exclude over-long forms,
surrogates and values past the last code point. -/
def Pending.ofLead? (b : UInt8) : Option Pending :=
  if 0xc2 ≤ b && b ≤ 0xdf then some ⟨1, 0x80, 0xbf, b.toNat - 0xc0⟩
  else if b == 0xe0 then some ⟨2, 0xa0, 0xbf, 0⟩
  else if b == 0xed then some ⟨2, 0x80, 0x9f, 0xd⟩
  else if 0xe1 ≤ b && b ≤ 0xef then some ⟨2, 0x80, 0xbf, b.toNat - 0xe0⟩
  else if b == 0xf0 then some ⟨3, 0x90, 0xbf, 0⟩
  else if 0xf1 ≤ b && b ≤ 0xf3 then some ⟨3, 0x80, 0xbf, b.toNat - 0xf0⟩
  else if b == 0xf4 then some ⟨3, 0x80, 0x8f, 4⟩
  else none

/-- The value after one more continuation byte. -/
def Pending.extend (p : Pending) (b : UInt8) : Nat := p.value * 64 + (b.toNat - 0x80)

/-- What a byte at the start of a sequence completes, and what it leaves begun. -/
def start (b : UInt8) : List (Option Char) × Option Pending :=
  if b < 0x80 then ([some (Char.ofNat b.toNat)], none)
  else match Pending.ofLead? b with
    | some p => ([], some p)
    | none => ([none], none)

/-- What a byte completes after what has begun before it, and what it leaves begun. -/
def advance : Option Pending → UInt8 → List (Option Char) × Option Pending
  | none, b => start b
  | some p, b =>
    if p.low ≤ b && b ≤ p.high then
      if p.missing ≤ 1 then ([some (Char.ofNat (p.extend b))], none)
      else ([], some ⟨p.missing - 1, 0x80, 0xbf, p.extend b⟩)
    else (none :: (start b).1, (start b).2)

/-- The characters (`some`) and the maximal ill-formed pieces (`none`) of a byte sequence, after
what has begun before it. -/
def scanFrom : Option Pending → List UInt8 → List (Option Char)
  | none, [] => []
  | some _, [] => [none]
  | pending, b :: rest => (advance pending b).1 ++ scanFrom (advance pending b).2 rest

/-- The characters and the maximal ill-formed pieces of a byte sequence. -/
def scan (bytes : List UInt8) : List (Option Char) := scanFrom none bytes

/-- The text of a byte sequence, if it is well formed throughout. -/
def decode? (bytes : List UInt8) : Option (List Char) := (scan bytes).mapM id

/-- The text of a byte sequence, with U+FFFD for each maximal ill-formed piece. -/
def decodeLenient (bytes : List UInt8) : List Char := (scan bytes).map (·.getD '\uFFFD')

/-- The bytes of a text. -/
def encode (s : String) : List UInt8 := s.toList.flatMap String.utf8EncodeChar

@[simp] theorem scan_nil : scan [] = [] := rfl

/-- An ASCII byte stands for itself, whatever follows. -/
theorem scan_cons_ascii {b : UInt8} (h : b < 0x80) (rest : List UInt8) :
    scan (b :: rest) = some (Char.ofNat b.toNat) :: scan rest := by
  simp [scan, scanFrom, advance, start, h]

end Ls8.Text.Utf8
