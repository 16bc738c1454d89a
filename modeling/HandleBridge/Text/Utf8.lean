/-
  Bytes read as UTF-8. `decode?` takes well-formed bytes only; `decodeLossy` takes any bytes and
  puts one U+FFFD in the place of every longest ill-formed start.
-/

namespace HandleBridge.Text.Utf8

/-- The text whose UTF-8 form is `bytes`, if there is one. -/
def decode? (bytes : ByteArray) : Option String := String.fromUTF8? bytes

/-- The UTF-8 form of a text. -/
def encode (s : String) : ByteArray := s.toUTF8

/-- What stands for bytes that are no character. -/
def replacement : Char := '\ufffd'

/-- A continuation byte `10xxxxxx`. -/
def isContinuation (b : UInt8) : Bool := 0x80 ≤ b && b ≤ 0xbf

/-- The bits that a continuation byte carries. -/
def payload (b : UInt8) : Nat := b.toNat % 64

/-- The bytes that may stand second after the first byte `b` of a longer sequence: this is where
overlong forms, surrogates and values above U+10FFFF are refused. -/
def secondRange (b : UInt8) : UInt8 × UInt8 :=
  if b == 0xe0 then (0xa0, 0xbf)
  else if b == 0xed then (0x80, 0x9f)
  else if b == 0xf0 then (0x90, 0xbf)
  else if b == 0xf4 then (0x80, 0x8f)
  else (0x80, 0xbf)

/-- How many bytes follow the first byte `b` of a sequence; none if `b` starts no longer one. -/
def followers (b : UInt8) : Nat :=
  if 0xc2 ≤ b && b ≤ 0xdf then 1
  else if 0xe0 ≤ b && b ≤ 0xef then 2
  else if 0xf0 ≤ b && b ≤ 0xf4 then 3
  else 0

/-- Reads `n` more continuation bytes onto the value read so far, as far as they go. -/
def continue? (value : Nat) : Nat → List UInt8 → Option Nat × List UInt8
  | 0, rest => (some value, rest)
  | _ + 1, [] => (none, [])
  | n + 1, b :: rest =>
    if isContinuation b then continue? (value * 64 + payload b) n rest else (none, b :: rest)

theorem continue?_length (value n : Nat) (bs : List UInt8) :
    (continue? value n bs).2.length ≤ bs.length := by
  induction n generalizing value bs with
  | zero => simp [continue?]
  | succ n ih =>
    cases bs with
    | nil => simp [continue?]
    | cons b rest =>
      simp only [continue?]
      split
      · exact Nat.le_succ_of_le (ih _ _)
      · exact Nat.le_refl _

/-- The bits that the first byte of a sequence with `n` followers carries. -/
def leadPayload (b : UInt8) (n : Nat) : Nat := b.toNat % (1 <<< (6 - n))

/-- Takes one character, or one longest ill-formed start, off the front. -/
def next (b : UInt8) (rest : List UInt8) : Char × List UInt8 :=
  if b < 0x80 then (Char.ofNat b.toNat, rest)
  else
    match followers b, rest with
    | 0, _ => (replacement, rest)
    | _ + 1, [] => (replacement, [])
    | n + 1, b₂ :: tail =>
      if (secondRange b).1 ≤ b₂ && b₂ ≤ (secondRange b).2 then
        match continue? (leadPayload b (n + 1) * 64 + payload b₂) n tail with
        | (some value, rest') => (Char.ofNat value, rest')
        | (none, rest') => (replacement, rest')
      else (replacement, b₂ :: tail)

theorem next_length (b : UInt8) (rest : List UInt8) : (next b rest).2.length ≤ rest.length := by
  unfold next
  split
  · exact Nat.le_refl _
  · split
    · exact Nat.le_refl _
    · exact Nat.le_refl _
    · rename_i n b₂ tail _
      have h := continue?_length (leadPayload b (n + 1) * 64 + payload b₂) n tail
      split
      · split <;> simp_all <;> omega
      · exact Nat.le_refl _

/-- All characters of a byte string, with replacements. -/
def lossyChars : List UInt8 → List Char
  | [] => []
  | b :: rest =>
    have := next_length b rest
    (next b rest).1 :: lossyChars (next b rest).2
termination_by bs => bs.length
decreasing_by simp only [List.length_cons]; omega

/-- The text of any bytes: well-formed parts as they are, U+FFFD for the rest. -/
def decodeLossy (bytes : ByteArray) : String :=
  match decode? bytes with
  | some s => s
  | none => String.ofList (lossyChars bytes.data.toList)

end HandleBridge.Text.Utf8
