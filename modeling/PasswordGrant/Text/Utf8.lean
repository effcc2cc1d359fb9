/-!
# Texts as bytes

A text travels as UTF-8. `encode` writes it; `decode?` reads it back and refuses bytes that no text
is written as; `decodeLossy` reads any bytes and puts the replacement character where a run of
bytes starts no character or breaks off.

* `Leading.ofByte?` : what a first byte announces, and which second bytes it allows;
* `decodeLossy` : one replacement per longest broken beginning of a character;
* `decodeParts_cons` : how reading goes on after the first character.
-/

namespace PasswordGrant.Utf8

def encodeChar (c : Char) : List UInt8 := String.utf8EncodeChar c

/-- The bytes of a text. -/
def encode (cs : List Char) : List UInt8 := cs.flatMap encodeChar

def size (cs : List Char) : Nat := (encode cs).length

/-- What a first byte above 0x7F announces: how many bytes follow it, the bits it contributes, and
the least and the greatest second byte that it allows. -/
structure Leading where
  following : Nat
  bits : Nat
  low : Nat
  high : Nat

/-- The announcement of a first byte; `none` for a byte that starts no longer character. -/
def Leading.ofByte? (b : Nat) : Option Leading :=
  if 0xC2 ≤ b ∧ b ≤ 0xDF then some ⟨1, b - 0xC0, 0x80, 0xBF⟩
  else if b = 0xE0 then some ⟨2, 0, 0xA0, 0xBF⟩
  else if b = 0xED then some ⟨2, b - 0xE0, 0x80, 0x9F⟩
  else if 0xE1 ≤ b ∧ b ≤ 0xEF then some ⟨2, b - 0xE0, 0x80, 0xBF⟩
  else if b = 0xF0 then some ⟨3, 0, 0x90, 0xBF⟩
  else if 0xF1 ≤ b ∧ b ≤ 0xF3 then some ⟨3, b - 0xF0, 0x80, 0xBF⟩
  else if b = 0xF4 then some ⟨3, 4, 0x80, 0x8F⟩
  else none

/-- Reads the bytes that follow a first byte: the character and the rest, or the rest after the
longest beginning that could still have become one. -/
def following : Nat → Nat → Nat → Nat → List UInt8 → Option Char × List UInt8
  | 0, bits, _, _, rest => (some (Char.ofNat bits), rest)
  | _ + 1, _, _, _, [] => (none, [])
  | n + 1, bits, low, high, b :: rest =>
    if low ≤ b.toNat ∧ b.toNat ≤ high then
      following n (bits * 64 + (b.toNat - 0x80)) 0x80 0xBF rest
    else (none, b :: rest)

/-- One character off the front of a non-empty list of bytes; `none` for broken bytes. -/
def next (b : UInt8) (rest : List UInt8) : Option Char × List UInt8 :=
  if b.toNat < 0x80 then (some (Char.ofNat b.toNat), rest)
  else match Leading.ofByte? b.toNat with
    | none => (none, rest)
    | some l => following l.following l.bits l.low l.high rest

theorem length_following_le (n bits low high : Nat) (rest : List UInt8) :
    (following n bits low high rest).2.length ≤ rest.length := by
  induction n generalizing bits low high rest with
  | zero => simp [following]
  | succ n ih =>
    cases rest with
    | nil => simp [following]
    | cons b rest =>
      unfold following
      split
      · exact Nat.le_succ_of_le (ih ..)
      · simp

theorem length_next_le (b : UInt8) (rest : List UInt8) : (next b rest).2.length ≤ rest.length := by
  unfold next
  split
  · simp
  · split
    · simp
    · exact length_following_le ..

/-- Reads characters, at most as many as the given number. -/
def partsWithin : Nat → List UInt8 → List (Option Char)
  | 0, _ => []
  | _, [] => []
  | n + 1, b :: rest => (next b rest).1 :: partsWithin n (next b rest).2

/-- The characters of a list of bytes, with `none` for each broken run. There are not more of them
than bytes. -/
def decodeParts (bytes : List UInt8) : List (Option Char) := partsWithin bytes.length bytes

/-- A greater number of characters makes no difference once it is the number of bytes. -/
theorem partsWithin_eq {n : Nat} {bytes : List UInt8} (h : bytes.length ≤ n) :
    partsWithin n bytes = decodeParts bytes := by
  unfold decodeParts
  induction n using Nat.strongRecOn generalizing bytes with
  | ind n ih =>
    cases bytes with
    | nil => cases n <;> rfl
    | cons b rest =>
      cases n with
      | zero => simp at h
      | succ n =>
        have shorter := length_next_le b rest
        simp only [List.length_cons, Nat.add_le_add_iff_right] at h
        simp only [List.length_cons, partsWithin]
        rw [ih n (Nat.lt_succ_self n) (Nat.le_trans shorter h)]
        by_cases hn : rest.length < n + 1
        · rw [ih rest.length hn shorter]
        · omega

theorem decodeParts_nil : decodeParts [] = [] := rfl

/-- The first byte and those that belong to it make the first character. -/
theorem decodeParts_cons (b : UInt8) (rest : List UInt8) :
    decodeParts (b :: rest) = (next b rest).1 :: decodeParts (next b rest).2 := by
  rw [decodeParts, List.length_cons, partsWithin, partsWithin_eq (length_next_le b rest)]

/-- The character that stands for bytes that are no text. -/
def replacement : Char := '\uFFFD'

/-- Reads any bytes, with the replacement character for each broken run. -/
def decodeLossy (bytes : List UInt8) : List Char :=
  (decodeParts bytes).map (·.getD replacement)

/-- Reads bytes that are the UTF-8 form of a text, and refuses all others. -/
def decode? (bytes : List UInt8) : Option (List Char) := (decodeParts bytes).mapM id

end PasswordGrant.Utf8
