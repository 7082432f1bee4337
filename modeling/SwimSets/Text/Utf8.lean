import SwimSets.Text.Basic

/-!
# UTF-8

`Text.toUtf8` writes a text as bytes and `Text.ofUtf8` reads bytes as text. A character is one byte
below 80, or a lead byte with one to three continuation bytes; overlong forms, surrogates and codes
above 10FFFF are not characters.

Bytes that are no text are refused with the position of the first byte that starts no character,
which is also the length of the longest start that is text.
-/

namespace SwimSets

/-- Bytes that are no text. -/
structure NotText where
  /-- The position of the first byte that starts no character. -/
  validUpTo : Nat
  deriving DecidableEq, Repr

/-- Why the bytes are no text, in words. -/
def NotText.message (e : NotText) : Text :=
  "Session text is not valid UTF-8 (first bad byte at offset ".toList ++
    Text.ofNat e.validUpTo ++ [')']

namespace Text

/-- The bytes of a text. -/
def toUtf8 (t : Text) : List UInt8 := t.flatMap String.utf8EncodeChar

/-- The low six bits of a continuation byte. -/
def continuationBits (b : UInt8) : Nat := b.toNat % 64

/-- A continuation byte. -/
def isContinuation (b : UInt8) : Bool := 0x80 ≤ b && b ≤ 0xBF

/-- The first two bytes may start a character of three bytes: neither overlong nor a surrogate. -/
def startsThree (a b : UInt8) : Bool :=
  (a == 0xE0 && 0xA0 ≤ b && b ≤ 0xBF) ||
  (a == 0xED && 0x80 ≤ b && b ≤ 0x9F) ||
  (0xE1 ≤ a && a ≤ 0xEF && a != 0xED && isContinuation b)

/-- The first two bytes may start a character of four bytes: neither overlong nor too large. -/
def startsFour (a b : UInt8) : Bool :=
  (a == 0xF0 && 0x90 ≤ b && b ≤ 0xBF) ||
  (a == 0xF4 && 0x80 ≤ b && b ≤ 0x8F) ||
  (0xF1 ≤ a && a ≤ 0xF3 && isContinuation b)

/-- Reads the bytes that start at position `pos`. -/
def ofUtf8From (pos : Nat) : List UInt8 → Except NotText Text
  | [] => .ok []
  | a :: r =>
    if a < 0x80 then
      (ofUtf8From (pos + 1) r).map (Char.ofNat a.toNat :: ·)
    else
      match r with
      | [] => .error ⟨pos⟩
      | b :: r =>
        if 0xC2 ≤ a && a ≤ 0xDF && isContinuation b then
          (ofUtf8From (pos + 2) r).map
            (Char.ofNat (a.toNat % 32 * 64 + continuationBits b) :: ·)
        else
          match r with
          | [] => .error ⟨pos⟩
          | c :: r =>
            if startsThree a b && isContinuation c then
              (ofUtf8From (pos + 3) r).map
                (Char.ofNat ((a.toNat % 16 * 64 + continuationBits b) * 64 +
                  continuationBits c) :: ·)
            else
              match r with
              | [] => .error ⟨pos⟩
              | d :: r =>
                if startsFour a b && isContinuation c && isContinuation d then
                  (ofUtf8From (pos + 4) r).map
                    (Char.ofNat (((a.toNat % 8 * 64 + continuationBits b) * 64 +
                      continuationBits c) * 64 + continuationBits d) :: ·)
                else .error ⟨pos⟩

/-- The text that the bytes write, or why they write none. -/
def ofUtf8 (bytes : List UInt8) : Except NotText Text := ofUtf8From 0 bytes

end Text

end SwimSets
