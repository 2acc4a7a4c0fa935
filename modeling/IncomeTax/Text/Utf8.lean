/-!
# Text from bytes

Bytes are read as UTF-8: a character takes one to four bytes, in its shortest form, and halves of
surrogate pairs do not occur. When the bytes are no text, the number of bytes before the first
character that cannot be read says where it goes wrong.
-/

namespace IncomeTax.Text

/-- The value of the six payload bits of a continuation byte. -/
def continuation? (b : UInt8) : Option Nat :=
  if 0x80 ≤ b.toNat && b.toNat ≤ 0xBF then some (b.toNat - 0x80) else none

/-- The character of a code point of at least the given size, unless it is half of a pair. -/
def scalar? (least n : Nat) : Option Char :=
  if least ≤ n && n.isValidChar then some (Char.ofNat n) else none

/-- The character two bytes stand for. -/
def charOf2? (a b : UInt8) : Option Char :=
  if 0xC2 ≤ a.toNat && a.toNat ≤ 0xDF then do
    scalar? 0x80 ((a.toNat - 0xC0) * 0x40 + (← continuation? b))
  else none

/-- The character three bytes stand for. -/
def charOf3? (a b c : UInt8) : Option Char :=
  if 0xE0 ≤ a.toNat && a.toNat ≤ 0xEF then do
    scalar? 0x800 (((a.toNat - 0xE0) * 0x40 + (← continuation? b)) * 0x40 + (← continuation? c))
  else none

/-- The character four bytes stand for. -/
def charOf4? (a b c d : UInt8) : Option Char :=
  if 0xF0 ≤ a.toNat && a.toNat ≤ 0xF4 then do
    scalar? 0x10000
      ((((a.toNat - 0xF0) * 0x40 + (← continuation? b)) * 0x40 + (← continuation? c)) * 0x40 +
        (← continuation? d))
  else none

/-- Reads characters from an offset on; fails with the offset of the first one that is not there. -/
def readUtf8 (offset : Nat) : List UInt8 → Except Nat (List Char)
  | [] => .ok []
  | a :: bytes =>
    if a.toNat < 0x80 then (readUtf8 (offset + 1) bytes).map (Char.ofNat a.toNat :: ·)
    else
      match bytes with
      | [] => .error offset
      | b :: bytes =>
        match charOf2? a b with
        | some char => (readUtf8 (offset + 2) bytes).map (char :: ·)
        | none =>
          match bytes with
          | [] => .error offset
          | c :: bytes =>
            match charOf3? a b c with
            | some char => (readUtf8 (offset + 3) bytes).map (char :: ·)
            | none =>
              match bytes with
              | [] => .error offset
              | d :: bytes =>
                match charOf4? a b c d with
                | some char => (readUtf8 (offset + 4) bytes).map (char :: ·)
                | none => .error offset

/-- The text of bytes, or the number of bytes before the first one that cannot be read. -/
def ofUtf8 (bytes : List UInt8) : Except Nat String := (readUtf8 0 bytes).map String.ofList

end IncomeTax.Text
