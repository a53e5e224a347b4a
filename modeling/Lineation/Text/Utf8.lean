/-!
# UTF-8 input

Bytes become text only when all of them are well-formed UTF-8. For bytes that are not, the length
of the longest well-formed beginning tells where the fault is.
-/

namespace Lineation.Text

/-- The text that the bytes encode, if they are well-formed. -/
def decodeUtf8? (bytes : ByteArray) : Option String :=
  String.fromUTF8? bytes

/-- Bytes are read as the one text that they are the encoding of. -/
theorem decodeUtf8?_eq_some_iff {bytes : ByteArray} {text : String} :
    decodeUtf8? bytes = some text ↔ bytes = text.toUTF8 := by
  unfold decodeUtf8? String.fromUTF8?
  constructor
  · intro h
    split at h
    · cases h
      rfl
    · cases h
  · rintro rfl
    rw [dif_pos (show text.toUTF8.IsValidUTF8 from text.isValidUTF8)]
    rfl

/-- A byte that continues an encoded character. -/
def isContinuation (b : UInt8) : Bool :=
  0x80 ≤ b && b ≤ 0xbf

/-- Whether the two bytes can start an encoded character of three bytes. -/
def startsThree (a b : UInt8) : Bool :=
  (a == 0xe0 && 0xa0 ≤ b && b ≤ 0xbf) || (a == 0xed && 0x80 ≤ b && b ≤ 0x9f) ||
    (((0xe1 ≤ a && a ≤ 0xec) || a == 0xee || a == 0xef) && isContinuation b)

/-- Whether the two bytes can start an encoded character of four bytes. -/
def startsFour (a b : UInt8) : Bool :=
  (a == 0xf0 && 0x90 ≤ b && b ≤ 0xbf) || (a == 0xf4 && 0x80 ≤ b && b ≤ 0x8f) ||
    (0xf1 ≤ a && a ≤ 0xf3 && isContinuation b)

/-- The length of the longest well-formed beginning, added to `n`. -/
def wellFormedFrom (n : Nat) : List UInt8 → Nat
  | [] => n
  | a :: rest =>
    if a < 0x80 then wellFormedFrom (n + 1) rest
    else
      match rest with
      | [] => n
      | b :: rest =>
        if 0xc2 ≤ a && a ≤ 0xdf && isContinuation b then wellFormedFrom (n + 2) rest
        else
          match rest with
          | [] => n
          | c :: rest =>
            if startsThree a b && isContinuation c then wellFormedFrom (n + 3) rest
            else
              match rest with
              | [] => n
              | d :: rest =>
                if startsFour a b && isContinuation c && isContinuation d then
                  wellFormedFrom (n + 4) rest
                else n

/-- The number of bytes before the first fault. -/
def wellFormedBytes (bytes : ByteArray) : Nat :=
  wellFormedFrom 0 bytes.toList

end Lineation.Text
