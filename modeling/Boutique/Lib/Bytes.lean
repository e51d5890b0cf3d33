import Mathlib.Tactic.Common
import Mathlib.Tactic.Ring

/-!
# Texts and numbers as bytes

UTF-8 as `System.Text.Encoding.UTF8` has it, where invalid bytes decode to replacement characters,
and 32-bit numbers in big-endian order.
-/

namespace Bytes

/-! ## UTF-8 -/

/-- The bytes of a text in UTF-8. -/
def getBytes (s : String) : List UInt8 := s.toByteArray.data.toList

/-- A byte that continues a character. -/
def isContinuation (b : UInt8) : Bool := 0x80 ≤ b && b ≤ 0xbf

/-- The second byte continues a character of three bytes. -/
def isSecondOfThree (first second : UInt8) : Bool :=
  if first = 0xe0 then 0xa0 ≤ second && second ≤ 0xbf
  else if first = 0xed then 0x80 ≤ second && second ≤ 0x9f
  else isContinuation second

/-- The second byte continues a character of four bytes. -/
def isSecondOfFour (first second : UInt8) : Bool :=
  if first = 0xf0 then 0x90 ≤ second && second ≤ 0xbf
  else if first = 0xf4 then 0x80 ≤ second && second ≤ 0x8f
  else isContinuation second

/-- The number of bytes that one replacement character stands for: the longest part of a character
with which invalid bytes start, and at least one byte. -/
def invalidLength : List UInt8 → ℕ
  | first :: second :: rest =>
    if 0xe0 ≤ first && first ≤ 0xef then if isSecondOfThree first second then 2 else 1
    else if 0xf0 ≤ first && first ≤ 0xf4 then
      if isSecondOfFour first second then if (rest.head?.map isContinuation).getD false then 3 else 2
      else 1
    else 1
  | _ => 1

/-- Bytes as characters, with a replacement character for each invalid part. -/
def replaceInvalid : ℕ → List UInt8 → List Char
  | 0, _ | _, [] => []
  | fuel + 1, bytes =>
    match ByteArray.utf8DecodeChar? ⟨bytes.toArray⟩ 0 with
    | some c => c :: replaceInvalid fuel (bytes.drop c.utf8Size)
    | none => '\uFFFD' :: replaceInvalid fuel (bytes.drop (invalidLength bytes))

/-- The text of bytes. -/
def getString (bytes : List UInt8) : String :=
  match String.fromUTF8? ⟨bytes.toArray⟩ with
  | some s => s
  | none => String.ofList (replaceInvalid bytes.length bytes)

/-- Decoding inverts encoding. -/
@[simp]
lemma getString_getBytes (s : String) : getString (getBytes s) = s := by
  have hbytes : (⟨(getBytes s).toArray⟩ : ByteArray) = s.toByteArray := by simp [getBytes]
  have hdecode : String.fromUTF8? s.toByteArray = some s := by
    simp [String.fromUTF8?, s.isValidUTF8, String.fromUTF8]
  rw [getString, hbytes, hdecode]

/-- Encoding inverts decoding, of the bytes of a text. -/
lemma getBytes_getString {bytes : List UInt8} (h : ∃ text, getBytes text = bytes) :
    getBytes (getString bytes) = bytes := by
  obtain ⟨text, rfl⟩ := h
  rw [getString_getBytes]

example : getString [0x61, 0xf0, 0x9f, 0x98, 0x62, 0xff] = "a\uFFFDb\uFFFD" := by decide +kernel

/-! ## Big-endian numbers -/

/-- A number as four bytes, the highest first. -/
def writeInt32BigEndian (n : ℕ) : List UInt8 :=
  [UInt8.ofNat (n / 2 ^ 24), UInt8.ofNat (n / 2 ^ 16), UInt8.ofNat (n / 2 ^ 8), UInt8.ofNat n]

/-- The signed number of four bytes, the highest first. -/
def readInt32BigEndian (a b c d : UInt8) : ℤ :=
  Int.bmod (a.toNat * 2 ^ 24 + b.toNat * 2 ^ 16 + c.toNat * 2 ^ 8 + d.toNat : ℕ) (2 ^ 32)

/-- A number below `2 ^ 32` is made up of its four bytes. -/
lemma four_bytes {n : ℕ} (h : n < 2 ^ 32) :
    n / 2 ^ 24 % 2 ^ 8 * 2 ^ 24 + n / 2 ^ 16 % 2 ^ 8 * 2 ^ 16 + n / 2 ^ 8 % 2 ^ 8 * 2 ^ 8 +
      n % 2 ^ 8 = n := by
  simp only [Nat.reducePow] at h ⊢
  omega

/-- Nonnegative 32-bit numbers are read as they were written. -/
lemma readInt32BigEndian_write {n : ℕ} (h : n < 2 ^ 31) :
    readInt32BigEndian (UInt8.ofNat (n / 2 ^ 24)) (UInt8.ofNat (n / 2 ^ 16))
      (UInt8.ofNat (n / 2 ^ 8)) (UInt8.ofNat n) = n := by
  have hdigits := four_bytes (h.trans (by decide))
  have hexact : Int.bmod n (2 ^ 32) = n := by
    refine Int.bmod_eq_of_le ?_ ?_ <;> simp only [Nat.reducePow] at h ⊢ <;> omega
  unfold readInt32BigEndian
  simp only [UInt8.toNat_ofNat']
  exact (congrArg (fun k : ℕ => Int.bmod k (2 ^ 32)) hdigits).trans hexact

/-- A number that is not negative is written as the four bytes it was read from. -/
lemma writeInt32BigEndian_read {a b c d : UInt8} (h : 0 ≤ readInt32BigEndian a b c d) :
    writeInt32BigEndian (readInt32BigEndian a b c d).toNat = [a, b, c, d] := by
  have ha := a.toNat_lt
  have hb := b.toNat_lt
  have hc := c.toNat_lt
  have hd := d.toNat_lt
  unfold readInt32BigEndian at h ⊢
  generalize hn : a.toNat * 2 ^ 24 + b.toNat * 2 ^ 16 + c.toNat * 2 ^ 8 + d.toNat = n at h ⊢
  have hvalue : (Int.bmod n (2 ^ 32)).toNat = n := by
    rw [Int.bmod_def] at h ⊢
    simp only [Nat.reducePow] at hn h ha hb hc hd ⊢
    split_ifs at h ⊢ <;> omega
  rw [hvalue, writeInt32BigEndian]
  simp only [Nat.reducePow] at hn ha hb hc hd ⊢
  refine congrArg₂ _ ?_ (congrArg₂ _ ?_ (congrArg₂ _ ?_ (congrArg₂ _ ?_ rfl))) <;>
    apply UInt8.toNat_inj.mp <;> rw [UInt8.toNat_ofNat'] <;> omega

end Bytes
