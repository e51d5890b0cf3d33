import Mathlib.Data.List.Basic
import Mathlib.Tactic.Common

/-!
# Lines of a text and of its bytes

A list is split after each separator.  In UTF-8 the byte of a line feed stands for nothing else, so the
lines of the bytes of a text are the bytes of its lines.
-/

namespace Lines

/-! ## Lines -/

section Generic

variable {α : Type*}

/-- An element is put before the first line. -/
def push (x : α) : List (List α) → List (List α)
  | [] => [[x]]
  | line :: rest => (x :: line) :: rest

/-- Elements are put before the first line. -/
lemma foldr_push (prior : List α) (ls : List (List α)) :
    prior.foldr push ls = if prior = [] then ls else
      match ls with
      | [] => [prior]
      | line :: rest => (prior ++ line) :: rest := by
  induction prior with
  | nil => rfl
  | cons x prior ih =>
    rw [List.foldr_cons, ih, if_neg (List.cons_ne_nil x prior)]
    split_ifs with hprior
    · subst hprior
      cases ls <;> rfl
    · cases ls <;> rfl

variable [DecidableEq α] {sep : α} {xs ys prior : List α}

/-- The lines of a list, each with its separator. -/
def lines (sep : α) : List α → List (List α)
  | [] => []
  | x :: xs => if x = sep then [x] :: lines sep xs else push x (lines sep xs)

/-- A line with its separator, and the rest. -/
lemma lines_append_sep (hprior : sep ∉ prior) (xs : List α) :
    lines sep (prior ++ sep :: xs) = (prior ++ [sep]) :: lines sep xs := by
  induction prior with
  | nil => simp [lines]
  | cons x prior ih =>
    have hx : x ≠ sep := fun heq => hprior (heq ▸ List.mem_cons_self)
    rw [List.cons_append, lines, if_neg hx, ih fun hmem => hprior (List.mem_cons_of_mem x hmem)]
    rfl

/-- A complete line ends with the only separator in it. -/
def Complete (sep : α) (line : List α) : Prop := ∃ prior, line = prior ++ [sep] ∧ sep ∉ prior

/-- Complete lines are the lines of the text they make up. -/
lemma lines_flatten {block : List (List α)} (hblock : ∀ line ∈ block, Complete sep line) (xs : List α) :
    lines sep (block.flatten ++ xs) = block ++ lines sep xs := by
  induction block with
  | nil => rfl
  | cons line block ih =>
    obtain ⟨prior, rfl, hprior⟩ := hblock line List.mem_cons_self
    have hrest := ih fun other hother => hblock other (List.mem_cons_of_mem _ hother)
    rw [List.flatten_cons, List.append_assoc, List.append_assoc, List.singleton_append,
      lines_append_sep hprior, hrest, List.cons_append]

/-- What has no separator is put before the first line. -/
lemma lines_append (hprior : sep ∉ prior) (xs : List α) :
    lines sep (prior ++ xs) = prior.foldr push (lines sep xs) := by
  induction prior with
  | nil => rfl
  | cons x prior ih =>
    have hx : x ≠ sep := fun heq => hprior (heq ▸ List.mem_cons_self)
    rw [List.cons_append, lines, if_neg hx, ih fun hmem => hprior (List.mem_cons_of_mem x hmem),
      List.foldr_cons]

/-- The lines of a part of a text that starts with it are parts of its lines, of each of which something is
left. -/
lemma lines_of_part (h : xs <+: ys) {i : ℕ} {line : List α} (hline : (lines sep xs)[i]? = some line) :
    line ≠ [] ∧ ∃ whole, (lines sep ys)[i]? = some whole ∧ line <+: whole := by
  induction ys generalizing xs i line with
  | nil =>
    rw [List.prefix_nil.mp h] at hline
    simp [lines] at hline
  | cons y ys ih =>
    cases xs with
    | nil => simp [lines] at hline
    | cons x xs =>
      obtain ⟨rfl, htail⟩ := List.cons_prefix_cons.mp h
      rw [lines] at hline ⊢
      split_ifs at hline ⊢ with hx
      · cases i with
        | zero =>
          obtain rfl : [x] = line := by simpa using hline
          exact ⟨by simp, [x], rfl, List.prefix_rfl⟩
        | succ i => exact ih htail hline
      · cases i with
        | zero =>
          cases hxs : lines sep xs with
          | nil =>
            rw [hxs] at hline
            obtain rfl : [x] = line := by simpa [push] using hline
            refine ⟨by simp, ?_⟩
            cases lines sep ys with
            | nil => exact ⟨[x], rfl, List.prefix_rfl⟩
            | cons whole rest => exact ⟨x :: whole, rfl, by simp⟩
          | cons first rest =>
            rw [hxs] at hline
            obtain rfl : x :: first = line := by simpa [push] using hline
            obtain ⟨-, whole, hwhole, hpart⟩ := ih htail (i := 0) (by rw [hxs]; rfl)
            refine ⟨by simp, ?_⟩
            cases hys : lines sep ys with
            | nil => simp [hys] at hwhole
            | cons first' rest' =>
              obtain rfl : first' = whole := by simpa [hys] using hwhole
              exact ⟨x :: first', rfl, List.cons_prefix_cons.mpr ⟨rfl, hpart⟩⟩
        | succ i =>
          have hrest : ∀ ls : List (List α), (push x ls)[i + 1]? = ls[i + 1]? := by
            intro ls
            cases ls with
            | nil => simp [push]
            | cons first rest => rfl
          rw [hrest] at hline ⊢
          exact ih htail hline

end Generic

/-! ## UTF-8 -/

/-- The bytes of a text in UTF-8. -/
def encode (text : List Char) : List UInt8 := text.flatMap String.utf8EncodeChar

/-- The text of bytes in UTF-8, if they are valid. -/
def decode (bytes : List UInt8) : Option (List Char) :=
  (ByteArray.utf8Decode? bytes.toByteArray).map Array.toList

/-- Decoding inverts encoding. -/
@[simp]
lemma decode_encode (text : List Char) : decode (encode text) = some text := by
  have hbytes : (encode text).toByteArray = text.utf8Encode := rfl
  rw [decode, hbytes, List.utf8Decode?_utf8Encode]
  rfl

/-- The byte of a line feed. -/
def newline : UInt8 := 10

/-- A byte from `0x80` on is no line feed. -/
lemma newline_ne {n : ℕ} (hlow : 128 ≤ n) (hhigh : n < 256) : newline ≠ UInt8.ofNat n := by
  intro h
  have hnat : newline.toNat = n % 2 ^ 8 := by
    rw [h, UInt8.toNat_ofNat']
  simp only [newline, UInt8.reduceToNat, Nat.reducePow] at hnat
  omega

/-- Only a line feed is encoded with its byte. -/
lemma newline_not_mem {c : Char} (hc : c ≠ '\n') : newline ∉ String.utf8EncodeChar c := by
  have hcode : c.val.toNat ≠ 10 := fun h => hc (Char.ext (UInt32.toNat_inj.mp h))
  unfold String.utf8EncodeChar
  dsimp only
  split_ifs with hone htwo hthree
  · intro hmem
    have hnat : newline.toNat = c.val.toNat % 2 ^ 8 := by
      rw [List.mem_singleton.mp hmem, UInt8.toNat_ofNat']
    simp only [newline, UInt8.reduceToNat, Nat.reducePow] at hnat
    omega
  all_goals
    simp only [List.mem_cons, List.not_mem_nil, or_false, not_or]
    refine ⟨?_, ?_⟩
  · exact newline_ne (by omega) (by omega)
  · exact newline_ne (by omega) (by omega)
  · exact newline_ne (by omega) (by omega)
  · exact ⟨newline_ne (by omega) (by omega), newline_ne (by omega) (by omega)⟩
  · exact newline_ne (by omega) (by omega)
  · exact ⟨newline_ne (by omega) (by omega), newline_ne (by omega) (by omega),
      newline_ne (by omega) (by omega)⟩

/-- The lines of the bytes of a text are the bytes of its lines. -/
lemma lines_encode (text : List Char) :
    lines newline (encode text) = (lines '\n' text).map encode := by
  induction text with
  | nil => rfl
  | cons c text ih =>
    rw [encode, List.flatMap_cons, ← encode, lines]
    split_ifs with hc
    · subst hc
      have hbyte : String.utf8EncodeChar '\n' = [newline] := rfl
      rw [hbyte, List.singleton_append, lines, if_pos rfl, ih, List.map_cons]
      rfl
    · rw [lines_append (newline_not_mem hc), ih, foldr_push, if_neg String.utf8EncodeChar_ne_nil]
      cases lines '\n' text with
      | nil => simp [push, encode]
      | cons line rest => simp [push, encode]

end Lines
