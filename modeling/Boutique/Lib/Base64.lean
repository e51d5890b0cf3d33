import Boutique.Lib.Bytes
import Mathlib.Data.List.DropRight

/-!
# Base64

The encodings of RFC 4648: the standard alphabet with padding, and the alphabet for URLs without.
Stripping the padding of the first and replacing its two other characters gives the second, and the
second determines the bytes.
-/

namespace Base64

/-! ## Encoding -/

/-- The letters and digits that both alphabets share, for the first 62 values. -/
def alphanumeric (n : ℕ) : Char :=
  if n < 26 then Char.ofNat (65 + n) else if n < 52 then Char.ofNat (71 + n)
  else Char.ofNat (n - 4)

/-- The standard alphabet. -/
def standard (n : ℕ) : Char := if n < 62 then alphanumeric n else if n = 62 then '+' else '/'

/-- The alphabet for URLs and file names. -/
def urlSafe (n : ℕ) : Char := if n < 62 then alphanumeric n else if n = 62 then '-' else '_'

/-- The groups of six bits of a byte string, the last one filled up with zeros. -/
def sextets : List UInt8 → List ℕ
  | [] => []
  | [a] => [a.toNat / 4, a.toNat % 4 * 16]
  | [a, b] => [a.toNat / 4, a.toNat % 4 * 16 + b.toNat / 16, b.toNat % 16 * 4]
  | a :: b :: c :: rest =>
    a.toNat / 4 :: (a.toNat % 4 * 16 + b.toNat / 16) :: (b.toNat % 16 * 4 + c.toNat / 64) ::
      c.toNat % 64 :: sextets rest

/-- The number of characters with which an encoding is filled up to a multiple of four. -/
def paddingLength (bytes : List UInt8) : ℕ := (3 - bytes.length % 3) % 3

/-- The standard encoding, with padding. -/
def encodePadded (bytes : List UInt8) : List Char :=
  (sextets bytes).map standard ++ List.replicate (paddingLength bytes) '='

/-- The encoding for URLs, without padding. -/
def encodeRawURL (bytes : List UInt8) : List Char := (sextets bytes).map urlSafe

/-! ## One from the other -/

/-- A standard character as one for URLs. -/
def toURL (c : Char) : Char := if c = '+' then '-' else if c = '/' then '_' else c

/-- Every group is a number of six bits. -/
lemma lt_of_mem_sextets {bytes : List UInt8} {n : ℕ} (h : n ∈ sextets bytes) : n < 64 := by
  induction bytes using sextets.induct with
  | case1 => cases h
  | case2 a =>
    have ha := a.toNat_lt
    simp only [sextets, List.mem_cons, List.not_mem_nil, or_false] at h
    omega
  | case3 a b =>
    have ha := a.toNat_lt
    have hb := b.toNat_lt
    simp only [sextets, List.mem_cons, List.not_mem_nil, or_false] at h
    omega
  | case4 a b c rest ih =>
    have ha := a.toNat_lt
    have hb := b.toNat_lt
    have hc := c.toNat_lt
    simp only [sextets, List.mem_cons] at h
    rcases h with h | h | h | h | h
    · omega
    · omega
    · omega
    · omega
    · exact ih h

/-- The two alphabets differ in two characters, and the padding is in neither. -/
lemma standard_spec : ∀ n < 64, toURL (standard n) = urlSafe n ∧ standard n ≠ '=' ∧ urlSafe n ≠ '=' := by
  decide

/-- Padding at the end of a list without padding is stripped. -/
lemma rdropWhile_append_replicate {l : List Char} (h : ∀ c ∈ l, c ≠ '=') (n : ℕ) :
    (l ++ List.replicate n '=').rdropWhile (· = '=') = l := by
  induction n with
  | zero =>
    rw [List.replicate_zero, List.append_nil, List.rdropWhile_eq_self_iff]
    intro hne
    simpa using h _ (List.getLast_mem hne)
  | succ n ih =>
    rw [List.replicate_succ', ← List.append_assoc, List.rdropWhile_concat_pos _ _ _ (by simp)]
    exact ih

/-- Stripping the padding and replacing characters gives the encoding for URLs. -/
theorem map_toURL_rdropWhile (bytes : List UInt8) :
    ((encodePadded bytes).rdropWhile (· = '=')).map toURL = encodeRawURL bytes := by
  have hclean : ∀ c ∈ (sextets bytes).map standard, c ≠ '=' := by
    intro c hc
    obtain ⟨n, hn, rfl⟩ := List.mem_map.mp hc
    exact (standard_spec n (lt_of_mem_sextets hn)).2.1
  rw [encodePadded, rdropWhile_append_replicate hclean, List.map_map, encodeRawURL]
  refine List.map_congr_left fun n hn => ?_
  exact (standard_spec n (lt_of_mem_sextets hn)).1

/-- Replacing characters and stripping the padding gives the encoding for URLs. -/
theorem rdropWhile_map_toURL (bytes : List UInt8) :
    ((encodePadded bytes).map toURL).rdropWhile (· = '=') = encodeRawURL bytes := by
  have hclean : ∀ c ∈ (sextets bytes).map urlSafe, c ≠ '=' := by
    intro c hc
    obtain ⟨n, hn, rfl⟩ := List.mem_map.mp hc
    exact (standard_spec n (lt_of_mem_sextets hn)).2.2
  have hmap : ((sextets bytes).map standard).map toURL = (sextets bytes).map urlSafe := by
    rw [List.map_map]
    refine List.map_congr_left fun n hn => ?_
    exact (standard_spec n (lt_of_mem_sextets hn)).1
  rw [encodePadded, List.map_append, hmap, List.map_replicate]
  exact rdropWhile_append_replicate hclean _

/-! ## Decoding -/

/-- The value of a character for URLs. -/
def valueURL (c : Char) : ℕ :=
  if 'A' ≤ c ∧ c ≤ 'Z' then c.toNat - 65 else if 'a' ≤ c ∧ c ≤ 'z' then c.toNat - 71
  else if '0' ≤ c ∧ c ≤ '9' then c.toNat + 4 else if c = '-' then 62 else 63

/-- The bytes of groups of six bits. -/
def joinSextets : List ℕ → List UInt8
  | a :: b :: c :: d :: rest =>
    UInt8.ofNat (a * 4 + b / 16) :: UInt8.ofNat (b % 16 * 16 + c / 4) ::
      UInt8.ofNat (c % 4 * 64 + d) :: joinSextets rest
  | [a, b, c] => [UInt8.ofNat (a * 4 + b / 16), UInt8.ofNat (b % 16 * 16 + c / 4)]
  | [a, b] => [UInt8.ofNat (a * 4 + b / 16)]
  | _ => []

/-- The bytes of an encoding for URLs. -/
def decodeRawURL (text : List Char) : List UInt8 := joinSextets (text.map valueURL)

/-- The characters have their values. -/
lemma valueURL_urlSafe : ∀ n < 64, valueURL (urlSafe n) = n := by
  decide

/-- A byte is made up of its high and its low bits. -/
lemma ofNat_eq_of_toNat {n : ℕ} {a : UInt8} (h : n = a.toNat) : UInt8.ofNat n = a := by
  rw [h, UInt8.ofNat_toNat]

/-- The groups are joined to the bytes that they were taken from. -/
lemma joinSextets_sextets (bytes : List UInt8) : joinSextets (sextets bytes) = bytes := by
  induction bytes using sextets.induct with
  | case1 => rfl
  | case2 a =>
    have ha : UInt8.ofNat (a.toNat / 4 * 4 + a.toNat % 4 * 16 / 16) = a :=
      ofNat_eq_of_toNat (by omega)
    simp only [sextets, joinSextets, ha]
  | case3 a b =>
    have hb := b.toNat_lt
    have ha : UInt8.ofNat (a.toNat / 4 * 4 + (a.toNat % 4 * 16 + b.toNat / 16) / 16) = a :=
      ofNat_eq_of_toNat (by omega)
    have hb : UInt8.ofNat ((a.toNat % 4 * 16 + b.toNat / 16) % 16 * 16 + b.toNat % 16 * 4 / 4) = b :=
      ofNat_eq_of_toNat (by omega)
    simp only [sextets, joinSextets, ha, hb]
  | case4 a b c rest ih =>
    have hb := b.toNat_lt
    have hc := c.toNat_lt
    have ha : UInt8.ofNat (a.toNat / 4 * 4 + (a.toNat % 4 * 16 + b.toNat / 16) / 16) = a :=
      ofNat_eq_of_toNat (by omega)
    have hb : UInt8.ofNat ((a.toNat % 4 * 16 + b.toNat / 16) % 16 * 16 +
        (b.toNat % 16 * 4 + c.toNat / 64) / 4) = b :=
      ofNat_eq_of_toNat (by omega)
    have hc : UInt8.ofNat ((b.toNat % 16 * 4 + c.toNat / 64) % 4 * 64 + c.toNat % 64) = c :=
      ofNat_eq_of_toNat (by omega)
    simp only [sextets, joinSextets, ha, hb, hc, ih]

/-- Decoding inverts encoding. -/
@[simp]
theorem decodeRawURL_encodeRawURL (bytes : List UInt8) : decodeRawURL (encodeRawURL bytes) = bytes := by
  have hvalues : ((sextets bytes).map urlSafe).map valueURL = sextets bytes := by
    rw [List.map_map]
    calc (sextets bytes).map (valueURL ∘ urlSafe)
        = (sextets bytes).map id :=
          List.map_congr_left fun n hn => valueURL_urlSafe n (lt_of_mem_sextets hn)
      _ = sextets bytes := List.map_id _
  rw [decodeRawURL, encodeRawURL, hvalues, joinSextets_sextets]

/-- Different bytes have different encodings. -/
theorem encodeRawURL_injective : Function.Injective encodeRawURL :=
  Function.LeftInverse.injective decodeRawURL_encodeRawURL

/-! ## Lengths and characters -/

/-- The number of characters of an encoding without padding. -/
lemma length_encodeRawURL (bytes : List UInt8) :
    (encodeRawURL bytes).length = (4 * bytes.length + 2) / 3 := by
  rw [encodeRawURL, List.length_map]
  induction bytes using sextets.induct with
  | case1 => rfl
  | case2 a => simp [sextets]
  | case3 a b => simp [sextets]
  | case4 a b c rest ih =>
    simp only [sextets, List.length_cons, ih]
    omega

/-- The characters of an encoding are letters, digits, `-` and `_`. -/
lemma mem_encodeRawURL {bytes : List UInt8} {c : Char} (h : c ∈ encodeRawURL bytes) :
    c.toNat < 128 ∧ c ≠ '.' := by
  have hchars : ∀ n < 64, (urlSafe n).toNat < 128 ∧ urlSafe n ≠ '.' := by decide
  obtain ⟨n, hn, rfl⟩ := List.mem_map.mp h
  exact hchars n (lt_of_mem_sextets hn)

example : encodeRawURL [0xff, 0xef, 0x01, 0x02] = "_-8BAg".toList := by decide

end Base64
