import Boutique.Lib.Base64
import Boutique.Stateless.Result
import Mathlib.Data.Set.Function

/-!
# Result message IDs in four languages

The ID of a result is derived from the ID of its input and the slot of the result, by
`DeriveResultMessageID` of `shared/stateless/go/result.go`, `deriveResultMessageID` of
`paymentservice/nats_worker.js`, `_result_message_id` of `emailservice/nats_worker.py` and
`ResultMessageIds.Derive` of `shared/stateless/dotnet`.  SHA-256 is a parameter.
-/

namespace Boutique

open Bytes (getBytes writeInt32BigEndian)

/-- The languages with an implementation of their own. -/
inductive Language where
  | go | javaScript | python | dotnet
  deriving DecidableEq, Repr

/-! ## The hashed bytes -/

/-- `resultIDDomain`. -/
def resultIDDomain : String := "boutique.result.v1"

/-- A byte string with its length in front. -/
def lengthPrefixed (bytes : List UInt8) : List UInt8 := writeInt32BigEndian bytes.length ++ bytes

/-- What `hash.Write` is called with in Go. -/
def goHashed (inputMessageID resultSlot : String) : List UInt8 :=
  let input := getBytes inputMessageID
  let slot := getBytes resultSlot
  getBytes resultIDDomain ++ [0] ++ writeInt32BigEndian input.length ++ input ++
    writeInt32BigEndian slot.length ++ slot

/-- What `update` is called with in JavaScript. -/
def javaScriptHashed (inputMessageID resultSlot : String) : List UInt8 :=
  let input := getBytes inputMessageID
  let slot := getBytes resultSlot
  let inputLength := writeInt32BigEndian input.length
  let slotLength := writeInt32BigEndian slot.length
  [getBytes resultIDDomain, [0], inputLength, input, slotLength, slot].flatten

/-- The argument of `hashlib.sha256` in Python. -/
def pythonHashed (inputMessageID resultSlot : String) : List UInt8 :=
  let inputBytes := getBytes inputMessageID
  let slotBytes := getBytes resultSlot
  getBytes "boutique.result.v1\x00" ++ writeInt32BigEndian inputBytes.length ++ inputBytes ++
    writeInt32BigEndian slotBytes.length ++ slotBytes

/-- What `AppendData` is called with in .NET. -/
def dotnetHashed (inputMessageId resultSlot : String) : List UInt8 :=
  let input := getBytes inputMessageId
  let slot := getBytes resultSlot
  getBytes resultIDDomain ++ [0] ++ writeInt32BigEndian input.length ++ input ++
    writeInt32BigEndian slot.length ++ slot

/-- The bytes that are hashed. -/
def Language.hashed : Language → String → String → List UInt8
  | .go => goHashed
  | .javaScript => javaScriptHashed
  | .python => pythonHashed
  | .dotnet => dotnetHashed

/-! ## The IDs -/

/-- The slots that `SlotPattern` of .NET matches, where `$` also matches before a last line feed. -/
def dotnetValidSlot (slot : String) : Bool :=
  validSlot slot ||
    (slot.toList.getLast? = some '\n' && validSlot (String.ofList slot.toList.dropLast))

section Derive

variable (sha256 : List UInt8 → Vector UInt8 32) (inputMessageID resultSlot : String)

/-- `DeriveResultMessageID`, with `base64.RawURLEncoding`. -/
def goResultID : Except String String :=
  deriveResultMessageID
    (fun input slot => String.ofList (Base64.encodeRawURL (sha256 (goHashed input slot)).toList))
    inputMessageID resultSlot

/-- `deriveResultMessageID`.  `writeUInt32BE` throws for a length of more than 32 bits. -/
def javaScriptResultID : Except String String :=
  if inputMessageID = "" || resultSlot = "" then
    .error "result input message ID and slot are required"
  else if 2 ^ 32 ≤ (getBytes inputMessageID).length || 2 ^ 32 ≤ (getBytes resultSlot).length then
    .error "ERR_OUT_OF_RANGE"
  else
    .ok ("br1_" ++ String.ofList (Base64.encodeRawURL
      (sha256 (javaScriptHashed inputMessageID resultSlot)).toList))

/-- `_result_message_id`: the URL-safe characters replace the others before the padding is stripped.
`struct.pack` raises for a length of more than 32 bits. -/
def pythonResultID : Except String String :=
  if inputMessageID = "" then .error "input message ID is required"
  else if 2 ^ 32 ≤ (getBytes inputMessageID).length || 2 ^ 32 ≤ (getBytes resultSlot).length then
    .error "'I' format requires 0 <= number <= 4294967295"
  else
    let encoded := (Base64.encodePadded (sha256 (pythonHashed inputMessageID resultSlot)).toList).map
      Base64.toURL
    .ok ("br1_" ++ String.ofList (encoded.rdropWhile (· = '=')))

/-- `ResultMessageIds.Derive`: the padding is stripped before the characters are replaced. -/
def dotnetResultID : Except String String :=
  if isBlank inputMessageID then
    .error "The value cannot be an empty string or composed entirely of whitespace."
  else if !dotnetValidSlot resultSlot then
    .error "Result slot does not match the v1 contract."
  else
    let encoded := Base64.encodePadded (sha256 (dotnetHashed inputMessageID resultSlot)).toList
    let replaced := ((encoded.rdropWhile (· = '=')).map fun c => if c = '+' then '-' else c).map
      fun c => if c = '/' then '_' else c
    .ok ("br1_" ++ String.ofList replaced)

/-- The ID that an implementation derives. -/
def Language.resultID : Language → Except String String
  | .go => goResultID sha256 inputMessageID resultSlot
  | .javaScript => javaScriptResultID sha256 inputMessageID resultSlot
  | .python => pythonResultID sha256 inputMessageID resultSlot
  | .dotnet => dotnetResultID sha256 inputMessageID resultSlot

end Derive

/-! ## Agreement -/

/-- The bytes that all implementations hash. -/
def resultBytes (inputMessageID resultSlot : String) : List UInt8 :=
  getBytes resultIDDomain ++ [0] ++ lengthPrefixed (getBytes inputMessageID) ++
    lengthPrefixed (getBytes resultSlot)

/-- The ID that all implementations render. -/
def resultText (sha256 : List UInt8 → Vector UInt8 32) (inputMessageID resultSlot : String) :
    String :=
  "br1_" ++ String.ofList
    (Base64.encodeRawURL (sha256 (resultBytes inputMessageID resultSlot)).toList)

variable {sha256 : List UInt8 → Vector UInt8 32} {inputMessageID resultSlot text : String}

/-- Every implementation hashes the same bytes. -/
lemma Language.hashed_eq (language : Language) (inputMessageID resultSlot : String) :
    language.hashed inputMessageID resultSlot = resultBytes inputMessageID resultSlot := by
  have hdomain : getBytes "boutique.result.v1\x00" = getBytes resultIDDomain ++ [0] := by
    decide +kernel
  cases language with
  | go => simp [hashed, goHashed, resultBytes, lengthPrefixed]
  | javaScript => simp [hashed, javaScriptHashed, resultBytes, lengthPrefixed]
  | python => simp [hashed, pythonHashed, resultBytes, lengthPrefixed, hdomain]
  | dotnet => simp [hashed, dotnetHashed, resultBytes, lengthPrefixed]

/-- The two replacements of .NET are one. -/
lemma map_replace_replace (l : List Char) :
    (l.map fun c => if c = '+' then '-' else c).map (fun c => if c = '/' then '_' else c) =
      l.map Base64.toURL := by
  rw [List.map_map]
  refine List.map_congr_left fun c _ => ?_
  by_cases hplus : c = '+'
  · subst hplus
    decide
  · simp [Base64.toURL, hplus]

/-- Every implementation that accepts an input renders the same text. -/
lemma Language.resultID_eq (language : Language)
    (h : language.resultID sha256 inputMessageID resultSlot = .ok text) :
    text = resultText sha256 inputMessageID resultSlot := by
  have hhashed := language.hashed_eq inputMessageID resultSlot
  cases language with
  | go =>
    simp only [resultID, goResultID, deriveResultMessageID] at h
    split_ifs at h
    obtain rfl := Except.ok.inj h
    rw [resultText, ← hhashed]
    rfl
  | javaScript =>
    simp only [resultID, javaScriptResultID] at h
    split_ifs at h
    obtain rfl := Except.ok.inj h
    rw [resultText, ← hhashed]
    rfl
  | python =>
    simp only [resultID, pythonResultID, Base64.rdropWhile_map_toURL] at h
    split_ifs at h
    obtain rfl := Except.ok.inj h
    rw [resultText, ← hhashed]
    rfl
  | dotnet =>
    simp only [resultID, dotnetResultID, map_replace_replace, Base64.map_toURL_rdropWhile] at h
    split_ifs at h
    obtain rfl := Except.ok.inj h
    rw [resultText, ← hhashed]
    rfl

/-! ## Separation -/

/-- Texts are determined by their bytes. -/
lemma getBytes_injective : Function.Injective getBytes :=
  Function.LeftInverse.injective Bytes.getString_getBytes

/-- Four bytes determine a number below `2 ^ 32`. -/
lemma writeInt32BigEndian_inj {m n : ℕ} (hm : m < 2 ^ 32) (hn : n < 2 ^ 32)
    (h : writeInt32BigEndian m = writeInt32BigEndian n) : m = n := by
  have hfour : ∀ {a b : ℕ}, UInt8.ofNat a = UInt8.ofNat b → a % 2 ^ 8 = b % 2 ^ 8 := by
    intro a b hab
    simpa [UInt8.toNat_ofNat'] using congrArg UInt8.toNat hab
  simp only [writeInt32BigEndian, List.cons.injEq, and_true] at h
  obtain ⟨h1, h2, h3, h4⟩ := h
  rw [← Bytes.four_bytes hm, ← Bytes.four_bytes hn, hfour h1, hfour h2, hfour h3, hfour h4]

/-- A byte string with its length in front can be told from what follows it. -/
lemma lengthPrefixed_append_inj {a b rest rest' : List UInt8} (ha : a.length < 2 ^ 32)
    (hb : b.length < 2 ^ 32) (h : lengthPrefixed a ++ rest = lengthPrefixed b ++ rest') :
    a = b ∧ rest = rest' := by
  simp only [lengthPrefixed, List.append_assoc] at h
  obtain ⟨hlength, htail⟩ := List.append_inj h rfl
  exact List.append_inj htail (writeInt32BigEndian_inj ha hb hlength)

/-- The hashed bytes determine the input and the slot. -/
lemma resultBytes_inj {input slot input' slot' : String} (hinput : (getBytes input).length < 2 ^ 32)
    (hslot : (getBytes slot).length < 2 ^ 32) (hinput' : (getBytes input').length < 2 ^ 32)
    (hslot' : (getBytes slot').length < 2 ^ 32) (h : resultBytes input slot = resultBytes input' slot') :
    input = input' ∧ slot = slot' := by
  simp only [resultBytes, List.append_assoc, List.append_cancel_left_eq] at h
  obtain ⟨hi, hs⟩ := lengthPrefixed_append_inj hinput hinput' h
  have hs' : lengthPrefixed (getBytes slot) ++ [] = lengthPrefixed (getBytes slot') ++ [] := by
    rw [hs]
  obtain ⟨hs, -⟩ := lengthPrefixed_append_inj hslot hslot' hs'
  exact ⟨getBytes_injective hi, getBytes_injective hs⟩

/-- The text of an ID determines the hash. -/
lemma resultText_inj {input slot input' slot' : String}
    (h : resultText sha256 input slot = resultText sha256 input' slot') :
    sha256 (resultBytes input slot) = sha256 (resultBytes input' slot') := by
  have hchars : Base64.encodeRawURL (sha256 (resultBytes input slot)).toList =
      Base64.encodeRawURL (sha256 (resultBytes input' slot')).toList := by
    have htext := congrArg String.toList h
    simpa [resultText] using htext
  exact Vector.toList_inj.mp (Base64.encodeRawURL_injective hchars)

/-- The implementations hash the same bytes and render the same text, the bytes are those of one input
and slot only, and so are the IDs as long as the hash has no collision among the bytes in use. -/
theorem result_ids_agree_and_separate (sha256 : List UInt8 → Vector UInt8 32) :
    (∀ (language language' : Language) (input slot text text' : String),
      language.resultID sha256 input slot = .ok text →
      language'.resultID sha256 input slot = .ok text' →
      language.hashed input slot = language'.hashed input slot ∧ text = text') ∧
    (∀ (language : Language) (input slot input' slot' : String),
      (getBytes input).length < 2 ^ 32 → (getBytes slot).length < 2 ^ 32 →
      (getBytes input').length < 2 ^ 32 → (getBytes slot').length < 2 ^ 32 →
      language.hashed input slot = language.hashed input' slot' → input = input' ∧ slot = slot') ∧
    ∀ (used : Set (List UInt8)) (language language' : Language)
      (input slot input' slot' text : String),
      Set.InjOn sha256 used →
      (getBytes input).length < 2 ^ 32 → (getBytes slot).length < 2 ^ 32 →
      (getBytes input').length < 2 ^ 32 → (getBytes slot').length < 2 ^ 32 →
      language.hashed input slot ∈ used → language'.hashed input' slot' ∈ used →
      language.resultID sha256 input slot = .ok text →
      language'.resultID sha256 input' slot' = .ok text → input = input' ∧ slot = slot' := by
  refine ⟨fun language language' input slot text text' h h' => ?_,
    fun language input slot input' slot' hi hs hi' hs' hbytes => ?_,
    fun used language language' input slot input' slot' text hinj hi hs hi' hs' hu hu' h h' => ?_⟩
  · refine ⟨?_, (language.resultID_eq h).trans (language'.resultID_eq h').symm⟩
    rw [language.hashed_eq, language'.hashed_eq]
  · rw [language.hashed_eq, language.hashed_eq] at hbytes
    exact resultBytes_inj hi hs hi' hs' hbytes
  · have htext := (language.resultID_eq h).symm.trans (language'.resultID_eq h')
    rw [language.hashed_eq] at hu
    rw [language'.hashed_eq] at hu'
    exact resultBytes_inj hi hs hi' hs' (hinj hu hu' (resultText_inj htext))

/-- A hash for the sample, of which the first byte is the length and the last the last byte. -/
def sampleHash (bytes : List UInt8) : Vector UInt8 32 :=
  ((Vector.replicate 32 0xfb).set 0 (UInt8.ofNat bytes.length)).set 31 (bytes.getLast?.getD 0)

/-- Go and .NET derive one ID for a decision, and a stage event of Python has another. -/
theorem sample_result_ids :
    ∃ text, Language.go.resultID sampleHash "order-1" "order.decision" = .ok text ∧
      Language.dotnet.resultID sampleHash "order-1" "order.decision" = .ok text ∧
      Language.python.resultID sampleHash "order-1" "order.stage" ≠ .ok text := by
  obtain ⟨hagree, -, hseparate⟩ := result_ids_agree_and_separate sampleHash
  have hgo : Language.go.resultID sampleHash "order-1" "order.decision" =
      .ok (resultText sampleHash "order-1" "order.decision") := by decide +kernel
  have hdotnet : ∃ text, Language.dotnet.resultID sampleHash "order-1" "order.decision" =
      .ok text := ⟨resultText sampleHash "order-1" "order.decision", by decide +kernel⟩
  obtain ⟨text, htext⟩ := hdotnet
  have hsame := (hagree .go .dotnet _ _ _ _ hgo htext).2
  refine ⟨_, hgo, by rw [htext, hsame], fun hpython => ?_⟩
  -- the two byte strings have different last bytes, so the sample hash tells them apart
  have hinj : Set.InjOn sampleHash {resultBytes "order-1" "order.decision",
      resultBytes "order-1" "order.stage"} := by
    have hne : sampleHash (resultBytes "order-1" "order.decision") ≠
        sampleHash (resultBytes "order-1" "order.stage") := by decide +kernel
    rintro a (rfl | rfl) b (rfl | rfl) hab
    · rfl
    · exact absurd hab hne
    · exact absurd hab.symm hne
    · rfl
  have hslot := (hseparate _ .go .python _ _ _ _ _ hinj (by decide +kernel) (by decide +kernel)
    (by decide +kernel) (by decide +kernel) (.inl (Language.hashed_eq _ _ _))
    (.inr (Language.hashed_eq _ _ _)) hgo hpython).2
  exact absurd hslot (by decide)

end Boutique
