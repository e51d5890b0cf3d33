import Boutique.Cart.Commands
import Boutique.Lib.Bytes

/-!
# The result journal of the cart

`CartResultJournal` of `cartservice/src/cartstore/RedisAggregateCartStore.cs`: a format byte and three
fields, each after its length.  What `Parse` accepts of what `Serialize` wrote is what was written.
-/

namespace Boutique.CartStore

open Bytes

/-- `CartResultJournal.Write`. -/
def writeField (value : List UInt8) : List UInt8 := writeInt32BigEndian value.length ++ value

/-- `CartResultJournal.MaximumFieldLength`. -/
def maximumFieldLength : ℕ := 16 * 1024 * 1024

/-- `CartResultJournal.Read`: the field, and the bytes after it. -/
def readField : List UInt8 → Except CartError (List UInt8 × List UInt8)
  | a :: b :: c :: d :: rest =>
    let length := readInt32BigEndian a b c d
    if length < 0 ∨ (maximumFieldLength : ℤ) < length ∨ (rest.length : ℤ) < length then
      .error (.invalidData "Invalid cart result-journal field length.")
    else .ok (rest.take length.toNat, rest.drop length.toNat)
  | _ => .error (.invalidData "Truncated cart result journal.")

/-- `CartResultJournal.Serialize`.  The length is an `int` that is computed with overflow checks. -/
def serialize (result : CartStoredResult) : Except CartError (List UInt8) :=
  let journal := 1 :: (writeField (getBytes result.subject) ++
    (writeField (getBytes result.messageId) ++ writeField result.data))
  if journal.length < 2 ^ 31 then .ok journal else .error .overflow

/-- `CartResultJournal.Parse`. -/
def parse (env : CartEnv) : List UInt8 → Except CartError CartStoredResult
  | 1 :: fields => do
    let (subjectBytes, fields) ← readField fields
    let (messageIdBytes, fields) ← readField fields
    let (data, fields) ← readField fields
    let subject := getString subjectBytes
    let messageId := getString messageIdBytes
    if fields ≠ [] ∨ isBlank subject ∨ isBlank messageId ∨ data = [] then
      .error (.invalidData "Invalid cart result journal.")
    else
      match env.parseEnvelope data with
      | some envelope =>
        .ok { subject := subject, messageId := messageId, data := data, envelope := envelope }
      | none => .error (.invalidData "Protocol message end-group tag did not match expected tag.")
  | _ => .error (.invalidData "Unsupported cart result-journal format.")

/-- A field that is read back is the one that was written. -/
lemma readField_write {value rest : List UInt8} {fields : List UInt8 × List UInt8}
    (hlength : value.length < 2 ^ 31) (h : readField (writeField value ++ rest) = .ok fields) :
    fields = (value, rest) := by
  simp only [writeField, writeInt32BigEndian, List.cons_append, List.nil_append, readField] at h
  rw [readInt32BigEndian_write hlength] at h
  split_ifs at h
  simpa using (Except.ok.inj h).symm

/-- The lengths of the fields of a journal. -/
lemma serialize_eq_ok {result : CartStoredResult} {journal : List UInt8}
    (h : serialize result = .ok journal) :
    journal = 1 :: (writeField (getBytes result.subject) ++
      (writeField (getBytes result.messageId) ++ writeField result.data)) ∧
    (getBytes result.subject).length < 2 ^ 31 ∧ (getBytes result.messageId).length < 2 ^ 31 ∧
    result.data.length < 2 ^ 31 := by
  simp only [serialize] at h
  split_ifs at h with hlength
  obtain rfl := Except.ok.inj h
  simp only [writeField, List.length_cons, List.length_append] at hlength
  exact ⟨rfl, by omega, by omega, by omega⟩

/-- What `Parse` returns for what `Serialize` wrote has the subject, the message ID and the bytes that
were written. -/
theorem parse_serialize {env : CartEnv} {result parsed : CartStoredResult} {journal : List UInt8}
    (hserialize : serialize result = .ok journal) (hparse : parse env journal = .ok parsed) :
    parsed.subject = result.subject ∧ parsed.messageId = result.messageId ∧
      parsed.data = result.data := by
  obtain ⟨rfl, hsubject, hmessageId, hdata⟩ := serialize_eq_ok hserialize
  simp only [parse, bind_eq_ok] at hparse
  obtain ⟨⟨subject, fields₁⟩, h₁, ⟨messageId, fields₂⟩, h₂, ⟨data, fields₃⟩, h₃, hrest⟩ := hparse
  obtain ⟨rfl, rfl⟩ := Prod.mk.inj (readField_write hsubject h₁)
  obtain ⟨rfl, rfl⟩ := Prod.mk.inj (readField_write hmessageId h₂)
  rw [← List.append_nil (writeField result.data)] at h₃
  obtain ⟨rfl, rfl⟩ := Prod.mk.inj (readField_write hdata h₃)
  simp only [getString_getBytes] at hrest
  split_ifs at hrest
  split at hrest
  · obtain rfl := Except.ok.inj hrest
    exact ⟨rfl, rfl, rfl⟩
  · cases hrest

end Boutique.CartStore
