import Boutique.Cart.Journal

/-!
# The journal is an exact format

`CartResultJournal` once more, as the code reads it: by offsets into a span, with the `int` arithmetic
of its bounds checks and the exceptions of slices that leave the span.  No such exception is thrown, and
the spans that are accepted are those that `Serialize` writes.
-/

namespace Boutique.CartStore

open Bytes

/-! ## Reading a span -/

/-- `ReadOnlySpan<byte>`, whose length is an `int`. -/
structure Span where
  bytes : List UInt8
  fits : bytes.length < 2 ^ 31

/-- The exceptions of `Parse`: its own `InvalidDataException`, the one of the protobuf parser, and the
`ArgumentOutOfRangeException` of a span. -/
inductive ParseError where
  | invalidData (text : String)
  | protobuf
  | outOfRange
  deriving DecidableEq

namespace Span

/-- `source[offset..]`. -/
def sliceFrom (source : Span) (offset : ℤ) : Except ParseError (List UInt8) :=
  if offset < 0 ∨ (source.bytes.length : ℤ) < offset then .error .outOfRange
  else .ok (source.bytes.drop offset.toNat)

/-- `source.Slice(offset, length)`. -/
def slice (source : Span) (offset length : ℤ) : Except ParseError (List UInt8) :=
  if offset < 0 ∨ length < 0 ∨ (source.bytes.length : ℤ) < offset + length then .error .outOfRange
  else .ok ((source.bytes.drop offset.toNat).take length.toNat)

end Span

/-- `BinaryPrimitives.ReadInt32BigEndian`. -/
def readInt32 : List UInt8 → Except ParseError ℤ
  | a :: b :: c :: d :: _ => .ok (readInt32BigEndian a b c d)
  | _ => .error .outOfRange

namespace Span

/-- The part of `CartResultJournal.Read` after the length: the field, and the offset after it. -/
def readContent (source : Span) (offset length : ℤ) : Except ParseError (List UInt8 × ℤ) :=
  if length < 0 ∨ (maximumFieldLength : ℤ) < length ∨
      wrapInt32 (source.bytes.length - offset) < length then
    .error (.invalidData "Invalid cart result-journal field length.")
  else do
    let field ← source.slice offset length
    return (field, wrapInt32 (offset + length))

/-- `CartResultJournal.Read`. -/
def read (source : Span) (offset : ℤ) : Except ParseError (List UInt8 × ℤ) :=
  if wrapInt32 (source.bytes.length - offset) < 4 then
    .error (.invalidData "Truncated cart result journal.")
  else do
    let length ← readInt32 (← source.sliceFrom offset)
    source.readContent (wrapInt32 (offset + 4)) length

/-- The fields of a journal, as `Parse` reads them. -/
structure Fields where
  subject : List UInt8
  messageId : List UInt8
  data : List UInt8
  offset : ℤ

/-- The first half of `CartResultJournal.Parse`. -/
def readFields (journal : Span) : Except ParseError Fields :=
  match journal.bytes with
  | 1 :: _ => do
    let (subject, offset) ← journal.read 1
    let (messageId, offset) ← journal.read offset
    let (data, offset) ← journal.read offset
    return { subject, messageId, data, offset }
  | _ => .error (.invalidData "Unsupported cart result-journal format.")

/-- `CartResultJournal.Parse`. -/
def parse (env : CartEnv) (journal : Span) : Except ParseError CartStoredResult := do
  let fields ← journal.readFields
  let subject := getString fields.subject
  let messageId := getString fields.messageId
  if fields.offset ≠ journal.bytes.length ∨ isBlank subject ∨ isBlank messageId ∨
      fields.data = [] then
    .error (.invalidData "Invalid cart result journal.")
  else
    match env.parseEnvelope fields.data with
    | some envelope =>
      .ok { subject := subject, messageId := messageId, data := fields.data, envelope := envelope }
    | none => .error .protobuf

end Span

/-! ## Fields -/

/-- Bytes are too few for a length, or start with one. -/
lemma four_cases (bytes : List UInt8) :
    (bytes.length < 4 ∧ readField bytes = .error (.invalidData "Truncated cart result journal.")) ∨
      ∃ a b c d tail, bytes = a :: b :: c :: d :: tail := by
  rcases bytes with _ | ⟨a, _ | ⟨b, _ | ⟨c, _ | ⟨d, tail⟩⟩⟩⟩
  · exact .inl ⟨by simp, rfl⟩
  · exact .inl ⟨by simp, rfl⟩
  · exact .inl ⟨by simp, rfl⟩
  · exact .inl ⟨by simp, rfl⟩
  · exact .inr ⟨a, b, c, d, tail, rfl⟩

/-- Four bytes and a rest are a written field and what follows it, if the field is not too long. -/
lemma readField_eq_ok_iff {bytes field rest : List UInt8} :
    readField bytes = .ok (field, rest) ↔
      bytes = writeField field ++ rest ∧ field.length ≤ maximumFieldLength := by
  constructor
  · intro h
    obtain ⟨-, herror⟩ | ⟨a, b, c, d, tail, rfl⟩ := four_cases bytes
    · rw [herror] at h
      cases h
    · simp only [readField] at h
      split_ifs at h with hbounds
      push Not at hbounds
      obtain ⟨hnonneg, hmaximum, htail⟩ := hbounds
      obtain ⟨rfl, rfl⟩ := Prod.mk.inj (Except.ok.inj h)
      have hlength : (tail.take (readInt32BigEndian a b c d).toNat).length =
          (readInt32BigEndian a b c d).toNat := by
        rw [List.length_take]
        omega
      refine ⟨?_, by omega⟩
      rw [writeField, hlength, writeInt32BigEndian_read hnonneg, List.append_assoc,
        List.take_append_drop]
      rfl
  · rintro ⟨rfl, hlength⟩
    have hfits : field.length < 2 ^ 31 := lt_of_le_of_lt hlength (by decide)
    simp only [writeField, writeInt32BigEndian, List.cons_append, List.nil_append, readField,
      readInt32BigEndian_write hfits]
    rw [if_neg]
    · simp
    · simp only [List.length_append]
      omega

/-- A field and a prefix of what follows it determine the field. -/
lemma writeField_prefix {field field' rest rest' : List UInt8}
    (hlength : field.length < 2 ^ 31) (hlength' : field'.length < 2 ^ 31)
    (h : writeField field ++ rest <+: writeField field' ++ rest') :
    field = field' ∧ rest <+: rest' := by
  simp only [writeField, writeInt32BigEndian, List.cons_append, List.nil_append,
    List.cons_prefix_cons] at h
  obtain ⟨ha, hb, hc, hd, hrest⟩ := h
  have hsame : (field.length : ℤ) = field'.length := by
    rw [← readInt32BigEndian_write hlength, ha, hb, hc, hd, readInt32BigEndian_write hlength']
  obtain ⟨suffix, hsuffix⟩ := hrest
  rw [List.append_assoc] at hsuffix
  obtain ⟨rfl, hrest⟩ := List.append_inj hsuffix (by omega)
  exact ⟨rfl, suffix, hrest⟩

namespace Span

variable {journal : Span}

/-- What follows a value. -/
lemma ok_bind {ε α β : Type} (x : α) (f : α → Except ε β) :
    (Except.ok x >>= f : Except ε β) = f x := rfl

/-- What follows the length of four bytes. -/
lemma readInt32_bind {β : Type} (a b c d : UInt8) (tail : List UInt8) (f : ℤ → Except ParseError β) :
    (readInt32 (a :: b :: c :: d :: tail) >>= f) = f (readInt32BigEndian a b c d) := rfl

/-- A value of an `int` is not wrapped. -/
lemma wrapInt32_eq {x : ℤ} (hlower : -2 ^ 31 ≤ x) (hupper : x < 2 ^ 31) : wrapInt32 x = x := by
  rw [wrapInt32, Int.bmod_eq_of_le] <;> omega

/-- `Read` inside the span does what reading the rest of the bytes does, and stays inside the span. -/
lemma read_spec (journal : Span) {n : ℕ} (hn : n ≤ journal.bytes.length) :
    (∃ text, readField (journal.bytes.drop n) = .error (.invalidData text) ∧
        journal.read n = .error (.invalidData text)) ∨
      ∃ field, ∃ m ≤ journal.bytes.length,
        readField (journal.bytes.drop n) = .ok (field, journal.bytes.drop m) ∧
        journal.read n = .ok (field, (m : ℤ)) := by
  have hfits := journal.fits
  have hleft : wrapInt32 (journal.bytes.length - n) = (journal.bytes.length - n : ℕ) := by
    rw [wrapInt32_eq (by omega) (by omega)]
    omega
  have hlength : (journal.bytes.drop n).length = journal.bytes.length - n := List.length_drop ..
  have hfrom : journal.sliceFrom n = .ok (journal.bytes.drop n) := by
    rw [sliceFrom, if_neg (by omega), Int.toNat_natCast]
  obtain ⟨hshort, herror⟩ | ⟨a, b, c, d, tail, hrest⟩ := four_cases (journal.bytes.drop n)
  · left
    refine ⟨_, herror, ?_⟩
    rw [Span.read, hleft]
    exact if_pos (by omega)
  · rw [hrest, List.length_cons, List.length_cons, List.length_cons, List.length_cons] at hlength
    have hafter : wrapInt32 ((n : ℤ) + 4) = n + 4 := wrapInt32_eq (by omega) (by omega)
    have htail : wrapInt32 (journal.bytes.length - ((n : ℤ) + 4)) = tail.length := by
      rw [wrapInt32_eq (by omega) (by omega)]
      omega
    have hdrop : journal.bytes.drop (n + 4) = tail := by
      rw [← List.drop_drop, hrest]
      rfl
    have hread : journal.read n = journal.readContent (n + 4) (readInt32BigEndian a b c d) := by
      rw [Span.read, hleft, if_neg (by omega), hfrom, hrest, hafter, ok_bind, readInt32_bind]
    rw [hread, hrest, readField]
    generalize readInt32BigEndian a b c d = length
    simp only [readContent, htail]
    split_ifs with hbounds
    · exact .inl ⟨_, rfl, rfl⟩
    · right
      push Not at hbounds
      obtain ⟨hnonneg, hmaximum, hle⟩ := hbounds
      have hslice : journal.slice (n + 4) length = .ok (tail.take length.toNat) := by
        have hoffset : ((n : ℤ) + 4).toNat = n + 4 := by omega
        rw [slice, if_neg (by omega), hoffset, hdrop]
      have hnext : wrapInt32 ((n : ℤ) + 4 + length) = (n + 4 + length.toNat : ℕ) := by
        rw [wrapInt32_eq (by omega) (by omega)]
        omega
      refine ⟨tail.take length.toNat, n + 4 + length.toNat, by omega, ?_, ?_⟩
      · rw [← List.drop_drop, hdrop]
      · rw [hslice, ← hnext]
        rfl

/-- A written field is read, up to where it ends. -/
lemma read_writeField {n : ℕ} {field rest : List UInt8} (hn : n ≤ journal.bytes.length)
    (hdrop : journal.bytes.drop n = writeField field ++ rest)
    (hmaximum : field.length ≤ maximumFieldLength) :
    ∃ m ≤ journal.bytes.length, journal.read n = .ok (field, (m : ℤ)) ∧
      journal.bytes.drop m = rest := by
  have hfield := readField_eq_ok_iff.mpr ⟨hdrop, hmaximum⟩
  rcases journal.read_spec hn with ⟨text, herror, -⟩ | ⟨found, m, hm, hfound, hread⟩
  · rw [hfield] at herror
    cases herror
  · rw [hfield] at hfound
    obtain ⟨rfl, hrest⟩ := Prod.mk.inj (Except.ok.inj hfound)
    exact ⟨m, hm, hread, hrest.symm⟩

/-- The bytes of a journal with the fields. -/
def encode (subject messageId data : List UInt8) : List UInt8 :=
  1 :: (writeField subject ++ (writeField messageId ++ writeField data))

/-- The fields are short enough to be read. -/
structure Short (subject messageId data : List UInt8) : Prop where
  subject : subject.length ≤ maximumFieldLength
  messageId : messageId.length ≤ maximumFieldLength
  data : data.length ≤ maximumFieldLength

/-- The fields of a journal that was written are read. -/
lemma readFields_encode {subject messageId data : List UInt8}
    (hjournal : journal.bytes = encode subject messageId data) (hshort : Short subject messageId data) :
    journal.readFields =
      .ok { subject, messageId, data, offset := (journal.bytes.length : ℤ) } := by
  have hlength : 1 ≤ journal.bytes.length := by
    rw [hjournal]
    exact Nat.succ_le_succ (Nat.zero_le _)
  obtain ⟨n, hn, hsubject, hrest⟩ := read_writeField hlength (by rw [hjournal]; rfl) hshort.subject
  obtain ⟨m, hm, hmessageId, hrest⟩ := read_writeField hn hrest hshort.messageId
  rw [← List.append_nil (writeField data)] at hrest
  obtain ⟨k, hk, hdata, hrest⟩ := read_writeField hm hrest hshort.data
  have hend : k = journal.bytes.length := by
    rw [List.drop_eq_nil_iff] at hrest
    omega
  subst hend
  have hfirst : ∃ rest, journal.bytes = 1 :: rest := ⟨_, hjournal⟩
  obtain ⟨rest, hfirst⟩ := hfirst
  unfold readFields
  rw [hfirst]
  have hone : journal.read 1 = .ok (subject, (n : ℤ)) := hsubject
  simp only [hone, ok_bind, hmessageId, hdata]
  rw [hfirst]
  rfl

/-- The fields that are read were written, unless `InvalidDataException` is thrown. -/
lemma readFields_cases (journal : Span) :
    (∃ text, journal.readFields = .error (.invalidData text)) ∨
      ∃ subject messageId data, ∃ m ≤ journal.bytes.length, Short subject messageId data ∧
        journal.readFields = .ok { subject, messageId, data, offset := (m : ℤ) } ∧
        journal.bytes = encode subject messageId data ++ journal.bytes.drop m := by
  unfold readFields
  split
  next rest hfirst =>
    have hlength : 1 ≤ journal.bytes.length := by
      rw [hfirst]
      exact Nat.succ_le_succ (Nat.zero_le _)
    rcases journal.read_spec hlength with ⟨text, -, herror⟩ | ⟨subject, n, hn, hsubject, hread⟩
    · left
      have hone : journal.read 1 = .error (.invalidData text) := herror
      exact ⟨text, by rw [hone]; rfl⟩
    have hone : journal.read 1 = .ok (subject, (n : ℤ)) := hread
    rw [hone, ok_bind]
    rcases journal.read_spec hn with ⟨text, -, herror⟩ | ⟨messageId, m, hm, hmessageId, hread⟩
    · left
      exact ⟨text, by simp only [herror]; rfl⟩
    simp only [hread, ok_bind]
    rcases journal.read_spec hm with ⟨text, -, herror⟩ | ⟨data, k, hk, hdata, hread⟩
    · left
      exact ⟨text, by simp only [herror]; rfl⟩
    simp only [hread, ok_bind]
    right
    obtain ⟨hsubject, hshort₁⟩ := readField_eq_ok_iff.mp hsubject
    obtain ⟨hmessageId, hshort₂⟩ := readField_eq_ok_iff.mp hmessageId
    obtain ⟨hdata, hshort₃⟩ := readField_eq_ok_iff.mp hdata
    refine ⟨subject, messageId, data, k, hk, ⟨hshort₁, hshort₂, hshort₃⟩, rfl, ?_⟩
    rw [hmessageId, hdata] at hsubject
    rw [encode, List.cons_append, List.append_assoc, List.append_assoc, ← hsubject, hfirst]
    rfl
  next => exact .inl ⟨_, rfl⟩

/-- The second half of `Parse`, on the fields. -/
lemma parse_of_readFields {env : CartEnv} {fields : Fields} (h : journal.readFields = .ok fields) :
    journal.parse env =
      if fields.offset ≠ journal.bytes.length ∨ isBlank (getString fields.subject) ∨
          isBlank (getString fields.messageId) ∨ fields.data = [] then
        .error (.invalidData "Invalid cart result journal.")
      else
        match env.parseEnvelope fields.data with
        | some envelope =>
          .ok { subject := getString fields.subject, messageId := getString fields.messageId
                data := fields.data, envelope := envelope }
        | none => .error .protobuf := by
  unfold parse
  rw [h]
  rfl

/-- `Parse` returns a result or throws one of two exceptions. -/
lemma parse_total (env : CartEnv) (journal : Span) :
    (∃ parsed, journal.parse env = .ok parsed) ∨
      (∃ text, journal.parse env = .error (.invalidData text)) ∨
      journal.parse env = .error .protobuf := by
  rcases journal.readFields_cases with ⟨text, herror⟩ | ⟨_, _, _, _, -, -, hfields, -⟩
  · refine .inr (.inl ⟨text, ?_⟩)
    unfold parse
    rw [herror]
    rfl
  · rw [parse_of_readFields hfields]
    split_ifs
    · exact .inr (.inl ⟨_, rfl⟩)
    · split
      · exact .inl ⟨_, rfl⟩
      · exact .inr (.inr rfl)

/-- A journal that `Parse` accepts consists of its fields, and the fields are what is returned. -/
lemma parse_eq_ok {env : CartEnv} {parsed : CartStoredResult} (h : journal.parse env = .ok parsed) :
    ∃ fields, journal.readFields = .ok fields ∧ Short fields.subject fields.messageId parsed.data ∧
      journal.bytes = encode fields.subject fields.messageId parsed.data ∧
      parsed.subject = getString fields.subject ∧ parsed.messageId = getString fields.messageId := by
  rcases journal.readFields_cases with ⟨text, herror⟩ | ⟨_, _, _, m, hm, hshort, hfields, hbytes⟩
  · unfold parse at h
    rw [herror] at h
    cases h
  · rw [parse_of_readFields hfields] at h
    split_ifs at h with hinvalid
    split at h
    · cases h
      push Not at hinvalid
      obtain rfl : m = journal.bytes.length := Int.ofNat_inj.mp hinvalid.1
      rw [List.drop_length, List.append_nil] at hbytes
      exact ⟨_, hfields, hshort, hbytes, rfl, rfl⟩
    · cases h

/-- The reader of `Boutique.Cart.Journal`, which follows the rest of the bytes and not the offset,
accepts the same journals with the same results. -/
lemma parse_eq_ok_iff {env : CartEnv} {parsed : CartStoredResult} :
    journal.parse env = .ok parsed ↔ CartStore.parse env journal.bytes = .ok parsed := by
  constructor
  · intro h
    obtain ⟨fields, -, hshort, hbytes, -⟩ := parse_eq_ok h
    rw [parse_of_readFields (readFields_encode hbytes hshort)] at h
    have hdata := readField_eq_ok_iff.mpr
      ⟨(List.append_nil (writeField parsed.data)).symm, hshort.data⟩
    rw [hbytes, encode, CartStore.parse, readField_eq_ok_iff.mpr ⟨rfl, hshort.subject⟩, ok_bind]
    simp only
    rw [readField_eq_ok_iff.mpr ⟨rfl, hshort.messageId⟩, ok_bind]
    simp only
    rw [hdata, ok_bind]
    split_ifs at h with hinvalid
    split at h
    next envelope henvelope =>
      rw [if_neg (by simpa using hinvalid)]
      simp only at henvelope ⊢
      rw [henvelope]
      exact congrArg Except.ok (Except.ok.inj h)
    next => cases h
  · intro h
    unfold CartStore.parse at h
    split at h
    next fields hbytes =>
      simp only [bind_eq_ok] at h
      obtain ⟨⟨subject, rest₁⟩, h₁, ⟨messageId, rest₂⟩, h₂, ⟨data, rest₃⟩, h₃, h⟩ := h
      obtain ⟨rfl, hshort₁⟩ := readField_eq_ok_iff.mp h₁
      obtain ⟨rfl, hshort₂⟩ := readField_eq_ok_iff.mp h₂
      obtain ⟨rfl, hshort₃⟩ := readField_eq_ok_iff.mp h₃
      split_ifs at h with hinvalid
      push Not at hinvalid
      obtain ⟨rfl, hsubject, hmessageId, hdata⟩ := hinvalid
      rw [List.append_nil] at hbytes
      rw [parse_of_readFields (readFields_encode hbytes ⟨hshort₁, hshort₂, hshort₃⟩), if_neg]
      · split at h
        next envelope henvelope =>
          simp only at henvelope ⊢
          rw [henvelope]
          exact congrArg Except.ok (Except.ok.inj h)
        next => cases h
      · simp [hsubject, hmessageId, hdata]
    next => cases h

end Span

/-! ## The format -/

/-- A result that can be journalled, with the envelope of its data. -/
structure Journalled (env : CartEnv) (result : CartStoredResult) (envelope : ResultEnvelope) :
    Prop where
  subject : isBlank result.subject = false
  messageId : isBlank result.messageId = false
  data : result.data ≠ []
  envelope : env.parseEnvelope result.data = some envelope
  short : Span.Short (getBytes result.subject) (getBytes result.messageId) result.data

/-- Bytes that are the UTF-8 of a text. -/
def IsText (bytes : List UInt8) : Prop := ∃ text, getBytes text = bytes

/-- A journal of short fields has a length. -/
lemma length_encode {subject messageId data : List UInt8} (h : Span.Short subject messageId data) :
    (Span.encode subject messageId data).length < 2 ^ 31 := by
  obtain ⟨hsubject, hmessageId, hdata⟩ := h
  simp only [Span.encode, writeField, writeInt32BigEndian, List.length_cons, List.length_append,
    List.length_nil]
  unfold maximumFieldLength at hsubject hmessageId hdata
  omega

/-- What `Serialize` writes for fields that are short. -/
lemma serialize_short {result : CartStoredResult}
    (h : Span.Short (getBytes result.subject) (getBytes result.messageId) result.data) :
    serialize result =
      .ok (Span.encode (getBytes result.subject) (getBytes result.messageId) result.data) := by
  exact if_pos (length_encode h)

/-- A journal starts another one only if it is the same. -/
lemma encode_prefix_eq {subject messageId data subject' messageId' data' : List UInt8}
    (hshort : Span.Short subject messageId data) (hshort' : Span.Short subject' messageId' data')
    (h : Span.encode subject messageId data <+: Span.encode subject' messageId' data') :
    Span.encode subject messageId data = Span.encode subject' messageId' data' := by
  have hfits : ∀ {field : List UInt8}, field.length ≤ maximumFieldLength → field.length < 2 ^ 31 := by
    intro field hfield
    exact lt_of_le_of_lt hfield (by decide)
  obtain ⟨-, hfields⟩ := List.cons_prefix_cons.mp h
  obtain ⟨hsubject, hrest⟩ :=
    writeField_prefix (hfits hshort.subject) (hfits hshort'.subject) hfields
  obtain ⟨hmessageId, hlast⟩ :=
    writeField_prefix (hfits hshort.messageId) (hfits hshort'.messageId) hrest
  rw [← List.append_nil (writeField data), ← List.append_nil (writeField data')] at hlast
  obtain ⟨hdata, -⟩ := writeField_prefix (hfits hshort.data) (hfits hshort'.data) hlast
  rw [hsubject, hmessageId, hdata]

/-- The journal is an exact format. -/
structure ExactFormat (env : CartEnv) : Prop where
  /-- `Parse` returns what `Serialize` wrote. -/
  roundTrip : ∀ result envelope, Journalled env result envelope → ∃ journal : Span,
    serialize result = .ok journal.bytes ∧
      journal.parse env = .ok { result with envelope := envelope }
  /-- No proper prefix and no proper extension of what `Serialize` wrote is accepted. -/
  delimited : ∀ result envelope bytes, Journalled env result envelope →
    serialize result = .ok bytes → ∀ journal : Span, journal.bytes ≠ bytes →
    journal.bytes <+: bytes ∨ bytes <+: journal.bytes → ∃ error, journal.parse env = .error error
  /-- What `Parse` accepts is what `Serialize` writes for it, if its texts are valid UTF-8. -/
  canonical : ∀ (journal : Span) fields parsed, journal.readFields = .ok fields →
    IsText fields.subject → IsText fields.messageId → journal.parse env = .ok parsed →
    serialize parsed = .ok journal.bytes
  /-- `Parse` returns a result, or throws `InvalidDataException` or the error of the protobuf
  parser. -/
  total : ∀ journal : Span, (∃ parsed, journal.parse env = .ok parsed) ∨
    (∃ text, journal.parse env = .error (.invalidData text)) ∨ journal.parse env = .error .protobuf

/-- The result journal of the cart is an exact format. -/
theorem journal_exact (env : CartEnv) : ExactFormat env where
  roundTrip := by
    intro result envelope h
    refine ⟨⟨_, length_encode h.short⟩, serialize_short h.short, ?_⟩
    have hfields := @Span.readFields_encode ⟨_, length_encode h.short⟩ _ _ _ rfl h.short
    rw [Span.parse_of_readFields hfields]
    simp [h.subject, h.messageId, h.data, h.envelope]
  delimited := by
    intro result envelope bytes h hserialize journal hne hprefix
    rcases journal.parse_total env with ⟨parsed, hparse⟩ | ⟨text, herror⟩ | herror
    · rw [serialize_short h.short] at hserialize
      cases hserialize
      obtain ⟨fields, -, hshort, hbytes, -⟩ := Span.parse_eq_ok hparse
      rw [hbytes] at hne hprefix
      rcases hprefix with hprefix | hprefix
      · exact absurd (encode_prefix_eq hshort h.short hprefix) hne
      · exact absurd (encode_prefix_eq h.short hshort hprefix).symm hne
    · exact ⟨_, herror⟩
    · exact ⟨_, herror⟩
  canonical := by
    intro journal fields parsed hfields hsubject hmessageId hparse
    obtain ⟨found, hfound, hshort, hbytes, hparsed, hid⟩ := Span.parse_eq_ok hparse
    obtain rfl : fields = found := Except.ok.inj (hfields.symm.trans hfound)
    rw [← getBytes_getString hsubject, ← getBytes_getString hmessageId, ← hparsed, ← hid] at hshort
    rw [serialize_short hshort, hbytes, hparsed, hid, getBytes_getString hsubject,
      getBytes_getString hmessageId]
  total := Span.parse_total env

/-- A length that is too large is refused before it is used. -/
lemma hostile_refused (env : CartEnv) {hostile : Span}
    (hbytes : hostile.bytes = [1, 127, 255, 255, 255, 98]) :
    hostile.parse env =
      .error (.invalidData "Invalid cart result-journal field length.") := by
  have hlength : readInt32BigEndian 127 255 255 255 = 2147483647 := by decide +kernel
  have hmaximum : (maximumFieldLength : ℤ) < 2147483647 := by decide +kernel
  have hlong : hostile.readContent 5 2147483647 =
      .error (.invalidData "Invalid cart result-journal field length.") :=
    if_pos (.inr (.inl hmaximum))
  have hread : hostile.read 1 =
      .error (.invalidData "Invalid cart result-journal field length.") := by
    have hfrom : hostile.sliceFrom 1 = .ok [127, 255, 255, 255, 98] := by
      rw [Span.sliceFrom, hbytes]
      rfl
    have hafter : wrapInt32 (1 + 4) = 5 := by decide
    rw [Span.read, hbytes, if_neg (by decide), hfrom, Span.ok_bind, Span.readInt32_bind, hlength,
      hafter, hlong]
  unfold Span.parse Span.readFields
  rw [hbytes]
  simp only [hread]
  rfl

/-- The envelope of a command that added two mugs to a cart. -/
def addedEnvelope : ResultEnvelope where
  messageId := "br1_add"
  messageType := "boutique.cart.ItemAdded.v1"
  schemaVersion := 1
  occurredAt := unixEpoch
  producer := "cartservice/phase4"
  aggregateType := "cart"
  aggregateId := "user"
  aggregateVersion := 1
  correlationId := "trace"
  causationId := "add"
  traceparent := ""
  tracestate := ""
  data := .itemAdded "add" "user" "mug" 2 2
    { userId := "user", items := [⟨"mug", 2⟩], cartVersion := 1 }

/-- The text of its message type stands for the bytes of the envelope; other bytes are none. -/
def addedEnv : CartEnv where
  envelopeBytes := fun envelope => getBytes envelope.messageType
  parseEnvelope := fun bytes =>
    if bytes = getBytes "boutique.cart.ItemAdded.v1" then some addedEnvelope else none
  resultHash := fun messageId _ => messageId
  digest := id

/-- The result of the command. -/
def addedResult : CartStoredResult where
  subject := "boutique.evt.cart.item-added.v1"
  messageId := "br1_add"
  data := getBytes "boutique.cart.ItemAdded.v1"
  envelope := addedEnvelope

/-- The result can be journalled. -/
lemma addedResult_journalled : Journalled addedEnv addedResult addedEnvelope where
  subject := by decide
  messageId := by decide
  data := by decide
  envelope := by simp [addedEnv, addedResult]
  short := ⟨by decide, by decide, by decide⟩

/-- The journal of the result is read back, by both readers.  Without its last byte, or with one more,
it is refused, and so is a length near `2 ^ 31`. -/
theorem added_journal_exact :
    ∃ journal cut longer hostile : Span, serialize addedResult = .ok journal.bytes ∧
      journal.bytes.length = 77 ∧ cut.bytes = journal.bytes.dropLast ∧
      longer.bytes = journal.bytes ++ [0] ∧ hostile.bytes = [1, 127, 255, 255, 255, 98] ∧
      journal.parse addedEnv = .ok addedResult ∧ CartStore.parse addedEnv journal.bytes = .ok addedResult ∧
      (∃ error, cut.parse addedEnv = .error error) ∧ (∃ error, longer.parse addedEnv = .error error) ∧
      hostile.parse addedEnv =
        .error (.invalidData "Invalid cart result-journal field length.") := by
  obtain ⟨journal, hwritten, hparse⟩ :=
    (journal_exact addedEnv).roundTrip addedResult addedEnvelope addedResult_journalled
  have hlength : journal.bytes.length = 77 := by
    rw [serialize_short addedResult_journalled.short] at hwritten
    rw [← Except.ok.inj hwritten]
    rfl
  have hfits := journal.fits
  have hcut : journal.bytes.dropLast.length = 76 := by rw [List.length_dropLast, hlength]
  have hlonger : (journal.bytes ++ [0]).length = 78 := by
    rw [List.length_append, hlength, List.length_singleton]
  have refused (other : Span) (hne : other.bytes.length ≠ 77)
      (hpart : other.bytes <+: journal.bytes ∨ journal.bytes <+: other.bytes) :
      ∃ error, other.parse addedEnv = .error error := by
    refine (journal_exact addedEnv).delimited _ _ _ addedResult_journalled hwritten other ?_ hpart
    intro hsame
    rw [hsame] at hne
    exact hne hlength
  refine ⟨journal, ⟨journal.bytes.dropLast, by omega⟩, ⟨journal.bytes ++ [0], by omega⟩,
    ⟨[1, 127, 255, 255, 255, 98], by decide⟩, hwritten, hlength, rfl, rfl, rfl, hparse,
    Span.parse_eq_ok_iff.mp hparse, ?_, ?_,
    hostile_refused _ rfl⟩
  · exact refused _ (hcut ▸ by decide) (.inl (List.dropLast_prefix _))
  · exact refused _ (hlonger ▸ by decide) (.inr (List.prefix_append _ _))

end Boutique.CartStore
