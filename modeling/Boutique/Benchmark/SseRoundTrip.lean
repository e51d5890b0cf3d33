import Boutique.Benchmark.Sse

/-!
# What is written is read back

The text of a write is a block of complete lines and a blank line.  Before each write the parser has no data;
the block and its blank line yield the event of the write, if it has one, and leave the parser without data
again.  A block that is cut off has no blank line, and yields nothing.
-/

namespace Boutique.Benchmark.Sse

open Workers Lines Frontend.Sse

/-! ## Feeding lines -/

/-- The parser after some lines, and the events that they yield. -/
def feed (parser : SseParser) : List (List Char) → SseParser × List ServerSentEvent
  | [] => (parser, [])
  | line :: rest =>
    ((feed (parser.line line).1 rest).1, (parser.line line).2.toList ++ (feed (parser.line line).1 rest).2)

/-- The lines of a text are decoded, and no error is raised. -/
lemma iterSseEvents_encode (parser : SseParser) (block : List (List Char)) :
    iterSseEvents parser (block.map encode) = ((feed parser block).2, none) := by
  induction block generalizing parser with
  | nil => rfl
  | cons line block ih => simp [iterSseEvents, feed, ih]

/-- Lines are fed one after the other. -/
lemma feed_append (parser : SseParser) (block rest : List (List Char)) :
    feed parser (block ++ rest) = ((feed (feed parser block).1 rest).1,
      (feed parser block).2 ++ (feed (feed parser block).1 rest).2) := by
  induction block generalizing parser with
  | nil => rfl
  | cons line block ih => simp [feed, ih]

/-- The parser has neither a name nor data of an event. -/
def Ready (parser : SseParser) : Prop := parser.eventType = "message".toList ∧ parser.data = []

/-! ## Lines that are not blank -/

/-- The line starts with a character that is not trimmed. -/
def Visible (line : List Char) : Prop :=
  ∃ c rest, line = c :: rest ∧ c ≠ '\r' ∧ c ≠ '\n' ∧ c ≠ '\uFEFF'

/-- The characters that end lines. -/
def isLineEnd (c : Char) : Bool := c == '\r' || c == '\n'

/-- A text can be checked for line ends. -/
lemma clean_of_all {text : List Char} (h : text.all (fun c => !isLineEnd c) = true) :
    ∀ c ∈ text, isLineEnd c = false := by
  intro c hc
  simpa using List.all_eq_true.mp h c hc

/-- Without line ends nothing is trimmed at the end. -/
lemma dropEnd_self {text : List Char} (h : ∀ c ∈ text, isLineEnd c = false) :
    dropEnd isLineEnd text = text := by
  refine List.rdropWhile_eq_self_iff.mpr fun hne => ?_
  rw [h _ (List.getLast_mem hne)]
  exact Bool.false_ne_true

/-- A visible line is not blank. -/
lemma trimLine_ne_nil {line : List Char} (h : Visible line) (firstLine : Bool) :
    trimLine firstLine line ≠ [] := by
  obtain ⟨c, rest, rfl, hcr, hlf, hmark⟩ := h
  have hpart : (c :: rest).rdropWhile isLineEnd <+: c :: rest := List.rdropWhile_prefix _ _
  have hne : (c :: rest).rdropWhile isLineEnd ≠ [] := by
    intro hnil
    have hend := List.rdropWhile_eq_nil_iff.mp hnil c List.mem_cons_self
    simp [isLineEnd, hcr, hlf] at hend
  obtain ⟨d, tail, htail⟩ := List.exists_cons_of_ne_nil hne
  obtain rfl : d = c := by
    rw [htail] at hpart
    exact (List.cons_prefix_cons.mp hpart).1
  have htrim : dropEnd (fun c => c == '\r' || c == '\n') (d :: rest) = d :: tail := htail
  simp [trimLine, htrim, hmark]

/-- A line that is not blank yields nothing. -/
lemma line_quiet (parser : SseParser) {line : List Char} (h : Visible line) : (parser.line line).2 = none := by
  unfold SseParser.line
  dsimp only
  rw [if_neg (trimLine_ne_nil h _)]
  split_ifs <;> rfl

/-- Lines that are not blank yield nothing. -/
lemma feed_quiet (parser : SseParser) {block : List (List Char)} (h : ∀ line ∈ block, Visible line) :
    (feed parser block).2 = [] := by
  induction block generalizing parser with
  | nil => rfl
  | cons line block ih =>
    rw [feed, line_quiet parser (h line List.mem_cons_self),
      ih _ fun other hother => h other (List.mem_cons_of_mem line hother)]
    rfl

/-- A part of a visible line of which something is left is visible. -/
lemma Visible.of_part {line whole : List Char} (h : Visible whole) (hpart : line <+: whole)
    (hne : line ≠ []) : Visible line := by
  obtain ⟨c, rest, rfl, hc⟩ := h
  obtain ⟨d, tail, rfl⟩ := List.exists_cons_of_ne_nil hne
  obtain rfl : d = c := (List.cons_prefix_cons.mp hpart).1
  exact ⟨d, tail, rfl, hc⟩

/-! ## Fields -/

/-- The field of a line with a colon and a space. -/
lemma splitField_colon {field : List Char} (hfield : ':' ∉ field) (value : List Char) :
    splitField (field ++ ':' :: ' ' :: value) = (field, value) := by
  have hkeep : ∀ c ∈ field, (c != ':') = true := by
    intro c hc
    simp only [bne_iff_ne]
    rintro rfl
    exact hfield hc
  have htake : (field ++ ':' :: ' ' :: value).takeWhile (· != ':') = field := by
    rw [List.takeWhile_append_of_pos hkeep]
    simp
  have hdrop : (field ++ ':' :: ' ' :: value).dropWhile (· != ':') = ':' :: ' ' :: value := by
    rw [List.dropWhile_append_of_pos hkeep]
    simp
  rw [splitField, htake, hdrop]
  rfl

/-- The end of a line is trimmed. -/
lemma trimLine_end {text : List Char} (hends : ∀ c ∈ text, isLineEnd c = false)
    (hmark : text.head? ≠ some '\uFEFF') (firstLine : Bool) : trimLine firstLine (text ++ ['\n']) = text := by
  have htrim : dropEnd (fun c => c == '\r' || c == '\n') (text ++ ['\n']) = text := by
    change (text ++ ['\n']).rdropWhile isLineEnd = text
    rw [List.rdropWhile_concat_pos _ _ _ rfl]
    exact dropEnd_self hends
  rw [trimLine, htrim]
  simp [hmark]

/-- A line of a field. -/
def fieldLine (field value : List Char) : List Char := field ++ ':' :: ' ' :: value ++ ['\n']

/-- A field with a name of letters, and a value without line ends. -/
structure IsField (field value : List Char) : Prop where
  named : Visible field
  colon : ':' ∉ field
  ends : ∀ c ∈ field ++ value, isLineEnd c = false

/-- The text of a field has no line ends. -/
lemma IsField.text {field value : List Char} (h : IsField field value) :
    ∀ c ∈ field ++ ':' :: ' ' :: value, isLineEnd c = false := by
  intro c hc
  simp only [List.mem_append, List.mem_cons] at hc
  rcases hc with hc | rfl | rfl | hc
  · exact h.ends c (List.mem_append_left _ hc)
  · rfl
  · rfl
  · exact h.ends c (List.mem_append_right _ hc)

/-- The line of a field is visible. -/
lemma IsField.visible {field value : List Char} (h : IsField field value) :
    Visible (fieldLine field value) := by
  obtain ⟨c, rest, rfl, hc⟩ := h.named
  exact ⟨c, _, rfl, hc⟩

/-- The line of a field is complete. -/
lemma IsField.complete {field value : List Char} (h : IsField field value) :
    Complete '\n' (fieldLine field value) :=
  ⟨_, rfl, fun hmem => Bool.false_ne_true ((h.text '\n' hmem).symm.trans rfl)⟩

/-- The line of a field is trimmed to its text. -/
lemma IsField.trimLine {field value : List Char} (h : IsField field value) (firstLine : Bool) :
    trimLine firstLine (fieldLine field value) = field ++ ':' :: ' ' :: value := by
  refine trimLine_end h.text ?_ firstLine
  obtain ⟨c, rest, rfl, -, -, hmark⟩ := h.named
  simpa using hmark

/-- The parser takes the value of a field. -/
lemma IsField.line {field value : List Char} (h : IsField field value) (parser : SseParser) :
    parser.line (fieldLine field value) =
      let parser := { parser with firstLine := false }
      if field = "event".toList then ({ parser with eventType := value }, none)
      else if field = "data".toList then ({ parser with data := parser.data ++ [value] }, none)
      else if field = "id".toList ∧ '\x00' ∉ value then ({ parser with lastEventId := some value }, none)
      else (parser, none) := by
  have hhead : (field ++ ':' :: ' ' :: value).head? ≠ some ':' := by
    obtain ⟨c, rest, rfl, -⟩ := h.named
    intro hcolon
    exact h.colon (by simpa using Or.inl (Option.some.inj hcolon).symm)
  rw [SseParser.line]
  simp only [h.trimLine, splitField_colon h.colon, hhead, if_false]
  rw [if_neg (by simp)]

/-- A blank line yields an event if there is data. -/
lemma line_blank (parser : SseParser) :
    parser.line ['\n'] = ({ parser with eventType := "message".toList, data := [], firstLine := false },
      if parser.data = [] then none
      else some { event := parser.eventType, data := ['\n'].intercalate parser.data
                  eventId := parser.lastEventId }) := by
  have htrim : trimLine parser.firstLine ['\n'] = [] := by
    cases parser.firstLine <;> rfl
  rw [SseParser.line, htrim]
  rfl

/-! ## Writes -/

/-- A text is a block of visible, complete lines and a blank line, and yields some events. -/
def Frames (text : List Char) (events : List ServerSentEvent) : Prop :=
  ∃ block : List (List Char), text = block.flatten ++ ['\n'] ∧
    (∀ line ∈ block, Complete '\n' line ∧ Visible line) ∧
    ∀ parser, Ready parser → Ready (feed parser (block ++ [['\n']])).1 ∧
      (feed parser (block ++ [['\n']])).2 = events

/-- The event of an order that is written with its JSON text. -/
def orderEvent (frame : OrderStatus × List Char) : ServerSentEvent where
  event := "order".toList
  data := frame.2
  eventId := some (formatRFC3339Nano frame.1.updatedAt)

/-- A keep-alive comment yields nothing. -/
lemma frames_keepAlive : Frames keepAlive [] := by
  refine ⟨[": keep-alive\n".toList], rfl, ?_, ?_⟩
  · intro line hline
    rw [List.mem_singleton.mp hline]
    refine ⟨⟨": keep-alive".toList, rfl, by decide⟩, ':', " keep-alive\n".toList, rfl, ?_⟩
    decide
  · intro parser hready
    have htrim : trimLine parser.firstLine ": keep-alive\n".toList = ": keep-alive".toList := by
      cases parser.firstLine <;> rfl
    have hcomment : parser.line ": keep-alive\n".toList = ({ parser with firstLine := false }, none) := by
      rw [SseParser.line, htrim]
      rfl
    simp only [List.singleton_append, feed, hcomment, line_blank]
    simp [Ready, hready.2]

/-- A time has neither line ends nor a null character. -/
lemma stamp_clean {c : Char} (h : isStamp c = true) : isLineEnd c = false ∧ c ≠ '\x00' := by
  refine ⟨?_, ?_⟩
  · cases hend : isLineEnd c with
    | false => rfl
    | true =>
      simp only [isLineEnd, Bool.or_eq_true, beq_iff_eq] at hend
      rcases hend with rfl | rfl <;> cases h
  · rintro rfl
    cases h

/-- An order yields its event. -/
lemma frames_order {marshal : OrderStatus → Option (List Char)} {order : OrderStatus} {encoded : List Char}
    (hmarshal : marshal order = some encoded) (hclean : ∀ c ∈ encoded, isLineEnd c = false) :
    ∃ text, writeOrderSSE marshal (some order) = some text ∧ Frames text [orderEvent (order, encoded)] := by
  have hid := formatRFC3339Nano_stamp order.updatedAt
  generalize hidtext : formatRFC3339Nano order.updatedAt = eventID at hid
  have hevent : IsField "event".toList "order".toList :=
    ⟨⟨'e', "vent".toList, rfl, by decide⟩, by decide, clean_of_all (by decide)⟩
  have hidfield : IsField "id".toList eventID := by
    refine ⟨⟨'i', "d".toList, rfl, by decide⟩, by decide, fun c hc => ?_⟩
    rcases List.mem_append.mp hc with hc | hc
    · exact clean_of_all (by decide : ("id".toList.all fun c => !isLineEnd c) = true) c hc
    · exact (stamp_clean (hid c hc)).1
  have hdata : IsField "data".toList encoded := by
    refine ⟨⟨'d', "ata".toList, rfl, by decide⟩, by decide, fun c hc => ?_⟩
    rcases List.mem_append.mp hc with hc | hc
    · exact clean_of_all (by decide : ("data".toList.all fun c => !isLineEnd c) = true) c hc
    · exact hclean c hc
  have hnull : '\x00' ∉ eventID := fun hmem => (stamp_clean (hid _ hmem)).2 rfl
  refine ⟨_, by rw [writeOrderSSE, hmarshal]; rfl, [fieldLine "event".toList "order".toList,
    fieldLine "id".toList eventID, fieldLine "data".toList encoded], ?_, ?_, ?_⟩
  · have hfirst : "event: order\nid: ".toList = fieldLine "event".toList "order".toList ++ "id: ".toList := rfl
    have hdatatext : "\ndata: ".toList = '\n' :: "data".toList ++ [':', ' '] := rfl
    have hidtext' : "id: ".toList = "id".toList ++ [':', ' '] := rfl
    have hlast : "\n\n".toList = ['\n', '\n'] := rfl
    simp only [hidtext, hfirst, hdatatext, hidtext', hlast, fieldLine, List.flatten_cons, List.flatten_nil,
      List.append_assoc, List.cons_append, List.nil_append]
  · intro line hline
    simp only [List.mem_cons, List.not_mem_nil, or_false] at hline
    rcases hline with rfl | rfl | rfl
    · exact ⟨hevent.complete, hevent.visible⟩
    · exact ⟨hidfield.complete, hidfield.visible⟩
    · exact ⟨hdata.complete, hdata.visible⟩
  · intro parser hready
    have hids : ¬("id".toList = "event".toList) ∧ ¬("id".toList = "data".toList) := by decide
    have hdatas : ¬("data".toList = "event".toList) := by decide
    simp only [List.cons_append, List.nil_append, feed, hevent.line, hidfield.line, hdata.line, line_blank,
      hids.1, hids.2, hdatas, hnull, if_true, if_false, not_false_eq_true, and_self]
    simp [Ready, hready.2, orderEvent, hidtext]

section Streams

variable {marshal : OrderStatus → Option (List Char)}

/-- The text of a write yields the event of its order, if it has one. -/
lemma frames_text
    (hclean : ∀ order encoded, marshal order = some encoded → ∀ c ∈ encoded, isLineEnd c = false)
    {w : SseWrite} {text : List Char} (htext : w.text marshal = some text) :
    Frames text ((w.frame marshal).toList.map orderEvent) := by
  cases w with
  | keepAlive =>
    obtain rfl : Frontend.Sse.keepAlive = text := Option.some.inj htext
    exact frames_keepAlive
  | order order =>
    cases hmarshal : marshal order with
    | none =>
      rw [SseWrite.text, writeOrderSSE, hmarshal] at htext
      cases htext
    | some encoded =>
      obtain ⟨text', htext', hframes⟩ := frames_order hmarshal (hclean order encoded hmarshal)
      obtain rfl : text' = text := Option.some.inj (htext'.symm.trans htext)
      simpa [SseWrite.frame, hmarshal] using hframes

/-- A block of a write that is cut off yields nothing. -/
lemma feed_cut {text : List Char} {events : List ServerSentEvent} (h : Frames text events) {n : ℕ}
    (hn : n < text.length) (parser : SseParser) : (feed parser (lines '\n' (text.take n))).2 = [] := by
  obtain ⟨block, rfl, hblock, -⟩ := h
  have hpart : (block.flatten ++ ['\n']).take n <+: block.flatten := by
    rw [List.take_append_of_le_length (by simpa using Nat.le_of_lt_succ (by simpa using hn))]
    exact List.take_prefix _ _
  have hlines : lines '\n' block.flatten = block := by
    simpa [lines] using lines_flatten (fun line hline => (hblock line hline).1) ([] : List Char)
  refine feed_quiet parser fun line hline => ?_
  obtain ⟨i, hi⟩ := List.mem_iff_getElem?.mp hline
  obtain ⟨hne, whole, hwhole, hstart⟩ := lines_of_part hpart hi
  rw [hlines] at hwhole
  exact (hblock whole (List.mem_of_getElem? hwhole)).2.of_part hstart hne

/-- The lines of a stream that is cut off yield the events of the orders that were received. -/
lemma feed_written
    (hclean : ∀ order encoded, marshal order = some encoded → ∀ c ∈ encoded, isLineEnd c = false)
    (writes : List SseWrite) (n : ℕ) (parser : SseParser) (hready : Ready parser) :
    (feed parser (lines '\n' ((written marshal writes).take n))).2 =
      (received marshal writes n).map orderEvent := by
  induction writes generalizing n parser with
  | nil => simp [written, received, lines, feed]
  | cons w ws ih =>
    cases htext : w.text marshal with
    | none => simp [written, received, htext, lines, feed]
    | some text =>
      have hframes := frames_text hclean htext
      rw [written, received, htext]
      dsimp only
      split_ifs with hn
      · -- the write was received: its lines, and those of the rest
        obtain ⟨block, hblocktext, hblock, hfeed⟩ := hframes
        obtain ⟨hready', hevents⟩ := hfeed parser hready
        have hlines : lines '\n' ((text ++ written marshal ws).take n) =
            (block ++ [['\n']]) ++ lines '\n' ((written marshal ws).take (n - text.length)) := by
          rw [List.take_append, List.take_of_length_le hn, hblocktext, List.append_assoc,
            lines_flatten fun line hline => (hblock line hline).1, List.append_assoc]
          rfl
        rw [hlines, feed_append, hevents, ih _ _ hready', List.map_append]
      · rw [List.take_append_of_le_length (by omega), feed_cut hframes (by omega), List.map_nil]

/-- `iter_sse_events` yields the events of the orders that were received, and raises nothing. -/
lemma iterSseEvents_written
    (hclean : ∀ order encoded, marshal order = some encoded → ∀ c ∈ encoded, isLineEnd c = false)
    (writes : List SseWrite) (n : ℕ) :
    iterSseEvents {} (lines newline (encode ((written marshal writes).take n))) =
      ((received marshal writes n).map orderEvent, none) := by
  rw [lines_encode, iterSseEvents_encode, feed_written hclean writes n {} ⟨rfl, rfl⟩]

/-- What was received was encoded. -/
lemma marshal_of_received {writes : List SseWrite} {n : ℕ} {frame : OrderStatus × List Char}
    (h : frame ∈ received marshal writes n) : marshal frame.1 = some frame.2 := by
  induction writes generalizing n with
  | nil => cases h
  | cons w ws ih =>
    rw [received] at h
    split at h
    · cases h
    · split_ifs at h
      · rcases List.mem_append.mp h with h | h
        · cases w with
          | keepAlive => cases h
          | order order =>
            simp only [SseWrite.frame, Option.mem_toList, Option.map_eq_some_iff] at h
            obtain ⟨encoded, hmarshal, rfl⟩ := h
            exact hmarshal
        · exact ih h
      · cases h

end Streams

end Boutique.Benchmark.Sse
