import Boutique.Operations.System

/-!
# What dead-lettering keeps

Messages, records and cases are never lost, so what a controller once saw of them stays true.  Every
record of `BOUTIQUE_DLQ` was made of the source message, or at a time when that message was gone for
good; and every case points to the one record of its subject.

The invariant comes in two strengths.  With `P` it also says that a record and the cases that point to
it agree on whether there was a source message; this holds in runs whose steps are `Consistent`.
-/

namespace Boutique.Operations

/-! ## Growth -/

section Extends

variable {κ Json : Type*}

/-- Nothing that was stored is lost, and no message comes back. -/
structure Extends (s s' : State κ Json) : Prop where
  messages : ∀ stream n m, s.messages stream n = some m → s'.messages stream n = some m
  last : ∀ stream, s.lastSequence stream ≤ s'.lastSequence stream
  absent : ∀ stream n, n ≤ s.lastSequence stream → s.getMessage stream n = none →
    s'.getMessage stream n = none
  dlq : s.dlq <+: s'.dlq
  cases : ∀ id, (s.cases id).isSome → (s'.cases id).isSome

variable {s s' : State κ Json}

/-- Nothing has changed in the streams and cases. -/
lemma Extends.of_eq (hmessages : s'.messages = s.messages) (hlast : s'.lastSequence = s.lastSequence)
    (hpresent : s'.present = s.present) (hdlq : s'.dlq = s.dlq) (hcases : s'.cases = s.cases) :
    Extends s s' where
  messages := by simp [hmessages]
  last := by simp [hlast]
  absent := by simp [State.getMessage, hpresent, hmessages]
  dlq := by simp [hdlq]
  cases := by simp [hcases]

/-- A record keeps its place. -/
lemma Extends.getElem (h : Extends s s') {n : ℕ} {x : String × Json} (hx : s.dlq[n]? = some x) :
    s'.dlq[n]? = some x := by
  obtain ⟨rest, hrest⟩ := h.dlq
  rw [← hrest, List.getElem?_append_left (List.getElem?_eq_some_iff.mp hx).1, hx]

end Extends

/-! ## The invariant -/

section Invariant

variable {κ Json : Type*} (env : Env Json) (P : Prop)

/-- The advisory is about a message that was stored. -/
structure Known (s : State κ Json) (advisory : Advisory) : Prop where
  valid : advisory.valid = true
  stored : advisory.streamSeq ≤ s.lastSequence advisory.stream

/-- The record was made of the source message, or without it when it was gone. -/
structure Honest (s : State κ Json) (advisory : Advisory) (record : DeadLetterRecord) : Prop where
  made : ∃ now original, record = advisory.record env now original ∧
    (∀ m, original = some m → s.messages advisory.stream advisory.streamSeq = some m) ∧
    (original = none → s.getMessage advisory.stream advisory.streamSeq = none)
  data : P → record.sourceSubject ≠ "" → record.originalData ≠ []

/-- The case belongs to a source message, and points to a record of its own. -/
structure CaseOk (s : State κ Json) (value : DeadLetterCase) : Prop where
  advisory : ∃ advisory, Known s advisory ∧ value.id = advisory.caseId env ∧
    value.sourceStream = advisory.stream ∧ value.sourceSequence = advisory.streamSeq ∧
    (value.sourceSubject ≠ "" → ∃ m, s.messages advisory.stream advisory.streamSeq = some m ∧
      m.subject = value.sourceSubject)
  record : ∃ (n : ℕ) (record : DeadLetterRecord), value.dlqSequence = n + 1 ∧
    s.dlq[n]? = some (dlqSubject value.id, env.encodeRecord record) ∧
    (P → value.sourceSubject ≠ "" → record.sourceSubject ≠ "")
  available : value.replayAvailable =
    (decide (value.status ≠ .transferInProgress) && decide (value.sourceSubject ≠ ""))

/-- What the phase of a call says. -/
def PhaseOk (s : State κ Json) : Phase → Prop
  | .lookup advisory | .fetch advisory => Known s advisory
  | .cleanup advisory existing =>
    Known s advisory ∧ CaseOk env P s existing.value ∧ existing.value.id = advisory.caseId env ∧
      (s.cases existing.value.id).isSome
  | .recollect advisory record | .persist advisory record | .recheck advisory record =>
    Known s advisory ∧ Honest env P s advisory record
  | .create value => CaseOk env P s value
  | .event stored | .delete stored | .parent stored | .complete stored =>
    CaseOk env P s stored.value ∧ (s.cases stored.value.id).isSome
  | .markParent stored parent =>
    (CaseOk env P s stored.value ∧ (s.cases stored.value.id).isSome) ∧
      CaseOk env P s parent.value ∧ parent.value.status = .replayPublished
  | .replayLock _ value _ =>
    CaseOk env P s value ∧ value.replayAvailable = true ∧ value.status = .replayInProgress
  | .replayPayload _ locked | .replayEnd locked _ =>
    CaseOk env P s locked.value ∧ locked.value.replayAvailable = true ∧
      locked.value.status = .replayInProgress
  | .replayPublish _ locked record =>
    (CaseOk env P s locked.value ∧ locked.value.replayAvailable = true ∧
      locked.value.status = .replayInProgress) ∧ record.sourceSubject ≠ ""
  | .resolveStore value _ => CaseOk env P s value
  | _ => True

/-- The record of the case of a removed message holds the message. -/
structure Recorded (s : State κ Json) (r : Removal) : Prop where
  stored : (s.cases r.caseId).isSome
  stream : r.stream = commandsStream
  message : s.messages r.stream r.sequence = some r.message
  caseId : ∃ consumer, r.caseId = deadLetterCaseId env r.stream consumer r.sequence
  record : ∃ (n : ℕ) (record : DeadLetterRecord),
    s.dlq[n]? = some (dlqSubject r.caseId, env.encodeRecord record) ∧
    record.sourceSubject = r.message.subject ∧ record.originalHeaders = r.message.header ∧
    record.originalData = r.message.data

/-- The invariant. -/
structure Inv (s : State κ Json) : Prop where
  messages : ∀ stream n m, s.messages stream n = some m →
    n ≤ s.lastSequence stream ∧ m.subject ≠ ""
  dlq : ∀ x ∈ s.dlq, ∃ advisory record, Known s advisory ∧ Honest env P s advisory record ∧
    x = (dlqSubject (advisory.caseId env), env.encodeRecord record)
  unique : (s.dlq.map Prod.fst).Nodup
  cases : ∀ id stored, s.cases id = some stored → stored.value.id = id ∧
    CaseOk env P s stored.value
  phases : ∀ c, PhaseOk env P s (s.phase c)
  removed : ∀ r ∈ s.removed, Recorded env s r

variable {env P} {s s' : State κ Json} {advisory : Advisory} {record : DeadLetterRecord}
  {value : DeadLetterCase} {c : κ}

/-- The empty streams. -/
lemma Inv.init : Inv env P ({} : State κ Json) where
  messages := by simp
  dlq := by simp
  unique := by simp
  cases := by simp
  phases := fun _ => trivial
  removed := by simp

/-! ### What stays true -/

lemma Known.mono (h : Known s advisory) (hext : Extends s s') : Known s' advisory :=
  ⟨h.valid, h.stored.trans (hext.last _)⟩

lemma Honest.mono (h : Honest env P s advisory record) (hknown : Known s advisory)
    (hext : Extends s s') : Honest env P s' advisory record := by
  obtain ⟨now, original, hrecord, hsome, hnone⟩ := h.made
  exact ⟨⟨now, original, hrecord, fun m hm => hext.messages _ _ _ (hsome m hm),
    fun ho => hext.absent _ _ hknown.stored (hnone ho)⟩, h.data⟩

lemma CaseOk.mono (h : CaseOk env P s value) (hext : Extends s s') : CaseOk env P s' value := by
  obtain ⟨advisory, hknown, hid, hstream, hsequence, hsubject⟩ := h.advisory
  obtain ⟨n, record, hn, hrecord, hP⟩ := h.record
  refine ⟨⟨advisory, hknown.mono hext, hid, hstream, hsequence, fun hne => ?_⟩,
    ⟨n, record, hn, hext.getElem hrecord, hP⟩, h.available⟩
  obtain ⟨m, hm, hms⟩ := hsubject hne
  exact ⟨m, hext.messages _ _ _ hm, hms⟩

lemma PhaseOk.mono {p : Phase} (h : PhaseOk env P s p) (hext : Extends s s') :
    PhaseOk env P s' p := by
  cases p with
  | lookup | fetch => exact Known.mono h hext
  | cleanup => exact ⟨h.1.mono hext, h.2.1.mono hext, h.2.2.1, hext.cases _ h.2.2.2⟩
  | recollect | persist | recheck => exact ⟨h.1.mono hext, h.2.mono h.1 hext⟩
  | create => exact CaseOk.mono h hext
  | event | delete | parent | complete => exact ⟨h.1.mono hext, hext.cases _ h.2⟩
  | markParent => exact ⟨⟨h.1.1.mono hext, hext.cases _ h.1.2⟩, h.2.1.mono hext, h.2.2⟩
  | replayLock | replayPayload | replayEnd => exact ⟨h.1.mono hext, h.2⟩
  | replayPublish => exact ⟨⟨h.1.1.mono hext, h.1.2⟩, h.2⟩
  | resolveStore => exact CaseOk.mono h hext
  | idle | cleanupEvent | reload | latest | replayLoad | resolveLoad | returned => trivial

lemma Recorded.mono {r : Removal} (h : Recorded env s r) (hext : Extends s s') :
    Recorded env s' r := by
  obtain ⟨n, record, hrecord, hsame⟩ := h.record
  exact ⟨hext.cases _ h.stored, h.stream, hext.messages _ _ _ h.message, h.caseId,
    n, record, hext.getElem hrecord, hsame⟩

/-- What is known of a call whose phase is known. -/
lemma Inv.of_phase (h : Inv env P s) {p : Phase} (hc : s.phase c = p) : PhaseOk env P s p :=
  hc ▸ h.phases c

/-! ### Changes of the state -/

/-- The invariant after a change that loses nothing, for what is new in it. -/
lemma Inv.extend (h : Inv env P s) (hext : Extends s s')
    (hmessages : ∀ stream n m, s'.messages stream n = some m →
      n ≤ s'.lastSequence stream ∧ m.subject ≠ "")
    (hdlq : s'.dlq = s.dlq)
    (hcases : ∀ id stored, s'.cases id = some stored → s.cases id = some stored ∨
      stored.value.id = id ∧ CaseOk env P s' stored.value)
    (hphases : ∀ d, s'.phase d = s.phase d ∨ PhaseOk env P s' (s'.phase d))
    (hremoved : ∀ r ∈ s'.removed, r ∈ s.removed ∨ Recorded env s' r) : Inv env P s' := by
  refine ⟨hmessages, fun x hx => ?_, hdlq ▸ h.unique, fun id stored hst => ?_, fun d => ?_,
    fun r hr => ?_⟩
  · obtain ⟨advisory, record, hknown, hhonest, heq⟩ := h.dlq x (hdlq ▸ hx)
    exact ⟨advisory, record, hknown.mono hext, hhonest.mono hknown hext, heq⟩
  · rcases hcases id stored hst with hold | hnew
    · obtain ⟨hid, hok⟩ := h.cases id stored hold
      exact ⟨hid, hok.mono hext⟩
    · exact hnew
  · rcases hphases d with hold | hnew
    · rw [hold]
      exact (h.phases d).mono hext
    · exact hnew
  · rcases hremoved r hr with hold | hnew
    · exact (h.removed r hold).mono hext
    · exact hnew

/-- A call moves on. -/
lemma Inv.setPhase [DecidableEq κ] (h : Inv env P s) {p : Phase} (hp : PhaseOk env P s p) :
    Inv env P (s.setPhase c p) := by
  have hext : Extends s (s.setPhase c p) := .of_eq rfl rfl rfl rfl rfl
  refine h.extend hext h.messages rfl (fun _ _ hst => .inl hst) (fun d => ?_) fun _ hr => .inl hr
  change Function.update s.phase c p d = s.phase d ∨
    PhaseOk env P (s.setPhase c p) (Function.update s.phase c p d)
  by_cases hd : d = c
  · subst hd
    rw [Function.update_self]
    exact .inr (hp.mono hext)
  · exact .inl (Function.update_of_ne hd ..)

/-- A source message is stored. -/
lemma Inv.publish (h : Inv env P s) (stream : String) (message : RawMessage)
    (hsubject : message.subject ≠ "") :
    Extends s (s.publish stream message) ∧ Inv env P (s.publish stream message) := by
  have hfresh : ∀ n m, s.messages stream n = some m → n ≠ s.lastSequence stream + 1 := by
    intro n m hm
    have hle := (h.messages stream n m hm).1
    omega
  have hext : Extends s (s.publish stream message) := by
    refine ⟨fun st n m hm => ?_, fun st => ?_, fun st n hn hp => ?_, List.prefix_rfl,
      fun id hid => hid⟩
    · by_cases hst : st = stream
      · subst hst
        simp [State.publish, Function.update_of_ne (hfresh n m hm), hm]
      · simp [State.publish, hst, hm]
    · by_cases hst : st = stream
      · simp [State.publish, hst]
      · simp [State.publish, hst]
    · by_cases hst : st = stream
      · subst hst
        have hne : n ≠ s.lastSequence st + 1 := by omega
        simpa [State.publish, State.getMessage, hne] using hp
      · simpa [State.publish, State.getMessage, hst] using hp
  refine ⟨hext, h.extend hext (fun st n m hm => ?_) rfl (fun _ _ hst => .inl hst)
    (fun _ => .inl rfl) fun _ hr => .inl hr⟩
  by_cases hst : st = stream
  · subst hst
    by_cases hn : n = s.lastSequence st + 1
    · subst hn
      simp only [State.publish, Function.update_self, Option.some.injEq] at hm ⊢
      exact ⟨le_rfl, hm ▸ hsubject⟩
    · simp only [State.publish, Function.update_self, Function.update_of_ne hn] at hm ⊢
      obtain ⟨hle, hne⟩ := h.messages st n m hm
      exact ⟨hle.trans (Nat.le_succ _), hne⟩
  · simp only [State.publish, Function.update_of_ne hst] at hm ⊢
    exact h.messages st n m hm

/-- What is gone stays gone. -/
lemma Extends.dropMessage (s : State κ Json) (stream : String) (sequence : ℕ) :
    Extends s (s.dropMessage stream sequence) := by
  refine ⟨fun _ _ _ hm => hm, fun _ => le_rfl, fun st n _ hp => ?_, List.prefix_rfl,
    fun id hid => hid⟩
  by_cases hst : st = stream
  · subst hst
    by_cases hn : n = sequence
    · simp [State.dropMessage, State.getMessage, hn]
    · simpa [State.dropMessage, State.getMessage, hn] using hp
  · simpa [State.dropMessage, State.getMessage, hst] using hp

/-- A source message is gone. -/
lemma Inv.dropMessage (h : Inv env P s) (stream : String) (sequence : ℕ) :
    Inv env P (s.dropMessage stream sequence) :=
  h.extend (.dropMessage s stream sequence) h.messages rfl (fun _ _ hst => .inl hst)
    (fun _ => .inl rfl) fun _ hr => .inl hr

/-- A case is written. -/
lemma Inv.putCase (h : Inv env P s) (hvalue : CaseOk env P s value) :
    Extends s (s.putCase value) ∧ Inv env P (s.putCase value) := by
  have hext : Extends s (s.putCase value) := by
    refine ⟨fun _ _ _ hm => hm, fun _ => le_rfl, fun _ _ _ hp => hp, List.prefix_rfl,
      fun id hid => ?_⟩
    by_cases heq : id = value.id
    · simp [State.putCase, heq]
    · simpa [State.putCase, heq] using hid
  refine ⟨hext, h.extend hext h.messages rfl (fun id stored hst => ?_) (fun _ => .inl rfl)
    fun _ hr => .inl hr⟩
  by_cases heq : id = value.id
  · subst heq
    simp only [State.putCase, Function.update_self, Option.some.injEq] at hst
    subst hst
    exact .inr ⟨rfl, hvalue.mono hext⟩
  · simp only [State.putCase, Function.update_of_ne heq] at hst
    exact .inl hst

/-- A case is updated under its revision. -/
lemma Inv.updateCase (h : Inv env P s) (hvalue : CaseOk env P s value) {revision : ℕ}
    (hupdate : s.updateCase value revision = some s') :
    Extends s s' ∧ Inv env P s' ∧ (s'.cases value.id).isSome := by
  unfold State.updateCase at hupdate
  split at hupdate
  · split_ifs at hupdate
    cases hupdate
    obtain ⟨hext, hinv⟩ := h.putCase hvalue
    exact ⟨hext, hinv, by simp [State.putCase]⟩
  · cases hupdate

/-! ### Records -/

/-- The last message on a subject is in the stream. -/
lemma lastOnSubject_eq_some {dlq : List (String × Json)} {subject : String} {sequence : ℕ}
    (h : lastOnSubject dlq subject = some sequence) :
    ∃ n json, sequence = n + 1 ∧ dlq[n]? = some (subject, json) := by
  obtain ⟨⟨⟨subject', json⟩, n⟩, hlast, rfl⟩ := Option.map_eq_some_iff.mp h
  have hmem := List.mem_of_getLast? hlast
  rw [List.mem_filter, decide_eq_true_eq] at hmem
  obtain ⟨hmem, rfl⟩ := hmem
  exact ⟨n, json, rfl, by simpa using List.mem_zipIdx_iff_getElem?.mp hmem⟩

/-- There is no message on the subject. -/
lemma lastOnSubject_eq_none {dlq : List (String × Json)} {subject : String}
    (h : lastOnSubject dlq subject = none) : subject ∉ dlq.map Prod.fst := by
  intro hmem
  obtain ⟨x, hx, rfl⟩ := List.mem_map.mp hmem
  obtain ⟨n, hn⟩ := List.mem_iff_getElem?.mp hx
  rw [lastOnSubject, Option.map_eq_none_iff, List.getLast?_eq_none_iff,
    List.filter_eq_nil_iff] at h
  exact h (x, n) (List.mem_zipIdx_iff_getElem?.mpr hn) (by simp)

/-- A record is stored on a subject without one. -/
lemma Inv.appendRecord (h : Inv env P s) (hknown : Known s advisory)
    (hhonest : Honest env P s advisory record) (hid : record.caseId = advisory.caseId env)
    (hnone : lastOnSubject s.dlq (dlqSubject record.caseId) = none) :
    Extends s { s with dlq := s.dlq ++ [(dlqSubject record.caseId, env.encodeRecord record)] } ∧
      Inv env P { s with dlq := s.dlq ++ [(dlqSubject record.caseId, env.encodeRecord record)] } := by
  have hext : Extends s
      { s with dlq := s.dlq ++ [(dlqSubject record.caseId, env.encodeRecord record)] } :=
    ⟨fun _ _ _ hm => hm, fun _ => le_rfl, fun _ _ _ hp => hp, List.prefix_append _ _,
      fun _ hid => hid⟩
  refine ⟨hext, ⟨h.messages, fun x hx => ?_, ?_, fun id stored hst => ?_,
    fun d => (h.phases d).mono hext, fun r hr => (h.removed r hr).mono hext⟩⟩
  · rcases List.mem_append.mp hx with hx | hx
    · obtain ⟨adv, rec, hk, hh, heq⟩ := h.dlq x hx
      exact ⟨adv, rec, hk.mono hext, hh.mono hk hext, heq⟩
    · rw [List.mem_singleton.mp hx]
      exact ⟨advisory, record, hknown.mono hext, hhonest.mono hknown hext, by rw [hid]⟩
  · have hnew := lastOnSubject_eq_none hnone
    rw [List.map_append, List.nodup_append]
    refine ⟨h.unique, by simp, fun a ha b hb hab => ?_⟩
    rw [List.map_singleton, List.mem_singleton] at hb
    obtain rfl : a = dlqSubject record.caseId := hab.trans hb
    exact hnew ha
  · obtain ⟨hid, hok⟩ := h.cases id stored hst
    exact ⟨hid, hok.mono hext⟩

/-- The record of a message keeps its subject, headers and data. -/
lemma record_some (advisory : Advisory) (now : Time) (m : RawMessage) :
    (advisory.record env now (some m)).sourceSubject = m.subject ∧
      (advisory.record env now (some m)).originalHeaders = m.header ∧
      (advisory.record env now (some m)).originalData = m.data := by
  refine ⟨rfl, ?_, rfl⟩
  simp [Advisory.record, cloneHeaders]

/-- A record belongs to the case of its advisory. -/
lemma record_caseId (advisory : Advisory) (now : Time) (original : Option RawMessage) :
    (advisory.record env now original).caseId = advisory.caseId env := by
  cases original <;> rfl

lemma Honest.caseId (h : Honest env P s advisory record) : record.caseId = advisory.caseId env := by
  obtain ⟨now, original, rfl, -⟩ := h.made
  exact record_caseId advisory now original

/-- The records of different cases have different subjects. -/
lemma dlqSubject_injective : Function.Injective dlqSubject := by
  intro a b h
  exact (String.append_right_inj "boutique.dlq.case.").mp h

/-- The record that a case points to was made for its own source message. -/
lemma Inv.record_of_case (h : Inv env P s) (hdigest : Function.Injective env.digest)
    (hknown : Known s advisory) {id : String} (hid : id = advisory.caseId env) {n : ℕ} {json : Json}
    (hjson : s.dlq[n]? = some (dlqSubject id, json)) :
    ∃ adv' record, json = env.encodeRecord record ∧ Honest env P s adv' record ∧
      adv'.stream = advisory.stream ∧ adv'.streamSeq = advisory.streamSeq ∧ record.caseId = id := by
  obtain ⟨adv', record, hknown', hhonest, heq⟩ := h.dlq _ (List.mem_of_getElem? hjson)
  obtain ⟨hsubject, rfl⟩ := Prod.mk.inj heq
  have hcase := dlqSubject_injective hsubject
  obtain ⟨hstream, -, hsequence⟩ :=
    Advisory.caseId_inj hdigest hknown'.valid hknown.valid (hcase.symm.trans hid)
  exact ⟨adv', record, rfl, hhonest, hstream, hsequence, hhonest.caseId.trans hcase.symm⟩

/-- A controller deletes the source message of a case that exists. -/
lemma Inv.deleteMessage (h : Inv env P s) (hdigest : Function.Injective env.digest)
    (hvalue : CaseOk env P s value) (hstored : (s.cases value.id).isSome)
    (hknown : Known s advisory) (hid : value.id = advisory.caseId env)
    (hstream : advisory.stream = commandsStream) :
    Extends s (s.deleteMessage value.id advisory.stream advisory.streamSeq) ∧
      Inv env P (s.deleteMessage value.id advisory.stream advisory.streamSeq) := by
  unfold State.deleteMessage
  cases hget : s.getMessage advisory.stream advisory.streamSeq with
  | none => exact ⟨.of_eq rfl rfl rfl rfl rfl, h⟩
  | some m =>
    have hmessage : s.messages advisory.stream advisory.streamSeq = some m := by
      unfold State.getMessage at hget
      split_ifs at hget
      exact hget
    have hext : Extends s (s.dropMessage advisory.stream advisory.streamSeq) := .dropMessage _ _ _
    have hinv := h.dropMessage advisory.stream advisory.streamSeq
    obtain ⟨n, rec, -, hrec, -⟩ := hvalue.record
    obtain ⟨adv', record, hjson, hhonest, hst, hseq, -⟩ := h.record_of_case hdigest hknown hid hrec
    obtain ⟨now, original, rfl, hsome, hnone⟩ := hhonest.made
    -- the message is still there, so the record was made of it
    cases original with
    | none =>
      have hgone := hnone rfl
      rw [hst, hseq, hget] at hgone
      cases hgone
    | some m' =>
      have hm' := hsome m' rfl
      rw [hst, hseq, hmessage] at hm'
      obtain rfl := Option.some.inj hm'
      have hrecorded : Recorded env s
          { caseId := value.id, stream := advisory.stream, sequence := advisory.streamSeq
            message := m } :=
        ⟨hstored, hstream, hmessage, ⟨advisory.consumer, hid⟩, n, _, hjson ▸ hrec,
          record_some adv' now m⟩
      have hext' : Extends (s.dropMessage advisory.stream advisory.streamSeq)
          { s.dropMessage advisory.stream advisory.streamSeq with
            removed := s.removed ++ [{ caseId := value.id, stream := advisory.stream
                                       sequence := advisory.streamSeq, message := m }] } :=
        .of_eq rfl rfl rfl rfl rfl
      refine ⟨⟨hext.messages, hext.last, hext.absent, hext.dlq, hext.cases⟩,
        hinv.extend hext' hinv.messages rfl (fun _ _ hc => .inl hc) (fun _ => .inl rfl)
          fun r hr => ?_⟩
      rcases List.mem_append.mp hr with hr | hr
      · exact .inl hr
      · rw [List.mem_singleton.mp hr]
        exact .inr ((hrecorded.mono hext).mono hext')

/-! ### Cases -/

/-- A change of a case that keeps what it says about the source. -/
lemma CaseOk.restatus {value' : DeadLetterCase} (h : CaseOk env P s value)
    (hid : value'.id = value.id) (hstream : value'.sourceStream = value.sourceStream)
    (hsequence : value'.sourceSequence = value.sourceSequence)
    (hsubject : value'.sourceSubject = value.sourceSubject)
    (hdlq : value'.dlqSequence = value.dlqSequence)
    (havailable : value'.replayAvailable = value.replayAvailable)
    (hstatus : value.status ≠ .transferInProgress) (hstatus' : value'.status ≠ .transferInProgress) :
    CaseOk env P s value' := by
  refine ⟨?_, ?_, ?_⟩
  · rw [hid, hstream, hsequence, hsubject]
    exact h.advisory
  · rw [hid, hsubject, hdlq]
    exact h.record
  · rw [havailable, h.available, hsubject]
    simp [hstatus, hstatus']

/-- The completed case. -/
lemma CaseOk.completed (h : CaseOk env P s value) (now : Time) :
    CaseOk env P s (value.completed now) :=
  ⟨h.advisory, h.record, by simp [DeadLetterCase.completed]⟩

/-- A new case points to a record. -/
lemma Honest.newCase (h : Honest env P s advisory record) (hknown : Known s advisory) {n : ℕ}
    {stored : DeadLetterRecord}
    (hstored : s.dlq[n]? = some (dlqSubject record.caseId, env.encodeRecord stored))
    (hP : P → record.sourceSubject ≠ "" → stored.sourceSubject ≠ "") :
    CaseOk env P s (advisory.newCase record (n + 1)) := by
  refine ⟨⟨advisory, hknown, h.caseId, rfl, rfl, fun hsubject => ?_⟩, ⟨n, stored, rfl, hstored, hP⟩,
    rfl⟩
  obtain ⟨now, original, rfl, hsome, -⟩ := h.made
  cases original with
  | none => exact absurd rfl hsubject
  | some m => exact ⟨m, hsome m rfl, rfl⟩

/-- The parent of a failed replay. -/
lemma CaseOk.markReplayFailed {value' : DeadLetterCase} {replayId childId : String} {now : Time}
    (h : CaseOk env P s value) (hstatus : value.status = .replayPublished)
    (hmarked : value.markReplayFailed replayId childId now = some value') :
    CaseOk env P s value' := by
  unfold DeadLetterCase.markReplayFailed at hmarked
  split at hmarked
  · cases hmarked
  · cases hmarked
    exact h.restatus rfl rfl rfl rfl rfl rfl (by simp [hstatus]) (by simp)

/-- The locked case of a replay. -/
lemma CaseOk.lockReplay {value' : DeadLetterCase} {attempt : ReplayAttempt} {actor reason : String}
    {now : Time} (h : CaseOk env P s value)
    (hlock : value.lockReplay env actor reason now = some (attempt, value')) :
    CaseOk env P s value' ∧ value'.replayAvailable = true ∧ value'.status = .replayInProgress := by
  unfold DeadLetterCase.lockReplay at hlock
  split_ifs at hlock with havailable
  have hava : value.replayAvailable = true := by simpa using havailable
  split at hlock
  · next hstatus =>
    cases hlock
    exact ⟨h.restatus rfl rfl rfl rfl rfl rfl (by simp [hstatus]) (by simp), hava, rfl⟩
  · next hstatus =>
    cases hlock
    exact ⟨h.restatus rfl rfl rfl rfl rfl rfl (by simp [hstatus]) (by simp), hava, rfl⟩
  · next hstatus =>
    split at hlock
    · split_ifs at hlock
      cases hlock
      exact ⟨h.restatus rfl rfl rfl rfl rfl rfl (by simp [hstatus]) (by simp), hava, rfl⟩
    · cases hlock
  · cases hlock

/-- The case after a replay. -/
lemma CaseOk.recordReplay (h : CaseOk env P s value) (hstatus : value.status = .replayInProgress)
    (outcome : Except String ℕ) (now : Time) : CaseOk env P s (value.recordReplay outcome now) := by
  have hne : value.status ≠ .transferInProgress := by simp [hstatus]
  cases outcome with
  | error text =>
    refine h.restatus rfl rfl rfl rfl rfl rfl hne ?_
    simp [DeadLetterCase.recordReplay, DeadLetterCase.replayFailed]
  | ok sequence =>
    refine h.restatus rfl rfl rfl rfl rfl rfl hne ?_
    simp [DeadLetterCase.recordReplay, DeadLetterCase.replayPublished]

/-- The resolved case. -/
lemma CaseOk.resolve {value' : DeadLetterCase} {actor reason : String} {now : Time}
    (h : CaseOk env P s value) (hresolve : value.resolve actor reason now = some value') :
    CaseOk env P s value' := by
  unfold DeadLetterCase.resolve at hresolve
  split at hresolve
  · cases hresolve
  · cases hresolve
  · cases hresolve
  · next hstatus _ _ =>
    cases hresolve
    exact h.restatus rfl rfl rfl rfl rfl rfl hstatus (by simp)

end Invariant

/-! ## Steps -/

section Steps

variable {κ Json : Type*} {env : Env Json} {P : Prop} {s s' : State κ Json} {a : Action κ} {c : κ}

/-- The step takes no message without data for a source message, and joins no record without a source
message to a case with one: a controller that has the source message does not find a record that
another wrote without it. -/
def Consistent (env : Env Json) (s : State κ Json) : Action κ → Prop
  | .fetch c _ => ∀ advisory m, s.phase c = .fetch advisory →
    s.getMessage advisory.stream advisory.streamSeq = some m → m.data ≠ []
  | .recollect c _ | .persist c _ | .recheck c => ∀ advisory record sequence json stored,
    (s.phase c = .recollect advisory record ∨ s.phase c = .persist advisory record ∨
      s.phase c = .recheck advisory record) → record.sourceSubject ≠ "" →
    lastOnSubject s.dlq (dlqSubject record.caseId) = some sequence →
    dlqMessage s.dlq sequence = some json → env.decodeRecord json = some stored →
    stored.sourceSubject ≠ ""
  | _ => True

/-- `persistDeadLetterRecord` found a record. -/
lemma Inv.persisted (h : Inv env P s) (hjson : ∀ r, env.decodeRecord (env.encodeRecord r) = some r)
    {advisory : Advisory} {record : DeadLetterRecord} {sequence : ℕ} (hknown : Known s advisory)
    (hhonest : Honest env P s advisory record)
    (hlast : lastOnSubject s.dlq (dlqSubject record.caseId) = some sequence)
    (hP : P → record.sourceSubject ≠ "" → ∀ json stored, dlqMessage s.dlq sequence = some json →
      env.decodeRecord json = some stored → stored.sourceSubject ≠ "") :
    PhaseOk env P s (persistedPhase advisory record sequence) := by
  obtain ⟨n, json, rfl, hn⟩ := lastOnSubject_eq_some hlast
  obtain ⟨adv', stored, hknown', hhonest', heq⟩ := h.dlq _ (List.mem_of_getElem? hn)
  obtain ⟨hsubject, rfl⟩ := Prod.mk.inj heq
  refine hhonest.newCase hknown hn fun hp hne => hP hp hne _ stored ?_ (hjson stored)
  simp [dlqMessage, hn]

/-- A case that was found is the start of a transfer or of the clean-up. -/
lemma Inv.found (h : Inv env P s) {id : String} {stored : StoredCase}
    (hstored : s.cases id = some stored) :
    stored.value.id = id ∧ CaseOk env P s stored.value ∧ (s.cases stored.value.id).isSome := by
  obtain ⟨hid, hok⟩ := h.cases id stored hstored
  exact ⟨hid, hok, by rw [hid, hstored]; rfl⟩

/-- Where `completeTransfer` starts. -/
lemma transferPhase_ok {stored : StoredCase} (hok : CaseOk env P s stored.value)
    (hsome : (s.cases stored.value.id).isSome) : PhaseOk env P s (transferPhase stored) := by
  unfold transferPhase
  split_ifs
  · exact ⟨hok, hsome⟩
  · trivial

variable [DecidableEq κ]

/-- An advisory arrives. -/
lemma Inv.advise {advisory : Advisory} (h : Inv env P s)
    (hstep : s.stepTransfer env (.advise c advisory) = some s') : Inv env P s' := by
  simp only [State.stepTransfer] at hstep
  split at hstep
  · split_ifs at hstep with hvalid hseq
    · cases hstep
      exact h.setPhase trivial
    · cases hstep
      exact h.setPhase ⟨by simpa using hvalid, hseq⟩
  · cases hstep

/-- `HandleAdvisory` looks the case up. -/
lemma Inv.lookup (h : Inv env P s) (hstep : s.stepTransfer env (.lookup c) = some s') : Inv env P s' := by
  simp only [State.stepTransfer] at hstep
  split at hstep
  · next advisory hphase =>
    have hknown : Known s advisory := h.of_phase hphase
    split at hstep
    · next existing hexisting =>
      obtain ⟨hid, hok, hsome⟩ := h.found hexisting
      cases hstep
      refine h.setPhase ?_
      unfold existingPhase
      split_ifs
      · exact ⟨hok, hsome⟩
      · exact ⟨hknown, hok, hid, hsome⟩
    · cases hstep
      exact h.setPhase hknown
  · cases hstep

/-- The source message of a case that was there is deleted. -/
lemma Inv.cleanup (h : Inv env P s) (hdigest : Function.Injective env.digest)
    (hstep : s.stepTransfer env (.cleanup c) = some s') : Inv env P s' := by
  simp only [State.stepTransfer] at hstep
  split at hstep
  · next advisory existing hphase =>
    obtain ⟨hknown, hok, hid, hsome⟩ := h.of_phase hphase
    have hset : Inv env P (s.setPhase c (.cleanupEvent existing)) := h.setPhase trivial
    have hext : Extends s (s.setPhase c (.cleanupEvent existing)) := .of_eq rfl rfl rfl rfl rfl
    split_ifs at hstep with hdelete
    · cases hstep
      exact (hset.deleteMessage hdigest (hok.mono hext) hsome (hknown.mono hext) hid
        hdelete.1).2
    · cases hstep
      exact hset
  · cases hstep

/-- `HandleAdvisory` returns the case that was there. -/
lemma Inv.cleanupEvent (h : Inv env P s) (hstep : s.stepTransfer env (.cleanupEvent c) = some s') :
    Inv env P s' := by
  simp only [State.stepTransfer] at hstep
  split at hstep <;> cases hstep
  exact h.setPhase trivial

/-- The source message is read. -/
lemma Inv.fetch {now : Time} (h : Inv env P s) (hP : P → Consistent env s (.fetch c now))
    (hstep : s.stepTransfer env (.fetch c now) = some s') : Inv env P s' := by
  simp only [State.stepTransfer] at hstep
  split at hstep
  · next advisory hphase =>
    have hknown : Known s advisory := h.of_phase hphase
    cases hstep
    refine h.setPhase ⟨hknown, ⟨now, _, rfl, fun m hm => ?_, id⟩, fun hp hsubject => ?_⟩
    · unfold State.getMessage at hm
      split_ifs at hm
      exact hm
    · cases hm : s.getMessage advisory.stream advisory.streamSeq with
      | none => simp [hm, Advisory.record] at hsubject
      | some m =>
        rw [(record_some advisory now m).2.2]
        exact hP hp advisory m hphase hm
  · cases hstep

/-- `persistDeadLetterRecord` looks for a record. -/
lemma Inv.recollect {answered : Bool} (h : Inv env P s)
    (hjson : ∀ r, env.decodeRecord (env.encodeRecord r) = some r)
    (hP : P → Consistent env s (.recollect c answered))
    (hstep : s.stepTransfer env (.recollect c answered) = some s') : Inv env P s' := by
  simp only [State.stepTransfer] at hstep
  split at hstep
  · next advisory record hphase =>
    obtain ⟨hknown, hhonest⟩ := h.of_phase hphase
    split at hstep
    · next sequence hfound =>
      have hlast := (Option.filter_eq_some_iff.mp hfound).1
      cases hstep
      exact h.setPhase (h.persisted hjson hknown hhonest hlast fun hp hne json stored =>
        hP hp advisory record sequence json stored (.inl hphase) hne hlast)
    · cases hstep
      exact h.setPhase ⟨hknown, hhonest⟩
  · cases hstep

/-- The record is published. -/
lemma Inv.persist {publication : Publication} (h : Inv env P s)
    (hjson : ∀ r, env.decodeRecord (env.encodeRecord r) = some r)
    (hP : P → Consistent env s (.persist c publication))
    (hstep : s.stepTransfer env (.persist c publication) = some s') : Inv env P s' := by
  simp only [State.stepTransfer] at hstep
  split at hstep
  · next advisory record hphase =>
    obtain ⟨hknown, hhonest⟩ := h.of_phase hphase
    split at hstep
    · next hlast =>
      cases hstep
      obtain ⟨hext, hinv⟩ := h.appendRecord hknown hhonest hhonest.caseId hlast
      refine hinv.setPhase ?_
      have hknown' := hknown.mono hext
      have hlength : (s.dlq ++ [(dlqSubject record.caseId, env.encodeRecord record)]).length =
          s.dlq.length + 1 := by simp
      rw [hlength]
      exact (hhonest.mono hknown hext).newCase hknown'
        (show (s.dlq ++ [(dlqSubject record.caseId, env.encodeRecord record)])[s.dlq.length]? =
          some (dlqSubject record.caseId, env.encodeRecord record) by simp) fun _ hne => hne
    · next hlast =>
      cases hstep
      obtain ⟨hext, hinv⟩ := h.appendRecord hknown hhonest hhonest.caseId hlast
      exact hinv.setPhase ⟨hknown.mono hext, hhonest.mono hknown hext⟩
    · next sequence hlast =>
      cases hstep
      exact h.setPhase (h.persisted hjson hknown hhonest hlast fun hp hne json stored =>
        hP hp advisory record sequence json stored (.inr (.inl hphase)) hne hlast)
    · cases hstep
      exact h.setPhase ⟨hknown, hhonest⟩
    · cases hstep
  · cases hstep

/-- After an error the record may be there. -/
lemma Inv.recheck (h : Inv env P s) (hjson : ∀ r, env.decodeRecord (env.encodeRecord r) = some r)
    (hP : P → Consistent env s (.recheck c)) (hstep : s.stepTransfer env (.recheck c) = some s') :
    Inv env P s' := by
  simp only [State.stepTransfer] at hstep
  split at hstep
  · next advisory record hphase =>
    obtain ⟨hknown, hhonest⟩ := h.of_phase hphase
    split at hstep
    · next sequence hlast =>
      cases hstep
      exact h.setPhase (h.persisted hjson hknown hhonest hlast fun hp hne json stored =>
        hP hp advisory record sequence json stored (.inr (.inr hphase)) hne hlast)
    · cases hstep
      exact h.setPhase trivial
  · cases hstep

/-- The case is created. -/
lemma Inv.create (h : Inv env P s) (hstep : s.stepTransfer env (.create c) = some s') : Inv env P s' := by
  simp only [State.stepTransfer] at hstep
  split at hstep
  · next value hphase =>
    have hok : CaseOk env P s value := h.of_phase hphase
    split at hstep
    · cases hstep
      obtain ⟨hext, hinv⟩ := h.putCase hok
      exact hinv.setPhase (transferPhase_ok (hok.mono hext) (by simp [State.putCase]))
    · cases hstep
      exact h.setPhase trivial
  · cases hstep

/-- The case of another controller is read. -/
lemma Inv.reload (h : Inv env P s) (hstep : s.stepTransfer env (.reload c) = some s') : Inv env P s' := by
  simp only [State.stepTransfer] at hstep
  split at hstep
  · split at hstep
    · next existing hexisting =>
      obtain ⟨-, hok, hsome⟩ := h.found hexisting
      cases hstep
      exact h.setPhase (transferPhase_ok hok hsome)
    · cases hstep
      exact h.setPhase trivial
  · cases hstep

/-- The event of the case is published. -/
lemma Inv.event (h : Inv env P s) (hstep : s.stepTransfer env (.event c) = some s') : Inv env P s' := by
  simp only [State.stepTransfer] at hstep
  split at hstep
  · next stored hphase =>
    have hok := h.of_phase hphase
    cases hstep
    exact h.setPhase hok
  · cases hstep

/-- `completeTransfer` deletes the source message. -/
lemma Inv.delete (h : Inv env P s) (hdigest : Function.Injective env.digest)
    (hstep : s.stepTransfer env (.delete c) = some s') : Inv env P s' := by
  simp only [State.stepTransfer] at hstep
  split at hstep
  · next stored hphase =>
    obtain ⟨hok, hsome⟩ := h.of_phase hphase
    have hset : Inv env P (s.setPhase c (.parent stored)) := h.setPhase ⟨hok, hsome⟩
    have hext : Extends s (s.setPhase c (.parent stored)) := .of_eq rfl rfl rfl rfl rfl
    split_ifs at hstep with hdelete
    · obtain ⟨advisory, hknown, hid, hstream, hsequence, -⟩ := hok.advisory
      simp only [DeadLetterCase.deletesSource, Bool.and_eq_true, decide_eq_true_eq] at hdelete
      cases hstep
      rw [hstream, hsequence]
      exact (hset.deleteMessage hdigest (hok.mono hext) hsome (hknown.mono hext) hid
        (hstream.symm.trans hdelete.1)).2
    · cases hstep
      exact hset
  · cases hstep

/-- `markParentReplayFailed` reads the parent. -/
lemma Inv.parent (h : Inv env P s) (hstep : s.stepTransfer env (.parent c) = some s') : Inv env P s' := by
  simp only [State.stepTransfer] at hstep
  split at hstep
  · next stored hphase =>
    have hok := h.of_phase hphase
    split_ifs at hstep
    · cases hstep
      exact h.setPhase hok
    · split at hstep
      · next parent hparent =>
        split_ifs at hstep with hstatus
        · cases hstep
          exact h.setPhase ⟨hok, (h.found hparent).2.1, hstatus⟩
        · cases hstep
          exact h.setPhase hok
      · cases hstep
        exact h.setPhase hok
  · cases hstep

/-- The attempt is marked in the parent. -/
lemma Inv.markParent {now : Time} (h : Inv env P s)
    (hstep : s.stepTransfer env (.markParent c now) = some s') : Inv env P s' := by
  simp only [State.stepTransfer] at hstep
  split at hstep
  · next stored parent hphase =>
    obtain ⟨hok, hparent, hstatus⟩ := h.of_phase hphase
    split at hstep
    · cases hstep
      exact h.setPhase hok
    · next marked hmarked =>
      split at hstep
      · next t hupdate =>
        obtain ⟨hext, hinv, -⟩ := h.updateCase (hparent.markReplayFailed hstatus hmarked) hupdate
        cases hstep
        exact hinv.setPhase ⟨hok.1.mono hext, hext.cases _ hok.2⟩
      · cases hstep
        exact h.setPhase trivial
  · cases hstep

/-- The case is opened. -/
lemma Inv.complete {now : Time} (h : Inv env P s) (hstep : s.stepTransfer env (.complete c now) = some s') :
    Inv env P s' := by
  simp only [State.stepTransfer] at hstep
  split at hstep
  · next stored hphase =>
    obtain ⟨hok, -⟩ := h.of_phase hphase
    split at hstep
    · next t hupdate =>
      obtain ⟨-, hinv, -⟩ := h.updateCase (hok.completed now) hupdate
      cases hstep
      exact hinv.setPhase trivial
    · cases hstep
      exact h.setPhase trivial
  · cases hstep

/-- The case that another controller has completed is read. -/
lemma Inv.latest (h : Inv env P s) (hstep : s.stepTransfer env (.latest c) = some s') : Inv env P s' := by
  simp only [State.stepTransfer] at hstep
  split at hstep
  · split at hstep <;> cases hstep <;> exact h.setPhase trivial
  · cases hstep

/-- The steps of `HandleAdvisory` and `completeTransfer` keep the invariant. -/
lemma Inv.stepTransfer (h : Inv env P s) (hdigest : Function.Injective env.digest)
    (hjson : ∀ r, env.decodeRecord (env.encodeRecord r) = some r) (hP : P → Consistent env s a)
    (hstep : s.stepTransfer env a = some s') : Inv env P s' := by
  cases a with
  | advise => exact h.advise hstep
  | lookup => exact h.lookup hstep
  | cleanup => exact h.cleanup hdigest hstep
  | cleanupEvent => exact h.cleanupEvent hstep
  | fetch => exact h.fetch hP hstep
  | recollect => exact h.recollect hjson hP hstep
  | persist => exact h.persist hjson hP hstep
  | recheck => exact h.recheck hjson hP hstep
  | create => exact h.create hstep
  | reload => exact h.reload hstep
  | event => exact h.event hstep
  | delete => exact h.delete hdigest hstep
  | parent => exact h.parent hstep
  | markParent => exact h.markParent hstep
  | complete => exact h.complete hstep
  | latest => exact h.latest hstep
  | produce | expire | replay | replayLoad | replayLock | replayPayload | replayPublish | replayEnd
  | resolve | resolveLoad | resolveStore | crash => cases hstep

/-- An operator asks for a replay. -/
lemma Inv.replay {id actor reason : String} (h : Inv env P s)
    (hstep : s.stepReplay env (.replay c id actor reason) = some s') : Inv env P s' := by
  simp only [State.stepReplay] at hstep
  split at hstep
  · split at hstep <;> cases hstep <;> exact h.setPhase trivial
  · cases hstep

/-- `Replay` reads the case. -/
lemma Inv.replayLoad {now : Time} (h : Inv env P s) (hstep : s.stepReplay env (.replayLoad c now) = some s') :
    Inv env P s' := by
  simp only [State.stepReplay] at hstep
  split at hstep
  · split at hstep
    · next stored hstored =>
      split at hstep
      · next attempt value hlock =>
        cases hstep
        exact h.setPhase ((h.found hstored).2.1.lockReplay hlock)
      · cases hstep
        exact h.setPhase trivial
    · cases hstep
      exact h.setPhase trivial
  · cases hstep

/-- The case is locked. -/
lemma Inv.replayLock (h : Inv env P s) (hstep : s.stepReplay env (.replayLock c) = some s') :
    Inv env P s' := by
  simp only [State.stepReplay] at hstep
  split at hstep
  · next attempt value revision hphase =>
    obtain ⟨hok, hlocked⟩ := h.of_phase hphase
    split at hstep
    · next t hupdate =>
      obtain ⟨hext, hinv, -⟩ := h.updateCase hok hupdate
      cases hstep
      exact hinv.setPhase ⟨hok.mono hext, hlocked⟩
    · cases hstep
      exact h.setPhase trivial
  · cases hstep

/-- The record of the case is read. -/
lemma Inv.replayPayload (h : Inv env P s) (hstep : s.stepReplay env (.replayPayload c) = some s') :
    Inv env P s' := by
  simp only [State.stepReplay] at hstep
  split at hstep
  · next attempt locked hphase =>
    have hok := h.of_phase hphase
    split at hstep
    · next record hrecord =>
      split_ifs at hstep with hreplayable
      · cases hstep
        refine h.setPhase ⟨hok, ?_⟩
        -- a case that can be replayed has a subject
        have havailable := hok.1.available
        rw [hok.2.1, hok.2.2] at havailable
        have hsubject : locked.value.sourceSubject ≠ "" := by simpa using havailable.symm
        simp only [DeadLetterCase.replayable, Bool.and_eq_true, decide_eq_true_eq] at hreplayable
        rw [hreplayable.1.2]
        exact hsubject
      · cases hstep
        exact h.setPhase hok
    · cases hstep
      exact h.setPhase hok
  · cases hstep

/-- The message is published again. -/
lemma Inv.replayPublish {publication : Publication} (h : Inv env P s)
    (hstep : s.stepReplay env (.replayPublish c publication) = some s') : Inv env P s' := by
  simp only [State.stepReplay] at hstep
  split at hstep
  · next attempt locked record hphase =>
    obtain ⟨hok, hsubject⟩ := h.of_phase hphase
    obtain ⟨hext, hinv⟩ := h.publish locked.value.sourceStream
      (replayMessage locked.value attempt record) hsubject
    have hrecorded : Inv env P { s.publish locked.value.sourceStream
        (replayMessage locked.value attempt record) with
        replayed := s.replayed ++ [(replayMessageId locked.value attempt,
          s.lastSequence locked.value.sourceStream + 1)] } :=
      hinv.extend (.of_eq rfl rfl rfl rfl rfl) hinv.messages rfl (fun _ _ hst => .inl hst)
        (fun _ => .inl rfl) fun _ hr => .inl hr
    have hok' := hok.1.mono hext
    have hok'' : CaseOk env P { s.publish locked.value.sourceStream
        (replayMessage locked.value attempt record) with
        replayed := s.replayed ++ [(replayMessageId locked.value attempt,
          s.lastSequence locked.value.sourceStream + 1)] } locked.value :=
      hok'.mono (.of_eq rfl rfl rfl rfl rfl)
    split at hstep
    · cases hstep
      exact hrecorded.setPhase ⟨hok'', hok.2⟩
    · cases hstep
      exact hrecorded.setPhase ⟨hok'', hok.2⟩
    · split at hstep
      · cases hstep
        exact h.setPhase hok
      · cases hstep
    · cases hstep
      exact h.setPhase hok
  · cases hstep

/-- The outcome is recorded. -/
lemma Inv.replayEnd {now : Time} (h : Inv env P s) (hstep : s.stepReplay env (.replayEnd c now) = some s') :
    Inv env P s' := by
  simp only [State.stepReplay] at hstep
  split at hstep
  · next locked outcome hphase =>
    obtain ⟨hok, -, hstatus⟩ := h.of_phase hphase
    have hvalue := hok.recordReplay hstatus outcome now
    split at hstep
    · next t hupdate =>
      obtain ⟨-, hinv, -⟩ := h.updateCase hvalue hupdate
      cases hstep
      exact hinv.setPhase trivial
    · cases hstep
      exact h.setPhase trivial
  · cases hstep

/-- An operator asks for a resolution. -/
lemma Inv.resolve {id actor reason : String} (h : Inv env P s)
    (hstep : s.stepReplay env (.resolve c id actor reason) = some s') : Inv env P s' := by
  simp only [State.stepReplay] at hstep
  split at hstep
  · split at hstep <;> cases hstep <;> exact h.setPhase trivial
  · cases hstep

/-- `Resolve` reads the case. -/
lemma Inv.resolveLoad {now : Time} (h : Inv env P s)
    (hstep : s.stepReplay env (.resolveLoad c now) = some s') : Inv env P s' := by
  simp only [State.stepReplay] at hstep
  split at hstep
  · split at hstep
    · next stored hstored =>
      split at hstep
      · next value hresolve =>
        cases hstep
        exact h.setPhase ((h.found hstored).2.1.resolve hresolve)
      · cases hstep
        exact h.setPhase trivial
    · cases hstep
      exact h.setPhase trivial
  · cases hstep

/-- The resolved case is stored. -/
lemma Inv.resolveStore (h : Inv env P s) (hstep : s.stepReplay env (.resolveStore c) = some s') :
    Inv env P s' := by
  simp only [State.stepReplay] at hstep
  split at hstep
  · next value revision hphase =>
    have hok : CaseOk env P s value := h.of_phase hphase
    split at hstep
    · next t hupdate =>
      obtain ⟨-, hinv, -⟩ := h.updateCase hok hupdate
      cases hstep
      exact hinv.setPhase trivial
    · cases hstep
      exact h.setPhase trivial
  · cases hstep

/-- The steps of `Replay` and `Resolve` keep the invariant. -/
lemma Inv.stepReplay (h : Inv env P s) (hstep : s.stepReplay env a = some s') : Inv env P s' := by
  cases a with
  | replay => exact h.replay hstep
  | replayLoad => exact h.replayLoad hstep
  | replayLock => exact h.replayLock hstep
  | replayPayload => exact h.replayPayload hstep
  | replayPublish => exact h.replayPublish hstep
  | replayEnd => exact h.replayEnd hstep
  | resolve => exact h.resolve hstep
  | resolveLoad => exact h.resolveLoad hstep
  | resolveStore => exact h.resolveStore hstep
  | produce | expire | advise | lookup | cleanup | cleanupEvent | fetch | recollect | persist | recheck
  | create | reload | event | delete | parent | markParent | complete | latest | crash => cases hstep

/-- Every step keeps the invariant. -/
theorem Inv.step (h : Inv env P s) (hdigest : Function.Injective env.digest)
    (hjson : ∀ r, env.decodeRecord (env.encodeRecord r) = some r) (hP : P → Consistent env s a)
    (hstep : s.step env a = some s') : Inv env P s' := by
  cases a with
  | produce stream message =>
    simp only [State.step] at hstep
    split_ifs at hstep with hsubject
    cases hstep
    exact (h.publish stream message hsubject).2
  | expire stream sequence =>
    cases hstep
    exact h.dropMessage stream sequence
  | crash c =>
    simp only [State.step] at hstep
    split at hstep
    · cases hstep
    · cases hstep
      exact h.setPhase trivial
  | replay | replayLoad | replayLock | replayPayload | replayPublish | replayEnd | resolve
  | resolveLoad | resolveStore | advise | lookup | cleanup | cleanupEvent | fetch | recollect | persist
  | recheck | create | reload | event | delete | parent | markParent | complete | latest =>
    simp only [State.step] at hstep
    rcases Option.or_eq_some_iff.mp hstep with hstep | ⟨-, hstep⟩
    · exact h.stepTransfer hdigest hjson hP hstep
    · exact h.stepReplay hstep

/-- The invariant holds after every run whose steps are consistent, if that is asked. -/
theorem inv_of_run {acts : List (Action κ)} (hdigest : Function.Injective env.digest)
    (hjson : ∀ r, env.decodeRecord (env.encodeRecord r) = some r)
    (hP : StepSystem.Along (State.step env) (fun s a => P → Consistent env s a) {} acts)
    (hrun : StepSystem.run (State.step env) {} acts = some s) : Inv env P s :=
  StepSystem.run_invariant (fun _ _ _ h hP hstep => h.step hdigest hjson hP hstep) .init hP hrun

end Steps

end Boutique.Operations
