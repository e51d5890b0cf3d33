import Boutique.Operations.Transfer

/-!
# Dead-lettering loses no command

A command is deleted from its work queue only when `BOUTIQUE_DLQ` holds it, whatever the controllers,
their crashes and the expiry of messages do.  Whether a case can be replayed is another matter: the
case keeps the subject that its own controller read, and the record may have been written by another
controller, after the message had expired.
-/

namespace Boutique.Operations

variable {κ Json : Type*} [DecidableEq κ] {env : Env Json} {s : State κ Json}
  {acts : List (Action κ)}

/-- For every message that a controller has deleted, `BOUTIQUE_DLQ` holds exactly one record of its
case, which decodes to the message, and the case points to it. -/
theorem dead_lettering_loses_no_command (hdigest : Function.Injective env.digest)
    (hjson : ∀ r, env.decodeRecord (env.encodeRecord r) = some r)
    (hrun : StepSystem.run (State.step env) {} acts = some s) {r : Removal} (hr : r ∈ s.removed) :
    r.stream = commandsStream ∧ s.messages r.stream r.sequence = some r.message ∧
      (∃ consumer, r.caseId = deadLetterCaseId env r.stream consumer r.sequence) ∧
      ∃ (n : ℕ) (json : Json) (record : DeadLetterRecord) (stored : StoredCase),
        s.dlq[n]? = some (dlqSubject r.caseId, json) ∧
        (∀ (i : ℕ) (json' : Json), s.dlq[i]? = some (dlqSubject r.caseId, json') → i = n) ∧
        env.decodeRecord json = some record ∧ record.sourceSubject = r.message.subject ∧
        record.originalHeaders = r.message.header ∧ record.originalData = r.message.data ∧
        s.cases r.caseId = some stored ∧ stored.value.dlqSequence = n + 1 := by
  have hinv : Inv env False s :=
    inv_of_run hdigest hjson (.of_forall (fun _ _ _ hfalse => hfalse.elim) _) hrun
  have hrecorded := hinv.removed r hr
  obtain ⟨n, record, hn, hsubject, hheaders, hdata⟩ := hrecorded.record
  obtain ⟨stored, hstored⟩ := Option.isSome_iff_exists.mp hrecorded.stored
  have hunique : ∀ (i : ℕ) (json' : Json), s.dlq[i]? = some (dlqSubject r.caseId, json') →
      i = n := by
    intro i json' hi
    have hi' : (s.dlq.map Prod.fst)[i]? = some (dlqSubject r.caseId) := by simp [hi]
    have hn' : (s.dlq.map Prod.fst)[n]? = some (dlqSubject r.caseId) := by simp [hn]
    exact (List.getElem_inj hinv.unique).mp
      ((List.getElem?_eq_some_iff.mp hi').2.trans (List.getElem?_eq_some_iff.mp hn').2.symm)
  obtain ⟨hid, hok⟩ := hinv.cases _ stored hstored
  obtain ⟨k, _, hsequence, hk, -⟩ := hok.record
  rw [hid] at hk
  refine ⟨hrecorded.stream, hrecorded.message, hrecorded.caseId, n, _, record, stored, hn, hunique,
    hjson record, hsubject, hheaders, hdata, hstored, ?_⟩
  rw [hsequence, hunique k _ hk]

/-- In every run whose steps are consistent, a case that has become open is replayable if and only if
the record it points to passes the checks of `Replay`. -/
theorem replay_available_iff (hdigest : Function.Injective env.digest)
    (hjson : ∀ r, env.decodeRecord (env.encodeRecord r) = some r)
    (hconsistent : StepSystem.Along (State.step env) (Consistent env) {} acts)
    (hrun : StepSystem.run (State.step env) {} acts = some s) {id : String} {stored : StoredCase}
    (hstored : s.cases id = some stored) (hopen : stored.value.status ≠ .transferInProgress) :
    stored.value.replayAvailable = true ↔
      ∃ json record, dlqMessage s.dlq stored.value.dlqSequence = some json ∧
        env.decodeRecord json = some record ∧ stored.value.replayable record = true := by
  have hinv : Inv env True s := inv_of_run hdigest hjson (hconsistent.mono fun _ _ h _ => h) hrun
  obtain ⟨hid, hok⟩ := hinv.cases id stored hstored
  obtain ⟨advisory, hknown, hcase, hstream, -, hmessage⟩ := hok.advisory
  obtain ⟨n, stored', hsequence, hn, hsubject⟩ := hok.record
  obtain ⟨adv', record, hrecord, hhonest, hst, hseq, hrid⟩ :=
    hinv.record_of_case hdigest hknown hcase hn
  have hsame : stored' = record :=
    Option.some.inj ((hjson stored').symm.trans (hrecord ▸ hjson record))
  subst hsame
  have hpayload : dlqMessage s.dlq stored.value.dlqSequence = some (env.encodeRecord stored') := by
    simp [dlqMessage, hsequence, hn]
  have havailable : stored.value.replayAvailable = true ↔ stored.value.sourceSubject ≠ "" := by
    rw [hok.available]
    simp [hopen]
  have hstreams : stored'.sourceStream = stored.value.sourceStream := by
    obtain ⟨now, original, rfl, -⟩ := hhonest.made
    rw [hstream, ← hst]
    cases original <;> rfl
  rw [havailable]
  constructor
  · intro hne
    have hsource := hsubject trivial hne
    have hdata := hhonest.data trivial hsource
    obtain ⟨m, hm, hms⟩ := hmessage hne
    refine ⟨_, stored', hpayload, hjson stored', ?_⟩
    have hsubjects : stored'.sourceSubject = stored.value.sourceSubject := by
      obtain ⟨now, original, rfl, hsome, -⟩ := hhonest.made
      cases original with
      | none => exact absurd rfl hsource
      | some m' =>
        have hm' := hsome m' rfl
        rw [hst, hseq, hm] at hm'
        obtain rfl := Option.some.inj hm'
        exact hms
    simp [DeadLetterCase.replayable, hrid, hstreams, hsubjects, hdata]
  · rintro ⟨json, record, hjson', hdecode, hreplayable⟩
    rw [hpayload] at hjson'
    obtain rfl := Option.some.inj hjson'
    obtain rfl := Option.some.inj ((hjson stored').symm.trans hdecode)
    simp only [DeadLetterCase.replayable, Bool.and_eq_true, decide_eq_true_eq] at hreplayable
    obtain ⟨⟨-, hsubjects⟩, hdata⟩ := hreplayable
    rw [← hsubjects]
    obtain ⟨now, original, rfl, hsome, -⟩ := hhonest.made
    cases original with
    | none => exact absurd rfl hdata
    | some m => exact (hinv.messages _ _ m (hsome m rfl)).2

/-! ## Sample runs -/

/-- Texts stand for their own digests, and records for their encodings. -/
def sampleEnv : Env DeadLetterRecord where
  digest := id
  encodeRecord := id
  decodeRecord := some
  envelopeIds := fun _ => none

/-- A command that was delivered too often. -/
def sampleMessage : RawMessage where
  subject := "boutique.cmd.payment.capture.v1"
  header := [("Traceparent", ["trace"])]
  data := [1]

/-- The advisory about it. -/
def sampleAdvisory : Advisory where
  type := "io.nats.jetstream.advisory.v1.max_deliver"
  id := "advisory"
  stream := commandsStream
  consumer := "payment-commands-v1"
  streamSeq := 1
  deliveries := 5

/-- The case of the advisory. -/
def sampleCaseId : String := sampleAdvisory.caseId sampleEnv

/-- A controller transfers the command, and another sees the same advisory. -/
def sampleTransfer : List (Action ℕ) :=
  [.produce commandsStream sampleMessage, .advise 0 sampleAdvisory, .advise 1 sampleAdvisory,
    .lookup 0, .lookup 1, .fetch 0 5, .recollect 0 true, .persist 0 .acked, .create 0, .event 0, .delete 0,
    .fetch 1 6, .recollect 1 true, .create 1, .reload 1, .parent 0, .complete 0 7, .event 1, .delete 1,
    .parent 1, .complete 1 8, .latest 1]

/-- What is left of a run: the records, the case and the number of deleted messages. -/
def outcome (s : State ℕ DeadLetterRecord) :
    List (String × List UInt8) × Option (CaseStatus × Bool) × ℕ :=
  (s.dlq.map fun x => (x.2.sourceSubject, x.2.originalData),
    (s.cases sampleCaseId).map fun stored => (stored.value.status, stored.value.replayAvailable),
    s.removed.length)

/-- The transferred command is deleted once, and its record is there. -/
theorem sample_command_recorded :
    ∃ s : State ℕ DeadLetterRecord,
      StepSystem.run (State.step sampleEnv) {} sampleTransfer = some s ∧
      outcome s = ([(sampleMessage.subject, sampleMessage.data)], some (.open, true), 1) ∧
      ∀ r ∈ s.removed, s.messages r.stream r.sequence = some r.message ∧
        ∃ (n : ℕ) (json : DeadLetterRecord), s.dlq[n]? = some (dlqSubject r.caseId, json) ∧
          json.originalData = r.message.data := by
  have hrun : (StepSystem.run (State.step sampleEnv) ({} : State ℕ DeadLetterRecord)
      sampleTransfer).isSome := by
    decide +kernel
  obtain ⟨s, hs⟩ := Option.isSome_iff_exists.mp hrun
  have houtcome : (StepSystem.run (State.step sampleEnv) ({} : State ℕ DeadLetterRecord)
      sampleTransfer).map outcome =
      some ([(sampleMessage.subject, sampleMessage.data)], some (.open, true), 1) := by
    decide +kernel
  rw [hs] at houtcome
  refine ⟨s, hs, Option.some.inj houtcome, fun r hr => ?_⟩
  obtain ⟨-, hmessage, -, n, json, record, -, hn, -, hdecode, -, -, hdata, -⟩ :=
    dead_lettering_loses_no_command (fun _ _ h => h) (fun _ => rfl) hs hr
  obtain rfl : json = record := Option.some.inj hdecode
  exact ⟨hmessage, n, json, hn, hdata⟩

/-- A controller alone transfers the command. -/
def sampleOpening : List (Action ℕ) :=
  [.produce commandsStream sampleMessage, .advise 0 sampleAdvisory, .lookup 0, .fetch 0 5,
    .recollect 0 true, .persist 0 .acked, .create 0, .event 0, .delete 0, .parent 0, .complete 0 7]

/-- The case of the command becomes open and can be replayed. -/
theorem sample_case_replayable :
    ∃ s : State ℕ DeadLetterRecord, ∃ stored,
      StepSystem.run (State.step sampleEnv) {} sampleOpening = some s ∧
      s.cases sampleCaseId = some stored ∧ stored.value.status = .open ∧
      (stored.value.replayAvailable = true ↔
        ∃ json record, dlqMessage s.dlq stored.value.dlqSequence = some json ∧
          sampleEnv.decodeRecord json = some record ∧ stored.value.replayable record = true) := by
  have hconsistent : StepSystem.Along (State.step sampleEnv) (Consistent sampleEnv)
      ({} : State ℕ DeadLetterRecord) sampleOpening := by
    refine ⟨trivial, trivial, trivial, ?_, ?_, ?_, trivial, trivial, trivial, trivial, trivial,
      trivial⟩
    · intro advisory m hphase hm
      obtain rfl : sampleAdvisory = advisory := Phase.fetch.inj hphase
      obtain rfl : sampleMessage = m := Option.some.inj hm
      decide
    · intro advisory record sequence json stored _ _ hlast
      cases hlast
    · intro advisory record sequence json stored _ _ hlast
      cases hlast
  have hrun : ((StepSystem.run (State.step sampleEnv) ({} : State ℕ DeadLetterRecord)
      sampleOpening).bind fun s => s.cases sampleCaseId).map
      (fun stored => decide (stored.value.status = .open)) = some true := by
    decide +kernel
  obtain ⟨stored, hstored, hopen⟩ := Option.map_eq_some_iff.mp hrun
  obtain ⟨s, hs, hcase⟩ := Option.bind_eq_some_iff.mp hstored
  have hopen : stored.value.status = .open := of_decide_eq_true hopen
  refine ⟨s, stored, hs, hcase, hopen, ?_⟩
  exact replay_available_iff (fun _ _ h => h) (fun _ => rfl) hconsistent hs hcase
    (by rw [hopen]; decide)

/-- The first controller reads the command, which then expires; the second does not find it and
writes the record that the first then takes for its own. -/
def sampleExpiry : List (Action ℕ) :=
  [.produce commandsStream sampleMessage, .advise 0 sampleAdvisory, .advise 1 sampleAdvisory,
    .lookup 0, .lookup 1, .fetch 0 5, .expire commandsStream 1, .fetch 1 6, .recollect 1 true,
    .persist 1 .acked, .recollect 0 true, .create 0, .event 0, .delete 0, .parent 0, .complete 0 7]

/-- An open case is shown as replayable, and its record holds no command. -/
theorem open_case_not_replayable :
    ∃ s : State ℕ DeadLetterRecord, ∃ stored,
      StepSystem.run (State.step sampleEnv) {} sampleExpiry = some s ∧
      s.cases sampleCaseId = some stored ∧ stored.value.status = .open ∧
      ¬(stored.value.replayAvailable = true ↔
        ∃ json record, dlqMessage s.dlq stored.value.dlqSequence = some json ∧
          sampleEnv.decodeRecord json = some record ∧ stored.value.replayable record = true) := by
  have hrun : ((StepSystem.run (State.step sampleEnv) ({} : State ℕ DeadLetterRecord)
      sampleExpiry).bind fun s => (s.cases sampleCaseId).map fun stored =>
        (decide (stored.value.status = .open), stored.value.replayAvailable,
          (dlqMessage s.dlq stored.value.dlqSequence).map stored.value.replayable)) =
      some (true, true, some false) := by
    decide +kernel
  obtain ⟨s, hs, hcase⟩ := Option.bind_eq_some_iff.mp hrun
  obtain ⟨stored, hstored, hvalues⟩ := Option.map_eq_some_iff.mp hcase
  simp only [Prod.mk.injEq, decide_eq_true_eq] at hvalues
  obtain ⟨hopen, havailable, hreplayable⟩ := hvalues
  refine ⟨s, stored, hs, hstored, hopen, fun hiff => ?_⟩
  obtain ⟨json, record, hjson, hdecode, hok⟩ := hiff.mp havailable
  obtain rfl : json = record := Option.some.inj hdecode
  rw [hjson] at hreplayable
  exact absurd hok (by rw [Option.some.inj hreplayable]; decide)

end Boutique.Operations
