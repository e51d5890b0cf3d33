import Boutique.Cart.Journal
import Boutique.Lib.LuaNumber
import Boutique.Lib.Run

/-!
# The cart aggregate of one user

`ExecuteAsync` of `cartservice/src/cartstore/RedisAggregateCartStore.cs` over the scripts of
`shared/stateless/dotnet/Boutique.Stateless/RedisAtomicAggregateStore.cs`, for the calls of any number
of replicas about one user.  Each script is a step.  A call may lose the reply of a script; a commit
whose reply is lost is on its way to Redis, where it may arrive at any later time or never.

Redis values are kept decoded: protobuf and gzip round trip, and the version is the number that
`tonumber` reads.  Journals do not expire.
-/

namespace Boutique.CartStore

/-! ## Calls -/

/-- The command of a call. -/
inductive CartCommand where
  | addItem (command : CartAddItemCommand)
  | clear (command : CartClearCommand)

/-- The user of a command. -/
def CartCommand.userId : CartCommand → String
  | .addItem command => command.userId
  | .clear command => command.userId

/-- A call of `HandleAddItemCommandAsync` or `HandleClearCommandAsync`.  `contains` is what
`ContainsAsync` of the product catalog answers to the call. -/
structure Call where
  command : CartCommand
  envelope : MessageEnvelope
  contains : Bool := true

/-- The checks with which the handlers start. -/
def Call.validate (call : Call) : Except CartError Unit :=
  match call.command with
  | .addItem command =>
    validateEnvelope command.commandId command.userId none "boutique.cart.AddItem.v1" call.envelope
  | .clear command =>
    validateEnvelope command.commandId command.userId (some command.expectedCartVersion)
      "boutique.cart.Clear.v1" call.envelope

/-- The transition that a handler passes to `ExecuteAsync`. -/
def Call.transition (call : Call) (cart : Cart) (currentVersion : ℕ) :
    Except CartError CartTransition :=
  match call.command with
  | .addItem command =>
    addItemTransition command (command.argumentsValid && call.contains) cart currentVersion
  | .clear command => clearTransition command cart currentVersion

/-! ## Scripts -/

/-- The Redis keys of the aggregate: `:state`, `:version` and `:inbox:` with a digest. -/
structure CartKeys where
  state : Option Cart := none
  version : Option ℕ := none
  inbox : String → Option (List UInt8) := fun _ => none

/-- The version of the aggregate. -/
def CartKeys.current (keys : CartKeys) : ℕ := keys.version.getD 0

/-- `LoadScript`. -/
def loadScript (keys : CartKeys) : ℕ × Option Cart := (keys.current, keys.state)

/-- `AtomicCommitRequest`, with the digest of its input message ID. -/
structure AtomicCommitRequest where
  inbox : String
  expectedVersion : ℕ
  nextState : Cart
  journal : List UInt8
  advanceVersion : Bool

/-- The replies of `CommitScript`: status 0, 1 and 2. -/
inductive CommitReply where
  | committed (version : ℕ) (journal : List UInt8)
  | duplicate (version : ℕ) (journal : List UInt8)
  | conflict (version : ℕ)

/-- The keys after a commit with status 0. -/
def CartKeys.write (keys : CartKeys) (request : AtomicCommitRequest) : CartKeys where
  state := if request.advanceVersion then some request.nextState else keys.state
  version :=
    if request.advanceVersion then some (luaText (luaNumber (keys.current + 1))) else keys.version
  inbox := Function.update keys.inbox request.inbox (some request.journal)

/-- `CommitScript`. -/
def commitScript (keys : CartKeys) (request : AtomicCommitRequest) : CartKeys × CommitReply :=
  match keys.inbox request.inbox with
  | some existing => (keys, .duplicate keys.current existing)
  | none =>
    if keys.current ≠ luaNumber request.expectedVersion then (keys, .conflict keys.current)
    else
      (keys.write request,
        .committed
          (if request.advanceVersion then luaNumber (keys.current + 1) else keys.current)
          request.journal)

/-! ## `ExecuteAsync` -/

/-- What one attempt of `ExecuteAsync` computes before its commit. -/
structure Attempt where
  call : Call
  result : CartStoredResult
  request : AtomicCommitRequest

/-- One attempt of `ExecuteAsync`, from the loaded snapshot to the commit. -/
def prepare (env : CartEnv) (userId : String) (call : Call) (snapshot : ℕ × Option Cart) :
    Except CartError Attempt := do
  let cart ← readCart userId snapshot.2
  let selected ← call.transition cart snapshot.1
  let result ← buildResult env call.envelope userId selected
  let journal ← serialize result
  return { call := call
           result := result
           request := { inbox := env.digest call.envelope.messageId
                        expectedVersion := snapshot.1
                        nextState := selected.state
                        journal := journal
                        advanceVersion := selected.advanceVersion } }

/-- `CartCommandCommit`. -/
structure CartCommandCommit where
  result : CartStoredResult
  duplicate : Bool
  conflictRetries : ℕ
  dependencyRetries : ℕ

/-- The counters of the loop of `ExecuteAsync`. -/
structure Retries where
  attempt : ℕ := 0
  conflicts : ℕ := 0
  dependencies : ℕ := 0

/-- Where a call is. -/
inductive Phase where
  | idle
  | load (call : Call) (retries : Retries)
  | commit (attempt : Attempt) (retries : Retries)
  | returned (call : Call) (commit : CartCommandCommit)
  | failed (call : Call)

/-- `MaximumStoreAttempts`. -/
def maximumStoreAttempts : ℕ := 8

/-- Where a call goes on after an attempt that is to be retried. -/
def retryPhase (call : Call) (retries : Retries) : Phase :=
  if retries.attempt + 1 < maximumStoreAttempts then
    .load call { retries with attempt := retries.attempt + 1 }
  else .failed call

/-- A conflict is counted. -/
def Retries.conflict (retries : Retries) : Retries :=
  { retries with conflicts := retries.conflicts + 1 }

/-- A failed dependency is counted. -/
def Retries.dependency (retries : Retries) : Retries :=
  { retries with dependencies := retries.dependencies + 1 }

/-! ## Steps -/

/-- The keys, the calls, the commits that are on their way to Redis, and the commits that Redis has
carried out with status 0, in their order. -/
structure State (κ : Type*) where
  keys : CartKeys := {}
  phase : κ → Phase := fun _ => .idle
  flying : List Attempt := []
  log : List Attempt := []

/-- The steps: a call starts, runs a script, loses the reply of a script, or is cancelled; a commit
arrives. -/
inductive Action (κ : Type*) where
  | start (c : κ) (call : Call)
  | load (c : κ) | loadLost (c : κ)
  | commit (c : κ) | commitLost (c : κ)
  | arrive (n : ℕ)
  | cancel (c : κ)

variable {κ : Type*}

/-- Redis runs `CommitScript`. -/
def State.execute (s : State κ) (attempt : Attempt) : State κ :=
  { s with
    keys := (commitScript s.keys attempt.request).1
    log := match (commitScript s.keys attempt.request).2 with
      | .committed _ _ => s.log ++ [attempt]
      | _ => s.log }

/-- Where a call goes on with the reply to its commit. -/
def replyPhase (env : CartEnv) (attempt : Attempt) (retries : Retries) : CommitReply → Phase
  | .committed _ _ =>
    .returned attempt.call
      { result := attempt.result, duplicate := false
        conflictRetries := retries.conflicts, dependencyRetries := retries.dependencies }
  | .duplicate _ journal =>
    match parse env journal with
    | .ok result =>
      .returned attempt.call
        { result := result, duplicate := true
          conflictRetries := retries.conflicts, dependencyRetries := retries.dependencies }
    | .error _ => .failed attempt.call
  | .conflict _ => retryPhase attempt.call retries.conflict

variable [DecidableEq κ] (env : CartEnv) (userId : String)

/-- The state with another phase of a call. -/
def State.setPhase (s : State κ) (c : κ) (phase : Phase) : State κ :=
  { s with phase := Function.update s.phase c phase }

/-- One step. -/
def State.step (s : State κ) : Action κ → Option (State κ)
  | .start c call =>
    match s.phase c with
    | .idle =>
      if call.command.userId ≠ userId then none
      else
        match call.validate with
        | .ok _ => some (s.setPhase c (.load call {}))
        | .error _ => some (s.setPhase c (.failed call))
    | _ => none
  | .load c =>
    match s.phase c with
    | .load call retries =>
      match prepare env userId call (loadScript s.keys) with
      | .ok attempt => some (s.setPhase c (.commit attempt retries))
      | .error _ => some (s.setPhase c (.failed call))
    | _ => none
  | .loadLost c =>
    match s.phase c with
    | .load call retries => some (s.setPhase c (retryPhase call retries.dependency))
    | _ => none
  | .commit c =>
    match s.phase c with
    | .commit attempt retries =>
      some ((s.execute attempt).setPhase c
        (replyPhase env attempt retries (commitScript s.keys attempt.request).2))
    | _ => none
  | .commitLost c =>
    match s.phase c with
    | .commit attempt retries =>
      some ({ s with flying := s.flying ++ [attempt] }.setPhase c
        (retryPhase attempt.call retries.dependency))
    | _ => none
  | .arrive n =>
    match s.flying[n]? with
    | some attempt => some { s.execute attempt with flying := s.flying.eraseIdx n }
    | none => none
  | .cancel c =>
    match s.phase c with
    | .load call _ | .commit { call := call, .. } _ => some (s.setPhase c (.failed call))
    | _ => none

/-- The calls whose commands were accepted, in the order of their commits. -/
def State.accepted (s : State κ) : List Call :=
  (s.log.filter fun attempt => attempt.request.advanceVersion).map Attempt.call

/-- The items of the stored cart. -/
def State.items (s : State κ) : List CartItem := (s.keys.state.map Cart.items).getD []

end Boutique.CartStore
