import DocumentSearch.Proofs.Plans
import DocumentSearch.Proofs.Runs
import DocumentSearch.Proofs.WholeNumbers
import Mathlib.Algebra.BigOperators.Group.List.Basic
import Mathlib.Data.List.Nodup
import Mathlib.Data.List.ProdSigma

/-!
# Tallies account for operations

A tally is written by nothing but operations: each is counted once when it ends, under its name and
under the kind of its error, and each batch is counted before it is sent.  So a tally always tells how
many operations of each name there were, how many of them failed and in what way, and how large the
batches were that the engine got (`Tally.Accounts`).

Counts are found by the fingerprints of their labels.  No two names that a client counts under run
together, and neither do two pairs of a name and a kind.
-/

namespace DocumentSearch

/-! ## Labels -/

/-- The names under which operations are counted. -/
def Operation.names : List String :=
  ["search", "insert", "insert_all", "find_by_id", "update_by_id", "delete_by_id", "create_table",
    "update_table", "get_table_info"]

/-- The kinds of errors under which failures are counted. -/
def Error.kinds : List String :=
  ["invalid_input", "invalid_state", "not_found", "transport", "serialization", "config", "metrics"]

theorem Operation.name_mem_names {kind : Kind} (operation : Operation kind) :
    operation.name ∈ names := by
  cases operation <;> simp [name, names]

theorem Error.kind_mem_kinds (error : Error) : error.kind ∈ kinds := by
  cases error <;> simp [kind, kinds]

theorem nodup_fingerprint_names : (Operation.names.map fun name => fingerprint [name]).Nodup := by
  decide +kernel

/-- Fingerprints of pairs are put together from what is computed of each name and each kind alone. -/
theorem map_fingerprint_product (names kinds : List String) :
    ((names.product kinds).map fun labels => fingerprint [labels.1, labels.2]) =
      ((names.map fun name => fingerprint [name]).product
        (kinds.map fun kind => Utf8.encode kind.toList)).map fun parts =>
          parts.2.foldl absorbByte parts.1 := by
  simp [List.product, List.map_flatMap, List.flatMap_map, fingerprint, List.foldl_append,
    Function.comp_def]

theorem nodup_fingerprint_kinds :
    ((Operation.names.product Error.kinds).map fun labels =>
      fingerprint [labels.1, labels.2]).Nodup := by
  rw [map_fingerprint_product]
  decide +kernel

theorem fingerprint_name_ne {name other : String} (known : name ∈ Operation.names)
    (otherKnown : other ∈ Operation.names) (different : other ≠ name) :
    fingerprint [other] ≠ fingerprint [name] := fun same =>
  different (List.inj_on_of_nodup_map nodup_fingerprint_names otherKnown known same)

theorem fingerprint_kind_ne {name other kind otherKind : String} (known : name ∈ Operation.names)
    (otherKnown : other ∈ Operation.names) (kindKnown : kind ∈ Error.kinds)
    (otherKindKnown : otherKind ∈ Error.kinds) (different : (other, otherKind) ≠ (name, kind)) :
    fingerprint [other, otherKind] ≠ fingerprint [name, kind] := fun same =>
  different (List.inj_on_of_nodup_map nodup_fingerprint_kinds
    (List.pair_mem_product.mpr ⟨otherKnown, otherKindKnown⟩)
    (List.pair_mem_product.mpr ⟨known, kindKnown⟩) same)

/-! ## Ends of operations -/

/-- How an operation ended: its name, and its error if it failed. -/
structure Completion where
  operation : String
  error : Option Error
deriving DecidableEq, Repr

namespace Completion

/-- The end of an operation with a result. -/
def ofResult {α : Type} (operation : String) (result : Except Error α) : Completion where
  operation
  error :=
    match result with
    | .ok _ => none
    | .error error => some error

/-- Whether the operation has the given name. -/
def isOf (name : String) (completion : Completion) : Bool := completion.operation = name

/-- Whether the operation has the given name and failed with an error of the given kind. -/
def failedWith (name kind : String) (completion : Completion) : Bool :=
  completion.operation = name ∧ completion.error.map Error.kind = some kind

theorem sum_failedWith_le (name : String) (completion : Completion) :
    (Error.kinds.map fun kind => if completion.failedWith name kind then 1 else 0).sum ≤
      if completion.isOf name then 1 else 0 := by
  obtain ⟨operation, error⟩ := completion
  by_cases same : operation = name
  · cases error with
    | none => simp [Error.kinds, failedWith]
    | some error => cases error <;> simp [Error.kinds, failedWith, isOf, same, Error.kind]
  · simp [Error.kinds, failedWith, same]

theorem sum_countP_failedWith_le (name : String) (completions : List Completion) :
    (Error.kinds.map fun kind => completions.countP (failedWith name kind)).sum ≤
      completions.countP (isOf name) := by
  induction completions with
  | nil => simp [Error.kinds]
  | cons completion rest ih =>
      simp only [List.countP_cons, List.sum_map_add]
      exact Nat.add_le_add ih (completion.sum_failedWith_le name)

theorem failureKind?_eq {α : Type} (operation : String) (result : Except Error α) :
    Client.failureKind? result = (ofResult operation result).error.map Error.kind := by
  cases result <;> rfl

end Completion

namespace Action

/-- How an action ended, if it is an operation. -/
def completion? {σ : Type} (engine : Engine σ) (action : Action) (client : Client) (state : σ) :
    Option Completion :=
  match action with
  | .perform _ operation seconds =>
      some (.ofResult operation.name (client.perform engine operation seconds state).1)
  | .set _ | .reset | .preview => none

/-- How the operations among actions in order ended. -/
def completions {σ : Type} (engine : Engine σ) : List Action → Client → σ → List Completion
  | [], _, _ => []
  | action :: rest, client, state =>
      let (next, after) := action.step engine client state
      (action.completion? engine client state).toList ++ completions engine rest next after

end Action

/-- The number of documents in a call for a batch. -/
def LoggedCall.batchSize? : LoggedCall → Option Nat
  | ⟨_, .bulk batch⟩ => some batch.documentCount
  | _ => none

theorem LoggedCall.isSome_batchSize? (logged : LoggedCall) :
    logged.batchSize?.isSome = decide (logged.kind = .bulk) := by
  obtain ⟨kind, call⟩ := logged
  cases call <;> rfl

theorem Operation.documentCount_of_plan {documents : List Document} {draft : Draft} {batch : Batch}
    (planned : (insertAll documents).plan draft = .ok (.bulk batch)) :
    batch.documentCount = documents.length := by
  cases calls_of_plan planned with
  | insertAll selected named several stored => rw [Batch.documentCount_eq, stored.length_eq]

/-! ## Counts -/

namespace Histogram

/-- The histogram with the given sizes added in order. -/
def observeAll (histogram : Histogram) (sizes : List Nat) : Histogram :=
  sizes.foldl (fun histogram size => histogram.observe (.ofNat size)) histogram

theorem count_observeAll (histogram : Histogram) (sizes : List Nat) :
    (histogram.observeAll sizes).count = histogram.count + sizes.length := by
  induction sizes generalizing histogram with
  | nil => rfl
  | cons size rest ih =>
      calc (histogram.observeAll (size :: rest)).count
          = histogram.count + 1 + rest.length := ih (histogram.observe (.ofNat size))
        _ = histogram.count + (size :: rest).length := by
            rw [List.length_cons]
            omega

theorem sum_observeAll (histogram : Histogram) (sizes : List Nat) :
    (histogram.observeAll sizes).sum =
      sizes.foldl (fun sum size => sum.add (.ofNat size)) histogram.sum := by
  induction sizes generalizing histogram with
  | nil => rfl
  | cons size rest ih => exact ih (histogram.observe (.ofNat size))

end Histogram

namespace Tally

variable {tally : Tally} {operation name kind : String} {error : Option String}

theorem requestCount_record (seconds : Binary64) (known : operation ∈ Operation.names)
    (asked : name ∈ Operation.names) :
    (tally.record operation seconds error).requestCount name =
      tally.requestCount name + if operation = name then 1 else 0 := by
  by_cases same : operation = name
  · simp [record, requestCount, same]
  · have different := fingerprint_name_ne known asked (Ne.symm same)
    simp [record, requestCount, same, Family.find?_update_of_ne _ _ _ different]

theorem count_latency_record (seconds : Binary64) (known : operation ∈ Operation.names)
    (asked : name ∈ Operation.names) :
    ((tally.record operation seconds error).latency name).count =
      (tally.latency name).count + if operation = name then 1 else 0 := by
  by_cases same : operation = name
  · simp [record, latency, same, Histogram.observe]
  · have different := fingerprint_name_ne known asked (Ne.symm same)
    simp [record, latency, same, Family.find?_update_of_ne _ _ _ different]

theorem failureCount_record (seconds : Binary64) (known : operation ∈ Operation.names)
    (errorKnown : ∀ failure ∈ error, failure ∈ Error.kinds) (asked : name ∈ Operation.names)
    (kindAsked : kind ∈ Error.kinds) :
    (tally.record operation seconds error).failureCount name kind =
      tally.failureCount name kind + if operation = name ∧ error = some kind then 1 else 0 := by
  cases error with
  | none => simp [record, failureCount]
  | some failure =>
      by_cases same : (name, kind) = (operation, failure)
      · cases same
        simp [record, failureCount]
      · have different := fingerprint_kind_ne known asked (errorKnown failure rfl) kindAsked same
        have uncounted : ¬(operation = name ∧ failure = kind) := by
          rintro ⟨rfl, rfl⟩
          exact same rfl
        simp [record, failureCount, uncounted, Family.find?_update_of_ne _ _ _ different]

/-- Whether a tally tells of these ends of operations, and of batches of these sizes. -/
structure Accounts (tally : Tally) (completions : List Completion) (sizes : List Nat) : Prop where
  requests : ∀ name ∈ Operation.names,
    tally.requestCount name = completions.countP (Completion.isOf name)
  latencies : ∀ name ∈ Operation.names,
    (tally.latency name).count = completions.countP (Completion.isOf name)
  failures : ∀ name ∈ Operation.names, ∀ kind ∈ Error.kinds,
    tally.failureCount name kind = completions.countP (Completion.failedWith name kind)
  batches : tally.batches = (Histogram.ofBounds batchBounds).observeAll sizes

namespace Accounts

variable {completions : List Completion} {sizes : List Nat}

theorem of_empty : Tally.empty.Accounts [] [] where
  requests _ _ := rfl
  latencies _ _ := rfl
  failures _ _ _ _ := rfl
  batches := rfl

theorem recordBatch (accounts : tally.Accounts completions sizes) (size : Nat) :
    (tally.recordBatch size).Accounts completions (sizes ++ [size]) where
  requests := accounts.requests
  latencies := accounts.latencies
  failures := accounts.failures
  batches := by
    rw [Tally.recordBatch, accounts.batches, Histogram.observeAll, Histogram.observeAll,
      List.foldl_append]
    rfl

theorem record (accounts : tally.Accounts completions sizes) (seconds : Binary64)
    (completion : Completion) (known : completion.operation ∈ Operation.names) :
    (tally.record completion.operation seconds (completion.error.map Error.kind)).Accounts
      (completions ++ [completion]) sizes where
  requests name asked := by
    rw [requestCount_record seconds known asked, accounts.requests name asked,
      List.countP_append, List.countP_singleton]
    simp [Completion.isOf]
  latencies name asked := by
    rw [count_latency_record seconds known asked, accounts.latencies name asked,
      List.countP_append, List.countP_singleton]
    simp [Completion.isOf]
  failures name asked kind kindAsked := by
    have errorKnown : ∀ failure ∈ completion.error.map Error.kind, failure ∈ Error.kinds := by
      intro failure failed
      obtain ⟨error, _, rfl⟩ := Option.mem_map.mp failed
      exact error.kind_mem_kinds
    rw [failureCount_record seconds known errorKnown asked kindAsked,
      accounts.failures name asked kind kindAsked, List.countP_append, List.countP_singleton]
    simp [Completion.failedWith]
  batches := accounts.batches

/-- A call is accounted for before it is made, if it is one for a batch. -/
theorem beforeCall (accounts : tally.Accounts completions sizes) {kind : Kind} (call : Call kind) :
    (Client.beforeCall tally call).Accounts completions
      (sizes ++ [LoggedCall.mk kind call].filterMap LoggedCall.batchSize?) := by
  cases call with
  | bulk batch => exact accounts.recordBatch batch.documentCount
  | _ =>
      rw [← List.append_nil sizes] at accounts
      exact accounts

end Accounts

end Tally

/-! ## Accounts of runs -/

namespace Action

variable {σ : Type} (engine : Engine σ)

/-- Setting, resetting and previewing a query are not counted. -/
theorem tally_step_of_completion?_eq_none {action : Action} {client : Client} {state : σ}
    (uncounted : action.completion? engine client state = none) :
    (action.step engine client state).1.tally = client.tally := by
  cases action with
  | set setter =>
      simp only [step, Client.set]
      cases setter.apply client.draft <;> rfl
  | reset => rfl
  | preview => rfl
  | perform kind operation seconds => cases uncounted

/-- An action and its call are accounted for, whatever the engine answers. -/
theorem accounts_step {client : Client} {completions : List Completion} {sizes : List Nat}
    (accounts : client.tally.Accounts completions sizes) (action : Action) (state : σ) :
    (action.step engine client state).1.tally.Accounts
      (completions ++ (action.completion? engine client state).toList)
      (sizes ++ (action.call? client.draft).toList.filterMap LoggedCall.batchSize?) := by
  cases action with
  | perform kind operation seconds =>
      simp only [step, completion?, call?, Client.perform, Option.toList_some]
      cases planned : operation.plan client.draft with
      | error error =>
          simpa [Completion.ofResult] using
            accounts.record seconds ⟨operation.name, some error⟩ operation.name_mem_names
      | ok call =>
          -- The batch is counted whatever becomes of the call, the end with what became of it.
          have counted := (accounts.beforeCall call).record seconds
            (.ofResult operation.name (engine.answer call state).1) operation.name_mem_names
          rw [← Completion.failureKind?_eq] at counted
          exact counted
  | set setter | reset | preview =>
      rw [tally_step_of_completion?_eq_none engine rfl]
      simpa [completion?, call?] using accounts

theorem accounts_run {client : Client} {earlier : List Completion} {sizes : List Nat}
    (accounts : client.tally.Accounts earlier sizes) (actions : List Action) (state : σ) :
    (run engine actions client state).1.tally.Accounts
      (earlier ++ completions engine actions client state)
      (sizes ++ (calls actions client.draft).filterMap LoggedCall.batchSize?) := by
  induction actions generalizing client earlier sizes state with
  | nil => simpa [run, completions, calls] using accounts
  | cons action rest ih =>
      have counted := ih (accounts_step engine accounts action state)
        (action.step engine client state).2
      rw [draft_step, List.append_assoc, List.append_assoc, ← List.filterMap_append] at counted
      exact counted

/-- After any run of a new client on any engine, the operations of each name are counted as often as
they ended, also the refused ones, and so are the times that they took; failures are counted by the
kinds of their errors, and each only once.  The batches are those that the engine got, by the number
of their documents.  Nothing that is done to a query in between is counted. -/
theorem tally_accounts_for_run (actions : List Action) (state : σ) :
    let tally := (run engine.watched actions .new (state, [])).1.tally
    let log := (run engine.watched actions .new (state, [])).2.2
    let ended := completions engine.watched actions .new (state, [])
    let sizes := log.filterMap LoggedCall.batchSize?
    (∀ (kind : Kind) (operation : Operation kind),
      tally.requestCount operation.name = ended.countP (Completion.isOf operation.name) ∧
      (tally.latency operation.name).count = tally.requestCount operation.name ∧
      (∀ error : Error, tally.failureCount operation.name error.kind =
        ended.countP (Completion.failedWith operation.name error.kind)) ∧
      (Error.kinds.map (tally.failureCount operation.name)).sum ≤
        tally.requestCount operation.name) ∧
    tally.batches.count = log.countP (fun logged => logged.kind = .bulk) ∧
    tally.batches = (Histogram.ofBounds Tally.batchBounds).observeAll sizes ∧
    (sizes.sum ≤ 2 ^ 53 → tally.batches.sum.IsWhole sizes.sum) ∧
    (∀ (documents : List Document) (draft : Draft) (batch : Batch),
      (Operation.insertAll documents).plan draft = .ok (.bulk batch) →
      batch.documentCount = documents.length) ∧
    ∀ (client : Client) (state : σ) (setter : Setter),
      ((Action.set setter).step engine client state).1.tally = client.tally ∧
      (Action.reset.step engine client state).1.tally = client.tally ∧
      (Action.preview.step engine client state).1.tally = client.tally := by
  have submitted : (run engine.watched actions .new (state, [])).2.2 = calls actions .empty := by
    rw [state_run, Engine.after_watched]
    rfl
  have initial : Client.new.tally.Accounts [] [] := Tally.Accounts.of_empty
  have accounts : (run engine.watched actions .new (state, [])).1.tally.Accounts
      (completions engine.watched actions .new (state, []))
      ((calls actions .empty).filterMap LoggedCall.batchSize?) :=
    accounts_run engine.watched initial actions (state, [])
  dsimp only
  rw [submitted]
  refine ⟨fun kind operation => ?_, ?_, accounts.batches, fun small => ?_, ?_, ?_⟩
  · have known := operation.name_mem_names
    refine ⟨accounts.requests _ known, ?_, ?_, ?_⟩
    · rw [accounts.latencies _ known, accounts.requests _ known]
    · exact fun error => accounts.failures _ known _ error.kind_mem_kinds
    · rw [accounts.requests _ known]
      refine le_of_eq_of_le ?_ (Completion.sum_countP_failedWith_le operation.name _)
      rw [List.map_congr_left (accounts.failures _ known)]
  · rw [accounts.batches, Histogram.count_observeAll, List.length_filterMap_eq_countP]
    simp [LoggedCall.isSome_batchSize?, Histogram.ofBounds]
  · rw [accounts.batches, Histogram.sum_observeAll]
    have none : (Histogram.ofBounds Tally.batchBounds).sum.IsWhole 0 :=
      ⟨by decide, by decide, by decide⟩
    simpa using none.foldl_add (by simpa using small)
  · exact fun documents draft batch => Operation.documentCount_of_plan
  · intro client state setter
    exact ⟨tally_step_of_completion?_eq_none engine rfl, rfl, rfl⟩

/-- A batch that is lost on the way counts as one that arrives.  An empty batch is refused and counts
for nothing but itself, like a fetch without a table. -/
theorem tally_accounts_for_lost_batch :
    let ann : Document := .ofList [("name", .string "ann")]
    let insertAll (documents : List Document) :=
      Action.perform .bulk (.insertAll documents) (.ofNat 1)
    let users := Action.set (.table "users")
    let actions := [users, insertAll [ann, ann], users, .preview, insertAll [ann], users,
      insertAll [], .perform .fetch (.find "7") (.ofNat 1)]
    let failing := Recorder.empty.failNext ⟨some 503, "engine unavailable"⟩
    let tally := (run Recorder.engine.watched actions .new (failing, [])).1.tally
    tally.requestCount "insert_all" = 3 ∧ (tally.latency "insert_all").count = 3 ∧
      tally.failureCount "insert_all" "transport" = 1 ∧
      tally.failureCount "insert_all" "invalid_input" = 1 ∧
      tally.failureCount "find_by_id" "invalid_state" = 1 ∧
      tally.batches.count = 2 ∧ tally.batches.sum.IsWhole 3 := by
  intro ann insertAll users actions failing tally
  obtain ⟨counted, batches, _, sum, _, _⟩ :=
    tally_accounts_for_run Recorder.engine actions failing
  obtain ⟨requests, latencies, failures, _⟩ := counted .bulk (.insertAll [])
  obtain ⟨_, _, unready, _⟩ := counted .fetch (.find "7")
  have three : ((run Recorder.engine.watched actions .new (failing, [])).2.2.filterMap
      LoggedCall.batchSize?).sum = 3 := by decide
  rw [three] at sum
  refine ⟨requests.trans rfl, (latencies.trans requests).trans rfl, ?_, ?_, ?_, batches.trans rfl,
    sum (by decide)⟩
  · exact (failures (.transport none "")).trans rfl
  · exact (failures (.invalidInput .emptyData)).trans rfl
  · exact (unready (.invalidState .noTable)).trans rfl

end Action

end DocumentSearch
