import DocumentSearch.Memory.Store

/-!
# A recording engine

An engine over a store in memory that keeps a log of the calls it gets and can be told to fail.  A
call is logged before anything else happens to it, and a planned failure hits the next call,
whatever it is, and is used up by it.
-/

namespace DocumentSearch

/-- A call of any kind. -/
structure LoggedCall where
  kind : Kind
  call : Call kind
deriving DecidableEq, Repr

/-- How the next call is to fail. -/
structure PlannedFailure where
  status : Option UInt16
  message : String
deriving DecidableEq, Repr

/-- A store, the calls it got, oldest first, and the failure that is planned. -/
structure Recorder where
  store : Store
  log : List LoggedCall
  failure : Option PlannedFailure
deriving DecidableEq, Repr

namespace Recorder

/-- The recorder that has got no call. -/
def empty : Recorder := ⟨.empty, [], none⟩

instance : Inhabited Recorder := ⟨empty⟩

/-- Plans a failure; a failure that was planned before is forgotten. -/
def failNext (recorder : Recorder) (failure : PlannedFailure) : Recorder :=
  { recorder with failure := some failure }

/-- The newest call. -/
def last? (recorder : Recorder) : Option LoggedCall := recorder.log.getLast?

/-- The calls with the given name. -/
def named (recorder : Recorder) (name : String) : List LoggedCall :=
  recorder.log.filter fun entry => entry.call.name = name

/-- Forgets the log. -/
def clearLog (recorder : Recorder) : Recorder := { recorder with log := [] }

/-- The answer to a call. -/
def answer {kind : Kind} (call : Call kind) (recorder : Recorder) :
    Except Error kind.Answer × Recorder :=
  let logged := { recorder with log := recorder.log ++ [LoggedCall.mk kind call] }
  match recorder.failure with
  | some failure =>
      (.error (.transport failure.status failure.message), { logged with failure := none })
  | none =>
      let (result, store) := recorder.store.answer call
      (result, { logged with store })

/-- The recorder as an engine. -/
def engine : Engine Recorder where
  answer := answer

end Recorder

end DocumentSearch
