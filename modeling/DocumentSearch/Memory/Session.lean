import DocumentSearch.Client
import DocumentSearch.Memory.Recorder

/-!
# Sessions

Clients that share a recording engine, one turn after the other.  A turn is an action of one of the
clients or something that is told to the recorder itself.  The clients are numbered, and all of them
start out new.
-/

namespace DocumentSearch

/-- One turn of a session. -/
inductive Turn
  /-- The client with the given number acts. -/
  | act (who : Nat) (action : Action)
  /-- The next call is to fail. -/
  | failNext (failure : PlannedFailure)
  /-- The recorder forgets its log. -/
  | clearLog
deriving Repr

/-- Clients by their numbers, and the recorder that they share. -/
structure Session where
  clients : Nat → Client
  recorder : Recorder

namespace Session

/-- New clients on a recorder that has got no call. -/
def start : Session := ⟨fun _ => .new, .empty⟩

instance : Inhabited Session := ⟨start⟩

/-- The documents that the recorder holds. -/
def store (session : Session) : Store := session.recorder.store

/-- The answer of an operation that a client would carry out now. -/
def answerTo {kind : Kind} (session : Session) (who : Nat) (operation : Operation kind)
    (seconds : Binary64) : Except Error kind.Answer :=
  ((session.clients who).perform Recorder.engine operation seconds session.recorder).1

/-- The session after a turn. -/
def take (session : Session) : Turn → Session
  | .act who action =>
      let (client, recorder) :=
        action.step Recorder.engine (session.clients who) session.recorder
      ⟨fun other => if other = who then client else session.clients other, recorder⟩
  | .failNext failure => { session with recorder := session.recorder.failNext failure }
  | .clearLog => { session with recorder := session.recorder.clearLog }

/-- The session after turns in order. -/
def run (session : Session) (turns : List Turn) : Session := turns.foldl take session

end Session

end DocumentSearch
