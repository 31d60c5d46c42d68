import Relocation.Wizard.State

/-! The sessions of the wizard: a bounded store of states by session id. Time is a number of
seconds; a session that was not touched for the idle time is idle. -/

namespace Relocation.Wizard

abbrev SessionId := String

inductive SessionError where
  | notFound (id : SessionId)
  | limitReached (limit : Nat)
deriving DecidableEq, Repr

def SessionError.message : SessionError → String
  | .notFound id => s!"wizard session `{id}` was not found"
  | .limitReached limit => s!"wizard session limit of {limit} reached"

structure Session where
  state : State
  touchedAt : Nat
deriving DecidableEq

structure Sessions where
  limit : Nat
  idleTime : Nat
  entries : Dictionary Session
deriving DecidableEq

namespace Sessions

def new (limit idleTime : Nat) : Sessions := ⟨limit, idleTime, ∅⟩

def size (s : Sessions) : Nat := s.entries.size

def isIdle (s : Sessions) (now : Nat) (session : Session) : Bool :=
  s.idleTime ≤ now - session.touchedAt

/-- The state under an id, whether idle or not. -/
def state? (s : Sessions) (id : SessionId) : Option State := (s.entries.get? id).map Session.state

def prune (s : Sessions) (now : Nat) : Sessions :=
  { s with entries := s.entries.filter fun _ session => !s.isIdle now session }

def write (s : Sessions) (now : Nat) (id : SessionId) (state : State) : Sessions :=
  { s with entries := s.entries.insert id ⟨state, now⟩ }

/-- Starts a session under a new id, once the idle ones are dropped, if there is room. -/
def create (s : Sessions) (now : Nat) (id : SessionId) (state : State) :
    Except SessionError SessionId × Sessions :=
  let s := s.prune now
  if s.limit ≤ s.size then (.error (.limitReached s.limit), s)
  else (.ok id, s.write now id state)

/-- The state of a session, which is touched by this; an idle session is dropped instead. -/
def get (s : Sessions) (now : Nat) (id : SessionId) : Option State × Sessions :=
  match s.entries.get? id with
  | none => (none, s)
  | some session =>
    if s.isIdle now session then (none, { s with entries := s.entries.erase id })
    else (some session.state, s.write now id session.state)

def lease (s : Sessions) (id : SessionId) : Option SessionId :=
  if s.entries.contains id then some id else none

def replace (s : Sessions) (now : Nat) (id : SessionId) (state : State) :
    Except SessionError Unit × Sessions :=
  if s.entries.contains id then (.ok (), s.write now id state) else (.error (.notFound id), s)

def remove (s : Sessions) (id : SessionId) : Except SessionError Unit × Sessions :=
  if s.entries.contains id then (.ok (), { s with entries := s.entries.erase id })
  else (.error (.notFound id), s)

end Sessions

end Relocation.Wizard
