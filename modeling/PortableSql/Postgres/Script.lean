import PortableSql.Postgres.Options
import PortableSql.Postgres.Statement
import PortableSql.Session.Playbook

/-!
# A PostgreSQL server that follows a script

The script says what the server answers to every text, and the server records what it was asked. A
text without an entry succeeds and has no parameters, columns or rows. After the server has closed
the session it answers nothing and records nothing. Texts end with a NUL on the wire, so one that
contains a NUL is never sent.
-/
namespace PortableSql.Postgres

/-- What the server was asked. -/
inductive Request where
  | login (user password database : String)
  | batch (sql : String)
  | prepare (sql : String)
  | execute (sql : String) (params : Cells)
  | copy (sql : String) (payload : Bytes)
  deriving DecidableEq, Repr

/-- What the server does when a text is run. -/
structure Reply where
  rows : List Cells
  affected : Nat
  /-- It asks for a copy payload. -/
  copy : Bool
  /-- It fails in the end. -/
  error : Bool
  /-- It closes the session in the end. -/
  close : Bool
  deriving DecidableEq, Repr

/-- A reply without rows. -/
def Reply.empty : Reply := ⟨[], 0, false, false, false⟩

/-- What the server knows about a text. -/
structure Entry where
  params : List Nat
  columns : List (String × Nat)
  prepareError : Bool
  replies : List Reply
  deriving DecidableEq, Repr

/-- A text that the script does not mention. -/
def Entry.empty : Entry := ⟨[], [], false, []⟩

/-- A scripted server: what it knows, and how a session on it has gone so far. -/
structure Script where
  entries : List (String × Entry)
  /-- Nothing listens at the server's address. -/
  down : Bool
  /-- The login is refused. -/
  reject : Bool
  closed : Bool
  playhead : Playhead
  /-- Requests received, the last one first. -/
  received : List Request
  deriving DecidableEq, Repr

namespace Script

/-- A server that has not been asked anything. -/
def new (entries : List (String × Entry)) (down reject : Bool) : Script :=
  ⟨entries, down, reject, false, [], []⟩

/-- What the server knows about a text. -/
def entry (sql : String) (s : Script) : Entry :=
  ((s.entries.find? (·.1 == sql)).map (·.2)).getD .empty

/-- The server has received a request. -/
def receive (r : Request) (s : Script) : Script :=
  { s with received := r :: s.received }

/-- The requests received since the record was drained last. -/
def drain (s : Script) : List Request × Script :=
  (s.received.reverse, { s with received := [] })

/-- Takes the next reply to a text. -/
def takeReply (sql : String) (s : Script) : Reply × Script :=
  ((s.playhead.answer? sql (s.entry sql).replies).getD .empty,
    { s with playhead := s.playhead.advance sql })

/-- Ends a request as a reply says: it fails, the session is closed, or there is an answer. -/
def finish {α : Type} (reply : Reply) (answer : α) (s : Script) : Option α × Script :=
  if reply.close then (none, { s with closed := true })
  else if reply.error then (none, s)
  else (some answer, s)

/-- The text can be sent. -/
def sendable (text : String) : Bool :=
  !text.toList.contains '\x00'

/-- Runs a text without parameters and without results. -/
def batch (sql : String) (s : Script) : Option Unit × Script :=
  if s.closed || !sendable sql then (none, s)
  else
    let (reply, s) := (s.receive (.batch sql)).takeReply sql
    if reply.copy then (none, s) else s.finish reply ()

/-- Prepares a text. -/
def prepare (sql : String) (s : Script) : Option Prepared × Script :=
  if s.closed || !sendable sql then (none, s)
  else
    let s := s.receive (.prepare sql)
    let entry := s.entry sql
    if entry.prepareError then (none, s) else (some ⟨sql, entry.params, entry.columns⟩, s)

/-- Runs a prepared text. -/
def run (prepared : Prepared) (params : Cells) (s : Script) : Option Completed × Script :=
  if s.closed then (none, s)
  else
    let (reply, s) := (s.receive (.execute prepared.sql params)).takeReply prepared.sql
    if reply.copy then (none, s) else s.finish reply ⟨reply.rows, reply.affected⟩

/-- Runs a text that is to ask for a copy payload. A reply that does so is taken only when the
payload has arrived. -/
def startCopy (prepared : Prepared) (s : Script) : Option Unit × Script :=
  if s.closed then (none, s)
  else
    let s := s.receive (.execute prepared.sql [])
    let (reply, after) := s.takeReply prepared.sql
    if reply.copy then (some (), s)
    else
      let (_, after) := after.finish reply ()
      (none, after)

/-- Takes a copy payload. -/
def finishCopy (prepared : Prepared) (payload : Bytes) (s : Script) : Option Nat × Script :=
  if s.closed then (none, s)
  else
    let (reply, s) := (s.receive (.copy prepared.sql payload)).takeReply prepared.sql
    s.finish reply reply.affected

/-- The scripted server as a link. -/
def link : Link Script := ⟨batch, prepare, run, startCopy, finishCopy⟩

/-- Opens a session. -/
def connect (options : Options) (s : Script) : Result Unit × Script :=
  match options.endpoint with
  | .error e => (.error e, s)
  | .ok endpoint =>
    let sent := [endpoint.user, endpoint.password, endpoint.dbname].all sendable
    if s.down || !sent then (.error (.connection .unreachable), s)
    else
      let s := s.receive (.login endpoint.user endpoint.password endpoint.dbname)
      if s.reject then (.error (.connection .refused), s) else (.ok (), s)

end Script

end PortableSql.Postgres
