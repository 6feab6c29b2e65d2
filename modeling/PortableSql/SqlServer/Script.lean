import PortableSql.Session.Playbook
import PortableSql.SqlServer.Options
import PortableSql.SqlServer.Statement

/-!
# A SQL Server that follows a script

The script says what the server answers to every text, and the server records what it was asked. A
text without an entry succeeds and has no results. After the server has closed the session it
answers nothing and records nothing.
-/
namespace PortableSql.SqlServer

/-- What the server was asked. -/
inductive Request where
  | login (user password database instanceName : String)
  | batch (sql : String)
  | query (sql : String) (params : Cells)
  deriving DecidableEq, Repr

/-- What the server does when a text is run. -/
structure Reply where
  sets : List ResultSet
  /-- It fails in the end. -/
  error : Bool
  /-- It closes the session in the end. -/
  close : Bool
  deriving DecidableEq, Repr

/-- A reply without results. -/
def Reply.empty : Reply := ⟨[], false, false⟩

/-- A scripted server: what it answers, and how a session on it has gone so far. -/
structure Script where
  entries : List (String × List Reply)
  /-- Nothing listens at the server's address. -/
  down : Bool
  /-- The login is refused. -/
  reject : Bool
  /-- The instance asked for is not there. -/
  wrongInstance : Bool
  closed : Bool
  playhead : Playhead
  /-- Requests received, the last one first. -/
  received : List Request
  deriving DecidableEq, Repr

namespace Script

/-- A server that has not been asked anything. -/
def new (entries : List (String × List Reply)) (down reject wrongInstance : Bool) : Script :=
  ⟨entries, down, reject, wrongInstance, false, [], []⟩

/-- The replies to a text. -/
def replies (sql : String) (s : Script) : List Reply :=
  ((s.entries.find? (·.1 == sql)).map (·.2)).getD []

/-- The server has received a request. -/
def receive (r : Request) (s : Script) : Script :=
  { s with received := r :: s.received }

/-- The requests received since the record was drained last. -/
def drain (s : Script) : List Request × Script :=
  (s.received.reverse, { s with received := [] })

/-- Answers a request that runs a text. -/
def answer (sql : String) (r : Request) (s : Script) : Option (List ResultSet) × Script :=
  if s.closed then (none, s)
  else
    let reply := (s.playhead.answer? sql (s.replies sql)).getD .empty
    let s := { s.receive r with playhead := s.playhead.advance sql }
    if reply.close then (none, { s with closed := true })
    else if reply.error then (none, s)
    else (some reply.sets, s)

/-- The scripted server as a link. -/
def link : Link Script where
  batch sql s := s.answer sql (.batch sql)
  query sql params s := s.answer sql (.query sql params)

/-- The server's name can be looked up. -/
def resolves (server : String) : Bool :=
  !server.toList.contains '\x00'

/-- Opens a session. -/
def connect (options : Options) (s : Script) : Result Unit × Script :=
  if !resolves options.server then (.error (.connection .unresolved), s)
  else if s.down then (.error (.connection .unreachable), s)
  else if s.wrongInstance then (.error (.connection .refused), s)
  else
    let s := s.receive (.login options.user options.password options.database
      (options.instanceName.getD ""))
    if s.reject then (.error (.connection .refused), s) else (.ok (), s)

end Script

end PortableSql.SqlServer
