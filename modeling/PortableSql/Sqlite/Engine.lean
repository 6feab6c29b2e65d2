import PortableSql.Sqlite.Plan

/-!
# The engine

The engine runs plans. It holds the database, how it was when the running transaction began, and
what it tells about past insertions and changes. A command that fails leaves the database as it was.
-/
namespace PortableSql.Sqlite

/-- The state of an engine. -/
structure Engine where
  database : Database
  /-- The database as it was when the running transaction began. -/
  saved? : Option Database
  /-- Number of the row inserted last. -/
  lastRowId : Int64
  /-- Number of rows that the last insertion, update or deletion changed. -/
  changes : Nat
  deriving DecidableEq, Repr

namespace Engine

/-- An engine with a database on which nothing has been run yet. -/
def ofDatabase (db : Database) : Engine := ⟨db, none, 0, 0⟩

/-- The database without what the running transaction did. -/
def committed (e : Engine) : Database :=
  e.saved?.getD e.database

/-- The rows that a part of a query reads; without a table there is one row without cells. -/
def sourceRows (db : Database) (table? : Option String) : List (List Stored) :=
  match table? with
  | none => [[]]
  | some name => (db.table? name).elim [] fun t => t.rows.map Row.cells

/-- The cells fulfil a condition that may be missing. -/
def fulfils (params : List Stored) (where? : Option Test) (cells : List Stored) : Bool :=
  where?.all fun test => test.holds params cells

/-- What is given for a row, where `count` rows are counted. -/
def outputCells (params : List Stored) (count : Nat) (outputs : List Output)
    (cells : List Stored) : List Stored :=
  outputs.map fun
    | .operand o => o.eval params cells
    | .count => .integer (Int64.ofNat count)

/-- Rows of a part of a query, each with the cells that it was made from. -/
def partRows (db : Database) (params : List Stored) : Part → List (List Stored × List Stored)
  | .rows rows => rows.map fun row => ([], row.map (Operand.eval params []))
  | .select outputs table? where? =>
    let found := (sourceRows db table?).filter (fulfils params where?)
    let make := outputCells params found.length outputs
    if outputs.contains .count then
      let last := found.getLast?.getD []
      [(last, make last)]
    else found.map fun cells => (cells, make cells)

/-- What a row is ordered by. -/
def sortValue (params : List Stored) (key : SortKey) (row : List Stored × List Stored) : Stored :=
  match key with
  | .output index => row.2.getD index .null
  | .source o => o.eval params row.1

/-- Rows in an order; rows of one value keep theirs. -/
def sortRows (params : List Stored) (order? : Option (SortKey × Bool))
    (rows : List (List Stored × List Stored)) : List (List Stored × List Stored) :=
  match order? with
  | none => rows
  | some (key, descending) =>
    rows.mergeSort fun a b =>
      let order := (sortValue params key a).order (sortValue params key b)
      if descending then order != .lt else order != .gt

/-- Rows of a query. -/
def queryRows (db : Database) (params : List Stored) (parts : List Part)
    (order? : Option (SortKey × Bool)) : List (List Stored) :=
  (sortRows params order? (parts.flatMap (partRows db params))).map (·.2)

/-- Inserts rows one after another; gives the table, if none was refused, and the number of the last
row that was inserted. -/
def insertRows (lastRowId : Int64) (t : Table) : List (List Stored) → Option Table × Int64
  | [] => (some t, lastRowId)
  | cells :: rest =>
    match t.insert? cells with
    | none => (none, lastRowId)
    | some (number, t) => insertRows number t rest

/-- The cells that a row is given by an update. -/
def changedCells (params : List Stored) (changes : List (Nat × Operand)) (cells : List Stored) :
    List Stored :=
  changes.foldl (fun done (index, o) => done.set index (o.eval params cells)) cells

/-- Updates rows one after another. -/
def updateRows? (params : List Stored) (changes : List (Nat × Operand)) (t : Table) :
    List Row → Option Table
  | [] => some t
  | row :: rest => do
    let t ← t.replace? row (changedCells params changes row.cells)
    updateRows? params changes t rest

/-- The engine after a command that has changed rows of a table. -/
def changed (t : Table) (count : Nat) (e : Engine) : Engine :=
  { e with database := e.database.update t, changes := count }

/-- Runs a plan; gives the rows of its result unless it fails. -/
def runPlan (params : List Stored) (plan : Plan) (e : Engine) :
    Option (List (List Stored)) × Engine :=
  let failed := (none, { e with changes := 0 })
  match plan with
  | .nothing => (none, e)
  | .createTable table => (some [], { e with database := e.database ++ [table] })
  | .dropTable name => (some [], { e with database := e.database.erase name })
  | .insert name sources rows =>
    match e.database.table? name with
    | none => (none, e)
    | some t =>
      let given := rows.map fun row =>
        let values := row.map (Operand.eval params [])
        sources.map fun source? => (source?.bind (values[·]?)).getD .null
      match insertRows e.lastRowId t given with
      | (some t, last) => (some [], { e with lastRowId := last }.changed t rows.length)
      | (none, last) => (none, { e with lastRowId := last, changes := 0 })
  | .update name changes where? =>
    match e.database.table? name with
    | none => (none, e)
    | some t =>
      let found := t.rows.filter fun row => fulfils params where? row.cells
      match updateRows? params changes t found with
      | some t => (some [], e.changed t found.length)
      | none => failed
  | .delete name where? =>
    match e.database.table? name with
    | none => (none, e)
    | some t =>
      let (gone, kept) := t.rows.partition fun row => fulfils params where? row.cells
      (some [], e.changed { t with rows := kept } gone.length)
  | .query parts order? => (some (queryRows e.database params parts order?), e)
  | .begin =>
    if e.saved?.isSome then (none, e) else (some [], { e with saved? := some e.database })
  | .commit => if e.saved?.isSome then (some [], { e with saved? := none }) else (none, e)
  | .rollback =>
    match e.saved? with
    | some db => (some [], { e with database := db, saved? := none })
    | none => (none, e)

/-- Runs a command; gives the rows of its result unless it fails. -/
def run (params : List Stored) (command : Command) (e : Engine) :
    Option (List (List Stored)) × Engine :=
  match Plan.ofCommand? e.database command with
  | some plan => e.runPlan params plan
  | none => (none, e)

end Engine

end PortableSql.Sqlite
