import PromptPress.Environment
import PromptPress.Jobs.Store
import PromptPress.Text.Word

/-!
# The database

The database is named by the URL in a variable.  An engine for it is made when it is first needed and
kept until `reset`, so that a change of the variable shows only after a reset.  The content of a database
in memory goes with its engine, that of a file stays.
-/

namespace PromptPress

open Text

/-- Why there is no database. -/
inductive DatabaseError where
  /-- No URL is given. -/
  | noUrl
  /-- The URL cannot be read, or names what its kind of database does not have. -/
  | badUrl
  /-- There is no kind of database of that name. -/
  | unknownKind
  /-- What is needed to talk to the database is not installed. -/
  | noDriver
  /-- A table is missing, or the file cannot be opened. -/
  | unavailable
  /-- A row with the same key is there. -/
  | duplicate
  /-- The work was given up before its end. -/
  | rolledBack
deriving DecidableEq, Inhabited

/-- The message of an error. -/
def DatabaseError.message : DatabaseError → String
  | noUrl =>
    "DATABASE_URL is not set; the SQL job store and template index need it. " ++
      "Example: postgresql+psycopg://pipeline:secret@db:5432/templates or sqlite:///pipeline.db"
  | badUrl => "malformed URL"
  | unknownKind => "unknown kind of database"
  | noDriver => "driver not installed"
  | unavailable => "unavailable"
  | duplicate => "duplicate key"
  | rolledBack => "rolled back"

/-! ### URLs -/

/-- The URL of the database. -/
def databaseUrl (env : Environment) : Except DatabaseError String :=
  let url := String.ofList (trim ((env.get? "DATABASE_URL").getD "").toList)
  if url == "" then .error .noUrl else .ok url

/-- Whether missing tables are to be made at the start. -/
def shouldMigrate (env : Environment) : Bool :=
  env.switch "RUN_MIGRATIONS"

/-- What a URL says. -/
structure DatabaseUrl where
  kind : String
  driver : Option String
  /-- Whether a user, a host or a port is named. -/
  hasServer : Bool
  database : Option String
deriving DecidableEq, Inhabited

namespace DatabaseUrl

/-- What follows the user and the password in a URL, and whether there are such. -/
def afterUser (s : List Char) : Bool × List Char :=
  let (name, rest) := s.span fun c => c != ':' && c != '/'
  match rest, splitAtChar? (· == '@') rest with
  | ':' :: _, some (_, host) => (true, host)
  | _, _ =>
    match splitAtLast? (· == '@') name with
    | some (_, host) => (true, host ++ rest)
    | none => (false, s)

/-- What follows the host and the port in a URL, and whether there are such. -/
def afterHost (s : List Char) : Bool × List Char :=
  let isEnd (c : Char) : Bool := c == '/' || c == '?'
  let rest := s.dropWhile fun c => !isEnd c
  (rest.length < s.length, rest)

/-- Reads a URL. -/
def parse? (url : String) : Option DatabaseUrl :=
  let (name, rest) := url.toList.span fun c => isWord c || c == '+'
  match name, dropStart? "://".toList rest with
  | [], _ | _, none => none
  | _, some rest =>
    let (hasUser, rest) := afterUser rest
    let (hasHost, rest) := afterHost rest
    let (kind, driver) := name.span (· != '+')
    some {
      kind := String.ofList kind
      driver := if driver.isEmpty then none else some (String.ofList (driver.drop 1))
      hasServer := hasUser || hasHost
      database := match rest with
        | '/' :: path => some (String.ofList (path.takeWhile (· != '?')))
        | _ => none }

/-- The kinds of databases that are not files. -/
def serverKinds : List String :=
  ["postgresql", "mysql", "mariadb", "oracle", "mssql"]

/-- Whether a database can be worked with. -/
def check (url : DatabaseUrl) : Except DatabaseError Unit :=
  if url.kind == "sqlite" then
    match url.driver with
    | none | some "pysqlite" => if url.hasServer then .error .badUrl else .ok ()
    | some "aiosqlite" | some "pysqlcipher" => .error .noDriver
    | some _ => .error .unknownKind
  else if serverKinds.contains url.kind then .error .noDriver
  else .error .unknownKind

/-- Whether a database lives in memory. -/
def inMemory (url : DatabaseUrl) : Bool :=
  url.database == none || url.database == some "" || url.database == some ":memory:"

end DatabaseUrl

/-! ### Engines -/

/-- An engine; no two have the same number. -/
structure Engine where
  number : Nat
  url : DatabaseUrl
deriving DecidableEq, Inhabited

/-- What the rows of a database belong to. -/
inductive DatabasePlace where
  | memory (engine : Nat)
  | file (path : String)
deriving DecidableEq, Inhabited

/-- The place of the rows that an engine works on. -/
def Engine.place (engine : Engine) : DatabasePlace :=
  if engine.url.inMemory then .memory engine.number else .file (engine.url.database.getD "")

/-- The engine in use, if there is one, and the databases that have tables. -/
structure Databases where
  engine : Option Engine := none
  /-- How many engines were made. -/
  made : Nat := 0
  tables : List (DatabasePlace × List Jobs.Job) := []
deriving Inhabited

namespace Databases

/-- The engine in use, which is made if there is none. -/
def withEngine (d : Databases) (env : Environment) : Except DatabaseError (Databases × Engine) :=
  match d.engine with
  | some engine => .ok (d, engine)
  | none => do
    let text ← databaseUrl env
    let url ← (DatabaseUrl.parse? text).elim (.error .badUrl) .ok
    url.check
    let engine : Engine := ⟨d.made, url⟩
    return ({ d with engine := some engine, made := d.made + 1 }, engine)

/-- Gives up the engine in use. -/
def reset (d : Databases) : Databases :=
  { d with engine := none }

/-- The jobs that an engine sees. -/
def jobs (d : Databases) (engine : Engine) : Except DatabaseError (List Jobs.Job) :=
  (d.tables.lookup engine.place).elim (.error .unavailable) .ok

/-- Whether the folder of the file of an engine is there: only the one at hand is. -/
def canOpen (engine : Engine) : Bool :=
  match engine.place with
  | .memory _ => true
  | .file path => !path.toList.contains '/'

/-- Makes the tables that an engine lacks. -/
def ensureTables (d : Databases) (engine : Engine) : Except DatabaseError Databases :=
  if !canOpen engine then .error .unavailable
  else if (d.tables.lookup engine.place).isSome then .ok d
  else .ok { d with tables := d.tables ++ [(engine.place, [])] }

/-- Adds a job; nothing is kept if the work is given up before its end. -/
def addJob (d : Databases) (engine : Engine) (job : Jobs.Job) (givenUp : Bool) :
    Except DatabaseError Databases := do
  if givenUp then throw .rolledBack
  let rows ← d.jobs engine
  if rows.any (·.id == job.id) then throw .duplicate
  return { d with
    tables := d.tables.map fun (place, old) =>
      (place, if place = engine.place then old ++ [job] else old) }

/-- Works with the engine in use, which is made if there is none; it stays also if the work fails. -/
def onEngine {α : Type} (d : Databases) (env : Environment)
    (work : Databases → Engine → Except DatabaseError (Databases × α)) :
    Databases × Except DatabaseError α :=
  match d.withEngine env with
  | .error e => (d, .error e)
  | .ok (d, engine) =>
    match work d engine with
    | .ok (d, answer) => (d, .ok answer)
    | .error e => (d, .error e)

end Databases

end PromptPress
