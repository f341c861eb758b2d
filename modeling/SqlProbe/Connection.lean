import SqlProbe.Text.Quoted

/-!
# Connections and queries

Where and as whom a query is made, and how it can fail.

* `Connection.describe`: a connection in one line for a log. The password is
  left out, and quoting keeps what stands in one part from passing for another.
* `QueryFailure.message`: the wording of a failure.
-/

namespace SqlProbe

/-- Where and as whom to connect. -/
structure Connection where
  /-- The name or address of the server. -/
  host : String
  /-- The port to connect to. -/
  port : UInt16
  /-- Who connects. -/
  user : String
  /-- The password of the user. -/
  password : String
  /-- The database the query is about. -/
  database : String
deriving DecidableEq, Repr

namespace Connection

/-- A connection in one line, without its password. -/
def describe (c : Connection) : String :=
  "ConnectionParams \x7b host: " ++ Text.quote c.host ++ ", port: " ++ c.port.toNat.repr ++
    ", user: " ++ Text.quote c.user ++ ", password: " ++ Text.quote "<redacted>" ++
    ", database: " ++ Text.quote c.database ++ " \x7d"

end Connection

/-- Why a query gave no value. -/
inductive QueryFailure where
  /-- The server could not be reached, or refused the user. -/
  | connection (detail : String)
  /-- The query was rejected, or its result could not be read. -/
  | query (detail : String)
  /-- The query succeeded without a row. -/
  | noRows
deriving DecidableEq, Repr

namespace QueryFailure

/-- The wording of a failure. -/
def message : QueryFailure → String
  | connection detail => detail
  | query detail => detail
  | noRows => "Query returned no rows."

end QueryFailure

end SqlProbe
