import CanvasPrompt.Json.Printer
import CanvasPrompt.Json.Reader
import CanvasPrompt.Settings.Basic

/-!
# Connections to the database

How connections are opened, and how values are stored in the columns that hold JSON.
-/

namespace CanvasPrompt.Database

/-- How connections are opened. -/
structure PoolOptions where
  /-- Where the database is. -/
  dsn : Text
  /-- The number of prepared statements that are kept. -/
  statementCacheSize : Nat
  /-- The seconds that a statement may take. -/
  commandTimeout : Double
  deriving DecidableEq

/-- How the settings want connections to be opened. No prepared statements are kept, because a
connection may be shared between transactions. -/
def PoolOptions.ofSettings (s : Settings) : PoolOptions :=
  ⟨s.dbUri, 0, s.providerTimeout⟩

/-- How the values of a type are stored. -/
structure Codec where
  /-- The name of the type. -/
  type : Text
  /-- Where the type is defined. -/
  schema : Text
  /-- The stored form of a value. -/
  encode : Json → Except Json.Limit Text
  /-- The value of a stored form. -/
  decode : Text → Except Json.ReadError Json

/-- JSON values are stored in their written form; at most `room` containers may be nested. -/
def jsonCodec (room : Nat) : Codec :=
  ⟨"jsonb".codes, "pg_catalog".codes, Json.write room, Json.read room⟩

end CanvasPrompt.Database
