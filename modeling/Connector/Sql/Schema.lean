import Connector.Sql.Session

/-!
# The schema

The tables and indexes, made ready before anything else is done at a database.
-/

namespace Connector.Sql

/-- The statements that make a database ready. -/
def schema : List Statement :=
  [.define ("CREATE TABLE IF NOT EXISTS transfer_processes ( id TEXT PRIMARY KEY, "
     ++ "data_request_id TEXT NOT NULL, process_type TEXT NOT NULL, agreement_id TEXT NOT NULL, "
     ++ "state TEXT NOT NULL, state_timestamp TIMESTAMPTZ NOT NULL, retry_at TIMESTAMPTZ, "
     ++ "pending_command TEXT, has_completion BOOLEAN NOT NULL DEFAULT FALSE, lease_holder TEXT, "
     ++ "lease_expires_at TIMESTAMPTZ, version BIGINT NOT NULL DEFAULT 0, "
     ++ "created_at TIMESTAMPTZ NOT NULL, payload JSONB NOT NULL )"),
   .define ("CREATE INDEX IF NOT EXISTS idx_transfer_processes_claim "
     ++ "ON transfer_processes (state, state_timestamp)"),
   .define ("CREATE INDEX IF NOT EXISTS idx_transfer_processes_data_request "
     ++ "ON transfer_processes (data_request_id)"),
   .define ("CREATE TABLE IF NOT EXISTS data_plane_instances ( id TEXT PRIMARY KEY, "
     ++ "url TEXT NOT NULL, last_seen TIMESTAMPTZ NOT NULL, payload JSONB NOT NULL )")]

/-- Makes a database ready. -/
def prepareAll : List Statement → Session Unit
  | [] => pure ()
  | s :: rest => do
      let _ ← Session.execute s []
      prepareAll rest

/-- Makes the tables and indexes ready. -/
def prepare : Session Unit := prepareAll schema

/-- A database without rows. -/
def Database.empty : Database := [("data_plane_instances", []), ("transfer_processes", [])]

end Connector.Sql
