namespace Outbox.Postgres.Schema

def script : List String :=
  ["CREATE TABLE IF NOT EXISTS outbox_message (",
   "    id              BIGSERIAL PRIMARY KEY,",
   "    event_id        TEXT        NOT NULL UNIQUE,",
   "    event_topic     TEXT        NOT NULL,",
   "    event_domain    TEXT        NOT NULL,",
   "    event_type      TEXT        NOT NULL,",
   "    object_type     TEXT        NOT NULL,",
   "    producer        TEXT,",
   "    correlation_id  TEXT,",
   "    payload         JSONB,",
   "    metadata        JSONB,",
   "    created_at      TIMESTAMPTZ NOT NULL",
   ");",
   "CREATE INDEX IF NOT EXISTS idx_outbox_message_created_at",
   "    ON outbox_message (created_at);",
   "CREATE INDEX IF NOT EXISTS idx_outbox_message_topic",
   "    ON outbox_message (event_topic);"]

end Outbox.Postgres.Schema
