/-!
The statements that are sent to the database.
-/
namespace Messaging.Cql.Statement

/-- `CREATE KEYSPACE IF NOT EXISTS`, where the name stands unquoted. -/
def createKeyspace (name : String) : String :=
  "CREATE KEYSPACE IF NOT EXISTS " ++ name
    ++ " WITH replication = \x7b'class': 'SimpleStrategy', 'replication_factor': 1\x7d"

/-- `CREATE TABLE IF NOT EXISTS messages`, partitioned by receiver and clustered by message and
time. -/
def createTable : String :=
  "\n    CREATE TABLE IF NOT EXISTS messages (\n        message_id UUID,\n        sender_id UUID,"
    ++ "\n        receiver_id UUID,\n        msg_body TEXT,\n        created_at TIMESTAMP,"
    ++ "\n        msg_type TEXT,\n        has_read BOOLEAN,"
    ++ "\n        PRIMARY KEY ((receiver_id), message_id, created_at)\n    )"

def insert : String :=
  "INSERT INTO messages (message_id, sender_id, receiver_id, msg_body, created_at, msg_type,"
    ++ " has_read) VALUES (?, ?, ?, ?, ?, ?, ?)"

/-- The first row of a message in its receiver's partition. -/
def select : String :=
  "SELECT message_id, sender_id, receiver_id, msg_body, created_at, msg_type, has_read"
    ++ " FROM messages WHERE receiver_id = ? AND message_id = ? LIMIT 1"

/-- `USE`, where the name is quoted, so that its case counts. -/
def use (name : String) : String := "USE \"" ++ name ++ "\""

end Messaging.Cql.Statement
