import Messaging.Config.CommandLine
import Messaging.Text.Quoted
import Messaging.Text.WhiteSpace

/-!
The help text: how the program is called, and its options with their defaults.
-/
namespace Messaging.Config

def programName : String := "ism-server"

def programVersion : String := "0.1.0"

def versionText : String := programName ++ " " ++ programVersion ++ "\n"

def about : String := "A messaging store service backed by Cassandra/ScyllaDB"

/-- The parts of a path between slashes, without empty ones and those that name the place they
stand in. -/
def pathParts (path : Bytes) : List Bytes :=
  (path.splitOn 0x2F).filter fun part => !part.isEmpty && part ≠ [0x2E]

def calledAs? (path : Bytes) : Option String :=
  match (pathParts path).getLast? with
  | none => none
  | some part => if part = [0x2E, 0x2E] then none else Utf8.toString? part

def shownDefault (value : String) : String :=
  if value.toList.any Text.isWhiteSpace then Text.Quoted.quote value else value

/-- What the help says of a setting: its purpose, its default and its choices. -/
def helpLine (default : Option String) (o : Setting) : String :=
  let parts :=
    (if o.help.isEmpty then [] else [o.help])
      ++ (default.toList.map fun v => "[default: " ++ shownDefault v ++ "]")
      ++ (if o.choices.isEmpty then []
          else ["[possible values: " ++ ", ".intercalate o.choices ++ "]"])
  "      " ++ o.usage ++ "\n          " ++ " ".intercalate parts ++ "\n"

def helpText (calledAs : String) (default : Setting → Option String) : String :=
  about ++ "\n\nUsage: " ++ calledAs ++ " [OPTIONS]\n\nOptions:\n"
    ++ String.join (Setting.all.map fun o => helpLine (default o) o)
    ++ "  -h, --help\n          Print help\n  -V, --version\n          Print version\n"

end Messaging.Config
