import BearerClient.Failure
import BearerClient.Text.Blank

/-!
# Log formats

The two layouts of log lines, and the names under which a setting may ask for them.
-/

namespace BearerClient

inductive LogFormat where
  | plain
  | json
  deriving Repr, DecidableEq

namespace LogFormat

instance : Inhabited LogFormat := ⟨plain⟩

def name : LogFormat → String
  | plain => "Plain"
  | json => "Json"

/-- The format that a setting names, in any letter case and with white space around it. -/
def ofSetting (setting : String) : Except Failure LogFormat :=
  match Text.lowerAscii (Text.trim setting) with
  | "plain" | "text" | "pretty" => .ok plain
  | "json" => .ok json
  | other => .error (.config ("Unknown log format: " ++ other))

end LogFormat
end BearerClient
