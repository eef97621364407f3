/-!
Truth values as people write them in settings.
-/
namespace Messaging.Config

/-- `is_truthy`: `true`, `1`, `yes` and `on`, in any case; everything else means no. -/
def isTruthy (value : String) : Bool :=
  ["true", "1", "yes", "on"].contains (String.ofList (value.toList.map Char.toLower))

end Messaging.Config
