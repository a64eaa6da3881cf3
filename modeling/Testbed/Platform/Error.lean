import Testbed.Platform.Feature

/-!
# Platform errors

How a platform fails to prepare, deploy or delete an environment.
-/
namespace Testbed

inductive PlatformError where
  | deployment (reason : String)
  | capacity (reason : String)
  | delete (reason : String)
  | feature (cause : FeatureError)
  | session (cause : SessionError)
  deriving DecidableEq

/-- The wording of a platform error. -/
def PlatformError.message : PlatformError → String
  | deployment reason => s!"deployment failed: {reason}"
  | capacity reason => s!"not enough capacity to deploy: {reason}"
  | delete reason => s!"delete failed: {reason}"
  | feature cause => cause.message
  | session cause => cause.message

/-- The kind of a platform error, as reports name it. -/
def PlatformError.kind : PlatformError → String
  | deployment _ => "Deployment"
  | capacity _ => "Capacity"
  | delete _ => "Delete"
  | feature _ => "Feature"
  | session _ => "Session"

end Testbed
