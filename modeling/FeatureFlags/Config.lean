import FeatureFlags.Service

/-!
How a client reaches the service.
-/
namespace FeatureFlags

structure Config where
  sdkKey : String
  baseUri : String := "https://sdk.flagsync.dev"
  streamUri : String := "https://stream.flagsync.dev"
  /-- Whether data come over an event stream rather than by polling. -/
  streaming : Bool := true
  deriving DecidableEq, Inhabited

namespace Config

/-- Both addresses have to be URLs, whichever is used. -/
def validate (config : Config) : Except Failure Unit := do
  let _ ← Service.parseUrl config.baseUri
  let _ ← Service.parseUrl config.streamUri

end Config

end FeatureFlags
