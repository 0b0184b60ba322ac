/-!
# The settings of engines

What engines and toolchains read of the settings.
-/

namespace Stepwise

/-- The settings that engines read. -/
structure EngineSettings where
  renderEngine : String := "jinja"
  scriptEngine : String := "python"
  componentName : String := "component"
  autoescape : Bool := true
  strictUndefined : Bool := false
  runInThread : Bool := true
  logLevel : String := "INFO"
  envFile : Option String := none
  deriving DecidableEq, Inhabited

end Stepwise
