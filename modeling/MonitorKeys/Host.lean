import MonitorKeys.Arguments.Reading
import MonitorKeys.Log.Setting
import MonitorKeys.Program
import MonitorKeys.Shell

/-!
# The usual host

Log settings are lists of directives with a pattern, command lines are read with the usual
conventions, and the children are those of a shell with the common tools.
-/

namespace MonitorKeys

/-- The host that the program has when it is run from a shell. -/
def Host.usual : Host Shell.World where
  logging := Log.Setting.read
  reader := Arguments.usualReader
  launcher := Shell.launcher

end MonitorKeys
