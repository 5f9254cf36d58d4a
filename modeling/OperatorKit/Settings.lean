/-!
# Operator settings

Five variables decide how the operator runs. The two switches have one exact spelling each, and the
watched namespace falls back to the operator's own.
-/

namespace OperatorKit

/-- How the operator runs. -/
structure Settings where
  operatorNamespace : String
  watchNamespace : String
  installScope : String
  isIsolated : Bool
  isCheckerDisabled : Bool
deriving DecidableEq

namespace Settings

/-- The scope of an installation that names none. -/
def defaultInstallScope : String :=
  "cluster"

/-- The settings where no variable is set. -/
def default : Settings where
  operatorNamespace := ""
  watchNamespace := ""
  installScope := defaultInstallScope
  isIsolated := false
  isCheckerDisabled := false

/-- The variables that settings are read from. -/
def variableNames : List String :=
  ["OPERATOR_NAMESPACE", "WATCH_NAMESPACE", "INSTALL_SCOPE", "ISOLATED_MODE",
    "OPERATORCHECKER_MODE"]

/-- The settings that variables give. -/
def ofVariables (lookUp : String → Option String) : Settings :=
  let operatorNamespace := (lookUp "OPERATOR_NAMESPACE").getD ""
  { operatorNamespace
    watchNamespace := (lookUp "WATCH_NAMESPACE").getD operatorNamespace
    installScope := (lookUp "INSTALL_SCOPE").getD defaultInstallScope
    isIsolated := lookUp "ISOLATED_MODE" == some "true"
    isCheckerDisabled := lookUp "OPERATORCHECKER_MODE" == some "false" }

/-- The settings, one a line. -/
def text (settings : Settings) : String :=
  "\n".intercalate [
    "operator_namespace=" ++ settings.operatorNamespace,
    "watch_namespace=" ++ settings.watchNamespace,
    "install_scope=" ++ settings.installScope,
    "isolated_mode=" ++ toString settings.isIsolated,
    "operator_checker_disabled=" ++ toString settings.isCheckerDisabled]

end Settings

end OperatorKit
