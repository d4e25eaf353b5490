/-!
# The environment

The variables that a program is started with, each with its value.
-/

namespace LicenseExpr

abbrev Environment := List (String × String)

def Environment.valueOr (environment : Environment) (name other : String) : String :=
  (environment.lookup name).getD other

end LicenseExpr
