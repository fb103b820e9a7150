import RouteLoom.Interception.Intercept
import RouteLoom.Interception.Strategy

/-!
# Declared and built-in interceptors together
-/

namespace RouteLoom

inductive Interception
  | builtIn (strategy : Strategy)
  | declared (intercept : Intercept)
deriving DecidableEq, Repr

instance : Interceptor Interception where
  name
    | .builtIn s => Interceptor.name s
    | .declared i => Interceptor.name i
  prepare registry
    | .builtIn s => .builtIn <$> Interceptor.prepare registry s
    | .declared i => .declared <$> Interceptor.prepare registry i
  body
    | .builtIn s => Interceptor.body s
    | .declared i => Interceptor.body i

end RouteLoom
