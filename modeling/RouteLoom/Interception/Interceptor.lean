import RouteLoom.Beans.Registry

/-!
# Interceptors

What can be woven around a route. An interceptor is prepared with a registry, which may fail, and
from then on it has a body, the outputs of the proxy that it puts into a route. The body should
hold a proceed marker, where the wrapped nodes go.
-/

namespace RouteLoom

class Interceptor (ι : Type) where
  name : ι → String
  prepare : Registry → ι → Except Fault ι
  body : ι → Forest

def Interceptor.proxy {ι : Type} [Interceptor ι] (i : ι) : Node :=
  Node.proxy (Interceptor.name i) (Interceptor.body i)

end RouteLoom
