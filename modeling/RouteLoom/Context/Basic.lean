import RouteLoom.Interception.Intercept
import RouteLoom.Route.Basic
import RouteLoom.Weaving.Report

/-!
# Contexts

A context declares beans, exception clauses and intercepts, and the routes they apply to.
-/

namespace RouteLoom

structure Clause where
  exceptions : List String
  handled : Bool
  outputs : Forest
deriving DecidableEq, Repr

def Clause.node (c : Clause) : Node := ⟨.onException c.exceptions c.handled, none, c.outputs⟩

structure Context where
  id : String
  beans : Bindings
  clauses : List Clause
  intercepts : List Intercept
  routes : List Route
  options : Options
  trace : Option Bool
  /-- The delay in milliseconds. -/
  delay : Option Nat
  /-- The bean for errors that no clause catches. -/
  errorHandler : Option String
deriving DecidableEq, Repr

namespace Context

def standard : Context where
  id := "routeweave"
  beans := .empty
  clauses := []
  intercepts := []
  routes := []
  options := .standard
  trace := none
  delay := none
  errorHandler := none

def clauseNodes (c : Context) : Forest := c.clauses.map Clause.node

end Context

end RouteLoom
