import CampusLedger.Http.Target
/-!
# Routes

A route pattern is a path of segments, each a fixed text or a `{name}` parameter. A parameter
takes a whole segment of the routing path, never a `/`. It may take an empty segment between
two slashes, but a parameter that ends the pattern needs at least one octet.

A request is resolved against a table of routes in three ways. A method outside the standard
nine is not allowed anywhere. Otherwise the route with the request's method whose pattern
matches the path is found; when none has that method but some route's pattern matches, the
method is not allowed; else nothing is found.
-/

namespace CampusLedger.Http

inductive Segment where
  | fixed (text : List UInt8)
  | param (name : String)
  deriving Repr, DecidableEq

/-- The segments of a pattern such as `/assets/{asset}/holders/{account}`. -/
def segmentsOf (pattern : String) : List Segment :=
  (splitOctets 47 pattern.toUTF8.toList).map fun seg =>
    match seg with
    | 123 :: rest =>
      if rest.getLast? == some 125 then .param (Text.Utf8.toText rest.dropLast)
      else .fixed seg
    | _ => .fixed seg

/-- Matches path segments against pattern segments, giving the parameters in order. -/
def matchSegments : List Segment → List (List UInt8) → Option (List (String × List UInt8))
  | [], [] => some []
  | [.param name], [value] => if value.isEmpty then none else some [(name, value)]
  | .fixed t :: ps, s :: ss => if t == s then matchSegments ps ss else none
  | .param name :: ps, s :: ss => (matchSegments ps ss).map ((name, s) :: ·)
  | _, _ => none

def matchPattern (pattern : String) (path : List UInt8) : Option (List (String × List UInt8)) :=
  matchSegments (segmentsOf pattern) (splitOctets 47 path)

/-- A route of a table: a method, a pattern and what it leads to. -/
structure Route (α : Type) where
  method : String
  pattern : String
  target : α

inductive Resolution (α : Type) where
  | found (route : Route α) (params : List (String × List UInt8))
  | methodNotAllowed
  | notFound

def knownMethods : List String :=
  ["CONNECT", "DELETE", "GET", "HEAD", "OPTIONS", "PATCH", "POST", "PUT", "TRACE"]

def resolve {α : Type} (routes : List (Route α)) (method : String) (path : List UInt8) :
    Resolution α :=
  if !knownMethods.contains method then .methodNotAllowed
  else
    let hit := routes.findSome? fun r =>
      if r.method == method then (matchPattern r.pattern path).map (r, ·) else none
    match hit with
    | some (r, ps) => .found r ps
    | none =>
      if routes.any (fun r => (matchPattern r.pattern path).isSome) then .methodNotAllowed
      else .notFound

def paramOf (params : List (String × List UInt8)) (name : String) : List UInt8 :=
  ((params.find? (·.1 == name)).map (·.2)).getD []

end CampusLedger.Http
