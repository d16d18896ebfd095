/-!
# Container names

A container is known by its id or name. Messages show the first twelve characters.
-/

namespace Readiness

/-- The short form of a container's id. -/
def shortId (id : String) : String := String.ofList (id.toList.take 12)

end Readiness
