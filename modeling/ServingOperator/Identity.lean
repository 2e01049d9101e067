-- Names of objects within a namespace.

namespace ServingOperator

/-- The namespace and the name of an object. An intent shares them with the
children made for it. -/
structure Identity where
  ns : String
  name : String
  deriving DecidableEq, Repr, Inhabited

def Identity.display (i : Identity) : String := i.ns ++ "/" ++ i.name

end ServingOperator
