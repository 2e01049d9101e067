-- Why a request brings no object: the server refuses it and says why, or no
-- answer comes back that an object can be made of.

namespace ServingOperator.Rest

/-- What an API server says about a request it refuses. -/
structure ApiStatus where
  status : String := ""
  message : String := ""
  reason : String := ""
  code : UInt16 := 0
  deriving DecidableEq, Repr, Inhabited

/-- Why a request brought no object. -/
inductive ClientFailure where
  | api (s : ApiStatus)
  | transport
  | undecodable
  | noRequest
  | noText
  deriving DecidableEq, Repr, Inhabited

end ServingOperator.Rest
