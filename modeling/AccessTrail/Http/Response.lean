import AccessTrail.Http.Headers

namespace AccessTrail.Http

structure Head where
  status : Status
  headers : Headers := {}
  deriving DecidableEq

structure Response extends Head where
  body : Bytes := []
  deriving DecidableEq

end AccessTrail.Http
