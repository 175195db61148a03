import AccessTrail.Transport.Basic

namespace AccessTrail

structure Buffered where
  status : Option Http.Status := none
  headers : Http.Headers := {}
  body : Bytes := []
  deriving DecidableEq

namespace Buffered

def commit (status : Http.Status) (b : Buffered) : Buffered :=
  { b with status := some (b.status.getD status) }

def append (bs : Bytes) (b : Buffered) : Buffered :=
  { b.commit .ok with body := b.body ++ bs }

def response (b : Buffered) : Http.Response where
  status := b.status.getD .ok
  headers := b.headers
  body := b.body

instance : Transport Buffered where
  headers := Buffered.headers
  editHeaders edit b := { b with headers := edit b.headers }
  sendHead status b := (b.commit status, [])
  write bs b := (.done (.ok bs.length), b.append bs)
  flush b := (.done (.ok ()), b)
  close b := (.done (.ok ()), b)
  onWire _ := none
  handOver _ := none
  release _ b := b

end Buffered

end AccessTrail
