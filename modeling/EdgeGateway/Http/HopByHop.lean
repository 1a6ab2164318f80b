import EdgeGateway.Http.Headers

/-!
# Fields of one connection

Some header fields speak about the connection that they come over and not about
the message.  They go no further than the next hop.
-/

namespace EdgeGateway.Http

def hopByHopNames : List String :=
  ["connection", "keep-alive", "proxy-authenticate", "proxy-authorization",
   "te", "trailer", "transfer-encoding", "upgrade"]

def isHopByHop (name : String) : Bool :=
  hopByHopNames.any fun known => Text.equalIgnoringCase known name

/-- The fields that may go further. -/
def Headers.withoutHopByHop (headers : Headers) : Headers :=
  ⟨headers.fields.filter fun (name, _) => !isHopByHop name⟩

end EdgeGateway.Http
