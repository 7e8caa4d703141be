import CannedReply.Net.Address

/-!
The line that a server prints when it is ready, so that others know where to connect.
-/

namespace CannedReply

def readinessLine (a : SocketAddress) : String :=
  "Serving on " ++ a.text

end CannedReply
