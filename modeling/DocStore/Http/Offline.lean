import DocStore.Client.Call

/-!
# The transport without a network

`Http.offline` checks requests as a transport does and then fails, since it opens no connection.
-/

namespace DocStore.Http

/-- The error of a request that passed all checks. -/
def notConnected : TransportError := .other "HTTP error: no connection can be opened"

/-- Refuse requests that cannot be sent, and fail for all others. -/
def offline : Server Unit := fun request _ => (.error (request.refusal?.getD notConnected), ())

end DocStore.Http
