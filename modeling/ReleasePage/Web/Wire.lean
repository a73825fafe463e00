import ReleasePage.Text.Blank
import ReleasePage.Web.Exchange
import ReleasePage.Web.Url

/-!
# The wire

A client that talks to servers. A request has to be put into words first, which
fails for malformed addresses and for header values with control characters. The
answer is read to its end; header values that cannot be read as plain text are
left out.
-/

namespace ReleasePage.Web

open ReleasePage.Text (Bytes)

/-- What comes back over a connection. -/
inductive Delivery where
  /-- Nothing: there is no connection, or it is closed without an answer. -/
  | nothing
  /-- An answer that ends too early. -/
  | truncated
  /-- A whole answer. -/
  | whole (status : Nat) (headers : List (String × String)) (body : Bytes)

/-- A header value that can be sent. -/
def isSendable (value : String) : Bool :=
  value.toList.all fun c => c == '\t' || (0x20 ≤ c.toNat && c.toNat != 0x7F)

/-- The address of a request that can be sent, or the client's error. The host is
looked for first, then the header values are checked, and then whether the address
is one of the web. -/
def Request.prepare (request : Request) : Except String Url :=
  match Url.parse? request.url with
  | none => .error "builder error"
  | some url =>
    let refusal := "builder error for url (" ++ url.text ++ ")"
    if url.host = "" then .error refusal
    else if !(request.headers.all fun header => isSendable header.2) then
      .error "builder error"
    else if url.isRequestable then .ok url
    else .error refusal

/-- A header value that can be read as plain text. -/
def isReadable (value : String) : Bool :=
  value.toList.all fun c => c == '\t' || (0x20 ≤ c.toNat && c.toNat < 0x7F)

/-- The headers of an answer as the client reads them. -/
def readHeaders (headers : List (String × String)) : List (String × String) :=
  (headers.filter fun header => isReadable header.2).map fun (name, value) =>
    (lowered name, String.ofList (Text.trimmed value.toList))

/-- What a client makes of a delivery for an address. -/
def Delivery.read (url : Url) : Delivery → Except String Response
  | .nothing => .error ("error sending request for url (" ++ url.text ++ ")")
  | .truncated => .error "error decoding response body"
  | .whole status headers body => .ok ⟨status, readHeaders headers, body⟩

/-- The client of a network, which is told how many requests it has received
before. -/
def wireClient (network : (received : Nat) → Url → Delivery) : Client := fun earlier request =>
  ⟨.ofSeconds 0,
    match request.prepare with
    | .error text => .error text
    | .ok url => (network (earlier.filter (·.prepare.isOk)).length url).read url⟩

/-- The headers of a request as they are sent, with the name that the program
gives of itself. -/
def Request.sentHeaders (request : Request) (agent : String) : List (String × String) :=
  (request.headers ++ [("User-Agent", agent)]).map fun (name, value) => (lowered name, value)

end ReleasePage.Web
