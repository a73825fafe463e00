import ReleasePage.Number.Duration
import ReleasePage.Text.Bytes
import ReleasePage.Text.Case

/-!
# Requests and answers

The program talks to the hosting service through a client. What a client
answers may depend on all earlier requests, and it may take its time; only the
absence of any response is a failure of the client.
-/

namespace ReleasePage.Web

open ReleasePage.Text (Bytes)
open ReleasePage.Number (Duration)

/-- A request for the content of an address. -/
structure Request where
  /-- The address. -/
  url : String
  /-- Names and values of the headers, in order. -/
  headers : List (String × String)
  deriving Repr, DecidableEq

/-- A response that was read to its end. -/
structure Response where
  /-- The status code. -/
  status : Nat
  /-- Names and values of the headers, in order; the names in lower case. -/
  headers : List (String × String)
  /-- The content. -/
  body : Bytes
  deriving Repr, DecidableEq

/-- What a client makes of a request. -/
structure Answer where
  /-- The time until the answer. -/
  delay : Duration
  /-- The response, or the text of the client's own error. -/
  result : Except String Response

/-- Answers a request, knowing the earlier ones. -/
abbrev Client := (earlier : List Request) → Request → Answer

/-- A text with its ASCII letters in lower case. -/
def lowered (text : String) : String := String.ofList (Text.asciiLower text.toList)

/-- A response without content and headers. -/
def Response.ofStatus (status : Nat) : Response := ⟨status, [], []⟩

/-- The response with one more header, its name in lower case. -/
def Response.withHeader (response : Response) (name value : String) : Response :=
  { response with headers := response.headers ++ [(lowered name, value)] }

/-- The first value of a header, its name compared without regard to ASCII
case. -/
def Response.header? (response : Response) (name : String) : Option String :=
  (response.headers.find? fun header => lowered header.1 == lowered name).map (·.2)

/-- The media type asked for. -/
def mediaType : String := "application/vnd.github.v3+json"

/-- The header that asks for the media type. -/
def acceptHeader : String × String := ("Accept", mediaType)

/-- A plain request. -/
def Request.plain (url : String) : Request := ⟨url, [acceptHeader]⟩

/-- A request that need not be answered in full if the content is still the one
that came with `token`. -/
def Request.conditional (url : String) (token : Option String) : Request :=
  ⟨url, acceptHeader :: (token.map fun value => ("If-None-Match", value)).toList⟩

end ReleasePage.Web
