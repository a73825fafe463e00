import ReleasePage.Files.Placement
import ReleasePage.Number.Duration
import ReleasePage.Release.Normalizer

/-!
# Failures of fetching

What can go wrong between a request and the use of its answer.
-/

namespace ReleasePage.Web

/-- Why something could not be fetched. -/
inductive FetchError where
  /-- The client got no response. -/
  | transport (text : String)
  /-- The client took too long. -/
  | timeout (limit : Number.Duration)
  /-- The response has an unexpected status. -/
  | status (code : Nat) (url : String)
  /-- The response describes no release that can be shown. -/
  | release (error : ReleaseError)
  /-- The response could not be stored. -/
  | files (error : Files.FileError)
  /-- The response could not be read. -/
  | decode (url : String) (fault : Json.Fault)
  /-- The list of pages does not end. -/
  | tooManyPages (limit : Nat)
  deriving Repr, DecidableEq

/-- The message of an error. -/
def FetchError.message : FetchError → String
  | .transport text => "network error: " ++ text
  | .timeout limit => "request timed out after " ++ limit.text
  | .status code url => "unexpected HTTP status " ++ Nat.repr code ++ " from " ++ url
  | .release error => error.message
  | .files error => error.message
  | .decode url fault => "malformed response from " ++ url ++ ": " ++ fault.message
  | .tooManyPages limit => "pagination did not end after " ++ Nat.repr limit ++ " pages"

end ReleasePage.Web
