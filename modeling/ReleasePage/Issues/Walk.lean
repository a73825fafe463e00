import ReleasePage.Issues.Issue
import ReleasePage.Web.Exchange
import ReleasePage.Web.FetchError
import ReleasePage.Web.Link

/-!
# Walking over pages

A list of issues comes in pages, each naming the next one. The walk follows them
to the end and keeps the issues of one milestone. It gives up after a fixed
number of pages, in case a server never stops naming further ones.
-/

namespace ReleasePage.Issues

open ReleasePage.Web (Client FetchError Request Response)

/-- The greatest number of pages. -/
def maxPages : Nat := 100

/-- A walk over pages. -/
structure Walk where
  /-- The issues found, or why the walk failed. -/
  result : Except FetchError (List Issue)
  /-- All requests of the client so far, including those before the walk. -/
  requests : List Request
  /-- Address and number of issues of each page that could be read. -/
  pages : List (String × Nat)

/-- The issues on a page and the address of the next one, if there is any. -/
def readPage (url : String) (result : Except String Response) :
    Except FetchError (List Issue × Option String) :=
  match result with
  | .error text => .error (.transport text)
  | .ok response =>
    if response.status = 200 then
      match Issue.parsePage response.body with
      | .error fault => .error (.decode url fault)
      | .ok issues => .ok (issues, (response.header? "link").bind Web.nextLink?)
    else .error (.status response.status url)

/-- Goes on with a walk at a page, reading at most `left` more pages. -/
def walkFrom (client : Client) (milestone : String) :
    (left : Nat) → (url : String) → (found : List Issue) → (requests : List Request) →
    (pages : List (String × Nat)) → Walk
  | 0, _, _, requests, pages => ⟨.error (.tooManyPages maxPages), requests, pages⟩
  | left + 1, url, found, requests, pages =>
    let request := Request.plain url
    let answer := client requests request
    match readPage url answer.result with
    | .error error => ⟨.error error, requests ++ [request], pages⟩
    | .ok (issues, next?) =>
      let found := found ++ issues.filter (·.inMilestone milestone)
      let pages := pages ++ [(url, issues.length)]
      match next? with
      | none => ⟨.ok found, requests ++ [request], pages⟩
      | some next => walkFrom client milestone left next found (requests ++ [request]) pages

/-- The issues of a milestone on all pages from an address on. -/
def walk (client : Client) (earlier : List Request) (url milestone : String) : Walk :=
  walkFrom client milestone maxPages url [] earlier []

end ReleasePage.Issues
