import ReleasePage.Page.Fragment

/-!
# Published forms

A release is published as a JSON text or as a fragment of the download page.
-/

namespace ReleasePage.Page

/-- The form a release is published in. -/
inductive Format where
  /-- A JSON text over several lines. -/
  | json
  /-- A fragment of the download page. -/
  | html
  deriving Repr, DecidableEq

/-- The published text of a release. -/
def render (format : Format) (release : Release) : String :=
  match format with
  | .json => release.tree.prettyText ++ "\n"
  | .html => fragment release

end ReleasePage.Page
