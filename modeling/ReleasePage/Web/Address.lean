import ReleasePage.Text.Pieces

/-!
# Addresses

The addresses of the hosting service, below a base that may end in slashes.
-/

namespace ReleasePage.Web

/-- The base of the hosting service unless another one is configured. -/
def standardBase : String := "https://api.github.com"

/-- The address of a repository, the slashes at the end of the base left out. -/
def repositoryUrl (base owner repo : String) : String :=
  String.ofList (Text.withoutEnd (· == '/') base.toList) ++ "/repos/" ++ owner ++ "/" ++ repo

/-- The address of the newest published release. -/
def latestReleaseUrl (base owner repo : String) : String :=
  repositoryUrl base owner repo ++ "/releases/latest"

/-- The address of the closed issues with a label, oldest first. -/
def closedIssuesUrl (base owner repo label : String) : String :=
  repositoryUrl base owner repo ++ "/issues?state=closed&direction=asc&labels=" ++ label

end ReleasePage.Web
