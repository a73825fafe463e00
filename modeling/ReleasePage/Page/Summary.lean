import ReleasePage.Release.Display

/-!
# The summary

A release in a few lines of plain text, and a line that says that there is none.
-/

namespace ReleasePage.Page

/-- The line of a download of the sources. -/
def sourceLine (artifact : SourceArtifact) : String :=
  "  source: " ++ artifact.name ++ " " ++ artifact.url ++ "\n"

/-- The line of a download. -/
def assetLine (os : String) (asset : Asset) : String :=
  "  " ++ os ++ " [" ++ asset.cpu ++ "]: " ++ asset.name ++ " (" ++ asset.size ++ ") " ++
    asset.url ++ "\n"

/-- The summary of a release, if there is one. -/
def summary : Option Release → String
  | none => "No release information available.\n"
  | some release =>
    release.name ++ " (" ++ release.date ++ ")\n" ++
    "  notes: " ++ release.htmlUrl ++ "\n" ++
    String.join (release.sources.map sourceLine) ++
    String.join (release.assets.entries.map fun (os, asset) => assetLine os asset)

end ReleasePage.Page
