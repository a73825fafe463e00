import ReleasePage.Release.Display

/-!
# The download page

The part of the download page that shows a release: its name and date, the
release notes, the sources and a table of the files. All texts are escaped, so
they cannot change the markup.
-/

namespace ReleasePage.Page

/-- How a character is written in markup. -/
def escapeChar (c : Char) : List Char :=
  if c = '&' then "&amp;".toList
  else if c = '<' then "&lt;".toList
  else if c = '>' then "&gt;".toList
  else if c = '"' then "&quot;".toList
  else if c = '\'' then "&#39;".toList
  else [c]

/-- A text for element content and quoted attributes. -/
def escape (text : String) : String := String.ofList (text.toList.flatMap escapeChar)

/-- A link to an address. -/
def link (url name : String) : String :=
  "<a href=\"" ++ escape url ++ "\">" ++ escape name ++ "</a>"

/-- The list item of a download of the sources. -/
def sourceItem (artifact : SourceArtifact) : String :=
  "  <li>" ++ link artifact.url artifact.name ++ "</li>\n"

/-- The table row of a download. -/
def assetRow (os : String) (asset : Asset) : String :=
  "    <tr><td>" ++ escape os ++ "</td><td>" ++ escape asset.cpu ++ "</td><td>" ++
    link asset.url asset.name ++ "</td><td>" ++ escape asset.size ++ "</td></tr>\n"

/-- The fragment of the page that shows a release. -/
def fragment (release : Release) : String :=
  "<p>The latest release is " ++ escape release.name ++ ", which was made on " ++
    escape release.date ++ ".</p>\n" ++
  "<p><a href=\"" ++ escape release.htmlUrl ++ "\">Release notes.</a></p>\n" ++
  "<h3>Source</h3>\n<ul>\n" ++
  String.join (release.sources.map sourceItem) ++
  "</ul>\n<h3>Linux Packages</h3>\n<table class=\"table\">\n" ++
  "  <thead><tr><th>OS</th><th>Platform</th><th>File</th><th>Size</th></tr></thead>\n" ++
  "  <tbody>\n" ++
  String.join (release.assets.entries.map fun (os, asset) => assetRow os asset) ++
  "  </tbody>\n</table>\n"

end ReleasePage.Page
