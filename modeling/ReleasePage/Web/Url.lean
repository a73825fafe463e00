import ReleasePage.Web.Url.Authority

/-!
# Locations on the web

An address is brought into the form in which it is requested: scheme and host
in lower case, no standard port, no dot steps in the path, and every character
that may not stand in its place written as a percent sign and its bytes. Addresses
with other schemes than those of the web have such a form as well, but cannot be
requested.
-/

namespace ReleasePage.Web

/-- An address in its requested form. -/
structure Url where
  /-- The scheme. -/
  scheme : String
  /-- What follows two slashes, if they are there. -/
  authority : Option Authority
  /-- The path. -/
  path : String
  /-- The query with its question mark, or nothing. -/
  query : String
  /-- The fragment with its number sign, or nothing. -/
  fragment : String
  deriving Repr, DecidableEq

/-- What is asked of the host. -/
def Url.target (url : Url) : String := url.path ++ url.query

/-- What stands between the scheme and the path. A path of its own that starts with
two slashes would be taken for a host, so that a step which stays stands before
it. -/
def Url.placeText (url : Url) : String :=
  match url.authority with
  | some authority => "//" ++ authority.text
  | none => if url.path.startsWith "//" then "/." else ""

/-- The whole address. -/
def Url.text (url : Url) : String :=
  url.scheme ++ ":" ++ url.placeText ++ url.target ++ url.fragment

/-- The name of the host, or nothing. -/
def Url.host (url : Url) : String := url.authority.elim "" (·.host)

/-- The parts of an address after its host. -/
structure Tail where
  /-- The path as it is given. -/
  path : List Char
  /-- The query in its requested form. -/
  query : String
  /-- The fragment in its requested form. -/
  fragment : String

/-- Splits what follows a host. -/
def Tail.ofText (reserved : String) (text : List Char) : Tail :=
  let mark := fun (sign : String) (reserved : String) (part : List Char) =>
    if part.isEmpty then "" else sign ++ percentEncoded reserved (part.drop 1)
  let body := text.takeWhile (· != '#')
  ⟨body.takeWhile (· != '?'), mark "?" reserved (body.dropWhile (· != '?')),
    mark "#" fragmentReserved (text.dropWhile (· != '#'))⟩

/-! ## Schemes with a host -/

/-- The standard ports of the schemes whose addresses always have a host. -/
def standardPorts : List (String × Nat) :=
  [("http", 80), ("https", 443), ("ws", 80), ("wss", 443), ("ftp", 21)]

/-- The family of the schemes whose addresses always have a host. -/
def hostedFamily (port : Nat) : Family := ⟨isSlash, host?, some port⟩

/-- Reads an address with a host after its scheme. Any number of slashes may stand
before the host. -/
def hosted? (scheme : String) (port : Nat) (rest : List Char) : Option Url := do
  let (authority, rest) ← authority? (hostedFamily port) (rest.dropWhile isSlash)
  let tail := Tail.ofText queryReserved rest
  return ⟨scheme, some authority, normalPath isSlash tail.path, tail.query, tail.fragment⟩

/-! ## Schemes of their own -/

/-- The host of an address with a scheme of its own, which may be nothing. -/
def foreignHost? (text : List Char) : Option String :=
  match text with
  | '[' :: rest => bracketedHost? rest
  | _ =>
    if text.all fun c => !(" #/:<>?@[\\]^|".toList.contains c) && c.toNat != 0 then
      some (percentEncoded "" text)
    else none

/-- The family of all schemes that have no rules of their own. -/
def foreignFamily : Family := ⟨(· == '/'), foreignHost?, none⟩

/-- Reads an address with a scheme of its own after that scheme. Without slashes
the path is a text that has no steps. -/
def foreign? (scheme : String) : List Char → Option Url
  | '/' :: '/' :: rest => do
    let (authority, rest) ← authority? foreignFamily rest
    let tail := Tail.ofText foreignQueryReserved rest
    let path := if tail.path.isEmpty then "" else normalPath (· == '/') tail.path
    return ⟨scheme, some authority, path, tail.query, tail.fragment⟩
  | rest =>
    let tail := Tail.ofText foreignQueryReserved rest
    let path :=
      if tail.path.head? = some '/' then normalPath (· == '/') tail.path
      else percentEncoded "" tail.path
    some ⟨scheme, none, path, tail.query, tail.fragment⟩

/-! ## Files -/

/-- The scheme of files. -/
def fileScheme : String := "file"

/-- The host of an address of a file, in its requested form. This computer has no
name. -/
def fileHost? (text : List Char) : Option String :=
  if text.isEmpty then some ""
  else (host? text).map fun host => if host = "localhost" then "" else host

/-- The name of the host in an address of a file, as it is given after two slashes. A
drive is no host. -/
def fileHostName (rest : List Char) : List Char :=
  let name := rest.takeWhile fun c => !(isSlash c || c == '?' || c == '#')
  if isDrive (String.ofList name) then [] else name

/-- Reads an address of a file after the scheme. A host stands after two slashes
only; where it is nothing, the slash behind it counts as the end of an empty step.
A drive has no host. -/
def file? (input : List Char) : Option Url := do
  let rest := withoutBreaks input
  let isPlaced := 2 ≤ (rest.takeWhile isSlash).length
  let name := if isPlaced then fileHostName (rest.drop 2) else []
  let host ← fileHost? name
  let start := if isPlaced then 2 + name.length else 0
  let hasRoot := (rest.drop start).head?.any isSlash && !(isPlaced && host = "")
  let start := if hasRoot then start + 1 else start
  let tail := Tail.ofText queryReserved (rest.drop start)
  let steps := FileSteps.ofText <| (dropVisible start input).takeWhile fun c => c != '?' && c != '#'
  let host := if steps.onDrive then "" else host
  return ⟨fileScheme, some ⟨"", host, ""⟩, steps.text, tail.query, tail.fragment⟩

/-! ## All addresses -/

/-- A character of a scheme. -/
def isSchemeChar (c : Char) : Bool := c.isAlphanum || c == '+' || c == '-' || c == '.'

/-- The characters of an address without blanks around it. -/
def withoutFiller (text : String) : List Char :=
  let isFiller := fun (c : Char) => c.toNat ≤ 0x20
  Text.withoutEnd isFiller (text.toList.dropWhile isFiller)

/-- Brings an address into its requested form, if it is one. -/
def Url.parse? (text : String) : Option Url :=
  let given := withoutFiller text
  let input := withoutBreaks given
  let scheme := String.ofList (Text.asciiLower (input.takeWhile isSchemeChar))
  match input.dropWhile isSchemeChar with
  | ':' :: rest =>
    if !(scheme.toList.head?.any Char.isAlpha) then none
    else if scheme = fileScheme then file? ((given.dropWhile (· != ':')).drop 1)
    else
      match standardPorts.lookup scheme with
      | some port => hosted? scheme port rest
      | none => foreign? scheme rest
  | _ => none

/-- The schemes of the web. -/
def webSchemes : List String := ["http", "https"]

/-- How long an address in a request may be. -/
def maxUrlLength : Nat := 65534

/-- An address that can stand in a request. -/
def Url.isRequestable (url : Url) : Bool :=
  webSchemes.contains url.scheme && url.text.length ≤ maxUrlLength &&
    url.host.toList.all fun c => !("\"`\x7b\x7d".toList.contains c)

end ReleasePage.Web
