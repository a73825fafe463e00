import ReleasePage.Web.Host
import ReleasePage.Web.Url.Path

/-!
# Hosts, ports and users in addresses

After two slashes an address names the host, perhaps with a user in front of it and
a port behind it. A standard port is left out of the requested form, and so is a
user whose name can be read as text, since the host is told of such a user in
another way.
-/

namespace ReleasePage.Web

/-- What an address says about where it leads. -/
structure Authority where
  /-- The user with its at sign, or nothing. -/
  user : String
  /-- The host, or nothing. -/
  host : String
  /-- The port with its colon, or nothing. -/
  port : String
  deriving Repr, DecidableEq

/-- The whole of it. -/
def Authority.text (authority : Authority) : String :=
  authority.user ++ authority.host ++ authority.port

/-- What the schemes of one family have in common. -/
structure Family where
  /-- The characters between the steps of a path. -/
  isSlash : Char → Bool
  /-- Reads a host. -/
  host? : List Char → Option String
  /-- The port that need not be named. -/
  standardPort : Option Nat

/-- Splits the user that is named in front of a host from the host. The last at
sign stands between them. -/
def splitUser (authority : List Char) : List Char × List Char :=
  let host := (authority.reverse.takeWhile (· != '@')).reverse
  (authority.take (authority.length - host.length - 1), host)

/-- A text whose bytes are those of characters. -/
def isPercentText (text : List Char) : Bool := (Text.Utf8.decode? (percentDecoded text)).isSome

/-- The user of an address in its requested form. It is left out if it can be read
as text. -/
def userText (user : List Char) : String :=
  let name := user.takeWhile (· != ':')
  let password := (user.dropWhile (· != ':')).drop 1
  let isTold := isPercentText name &&
    (!name.isEmpty || password.isEmpty || isPercentText password)
  if isTold then ""
  else
    percentEncoded userReserved name ++
      (if password.isEmpty then "" else ":" ++ percentEncoded userReserved password) ++ "@"

/-- Splits a host from the first colon outside brackets and what follows it. -/
def splitPort : (bracketed : Bool) → List Char → List Char × List Char
  | _, [] => ([], [])
  | bracketed, c :: rest =>
    if c == ':' && !bracketed then ([], c :: rest)
    else
      let (host, port) := splitPort (c == '[' || (bracketed && c != ']')) rest
      (c :: host, port)

/-- The port that digits give, if they give one: a colon and the port, or nothing
for the standard one. -/
def portText? (standard : Option Nat) (digits : List Char) : Option String :=
  let n := digits.foldl (fun n c => 10 * n + (c.toNat - 48)) 0
  if digits.isEmpty ∨ some n = standard then some ""
  else if n < 65536 then some (":" ++ Nat.repr n)
  else none

/-- The port after a host, and what follows it, which is nothing unless a slash
stands behind the digits. -/
def port? (standard : Option Nat) (text : List Char) : Option (String × List Char) := do
  let digits := (text.drop 1).takeWhile Char.isDigit
  let rest := (text.drop 1).dropWhile Char.isDigit
  if rest.isEmpty ∨ rest.head?.any isSlash then
    return (← portText? standard digits, rest)
  else none

/-- What may stand around a host that is nothing: neither a user nor a port, and no
at sign unless the address ends with it. -/
def isBare (user place front rest : List Char) : Bool :=
  place.isEmpty && (user.isEmpty || user == [':']) && (front != ['@'] || rest.isEmpty)

/-- Reads what follows the two slashes, and gives what comes behind it. -/
def authority? (family : Family) (text : List Char) : Option (Authority × List Char) := do
  let isEnd := fun (c : Char) => family.isSlash c || c == '?' || c == '#'
  let front := text.takeWhile (!isEnd ·)
  let rest := text.dropWhile (!isEnd ·)
  let (user, place) := splitUser front
  let (host, port) := splitPort false place
  if host.isEmpty && !isBare user place front rest then none
  let host ← family.host? host
  let (port, rest') ← port? family.standardPort port
  return (⟨userText user, host, port⟩, rest' ++ rest)

end ReleasePage.Web
