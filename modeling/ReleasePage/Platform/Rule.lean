import ReleasePage.Json.Record
import ReleasePage.Json.Tree
import ReleasePage.Platform.Architecture

/-!
# Platform rules

A rule gives the platform of all files whose name ends in a certain suffix. The
rules of a table are tried in order and the first that fits decides, so the more
specific suffixes come first.
-/

namespace ReleasePage

open ReleasePage.Json (Record Field Fields Tree)

/-- The operating system and the processor of a file, as labels. -/
structure Platform where
  /-- The operating-system label. -/
  os : String
  /-- The processor label. -/
  cpu : String
  deriving Repr, DecidableEq

/-- A rule for file names. -/
structure Rule where
  /-- What the file names end in. -/
  suffix : String
  /-- The operating-system label of these files. -/
  os : String
  /-- The processor label of these files. -/
  cpu : String
  deriving Repr, DecidableEq

/-- Rules in the order they are tried. -/
structure RuleTable where
  /-- The version of the table. -/
  version : Nat
  /-- The rules. -/
  rules : List Rule
  deriving Repr, DecidableEq

/-- What can be wrong with a file name, a token or a rule table. -/
inductive PlatformError where
  /-- No rule fits the file name. -/
  | unrecognized (filename : String)
  /-- The token spells no architecture. -/
  | unknownArchitecture (token : String)
  /-- The rule at this position has an empty suffix. -/
  | emptySuffix (position : Nat)
  deriving Repr, DecidableEq

/-- The message of an error. -/
def PlatformError.message : PlatformError → String
  | .unrecognized filename => "no platform for " ++ filename
  | .unknownArchitecture token => "unknown architecture: " ++ token
  | .emptySuffix position => "empty platform rule suffix at position " ++ Nat.repr position

/-- The architecture that a token spells. -/
def Architecture.parse (token : String) : Except PlatformError Architecture :=
  match ofToken? token.toList with
  | some architecture => .ok architecture
  | none => .error (.unknownArchitecture token)

/-- The file name ends in the suffix of the rule. -/
def Rule.fits (rule : Rule) (filename : String) : Bool :=
  rule.suffix.toList.isSuffixOf filename.toList

/-- The platform that a rule gives. -/
def Rule.platform (rule : Rule) : Platform := ⟨rule.os, rule.cpu⟩

namespace RuleTable

/-- A table of given rules. A rule with an empty suffix would fit every file
name and is refused. -/
def ofRules (version : Nat) (rules : List Rule) : Except PlatformError RuleTable :=
  match rules.findIdx? (·.suffix.isEmpty) with
  | some position => .error (.emptySuffix position)
  | none => .ok ⟨version, rules⟩

/-- The first rule that fits a file name. -/
def find? (table : RuleTable) (filename : String) : Option Rule :=
  table.rules.find? (·.fits filename)

/-- The table of the download page. -/
def standard : RuleTable where
  version := 1
  rules := [
    ⟨"el6.centos.x86_64.rpm", "RHEL/CentOS 6", "x86_64"⟩,
    ⟨"el6.x86_64.rpm", "RHEL/CentOS 6", "x86_64"⟩,
    ⟨"el7.centos.x86_64.rpm", "RHEL/CentOS 7", "x86_64"⟩,
    ⟨"el7.x86_64.rpm", "RHEL/CentOS 7", "x86_64"⟩,
    ⟨".x86_64.rpm", "RHEL/CentOS/Fedora", "x86_64"⟩,
    ⟨".apk", "Alpine Linux", "x86_64"⟩,
    ⟨".deb", "Debian/Ubuntu", "x86_64"⟩]

end RuleTable

/-- The fields of a platform. -/
def Platform.record : Record Platform where
  title := "Platform"
  types := [String, String]
  fields := .cons (.required "os" Json.text) <| .cons (.required "cpu" Json.text) .nil
  build := fun (os, cpu, _) => ⟨os, cpu⟩

/-- A platform as a tree. -/
def Platform.tree (platform : Platform) : Tree :=
  .object [("os", .text platform.os), ("cpu", .text platform.cpu)]

/-- The fields of a rule. -/
def Rule.record : Record Rule where
  title := "Rule"
  types := [String, String, String]
  fields := .cons (.required "suffix" Json.text) <| .cons (.required "os" Json.text) <|
    .cons (.required "cpu" Json.text) .nil
  build := fun (suffix, os, cpu, _) => ⟨suffix, os, cpu⟩

/-- A rule as a tree. -/
def Rule.tree (rule : Rule) : Tree :=
  .object [("suffix", .text rule.suffix), ("os", .text rule.os), ("cpu", .text rule.cpu)]

/-- The fields of a rule table. -/
def RuleTable.record : Record RuleTable where
  title := "RuleSet"
  types := [Nat, List Rule]
  fields := .cons (.required "version" Json.word32) <|
    .cons (.required "rules" (Json.list Rule.record.decoder)) .nil
  build := fun (version, rules, _) => ⟨version, rules⟩

/-- A rule table as a tree. -/
def RuleTable.tree (table : RuleTable) : Tree :=
  .object [("version", .number table.version), ("rules", .list (table.rules.map Rule.tree))]

end ReleasePage
