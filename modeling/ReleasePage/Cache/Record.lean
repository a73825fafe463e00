import ReleasePage.Release.Display

/-!
# Cache records

What is kept between two runs: the release shown last and the token that the
hosting service gave with it, under a version number of the format.
-/

namespace ReleasePage

open ReleasePage.Json (Record Tree)

/-- A cached release. -/
structure CacheRecord where
  /-- The version of the format. -/
  version : Nat
  /-- The release, if there is one. -/
  release : Option Release
  /-- The token that came with the release, if any. -/
  token : Option String
  deriving Repr, DecidableEq

namespace CacheRecord

/-- The version that is written. -/
def currentVersion : Nat := 1

/-- The record without a release. -/
def empty (version : Nat) : CacheRecord := ⟨version, none, none⟩

/-- The fields of a cache record, under short keys. -/
def record : Record CacheRecord where
  title := "CachedState"
  types := [Nat, Option Release, Option String]
  fields := .cons (.required "v" Json.word32) <|
    .cons (.optional "release" Release.record.decoder) <| .cons (.optional "etag" Json.text) .nil
  build := fun (version, release, token, _) => ⟨version, release, token⟩

/-- Reads a cache record. -/
def parse (input : Text.Bytes) : Except Json.Fault CacheRecord := Json.decode record.decoder input

/-- A cache record as a tree. -/
def tree (record : CacheRecord) : Tree :=
  .object [("v", .number record.version), ("release", .ofOption Release.tree record.release),
    ("etag", .ofText? record.token)]

/-- The bytes of a cache record in one line. -/
def encode (record : CacheRecord) : Text.Bytes := Text.bytes record.tree.compactText

end CacheRecord

end ReleasePage
