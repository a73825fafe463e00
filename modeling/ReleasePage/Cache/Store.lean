import ReleasePage.Cache.Record
import ReleasePage.Files.Placement

/-!
# Stores

A store keeps a single cache record, in memory or in a file of limited size. A
store is given by how it is read and written; what it holds is a separate state,
so that several users can share it.
-/

namespace ReleasePage.Cache

open ReleasePage.Files (FileError Path PlaceOptions Volume)

/-- Why a record could not be read or written. -/
inductive StoreError where
  /-- The file could not be read or placed. -/
  | files (error : FileError)
  /-- The stored bytes are no record. -/
  | decode (fault : Json.Fault)
  /-- The record to be written is too long. -/
  | tooLarge (size limit : Nat)
  /-- The stored record is too long. -/
  | oversized (limit : Nat)
  deriving Repr, DecidableEq

/-- The message of an error. -/
def StoreError.message : StoreError → String
  | .files error => error.message
  | .decode fault => "failed to decode cache record: " ++ fault.message
  | .tooLarge size limit =>
    "cache record is " ++ Nat.repr size ++ " bytes, limit is " ++ Nat.repr limit
  | .oversized limit => "stored cache record exceeds " ++ Nat.repr limit ++ " bytes"

/-- A place for one record whose state is a `σ`. -/
structure Store (σ : Type) where
  /-- The record, if one was ever written. -/
  read : σ → Except StoreError (Option CacheRecord)
  /-- Replaces the record. -/
  write : σ → CacheRecord → Except StoreError Unit × σ

/-- The store in memory. -/
def Store.memory : Store (Option CacheRecord) where
  read state := .ok state
  write _ record := (.ok (), some record)

/-- The greatest length of a stored record unless another one is configured. -/
def standardLimit : Nat := 64 * 1024

/-- The record in a file, at most `limit` bytes long. -/
def readFile (path : Path) (limit : Nat) (volume : Volume) :
    Except StoreError (Option CacheRecord) :=
  match volume.readCapped path limit with
  | .error error => .error (.files error)
  | .ok none => .ok none
  | .ok (some content) =>
    if limit < content.length then .error (.oversized limit)
    else
      match CacheRecord.parse content with
      | .error fault => .error (.decode fault)
      | .ok record => .ok (some record)

/-- Puts the record into a file if it is at most `limit` bytes long. -/
def writeFile (path : Path) (limit : Nat) (volume : Volume) (record : CacheRecord) :
    Except StoreError Unit × Volume :=
  let content := record.encode
  if limit < content.length then (.error (.tooLarge content.length limit), volume)
  else
    match volume.place path content .withParents with
    | (.error error, volume) => (.error (.files error), volume)
    | (.ok (), volume) => (.ok (), volume)

/-- The store in a file of a volume. -/
def Store.file (path : Path) (limit : Nat) : Store Volume where
  read := readFile path limit
  write := writeFile path limit

end ReleasePage.Cache
