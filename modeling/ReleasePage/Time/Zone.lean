import ReleasePage.Time.Timestamp

/-!
# Time zones

The local time of a zone differs from universal time by an offset that changes
now and then. After the last known change its offset holds for ever. Which zones
there are is up to a database.
-/

namespace ReleasePage.Time

/-- A change of the offset of a zone. -/
structure OffsetChange where
  /-- The moment of the change in seconds of universal time since 1970. -/
  instant : Int
  /-- The seconds by which local time is ahead from then on. -/
  offset : Int
  deriving Repr, DecidableEq

/-- The offsets of a zone over time. -/
structure Zone where
  /-- The offset before the first change. -/
  base : Int
  /-- The changes, earlier ones first. -/
  changes : List OffsetChange
  deriving Repr, DecidableEq

/-- A database of zones. -/
class ZoneDatabase where
  /-- The zone of a name, nothing if the name is unknown. -/
  zone? : String → Option Zone

/-- The offset of a zone at a moment: that of the last change that is not
later. -/
def Zone.offsetAt (zone : Zone) (instant : Int) : Int :=
  zone.changes.foldl (fun offset change => if change.instant ≤ instant then change.offset else offset)
    zone.base

/-- The local date of a zone at a moment. -/
def Zone.dateAt (zone : Zone) (instant : Int) : CivilDate :=
  CivilDate.ofDays ((instant + zone.offsetAt instant) / 86400 + epochDays)

/-- The local date of a zone at the moment a timestamp denotes. -/
def Zone.showDate (zone : Zone) (timestamp : String) : Except DateFault String :=
  (Timestamp.read (Text.bytes timestamp)).map fun stamp => (zone.dateAt stamp.instant).text

end ReleasePage.Time
