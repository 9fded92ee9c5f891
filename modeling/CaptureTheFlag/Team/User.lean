import CaptureTheFlag.Json.Value

/-!
# Users

The players, as the directory of users knows them.
-/

namespace CaptureTheFlag

/-- A player and the team that the player belongs to. -/
structure User where
  uid : String
  tid : String
  username : String
  deriving DecidableEq, Repr

/-- The user as a JSON value. -/
def User.toJson (u : User) : Json :=
  .ofFields [("uid", .string u.uid), ("tid", .string u.tid), ("username", .string u.username)]

end CaptureTheFlag
