import Std.Data.TreeMap
import DeliveryFleet.Store.Rows

/-!
# The store

The store keeps the durable rows (`Store`): robots by code, containers by robot and container
code, trips and orders by code with ids drawn from a sequence of their own, and the deliveries of
pickup codes in the order they were made.

Saving a trip or an order replaces the row of its code and keeps that row's id, but every save
draws the next id of its sequence (`Store.saveTrip`): trips saved as T1, T1, T2 get ids 1, 1, 3.
Among code rows, the newest is the one created last, and of those created at the same instant
the one delivered last (`newest?`).

A closed store refuses every query (`StoreError`).
-/

namespace DeliveryFleet

/-- A query the store refused because it is closed; `action` says what was asked. -/
structure StoreError where
  action : String
  deriving Repr, BEq

/-- What a closed store answers. -/
def closedText : String := "sql: database is closed"

/-- The text of a refused query. -/
def StoreError.message (e : StoreError) : String := e.action ++ ": " ++ closedText

/-- The durable rows. -/
structure Store where
  robots : Std.TreeMap String RobotRow compare := {}
  containers : Std.TreeMap String (Std.TreeMap String ContainerRow compare) compare := {}
  trips : Std.TreeMap String TripRow compare := {}
  orders : Std.TreeMap String OrderRow compare := {}
  codes : List CodeRow := []
  lastTripId : Nat := 0
  lastOrderId : Nat := 0
  closed : Bool := false

/-- The newest of a list of code rows: created last, and of equal creation delivered last. -/
def newest? : List CodeRow → Option CodeRow :=
  List.foldl (fun best r =>
    match best with
    | some b => if b.createdAt ≤ r.createdAt then some r else some b
    | none => some r) none

namespace Store

/-- Fails with `action` when the store is closed. -/
def guard (s : Store) (action : String) : Except StoreError Unit :=
  if s.closed then .error ⟨action⟩ else .ok ()

/-- Whether the store answers at all. -/
def ping (s : Store) : Option String := if s.closed then some closedText else none

/-- Every robot row, by code. -/
def listRobots (s : Store) : Except StoreError (List RobotRow) := do
  s.guard "list robots"
  return s.robots.values

/-- The row of a robot. -/
def findRobot (s : Store) (code : String) : Except StoreError (Option RobotRow) := do
  s.guard "find robot"
  return s.robots.get? code

/-- Writes the row of a robot. -/
def saveRobot (s : Store) (r : RobotRow) : Except StoreError Store := do
  s.guard "save robot"
  return { s with robots := s.robots.insert r.code r }

/-- The row of a container of a robot. -/
def findContainer (s : Store) (robot code : String) : Except StoreError (Option ContainerRow) := do
  s.guard "find container"
  return ((s.containers.get? robot).getD {}).get? code

/-- Writes the row of a container. -/
def saveContainer (s : Store) (r : ContainerRow) : Except StoreError Store := do
  s.guard "save container"
  let inner := (s.containers.get? r.robotCode).getD {}
  return { s with containers := s.containers.insert r.robotCode (inner.insert r.containerCode r) }

/-- The trip of a code. -/
def findTrip (s : Store) (code : String) : Except StoreError (Option TripRow) := do
  s.guard "find trip"
  return s.trips.get? code

/-- Saves a trip by its code and answers its id: the id of the row it replaces, or the next id
of the sequence, which the save draws in either case. -/
def saveTrip (s : Store) (code robot container status : String) :
    Except StoreError (Nat × Store) := do
  s.guard "save trip"
  let fresh := s.lastTripId + 1
  let id := ((s.trips.get? code).map (·.id)).getD fresh
  return (id, { s with trips := s.trips.insert code ⟨id, code, robot, container, status⟩,
                       lastTripId := fresh })

/-- The order of a code. -/
def findOrder (s : Store) (code : String) : Except StoreError (Option OrderRow) := do
  s.guard "find order"
  return s.orders.get? code

/-- Saves an order by its code, drawing ids as `saveTrip` does. -/
def saveOrder (s : Store) (code : String) (tripId : Int) (email status : String) :
    Except StoreError (Nat × Store) := do
  s.guard "save order"
  let fresh := s.lastOrderId + 1
  let id := ((s.orders.get? code).map (·.id)).getD fresh
  return (id, { s with orders := s.orders.insert code ⟨id, code, tripId, email, status⟩,
                       lastOrderId := fresh })

/-- Records a delivery of a pickup code. -/
def insertCode (s : Store) (r : CodeRow) : Except StoreError Store := do
  s.guard "insert pickup otp"
  return { s with codes := s.codes ++ [r] }

/-- The code rows of an (order, trip) pair. -/
def codesOf (s : Store) (order trip : String) : List CodeRow :=
  s.codes.filter fun r => r.orderCode == order && r.tripCode == trip

/-- The newest unverified code row of a pair that expires after `now` (stored). -/
def latestActive (s : Store) (order trip : String) (now : Int) :
    Except StoreError (Option CodeRow) := do
  s.guard "find pickup otp"
  return newest? ((s.codesOf order trip).filter fun r => !r.verified && now < r.expiresAt)

/-- The newest unverified code row of a pair carrying `code`. -/
def latestUnverified (s : Store) (order trip code : String) :
    Except StoreError (Option CodeRow) := do
  s.guard "find pickup otp"
  return newest? ((s.codesOf order trip).filter fun r => !r.verified && r.code == code)

/-- How many code rows of a pair were created at or after `since` (stored). -/
def countCreatedSince (s : Store) (order trip : String) (since : Int) : Except StoreError Nat := do
  s.guard "count pickup otps"
  return ((s.codesOf order trip).filter fun r => since ≤ r.createdAt).length

/-- Whether a code row fits a verification of `code` for a pair. -/
def awaitsVerification (order trip code : String) (r : CodeRow) : Bool :=
  r.orderCode == order && r.tripCode == trip && r.code == code && !r.verified

/-- Marks verified at `stamp` every unverified row of a pair carrying `code`, and counts them. -/
def markVerified (s : Store) (order trip code : String) (stamp : Int) :
    Except StoreError (Nat × Store) := do
  s.guard "mark pickup otp verified"
  let n := (s.codes.filter (awaitsVerification order trip code)).length
  let codes := s.codes.map fun r =>
    if awaitsVerification order trip code r then
      { r with verified := true, verifiedAt := some stamp }
    else r
  return (n, { s with codes := codes })

/-- Whether some code row of a pair is verified. -/
def hasVerified (s : Store) (order trip : String) : Except StoreError Bool := do
  s.guard "check verified pickup otp"
  return (s.codesOf order trip).any (·.verified)

/-- Whether a code row has expired before `now` and was created before `before` (stored). -/
def expiredBy (now before : Int) (r : CodeRow) : Bool := r.expiresAt < now && r.createdAt < before

/-- Deletes the code rows expired before `now` and created before `before`, and counts them. -/
def deleteExpired (s : Store) (now before : Int) : Except StoreError (Nat × Store) := do
  s.guard "delete expired pickup otps"
  return ((s.codes.filter (expiredBy now before)).length,
    { s with codes := s.codes.filter fun r => !expiredBy now before r })

/-- Every code row, ordered by its key. -/
def listCodes (s : Store) : Except StoreError (List CodeRow) := do
  s.guard "list pickup otps"
  return s.codes.mergeSort fun a b => a.sortKey < b.sortKey || a.sortKey == b.sortKey

end Store

end DeliveryFleet
