import DeliveryFleet.Hub.Basic

/-!
# Pickup

A receiver collects an order from a robot with a one-time code, issued for an (order, trip) pair.
Each operation answers an `Outcome`:

* `Hub.send` issues a fresh code and mails it, once the pair is eligible: the order and the trip
  exist and belong together (`lookup`), the order is not completed, and the trip is loading or has
  arrived.
* `Hub.resend` mails the active code again (a copy of its row, created now), or a fresh code when
  none is active, unless the pair already had as many deliveries as allowed within the resend
  window.
* `Hub.verify` accepts the newest unverified code of the pair if it has not expired and no newer
  code supersedes it; it marks every unverified row with that code verified and tells the robot
  to open the container and drop the QR code.
* `Hub.complete` closes the pickup once a code of the pair was verified, moving order and trip to
  COMPLETED.
* `Hub.cleanup` deletes the rows that expired and left the resend window.

Every failure on the way (a refused query, no code left to hand out, a mailer that breaks down)
answers `serverError` (`Hub.runPickup`); what was written before it stays.
-/

namespace DeliveryFleet

/-- What a pickup operation answers. -/
inductive Outcome where
  | sent
  | resent
  | mailFailed
  | orderNotFound
  | tripNotFound
  | tripMismatch
  | alreadyPickedUp
  | notReady
  | rateLimited
  | invalidCode
  | expired
  | verified
  | notVerified
  | completed
  | serverError
  deriving Repr, BEq, DecidableEq, Inhabited

/-- The name of an outcome. -/
def Outcome.name : Outcome → String
  | .sent => "OTP_SENT"
  | .resent => "OTP_RESENT"
  | .mailFailed => "EMAIL_SEND_FAILED"
  | .orderNotFound => "ORDER_NOT_FOUND"
  | .tripNotFound => "TRIP_NOT_FOUND"
  | .tripMismatch => "TRIP_MISMATCH"
  | .alreadyPickedUp => "ALREADY_PICKED_UP"
  | .notReady => "NOT_READY_FOR_PICKUP"
  | .rateLimited => "RATE_LIMIT_EXCEEDED"
  | .invalidCode => "INVALID_OTP"
  | .expired => "OTP_EXPIRED"
  | .verified => "OTP_VERIFIED"
  | .notVerified => "OTP_NOT_VERIFIED"
  | .completed => "PICKUP_COMPLETED"
  | .serverError => "SERVER_ERROR"

/-- Why a pickup operation broke off. -/
inductive Fault where
  | store (e : StoreError)
  | codesExhausted
  | mailCrash
  deriving Repr, BEq

/-- A pickup operation in progress: it changes the hub and may break off. -/
abbrev Attempt := ExceptT Fault (StateM Hub)

namespace Attempt

/-- Asks the store. -/
def query {α : Type} (f : Store → Except StoreError α) : Attempt α := do
  match f (← get).store with
  | .ok a => pure a
  | .error e => throw (.store e)

/-- Changes the store. -/
def update {α : Type} (f : Store → Except StoreError (α × Store)) : Attempt α := do
  let h ← get
  match f h.store with
  | .ok (a, s) => set { h with store := s }; pure a
  | .error e => throw (.store e)

/-- Records a delivery of a code. -/
def insert (r : CodeRow) : Attempt Unit :=
  update fun s => (fun s' => ((), s')) <$> s.insertCode r

/-- The next code to hand out. -/
def nextCode : Attempt String := do
  let h ← get
  match h.codes with
  | c :: rest => set { h with codes := rest }; pure c
  | [] => throw .codesExhausted

/-- A minute, in nanoseconds. -/
def minute : Int := 60000000000

/-- The text of a pickup mail. -/
def mailBody (orderCode code : String) (minutes : Int) : String :=
  "Your pickup code for order " ++ orderCode ++ " is " ++ code ++ ". It expires in " ++
    toString minutes ++ " minutes."

/-- Mails a code to the receiver; tells whether the mailer accepted it. There is nothing to do
without a mailer or an address. The mail gives the minutes left, rounded to the nearest minute. -/
def deliver (orderCode code email : String) (expiresAt : Instant) : Attempt Bool := do
  let h ← get
  if h.settings.mailer == .absent || email.isEmpty then return false
  let minutes := (Duration.round (expiresAt.since h.now) minute).tdiv minute
  let (r, h) := h.sendMail ⟨email, h.settings.mailSubject, mailBody orderCode code minutes⟩
  set h
  match r with
  | .accepted => return true
  | .refused => return false
  | .crashed => throw .mailCrash

/-- Finds the order and the trip and checks that they belong together. -/
def lookup (orderCode tripCode : String) : Attempt (Except Outcome (OrderRow × TripRow)) := do
  let some order ← query (·.findOrder orderCode) | return .error .orderNotFound
  let some trip ← query (·.findTrip tripCode) | return .error .tripNotFound
  if order.tripId != (trip.id : Int) then return .error .tripMismatch
  return .ok (order, trip)

/-- `lookup`, then the order must be open and the trip ready for pickup. -/
def eligible (orderCode tripCode : String) : Attempt (Except Outcome (OrderRow × TripRow)) := do
  match ← lookup orderCode tripCode with
  | .error e => return .error e
  | .ok (order, trip) =>
    if order.status == completedStatus then return .error .alreadyPickedUp
    if !trip.readyForPickup then return .error .notReady
    return .ok (order, trip)

/-- Issues a fresh code for a pair and mails it to the order's receiver. -/
def issue (order : OrderRow) (orderCode tripCode : String) : Attempt Outcome := do
  let code ← nextCode
  let h ← get
  let expiresAt := h.now.add h.settings.codeTtl
  insert { orderCode, tripCode, code, email := order.email, createdAt := h.now.toStored,
           expiresAt := expiresAt.toStored }
  if ← deliver orderCode code order.email expiresAt then return .sent else return .mailFailed

/-- Sends a fresh code. -/
def send (orderCode tripCode : String) : Attempt Outcome := do
  match ← eligible orderCode tripCode with
  | .error e => return e
  | .ok (order, _) => issue order orderCode tripCode

/-- Sends the active code again, or a fresh one, within the resend limit. -/
def resend (orderCode tripCode : String) : Attempt Outcome := do
  match ← eligible orderCode tripCode with
  | .error e => return e
  | .ok (order, _) =>
    let h ← get
    let since := (h.now.add (-h.settings.resendWindow)).toStored
    let count ← query (·.countCreatedSince orderCode tripCode since)
    if (count : Int) ≥ h.settings.resendLimit then return .rateLimited
    match ← query (·.latestActive orderCode tripCode h.now.toStored) with
    | none => issue order orderCode tripCode
    | some prev =>
      insert { prev with email := order.email, createdAt := h.now.toStored, verified := false,
                         verifiedAt := none }
      if ← deliver prev.orderCode prev.code order.email (Instant.ofStored prev.expiresAt) then
        return .resent
      else return .mailFailed

/-- Tells the robot of a trip to open the container for an order and to drop the trip's QR code;
a failed publication is let go. -/
def unlock (orderCode : String) (trip : TripRow) : Attempt Unit := do
  if !trip.containerCode.isEmpty then
    modify fun h =>
      (h.publish (.openContainer trip.robotCode trip.containerCode orderCode trip.tripCode)).1
  modify fun h => (h.publish (.invalidateQr trip.robotCode trip.tripCode)).1

/-- Checks a code against the pair's codes and marks it used. -/
def verify (orderCode tripCode code : String) : Attempt Outcome := do
  let now := (← get).now
  let some otp ← query (·.latestUnverified orderCode tripCode code) | return .invalidCode
  if !now.before (Instant.ofStored otp.expiresAt) then return .expired
  if let some latest ← query (·.latestActive orderCode tripCode now.toStored) then
    if latest.code != code then return .invalidCode
  let n ← update (·.markVerified orderCode tripCode otp.code now.toStored)
  if n == 0 then return .invalidCode
  match (← get).store.findTrip tripCode with
  | .ok (some trip) => if trip.readyForPickup then unlock orderCode trip
  | _ => pure ()
  return .verified

/-- Closes a pickup whose code was verified. -/
def complete (orderCode tripCode : String) : Attempt Outcome := do
  match ← lookup orderCode tripCode with
  | .error e => return e
  | .ok (order, trip) =>
    if order.status == completedStatus && trip.status == completedStatus then return .completed
    if !(← query (·.hasVerified orderCode tripCode)) then return .notVerified
    if order.status != completedStatus then
      let _ ← update (·.saveOrder order.orderCode order.tripId order.email completedStatus)
    if trip.status != completedStatus then
      let _ ← update (·.saveTrip trip.tripCode trip.robotCode trip.containerCode completedStatus)
    return .completed

end Attempt

namespace Hub

/-- Runs a pickup operation named `op`: a break-off answers `serverError`, and the outcome is
counted. -/
def runPickup (h : Hub) (op : String) (a : Attempt Outcome) : Outcome × Hub :=
  let (r, h) := a.run.run h
  let o := match r with
    | .ok o => o
    | .error _ => .serverError
  (o, h.countPickup op o.name)

/-- Sends a fresh code for a pair. -/
def send (h : Hub) (orderCode tripCode : String) : Outcome × Hub :=
  h.runPickup "send" (Attempt.send orderCode tripCode)

/-- Sends the active code of a pair again. -/
def resend (h : Hub) (orderCode tripCode : String) : Outcome × Hub :=
  h.runPickup "resend" (Attempt.resend orderCode tripCode)

/-- Checks a code for a pair. -/
def verify (h : Hub) (orderCode tripCode code : String) : Outcome × Hub :=
  h.runPickup "verify" (Attempt.verify orderCode tripCode code)

/-- Closes the pickup of a pair. -/
def complete (h : Hub) (orderCode tripCode : String) : Outcome × Hub :=
  h.runPickup "complete" (Attempt.complete orderCode tripCode)

/-- Deletes the code rows that expired and were created before the resend window; answers how
many. -/
def cleanup (h : Hub) : Except String Nat × Hub :=
  let before := (h.now.add (-h.settings.resendWindow)).toStored
  match h.store.deleteExpired h.now.toStored before with
  | .ok (n, s) => (.ok n, { h with store := s })
  | .error e =>
    (.error ("delete expired pickup otps: " ++ e.message), h.countPickup "cleanup" "SERVER_ERROR")

end Hub

end DeliveryFleet
