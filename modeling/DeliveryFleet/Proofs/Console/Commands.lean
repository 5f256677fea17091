import DeliveryFleet.Proofs.Console.Steps

/-!
# Which steps publish commands

The fleet publishes a command in two places only: a verification that answers `verified`
publishes the unlock commands of its trip (`Hub.verify_publications`), and a `publish` step hands
the publisher the command it names. Every other step keeps the outbox's publications. This covers
the pickup operations, routing a robot's message (whose handling may complete a pickup), the
telemetry reads and liveness sweeps, the writes to the store, and a cleanup
(`Console.runStep_publications_of_ne`).

Together with what a verification does to the store (`Hub.verify_store`), this is
`commands_only_from_accepted_verification`. Outside a `publish` step, the commands of a step are the
container-pickup and QR commands of `Hub.unlockCommands`. They go out only from a verification that
answers `verified`, for a trip that is ready for pickup, and are addressed to that trip's robot and
container. Such a verification changes the store only by marking the rows awaiting it verified at
the clock, and any other verification changes nothing in it.
-/

namespace DeliveryFleet

namespace Hub

variable (h : Hub)

/-! ## Operations that publish nothing -/

@[simp] theorem push_outbox (t : WriteTask) : (h.push t).outbox = h.outbox := by
  unfold push
  split
  split <;> rfl

@[simp] theorem scheduleRobot_outbox (r : String) : (h.scheduleRobot r).outbox = h.outbox := by
  unfold scheduleRobot
  split <;> simp

@[simp] theorem scheduleContainer_outbox (r c : String) :
    (h.scheduleContainer r c).outbox = h.outbox := by
  unfold scheduleContainer
  split <;> simp

@[simp] theorem wentOffline_publications (robots : List String) :
    (h.wentOffline robots).outbox.publications = h.outbox.publications := by
  unfold wentOffline
  induction robots generalizing h with
  | nil => rfl
  | cons r rs ih => simp [ih]

@[simp] theorem touch_outbox (r : String) : (h.touch r).outbox = h.outbox := by
  simp [touch]

@[simp] theorem putContainer_outbox (r : String) (v : ContainerState) :
    (h.putContainer r v).outbox = h.outbox := by
  simp [putContainer, withCache]

@[simp] theorem heartbeat_publications (r : String) (alive : Bool) :
    (h.heartbeat r alive).outbox.publications = h.outbox.publications := by
  unfold heartbeat
  split <;> simp

@[simp] theorem apply_publications (r : String) (m : Message) :
    (h.apply r m).outbox.publications = h.outbox.publications := by
  cases m <;> simp [apply, withCache]

@[simp] theorem hit_outbox {α : Type} (r : String) (v : Option α) : (h.hit? r v).2.outbox = h.outbox := by
  unfold hit?
  split
  · split <;> simp
  · rfl

@[simp] theorem container_outbox (r c : String) : (h.container? r c).2.outbox = h.outbox := by
  unfold container?
  split
  · split <;> simp
  · rfl

@[simp] theorem reading_outbox (r : String) (rd : Reading) : (h.reading? r rd).2.outbox = h.outbox := by
  simp [reading?]

@[simp] theorem isFree_outbox (r : String) : (h.isFree r).2.outbox = h.outbox := by
  simp [isFree]

@[simp] theorem markOffline_publications (r : String) :
    (h.markOffline r).outbox.publications = h.outbox.publications := by
  simp [markOffline]

@[simp] theorem markAllOffline_publications :
    h.markAllOffline.2.outbox.publications = h.outbox.publications := by
  simp [markAllOffline]

@[simp] theorem sweep_publications : h.sweep.2.outbox.publications = h.outbox.publications := by
  simp [sweep]

@[simp] theorem write_outbox (task : WriteTask) : (h.write task).2.outbox = h.outbox := by
  unfold write
  -- every branch leaves the hub as it was or changes only its store
  dsimp only
  repeat' split
  all_goals rfl

@[simp] theorem flush_outbox : h.flush.outbox = h.outbox := by
  unfold flush
  generalize h.queue.batch = tasks
  suffices ∀ h' : Hub, h'.outbox = h.outbox →
      (tasks.foldl (fun h t => ((h.write t).2.countWrite (if (h.write t).1 then "success" else "failed"))) h').outbox = h.outbox from
    this _ rfl
  induction tasks with
  | nil => exact fun _ h' => h'
  | cons t ts ih => exact fun h' he => ih _ (by simp [countWrite, he])

theorem complete_publications (o t : String) :
    (h.complete o t).2.outbox.publications = h.outbox.publications :=
  congrArg (·.2.2.2) complete_keeps

@[simp] theorem handle_publications (r : String) (m : Message) :
    (h.handle r m).2.outbox.publications = h.outbox.publications := by
  unfold handle
  dsimp only
  split
  · split
    · simp [complete_publications]
    · simp
  · simp

@[simp] theorem route_publications (topic payload : List UInt8) :
    (h.route topic payload).2.outbox.publications = h.outbox.publications := by
  unfold route
  split
  · rfl
  · rename_i k robot _
    cases Message.decode k payload with
    | none => rfl
    | some m =>
      obtain ⟨result, h', he⟩ : ∃ result h', h.handle robot m = (result, h') := ⟨_, _, rfl⟩
      have hp := handle_publications h robot m
      rw [he] at hp
      simpa [he, countMessage] using hp

end Hub

namespace Console

/-- A verification step runs the verification of the pair and code it names. -/
theorem runStep_verify (h : Hub) (step : Json) (hver : Request.text step "op" = "verify") :
    runStep h step =
      let r := h.verify (Request.text step "orderCode") (Request.text step "tripCode")
        (Request.text step "code")
      (.ok (outcomeJson r.1), r.2) := by
  unfold runStep
  simp only [hver]

/-- A move other than a verification or a publication publishes nothing. -/
theorem StepMove.publications {h h' : Hub} {step : Json} (hmove : StepMove h step h')
    (hpub : Request.text step "op" ≠ "publish") (hver : Request.text step "op" ≠ "verify") :
    h'.outbox.publications = h.outbox.publications := by
  cases hmove with
  | verify hop => exact absurd hop hver
  | publish hop => exact absurd hop hpub
  | send => exact Hub.send_publications
  | resend => exact Hub.resend_publications
  | complete => exact Hub.complete_publications h _ _
  | cleanup => exact Hub.cleanup_publications
  -- routing, the reads, the tracker calls, the flush and the store writes keep the outbox
  | _ => simp

/-- A step other than a verification or a publication publishes nothing. -/
theorem runStep_publications_of_ne (h : Hub) (step : Json)
    (hpub : Request.text step "op" ≠ "publish") (hver : Request.text step "op" ≠ "verify") :
    (runStep h step).2.outbox.publications = h.outbox.publications :=
  (runStep_move h step).publications hpub hver

/-- Outside a `publish` step, commands go out only from a verification that answers `verified`:
the container-pickup and QR commands of the trip, when the trip is ready for pickup. A verification
changes the store only when it answers `verified`, and then only by marking the rows awaiting it
verified at the hub's clock. -/
theorem commands_only_from_accepted_verification (h : Hub) :
    (∀ step : Json, Request.text step "op" ≠ "publish" →
      (runStep h step).2.outbox.publications = h.outbox.publications ++
        if Request.text step "op" = "verify" ∧
            (h.verify (Request.text step "orderCode") (Request.text step "tripCode")
              (Request.text step "code")).1 = .verified then
          h.publications (h.unlockCommands (Request.text step "orderCode")
            (Request.text step "tripCode"))
        else []) ∧
    ∀ o t c, (h.verify o t c).2.store =
      if (h.verify o t c).1 = .verified then
        { h.store with codes := h.store.codes.map (Store.markRow o t c h.now.toStored) }
      else h.store := by
  refine ⟨fun step hpub => ?_, fun o t c => Hub.verify_store⟩
  by_cases hver : Request.text step "op" = "verify"
  · rw [runStep_verify h step hver, Hub.verify_publications]
    simp [hver]
  · rw [runStep_publications_of_ne h step hpub hver]
    simp [hver]

/-- A send step on the demo hub publishes nothing. -/
theorem commands_only_from_accepted_verification_send :
    Request.text (.object [("op", .string "send"), ("orderCode", .string "O1"),
      ("tripCode", .string "T1")]) "op" ≠ "publish" ∧
    (runStep (Hub.pickupDemo (Instant.ofCivil 2024 1 1 0 0 0 0) ["111111"])
        (.object [("op", .string "send"), ("orderCode", .string "O1"),
          ("tripCode", .string "T1")])).2.outbox.publications =
      (Hub.pickupDemo (Instant.ofCivil 2024 1 1 0 0 0 0) ["111111"]).outbox.publications ++
        if Request.text (.object [("op", .string "send"), ("orderCode", .string "O1"),
              ("tripCode", .string "T1")]) "op" = "verify" ∧
            ((Hub.pickupDemo (Instant.ofCivil 2024 1 1 0 0 0 0) ["111111"]).verify "O1" "T1" "").1 =
              .verified then
          (Hub.pickupDemo (Instant.ofCivil 2024 1 1 0 0 0 0) ["111111"]).publications
            ((Hub.pickupDemo (Instant.ofCivil 2024 1 1 0 0 0 0) ["111111"]).unlockCommands "O1" "T1")
        else [] :=
  ⟨by decide, (commands_only_from_accepted_verification _).1 _ (by decide)⟩

end Console

end DeliveryFleet
