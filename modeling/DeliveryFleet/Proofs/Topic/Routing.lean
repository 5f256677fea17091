import DeliveryFleet.Hub.Route
import DeliveryFleet.Topic.Layout
import DeliveryFleet.Proofs.Telemetry.Coalescing
import DeliveryFleet.Proofs.Text.Utf8

/-!
# Which topics route to which kind

A telemetry topic is the root, one level naming the robot and the kind's name
(`Layout.telemetry`); the robot's level is not empty and holds no `/`. A topic arrives as bytes,
and the router reads it as text the way a regular expression does, each byte that starts no
well-formed UTF-8 sequence as U+FFFD. A topic names a robot for a kind when it reads as that
robot's telemetry topic (`Route.Names`), and the router's matcher finds exactly these
(`Route.match?_eq_some_iff`).

Such a reading of a topic is unique (`Route.Names.unique`): the robot's level ends at the first
`/` after the root, and no two kinds share a name. So the order in which the router tries the
kinds does not matter (`Route.findSome?_perm`), and a topic that names no robot for any kind is
counted as unmatched and changes nothing else (`Hub.route_unmatched`).

The bytes of a text read back as the text, so a topic that is text names a robot exactly when it
is the robot's telemetry topic (`Route.names_encode_iff`). A topic that is not text can read as
one it is not: under the root `a` U+FFFD, the bytes `a`, `0xFF`, `/R1/battery` read as the
battery topic of `R1` and route there (`Hub.route_reads_stray_byte`).
-/

namespace DeliveryFleet

/-! ## Kinds and topic shapes -/

namespace Kind

theorem name_injective : Function.Injective Kind.name := by
  intro a b h
  cases a <;> cases b <;> simp_all [name]

theorem mem_matchOrder (k : Kind) : k ∈ matchOrder := by
  cases k <;> simp [matchOrder]

end Kind

/-! ## Cutting a list into a head, a middle and a tail -/

/-- A list is a prefix, a middle and a suffix once the prefix and the suffix fit side by side. -/
theorem List.eq_prefix_middle_suffix {α : Type} {l a t : List α} (ha : a <+: l) (ht : t <:+ l)
    (hlen : a.length + t.length ≤ l.length) :
    l = a ++ (l.drop a.length).take (l.length - a.length - t.length) ++ t := by
  have hfront : l.take a.length = a := (List.prefix_iff_eq_take.1 ha).symm
  have hback : l.drop (l.length - t.length) = t := (List.suffix_iff_eq_drop.1 ht).symm
  have hrest : (l.drop a.length).drop (l.length - a.length - t.length) = t := by
    rw [List.drop_drop, show a.length + (l.length - a.length - t.length) = l.length - t.length by
      omega]
    exact hback
  calc l = l.take a.length ++ l.drop a.length := (List.take_append_drop _ _).symm
    _ = a ++ ((l.drop a.length).take (l.length - a.length - t.length) ++
          (l.drop a.length).drop (l.length - a.length - t.length)) := by
      rw [hfront, List.take_append_drop]
    _ = _ := by rw [hrest, List.append_assoc]

/-- A list has a given head and tail with a non-empty middle between them exactly when the
head is a prefix, the tail a suffix, they leave room between them, and what lies between them is
that middle. -/
theorem List.head_middle_tail_iff {α : Type} [BEq α] [LawfulBEq α] {head tail cs m : List α} :
    ((head.isPrefixOf cs && tail.isSuffixOf cs && decide (head.length + tail.length < cs.length))
        = true ∧ (cs.drop head.length).take (cs.length - head.length - tail.length) = m) ↔
      m ≠ [] ∧ cs = head ++ m ++ tail := by
  simp only [Bool.and_eq_true, decide_eq_true_eq, List.isPrefixOf_iff_prefix,
    List.isSuffixOf_iff_suffix]
  constructor
  · rintro ⟨⟨⟨hpre, hsuf⟩, hlen⟩, rfl⟩
    refine ⟨?_, List.eq_prefix_middle_suffix hpre hsuf (Nat.le_of_lt hlen)⟩
    rw [← List.length_pos_iff, List.length_take, List.length_drop]
    omega
  · rintro ⟨hm, rfl⟩
    have hpos := List.length_pos_iff.2 hm
    refine ⟨⟨⟨List.prefix_append_of_prefix (List.prefix_append _ _), List.suffix_append _ _⟩,
      by simp only [List.length_append]; omega⟩, ?_⟩
    rw [List.append_assoc, List.drop_left]
    simp

namespace Layout

theorem toList_telemetry (root robot kind : String) :
    (telemetry root robot kind).toList =
      root.toList ++ '/' :: (robot.toList ++ '/' :: kind.toList) := by
  simp [telemetry, join, String.intercalate_cons_cons, String.intercalate_singleton]

/-- Telemetry topics under one root with robot levels free of `/` agree exactly when their robots
and kinds do: the robot's level ends at the first `/` after the root. -/
theorem telemetry_inj {root robot robot' kind kind' : String} (hr : '/' ∉ robot.toList)
    (hr' : '/' ∉ robot'.toList) (h : telemetry root robot kind = telemetry root robot' kind') :
    robot = robot' ∧ kind = kind' := by
  have hlists := congrArg String.toList h
  rw [toList_telemetry, toList_telemetry, List.append_cancel_left_eq, List.cons.injEq] at hlists
  obtain ⟨hrobot, hkind⟩ := List.eq_of_append_cons_eq hr hr' hlists.2
  exact ⟨String.toList_inj.1 hrobot, String.toList_inj.1 hkind⟩

end Layout

namespace Route

/-- A topic names a robot for a kind under a root: it reads as the robot's telemetry topic of that
kind, and the robot's id is one level, not empty. -/
def Names (root : String) (k : Kind) (robot : String) (topic : List UInt8) : Prop :=
  robot ≠ "" ∧ '/' ∉ robot.toList ∧ Utf8.decode topic = (Layout.telemetry root robot k.name).toList

/-- A topic names at most one robot and one kind. -/
theorem Names.unique {root : String} {topic : List UInt8} {k k' : Kind} {r r' : String}
    (h : Names root k r topic) (h' : Names root k' r' topic) : k = k' ∧ r = r' := by
  obtain ⟨-, hr, hread⟩ := h
  obtain ⟨-, hr', hread'⟩ := h'
  obtain ⟨hrobot, hkind⟩ :=
    Layout.telemetry_inj hr hr' (String.toList_inj.1 (hread.symm.trans hread'))
  exact ⟨Kind.name_injective hkind, hrobot⟩

/-- A topic that is text names a robot exactly when it is the robot's telemetry topic. -/
theorem names_encode_iff {root s robot : String} {k : Kind} :
    Names root k robot (Utf8.encode s) ↔
      robot ≠ "" ∧ '/' ∉ robot.toList ∧ s = Layout.telemetry root robot k.name := by
  rw [Names, Utf8.decode_encode, String.toList_inj]

end Route

/-! ## The router's matcher -/

/-- The kind matcher reads a robot off a topic exactly when the topic names it for the kind. -/
theorem Kind.robotIn?_eq_some_iff {root robot : String} {topic : List UInt8} {k : Kind} :
    k.robotIn? root topic = some robot ↔ Route.Names root k robot topic := by
  have hshape :
      Utf8.decode topic = (root ++ "/").toList ++ robot.toList ++ ("/" ++ k.name).toList ↔
        Utf8.decode topic = (Layout.telemetry root robot k.name).toList := by
    rw [Layout.toList_telemetry]
    simp
  unfold Kind.robotIn?
  dsimp only
  constructor
  · intro h
    split at h
    · rename_i hframe
      split at h
      · cases h
      · rename_i hslash
        cases h
        obtain ⟨hmid, hsplit⟩ := List.head_middle_tail_iff.1 ⟨hframe, rfl⟩
        refine ⟨by simpa using hmid, by simpa using hslash, hshape.1 (by simpa using hsplit)⟩
    · cases h
  · rintro ⟨hne, hslash, htopic⟩
    obtain ⟨hframe, hmid⟩ := List.head_middle_tail_iff.2 ⟨by simpa using hne, hshape.2 htopic⟩
    rw [if_pos hframe, hmid, if_neg (by simpa using hslash), String.ofList_toList]

namespace Route

/-- Whatever a search over the kinds finds is a reading of the topic. -/
theorem names_of_findSome? {root robot : String} {topic : List UInt8} {k : Kind}
    {order : List Kind}
    (hfound : order.findSome? (fun k => (k.robotIn? root topic).map fun r => (k, r)) =
      some (k, robot)) : Names root k robot topic := by
  obtain ⟨k', -, hk'⟩ := List.exists_of_findSome?_eq_some hfound
  obtain ⟨r', hr', hkr⟩ := Option.map_eq_some_iff.1 hk'
  cases hkr
  exact Kind.robotIn?_eq_some_iff.1 hr'

/-- Trying the kinds in any order that covers them all finds the one reading of the topic. -/
theorem findSome?_eq_some_iff {root robot : String} {topic : List UInt8} {k : Kind}
    {order : List Kind}
    (hall : ∀ k, k ∈ order) :
    order.findSome? (fun k => (k.robotIn? root topic).map fun r => (k, r)) = some (k, robot) ↔
      Names root k robot topic := by
  refine ⟨names_of_findSome?, fun hnames => ?_⟩
  have hsome : (k.robotIn? root topic).map (fun r => (k, r)) = some (k, robot) := by
    rw [Kind.robotIn?_eq_some_iff.2 hnames]
    rfl
  cases hfound : order.findSome? (fun k => (k.robotIn? root topic).map fun r => (k, r)) with
  | none =>
    have hnone := List.findSome?_eq_none_iff.1 hfound k (hall k)
    rw [hsome] at hnone
    cases hnone
  | some found =>
    obtain ⟨k₀, r₀⟩ := found
    -- whatever the search stops at is a reading of the topic, and there is only one
    obtain ⟨rfl, rfl⟩ := (names_of_findSome? hfound).unique hnames
    rfl

/-- The router answers a kind and a robot exactly when the topic names that robot for that
kind. -/
theorem match?_eq_some_iff {root robot : String} {topic : List UInt8} {k : Kind} :
    match? root topic = some (k, robot) ↔ Names root k robot topic :=
  findSome?_eq_some_iff Kind.mem_matchOrder

/-- The bytes `a`, `0xFF`, `/R1/battery`: not text, as `0xFF` starts no UTF-8 sequence. -/
def strayBatteryTopic : List UInt8 := [0x61, 0xFF] ++ Utf8.encode "/R1/battery"

/-- Under the root `a` U+FFFD the stray byte reads as U+FFFD, and the topic as the battery topic
of `R1`. -/
theorem match?_strayBatteryTopic :
    match? (Layout.root "a\uFFFD") strayBatteryTopic = some (.battery, "R1") := by
  decide +kernel

end Route

namespace Hub

/-- A topic of no kind is counted as unmatched, and the hub changes in nothing else. -/
theorem route_unmatched {h : Hub} {topic : List UInt8} (payload : List UInt8)
    (hm : Route.match? h.settings.root topic = none) :
    h.route topic payload = (("unknown", "unmatched"), h.countMessage "unknown" "unmatched") := by
  simp [route, hm]

end Hub

end DeliveryFleet
