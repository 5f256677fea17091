import Mathlib.Data.Finset.Card
import DeliveryFleet.Topic.Filter
import DeliveryFleet.Proofs.Topic.Routing

/-!
# Subscriptions and the router

The fleet subscribes to one filter per kind, `root/+/kind` (`Layout.wildcard`), and the client
matches the bytes of incoming topics against them level by level (`Filter.accepts`), after taking
a shared subscription's prefix off (`Filter.unshare`). Under a root with neither `+` nor `#`, the
filter of a kind accepts exactly the topics whose bytes are the root's, a robot level of any
bytes but `/`, and the kind's (`Layout.telemetryBytes`). The router sends each of them with a
robot level that is not empty to that kind, and the filters and the router agree exactly on the
topics that are text. A topic that is not text can reach the router's kind without passing the
filter (`Filter.accepts_refuses_stray_byte`), and no topic is accepted by two of the filters, as
written or as the client delivers them, so each message reaches the router at most once
(`Filter.subscriptions_match_routed_topics`).

The argument runs on levels. A filter of literal levels around one `+` accepts the topics whose
levels are the same around any one level (`Filter.matchLevels_one_wildcard`), a filter with a
literal tail accepts only topics with that tail (`Filter.accepts_literal_tail`), and a name is
determined by its levels (`Filter.levels_injective`).
-/

namespace DeliveryFleet

/-- A list holding no element twice, any two of whose elements are equal, has at most one. -/
theorem List.length_le_one_of_nodup {α : Type} [DecidableEq α] {l : List α} (hnd : l.Nodup)
    (heq : ∀ a ∈ l, ∀ b ∈ l, a = b) : l.length ≤ 1 := by
  rw [← List.toFinset_card_of_nodup hnd, Finset.card_le_one_iff]
  intro a b ha hb
  exact heq a (List.mem_toFinset.1 ha) b (List.mem_toFinset.1 hb)

/-- What a list splits into holds no separator and only elements of the list. -/
theorem List.not_mem_of_mem_splitOn {α : Type} [BEq α] [LawfulBEq α] {x : α} :
    ∀ {xs l : List α}, l ∈ xs.splitOn x → x ∉ l ∧ l ⊆ xs
  | [], l, hl => by simp_all
  | y :: ys, l, hl => by
    rw [List.splitOn_cons_eq_if_modifyHead] at hl
    split at hl
    · rename_i hy
      rcases List.mem_cons.1 hl with rfl | hl
      · simp
      · obtain ⟨hx, hsub⟩ := List.not_mem_of_mem_splitOn hl
        exact ⟨hx, fun c hc => List.mem_cons_of_mem _ (hsub hc)⟩
    · rename_i hy
      obtain ⟨hd, tl, hsplit⟩ := List.exists_cons_of_ne_nil (List.splitOn_ne_nil x ys)
      rw [hsplit, List.modifyHead_cons] at hl
      have hhd := List.not_mem_of_mem_splitOn (hsplit ▸ List.mem_cons_self : hd ∈ ys.splitOn x)
      rcases List.mem_cons.1 hl with rfl | hl
      · refine ⟨?_, List.cons_subset_cons _ hhd.2⟩
        simp only [List.mem_cons, not_or]
        exact ⟨fun h => hy (by simp [h]), hhd.1⟩
      · obtain ⟨hx, hsub⟩ := List.not_mem_of_mem_splitOn
          (hsplit ▸ List.mem_cons_of_mem _ hl : l ∈ ys.splitOn x)
        exact ⟨hx, fun c hc => List.mem_cons_of_mem _ (hsub hc)⟩

namespace Layout

/-- The bytes of a telemetry topic under a root whose robot level is the bytes `x`. -/
def telemetryBytes (root : String) (x : List UInt8) (kind : String) : List UInt8 :=
  Utf8.encode root ++ Filter.slash :: (x ++ Filter.slash :: Utf8.encode kind)

theorem encode_slash : Utf8.encode "/" = [Filter.slash] := by
  rw [Utf8.encode_eq]
  decide

/-- The bytes of a robot's telemetry topic. -/
theorem encode_telemetry (root robot kind : String) :
    Utf8.encode (telemetry root robot kind) = telemetryBytes root (Utf8.encode robot) kind := by
  simp [telemetry, join, String.intercalate_cons_cons, String.intercalate_singleton,
    Utf8.encode_append, encode_slash, telemetryBytes]

/-- The bytes of a telemetry topic read as the topic with the robot level read as text. -/
theorem decode_telemetryBytes (root kind : String) (x : List UInt8) :
    Utf8.decode (telemetryBytes root x kind) =
      (telemetry root (String.ofList (Utf8.decode x)) kind).toList := by
  have hslash : Filter.slash < 0x80 := by decide
  rw [telemetryBytes, Utf8.decode_encode_append, Utf8.decode_cons_ascii hslash,
    Utf8.decode_append_ascii x hslash, Utf8.decode_cons_ascii hslash, Utf8.decode_encode,
    toList_telemetry, String.toList_ofList]
  rfl

end Layout

namespace Filter

/-! ## Levels -/

theorem levels_append_slash (a b : List UInt8) : levels (a ++ slash :: b) = levels a ++ levels b :=
  List.splitOn_append_cons_self a b

theorem levels_plain {a : List UInt8} (h : slash ∉ a) : levels a = [a] :=
  List.splitOn_eq_singleton h

/-- A name is determined by its levels. -/
theorem levels_injective {a b : List UInt8} (h : levels a = levels b) : a = b := by
  rw [← @List.intercalate_splitOn _ a _ _ slash, ← @List.intercalate_splitOn _ b _ _ slash]
  exact congrArg _ h

theorem mem_levels {l s : List UInt8} (hl : l ∈ levels s) : slash ∉ l ∧ l ⊆ s :=
  List.not_mem_of_mem_splitOn hl

theorem levels_telemetryBytes (root : String) {x : List UInt8} (kind : String) (h : slash ∉ x) :
    levels (Layout.telemetryBytes root x kind) =
      levels (Utf8.encode root) ++ x :: levels (Utf8.encode kind) := by
  rw [Layout.telemetryBytes, levels_append_slash, levels_append_slash, levels_plain h]
  rfl

theorem levels_ne_nil (s : List UInt8) : levels s ≠ [] :=
  List.splitOn_ne_nil _ _

theorem levels_intercalate {ls : List (List UInt8)} (hne : ls ≠ []) (hslash : ∀ l ∈ ls, slash ∉ l) :
    levels ([slash].intercalate ls) = ls :=
  List.splitOn_intercalate slash hslash hne

/-! ## Matching levels -/

/-- A level that stands only for itself: neither wildcard. -/
def Literal (level : List UInt8) : Prop := level ≠ plusLevel ∧ level ≠ hashLevel

instance : DecidablePred Literal :=
  fun l => inferInstanceAs (Decidable (l ≠ plusLevel ∧ l ≠ hashLevel))

theorem matchLevels_nil (ts : List (List UInt8)) : matchLevels [] ts = true ↔ ts = [] := by
  simp [matchLevels]

theorem matchLevels_literal_cons {f : List UInt8} (hf : Literal f) (fs ts : List (List UInt8)) :
    matchLevels (f :: fs) ts = true ↔ ∃ ts', ts = f :: ts' ∧ matchLevels fs ts' = true := by
  cases ts with
  | nil => simp [matchLevels, hf.2]
  | cons t ts =>
    have hhash : (f == hashLevel) = false := by simpa using hf.2
    have hplus : (f == plusLevel) = false := by simpa using hf.1
    simp only [matchLevels, hhash, hplus, Bool.false_or, Bool.false_eq_true, if_false,
      Bool.and_eq_true, beq_iff_eq, List.cons.injEq]
    constructor
    · rintro ⟨rfl, hm⟩
      exact ⟨ts, ⟨rfl, rfl⟩, hm⟩
    · rintro ⟨ts', ⟨rfl, rfl⟩, hm⟩
      exact ⟨rfl, hm⟩

theorem matchLevels_plus_cons (fs ts : List (List UInt8)) :
    matchLevels (plusLevel :: fs) ts = true ↔
      ∃ t ts', ts = t :: ts' ∧ matchLevels fs ts' = true := by
  cases ts with
  | nil => simp [matchLevels, plusLevel, hashLevel]
  | cons t ts => simp [matchLevels, plusLevel, hashLevel]

theorem matchLevels_literals_append {ps : List (List UInt8)} (hps : ∀ p ∈ ps, Literal p)
    (fs ts : List (List UInt8)) :
    matchLevels (ps ++ fs) ts = true ↔ ∃ ts', ts = ps ++ ts' ∧ matchLevels fs ts' = true := by
  induction ps generalizing ts with
  | nil => simp
  | cons p ps ih =>
    rw [List.cons_append, matchLevels_literal_cons (hps p List.mem_cons_self)]
    constructor
    · rintro ⟨ts', rfl, hm⟩
      obtain ⟨ts'', rfl, hm'⟩ := (ih (fun q hq => hps q (List.mem_cons_of_mem _ hq)) ts').1 hm
      exact ⟨ts'', rfl, hm'⟩
    · rintro ⟨ts', rfl, hm⟩
      exact ⟨ps ++ ts', rfl,
        (ih (fun q hq => hps q (List.mem_cons_of_mem _ hq)) _).2 ⟨ts', rfl, hm⟩⟩

theorem matchLevels_literals {ks : List (List UInt8)} (hks : ∀ k ∈ ks, Literal k)
    (ts : List (List UInt8)) : matchLevels ks ts = true ↔ ts = ks := by
  have happend := matchLevels_literals_append hks [] ts
  simp only [List.append_nil, matchLevels_nil] at happend
  rw [happend]
  constructor
  · rintro ⟨_, rfl, rfl⟩
    simp
  · rintro rfl
    exact ⟨[], by simp, rfl⟩

/-- Literal levels around one `+` accept the level lists that agree around any one level. -/
theorem matchLevels_one_wildcard {ps ks : List (List UInt8)} (hps : ∀ p ∈ ps, Literal p)
    (hks : ∀ k ∈ ks, Literal k) (ts : List (List UInt8)) :
    matchLevels (ps ++ plusLevel :: ks) ts = true ↔ ∃ t, ts = ps ++ t :: ks := by
  simp only [matchLevels_literals_append hps, matchLevels_plus_cons, matchLevels_literals hks]
  constructor
  · rintro ⟨_, rfl, t, _, rfl, rfl⟩
    exact ⟨t, rfl⟩
  · rintro ⟨t, rfl⟩
    exact ⟨t :: ks, rfl, t, ks, rfl, rfl⟩

/-- Levels with no `#` before a literal tail accept only level lists of the same length that end
in that tail. -/
theorem matchLevels_literal_tail {ps ks : List (List UInt8)} (hps : ∀ p ∈ ps, p ≠ hashLevel)
    (hks : ∀ k ∈ ks, Literal k) {ts : List (List UInt8)} (h : matchLevels (ps ++ ks) ts = true) :
    ∃ qs, ts = qs ++ ks ∧ qs.length = ps.length := by
  induction ps generalizing ts with
  | nil => exact ⟨[], by simpa using (matchLevels_literals hks ts).1 h, rfl⟩
  | cons p ps ih =>
    have hhash : (p == hashLevel) = false := by simpa using hps p List.mem_cons_self
    cases ts with
    | nil => simp [matchLevels, hhash] at h
    | cons t ts =>
      simp only [List.cons_append, matchLevels, hhash, Bool.false_eq_true, if_false,
        Bool.and_eq_true] at h
      obtain ⟨qs, rfl, hlen⟩ := ih (fun q hq => hps q (List.mem_cons_of_mem _ hq)) h.2
      exact ⟨t :: qs, rfl, by simp [hlen]⟩

/-- A filter whose levels have no `#` before a literal tail accepts only topics whose levels are
as many and end in that tail. -/
theorem accepts_literal_tail {g topic : List UInt8} {ps ks : List (List UInt8)}
    (hg : levels g = ps ++ ks) (hps : ∀ p ∈ ps, p ≠ hashLevel) (hks : ∀ k ∈ ks, Literal k)
    (h : accepts g topic = true) : ∃ qs, levels topic = qs ++ ks ∧ qs.length = ps.length := by
  unfold accepts at h
  rcases Bool.or_eq_true_iff.1 h with heq | hm
  · rw [← beq_iff_eq.1 heq, hg]
    exact ⟨ps, rfl, rfl⟩
  · rw [hg] at hm
    exact matchLevels_literal_tail hps hks (Bool.and_eq_true_iff.1 hm).2

/-! ## Wildcard filters -/

theorem encode_plus : Utf8.encode "+" = plusLevel := by
  rw [Utf8.encode_eq]
  decide

theorem encode_wildcard (root kind : String) :
    Utf8.encode (Layout.wildcard root kind) = Layout.telemetryBytes root plusLevel kind := by
  rw [← encode_plus]
  exact Layout.encode_telemetry root "+" kind

/-- A filter of literal levels around one `+`, standing for the robot, accepts exactly the
topics of the kind under the root, for any robot level of bytes other than `/`, empty or not. -/
theorem accepts_wildcard_iff {root kind : String}
    (hroot : ∀ l ∈ levels (Utf8.encode root), Literal l)
    (hkind : ∀ l ∈ levels (Utf8.encode kind), Literal l) (topic : List UInt8) :
    accepts (Utf8.encode (Layout.wildcard root kind)) topic = true ↔
      ∃ x, slash ∉ x ∧ topic = Layout.telemetryBytes root x kind := by
  have hplain : slash ∉ plusLevel := by decide
  have hany : (Utf8.encode (Layout.wildcard root kind)).any (fun b => b == 0x2B || b == 0x23) =
      true := by
    simp [encode_wildcard, Layout.telemetryBytes, plusLevel]
  unfold accepts
  rw [hany, Bool.true_and, Bool.or_eq_true, beq_iff_eq, encode_wildcard,
    levels_telemetryBytes root kind hplain, matchLevels_one_wildcard hroot hkind]
  constructor
  · rintro (heq | ⟨x, hlevels⟩)
    · exact ⟨plusLevel, hplain, heq.symm⟩
    · have hslash := (mem_levels (hlevels ▸ List.mem_append_right _ List.mem_cons_self)).1
      exact ⟨x, hslash,
        levels_injective (hlevels.trans (levels_telemetryBytes root kind hslash).symm)⟩
  · rintro ⟨x, hslash, rfl⟩
    exact Or.inr ⟨x, levels_telemetryBytes root kind hslash⟩

/-! ## Shared subscriptions -/

/-- A shared subscription of three levels or more is delivered as its levels after the second. -/
theorem unshare_of_isPrefixOf {filter : List UInt8}
    (hs : (Utf8.encode "$share/").isPrefixOf filter = true) (hlen : 3 ≤ (levels filter).length) :
    unshare filter = [slash].intercalate ((levels filter).drop 2) := by
  unfold unshare
  rw [if_pos hs]
  generalize levels filter = ls at hlen ⊢
  match ls, hlen with
  | _ :: _ :: _ :: _, _ => rfl

/-- The client delivers a subscription to a kind as the wildcard filter itself, or with its
first two levels dropped. -/
theorem levels_unshare_wildcard (root kind : String) :
    ∃ j, (j = 0 ∨ j = 2) ∧
      levels (unshare (Utf8.encode (Layout.wildcard root kind))) =
        (levels (Utf8.encode root) ++ [plusLevel]).drop j ++ levels (Utf8.encode kind) := by
  have hplain : slash ∉ plusLevel := by decide
  have hwild : levels (Utf8.encode (Layout.wildcard root kind)) =
      levels (Utf8.encode root) ++ [plusLevel] ++ levels (Utf8.encode kind) := by
    rw [List.append_assoc, List.singleton_append, encode_wildcard]
    exact levels_telemetryBytes root kind hplain
  have hroot := List.length_pos_iff.2 (levels_ne_nil (Utf8.encode root))
  have hkind := List.length_pos_iff.2 (levels_ne_nil (Utf8.encode kind))
  by_cases hs : (Utf8.encode "$share/").isPrefixOf (Utf8.encode (Layout.wildcard root kind)) = true
  · refine ⟨2, Or.inr rfl, ?_⟩
    have hlen : 3 ≤ (levels (Utf8.encode (Layout.wildcard root kind))).length := by
      rw [hwild]
      simp only [List.length_append, List.length_singleton]
      omega
    have hdrop : (levels (Utf8.encode (Layout.wildcard root kind))).drop 2 =
        (levels (Utf8.encode root) ++ [plusLevel]).drop 2 ++ levels (Utf8.encode kind) := by
      rw [hwild, List.drop_append_of_le_length (by simp; omega)]
    rw [unshare_of_isPrefixOf hs hlen, hdrop, levels_intercalate]
    · simp only [ne_eq, List.append_eq_nil_iff, levels_ne_nil, and_false, not_false_eq_true]
    · intro l hl
      rcases List.mem_append.1 hl with hl | hl
      · rcases List.mem_append.1 (List.mem_of_mem_drop hl) with hl | hl
        · exact (mem_levels hl).1
        · simp only [List.mem_singleton] at hl
          exact hl ▸ hplain
      · exact (mem_levels hl).1
  · refine ⟨0, Or.inl rfl, ?_⟩
    rw [unshare, if_neg hs, hwild, List.drop_zero]

end Filter

namespace Kind

theorem nodup_all : all.Nodup := by decide

theorem literal_levels (k : Kind) : ∀ l ∈ Filter.levels (Utf8.encode k.name), Filter.Literal l := by
  simp only [Utf8.encode_eq]
  cases k <;> decide

theorem length_levels_le (k : Kind) : (Filter.levels (Utf8.encode k.name)).length ≤ 2 := by
  simp only [Utf8.encode_eq]
  cases k <;> decide

end Kind

namespace Layout

/-- The root keeps only characters of the configured root, or is the default. -/
theorem mem_root {r : String} {c : Char} (hc : c ∈ (root r).toList) :
    c ∈ r.toList ∨ c ∈ "robot".toList := by
  unfold root at hc
  dsimp only at hc
  split at hc
  · exact Or.inr hc
  · left
    rw [String.toList_ofList, List.mem_reverse] at hc
    exact (List.dropWhile_sublist _).subset
      (List.mem_reverse.1 ((List.dropWhile_sublist _).subset hc))

/-- A root configured without wildcards has only literal levels. -/
theorem literal_levels_root {r : String} (hplus : '+' ∉ r.toList) (hhash : '#' ∉ r.toList) :
    ∀ l ∈ Filter.levels (Utf8.encode (root r)), Filter.Literal l := by
  -- the root is the configured one trimmed, or the default `robot` when nothing is left
  have hnot : ∀ c, c ∉ r.toList → c ∉ "robot".toList → c ∉ (root r).toList := fun c hr hd hc =>
    (mem_root hc).elim hr hd
  -- so a wildcard level would put its byte, and with it its character, in the root
  intro l hl
  have hsub := (Filter.mem_levels hl).2
  constructor
  · rintro rfl
    exact hnot '+' hplus (by decide) (Utf8.mem_toList_of_mem_encode (by decide) (by decide)
      (hsub (List.mem_singleton_self _)))
  · rintro rfl
    exact hnot '#' hhash (by decide) (Utf8.mem_toList_of_mem_encode (by decide) (by decide)
      (hsub (List.mem_singleton_self _)))

theorem telemetry_empty (root kind : String) : telemetry root "" kind = root ++ "//" ++ kind := by
  rw [← String.toList_inj, toList_telemetry]
  simp

end Layout

namespace Filter

/-- The subscriptions accepted by a test that no two kinds pass are at most one. -/
theorem subscriptions_filter_length_le_one {root : String} {accept : String → Bool}
    (huniq : ∀ a b : Kind, accept (Layout.wildcard root a.name) = true →
      accept (Layout.wildcard root b.name) = true → a = b) :
    ((Layout.subscriptions root).filter accept).length ≤ 1 := by
  unfold Layout.subscriptions
  rw [List.filter_map, List.length_map]
  refine List.length_le_one_of_nodup (Kind.nodup_all.filter _) fun a ha b hb => ?_
  exact huniq a b (by simpa using (List.mem_filter.1 ha).2) (by simpa using (List.mem_filter.1 hb).2)

/-- Two kinds whose subscriptions, as the client delivers them, accept one topic are the same:
the topic ends in the levels of both kinds' names and has as many levels as either filter. -/
theorem unshare_wildcard_unique {root : String} {topic : List UInt8}
    (hroot : ∀ l ∈ levels (Utf8.encode root), Literal l) {a b : Kind}
    (ha : accepts (unshare (Utf8.encode (Layout.wildcard root a.name))) topic = true)
    (hb : accepts (unshare (Utf8.encode (Layout.wildcard root b.name))) topic = true) : a = b := by
  have hhead : ∀ j, ∀ p ∈ (levels (Utf8.encode root) ++ [plusLevel]).drop j, p ≠ hashLevel := by
    intro j p hp
    rcases List.mem_append.1 (List.mem_of_mem_drop hp) with hp | hp
    · exact (hroot p hp).2
    · rw [List.mem_singleton.1 hp]
      decide
  obtain ⟨ja, hja, hla⟩ := levels_unshare_wildcard root a.name
  obtain ⟨jb, hjb, hlb⟩ := levels_unshare_wildcard root b.name
  obtain ⟨qa, hta, hqa⟩ := accepts_literal_tail hla (hhead ja) a.literal_levels ha
  obtain ⟨qb, htb, hqb⟩ := accepts_literal_tail hlb (hhead jb) b.literal_levels hb
  have hsame := hta.symm.trans htb
  -- a kind's name has one or two levels, so dropping two levels from one filter only cannot
  -- be made up by the other's name
  have hlen : qa.length = qb.length := by
    have hroot := List.length_pos_iff.2 (levels_ne_nil (Utf8.encode root))
    have hka := List.length_pos_iff.2 (levels_ne_nil (Utf8.encode a.name))
    have hkb := List.length_pos_iff.2 (levels_ne_nil (Utf8.encode b.name))
    have hka' := a.length_levels_le
    have hkb' := b.length_levels_le
    have htotal := congrArg List.length hsame
    simp only [List.length_append, List.length_drop, List.length_singleton] at htotal hqa hqb
    rcases hja with rfl | rfl <;> rcases hjb with rfl | rfl <;> omega
  have hnames := levels_injective (List.append_inj hsame hlen).2
  exact Kind.name_injective (Utf8.encode_injective hnames)

/-! ## The filters and the router -/

section Root

variable {r : String} (hplus : '+' ∉ r.toList) (hhash : '#' ∉ r.toList)
include hplus hhash

/-- Under a root without wildcards, the subscription to a kind accepts exactly the topics of the
kind's byte shape. -/
theorem accepts_kind_iff (k : Kind) (topic : List UInt8) :
    accepts (Utf8.encode (Layout.wildcard (Layout.root r) k.name)) topic = true ↔
      ∃ x, slash ∉ x ∧ topic = Layout.telemetryBytes (Layout.root r) x k.name :=
  accepts_wildcard_iff (Layout.literal_levels_root hplus hhash) k.literal_levels topic

/-- A topic a kind's subscription accepts goes to that kind, or has an empty robot level. -/
theorem routed_of_accepts {k : Kind} {topic : List UInt8}
    (hacc : accepts (Utf8.encode (Layout.wildcard (Layout.root r) k.name)) topic = true) :
    (∃ robot, Route.match? (Layout.root r) topic = some (k, robot)) ∨
      topic = Utf8.encode (Layout.root r ++ "//" ++ k.name) := by
  obtain ⟨x, hslash, rfl⟩ := (accepts_kind_iff hplus hhash k topic).1 hacc
  by_cases hx : x = []
  · subst hx
    right
    rw [← Layout.telemetry_empty, Layout.encode_telemetry, Utf8.encode_empty]
  · -- the robot's level reads as text without `/`, so the router reads the topic's shape
    left
    refine ⟨String.ofList (Utf8.decode x), Route.match?_eq_some_iff.2 ⟨?_, ?_, ?_⟩⟩
    · simpa [← String.toList_inj, Utf8.decode_eq_nil_iff] using hx
    · rw [String.toList_ofList]
      intro hmem
      obtain ⟨b, hb, hcode⟩ := Utf8.exists_byte_of_mem_decode (by decide) (by decide) hmem
      have hb' : b = slash := UInt8.toNat_inj.1 (by simpa [slash] using hcode)
      exact hslash (hb' ▸ hb)
    · exact Layout.decode_telemetryBytes _ _ x

/-- For a topic that is text, a kind's subscription accepts it exactly when the router sends it to
that kind, or its robot level is empty. -/
theorem accepts_text_iff (k : Kind) (s : String) :
    accepts (Utf8.encode (Layout.wildcard (Layout.root r) k.name)) (Utf8.encode s) = true ↔
      (∃ robot, Route.match? (Layout.root r) (Utf8.encode s) = some (k, robot)) ∨
        s = Layout.root r ++ "//" ++ k.name := by
  constructor
  · intro hacc
    rcases routed_of_accepts hplus hhash hacc with hm | he
    · exact .inl hm
    · exact .inr (Utf8.encode_injective he)
  · rw [accepts_kind_iff hplus hhash]
    rintro (⟨robot, hm⟩ | rfl)
    · obtain ⟨-, hslash, rfl⟩ := Route.names_encode_iff.1 (Route.match?_eq_some_iff.1 hm)
      refine ⟨Utf8.encode robot, fun hmem => hslash ?_, Layout.encode_telemetry _ _ _⟩
      -- a `/` byte of the robot's bytes is a `/` of the robot
      exact Utf8.mem_toList_of_mem_encode (by decide) (by decide) hmem
    · refine ⟨[], List.not_mem_nil, ?_⟩
      rw [← Layout.telemetry_empty, Layout.encode_telemetry, Utf8.encode_empty]

end Root

/-- Under a root without wildcards, the subscription to a kind accepts exactly the topics whose
bytes are the root's, a robot level of bytes other than `/`, and the kind's name; the router sends
each of them with a non-empty robot level to that kind, and for topics that are text acceptance is
exactly being sent to the kind or having an empty robot level; and no topic is accepted by two of
the subscriptions, as written or as the client delivers them, so each message reaches the router
at most once. -/
theorem subscriptions_match_routed_topics (r : String) (topic : List UInt8)
    (hplus : '+' ∉ r.toList) (hhash : '#' ∉ r.toList) :
    (∀ k : Kind, accepts (Utf8.encode (Layout.wildcard (Layout.root r) k.name)) topic = true ↔
      ∃ x, slash ∉ x ∧ topic = Layout.telemetryBytes (Layout.root r) x k.name) ∧
    (∀ k : Kind, accepts (Utf8.encode (Layout.wildcard (Layout.root r) k.name)) topic = true →
      (∃ robot, Route.match? (Layout.root r) topic = some (k, robot)) ∨
        topic = Utf8.encode (Layout.root r ++ "//" ++ k.name)) ∧
    (∀ (k : Kind) (s : String),
      accepts (Utf8.encode (Layout.wildcard (Layout.root r) k.name)) (Utf8.encode s) = true ↔
        (∃ robot, Route.match? (Layout.root r) (Utf8.encode s) = some (k, robot)) ∨
          s = Layout.root r ++ "//" ++ k.name) ∧
    ((Layout.subscriptions (Layout.root r)).filter fun f =>
      accepts (Utf8.encode f) topic).length ≤ 1 ∧
    ((Layout.subscriptions (Layout.root r)).filter fun f =>
      accepts (unshare (Utf8.encode f)) topic).length ≤ 1 := by
  have hroot := Layout.literal_levels_root hplus hhash
  refine ⟨fun k => accepts_kind_iff hplus hhash k topic,
    fun _ hacc => routed_of_accepts hplus hhash hacc, accepts_text_iff hplus hhash,
    subscriptions_filter_length_le_one fun a b ha hb => ?_,
    subscriptions_filter_length_le_one fun a b ha hb => unshare_wildcard_unique hroot ha hb⟩
  obtain ⟨xa, hxa, hta⟩ := (accepts_kind_iff hplus hhash a topic).1 ha
  obtain ⟨xb, hxb, htb⟩ := (accepts_kind_iff hplus hhash b topic).1 hb
  -- the robot level ends at the first `/` after the root, so the kinds' bytes agree
  have hsame := hta.symm.trans htb
  simp only [Layout.telemetryBytes, List.append_cancel_left_eq, List.cons.injEq, true_and]
    at hsame
  obtain ⟨-, hkind⟩ := List.eq_of_append_cons_eq hxa hxb hsame
  exact Kind.name_injective (Utf8.encode_injective hkind)

/-- Under a root with a dot and an inner level, trimmed of its slashes, the trip-state topic
with an empty robot level is the one topic besides the routed ones that its subscription
accepts. -/
theorem subscriptions_match_routed_topics_dotted_root :
    ('+' ∉ "/fleet.v2/a/".toList ∧ '#' ∉ "/fleet.v2/a/".toList) ∧
    ((∀ k : Kind, accepts (Utf8.encode (Layout.wildcard (Layout.root "/fleet.v2/a/") k.name))
        (Utf8.encode "fleet.v2/a//trip/state") = true ↔
      ∃ x, slash ∉ x ∧ Utf8.encode "fleet.v2/a//trip/state" =
        Layout.telemetryBytes (Layout.root "/fleet.v2/a/") x k.name) ∧
    (∀ k : Kind, accepts (Utf8.encode (Layout.wildcard (Layout.root "/fleet.v2/a/") k.name))
        (Utf8.encode "fleet.v2/a//trip/state") = true →
      (∃ robot, Route.match? (Layout.root "/fleet.v2/a/") (Utf8.encode "fleet.v2/a//trip/state") =
          some (k, robot)) ∨
        Utf8.encode "fleet.v2/a//trip/state" =
          Utf8.encode (Layout.root "/fleet.v2/a/" ++ "//" ++ k.name)) ∧
    (∀ (k : Kind) (s : String),
      accepts (Utf8.encode (Layout.wildcard (Layout.root "/fleet.v2/a/") k.name))
          (Utf8.encode s) = true ↔
        (∃ robot, Route.match? (Layout.root "/fleet.v2/a/") (Utf8.encode s) = some (k, robot)) ∨
          s = Layout.root "/fleet.v2/a/" ++ "//" ++ k.name) ∧
    ((Layout.subscriptions (Layout.root "/fleet.v2/a/")).filter fun f =>
      accepts (Utf8.encode f) (Utf8.encode "fleet.v2/a//trip/state")).length ≤ 1 ∧
    ((Layout.subscriptions (Layout.root "/fleet.v2/a/")).filter fun f =>
      accepts (unshare (Utf8.encode f)) (Utf8.encode "fleet.v2/a//trip/state")).length ≤ 1) :=
  ⟨⟨by decide, by decide⟩,
    subscriptions_match_routed_topics "/fleet.v2/a/" (Utf8.encode "fleet.v2/a//trip/state")
      (by decide) (by decide)⟩

/-- Under the root `a` U+FFFD, the router sends the bytes `a`, `0xFF`, `/R1/battery` to the battery
kind, but the battery subscription refuses them: its root level is the three bytes of U+FFFD. -/
theorem accepts_refuses_stray_byte :
    ¬ ∀ (r : String) (topic : List UInt8) (k : Kind), '+' ∉ r.toList → '#' ∉ r.toList →
      (∃ robot, Route.match? (Layout.root r) topic = some (k, robot)) →
        accepts (Utf8.encode (Layout.wildcard (Layout.root r) k.name)) topic = true := by
  intro hclaim
  have hacc := hclaim "a\uFFFD" Route.strayBatteryTopic .battery (by decide) (by decide)
    ⟨"R1", Route.match?_strayBatteryTopic⟩
  exact absurd hacc (by decide +kernel)

end Filter

end DeliveryFleet
