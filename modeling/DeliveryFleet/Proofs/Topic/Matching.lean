import Mathlib
import DeliveryFleet.Proofs.Topic.Subscriptions

/-!
# Matching topics against filters

MQTT matches a topic against a filter level by level (`Filter.Matches`): a literal level matches
itself, `+` any one level, empty or not, and a `#` that ends the filter matches the parent level
and any number of further levels. For every filter with `#` only as its last level,
`Filter.accepts` decides exactly that relation (`Filter.accepts_iff_matches`), its two shortcuts
included: a filter equal to the topic matches it (`Filter.matches_self`), and a filter with no
wildcard character matches only itself (`Filter.eq_of_matches_literals`).

The relation makes no exception for topics that start with `$`: a filter whose first level is a
wildcard matches them as any other (`Filter.hash_matches_system_topic`). A shared subscription
`$share/<group>/<filter>` is delivered as its filter, whatever the group (`Filter.unshare_share`).
-/

namespace DeliveryFleet.Filter

/-- The level-by-level matching of filter levels against topic levels. -/
inductive Matches : List (List UInt8) → List (List UInt8) → Prop
  | nil : Matches [] []
  | literal {l : List UInt8} {fs ts : List (List UInt8)} : Literal l → Matches fs ts →
      Matches (l :: fs) (l :: ts)
  | plus {fs : List (List UInt8)} (t : List UInt8) {ts : List (List UInt8)} : Matches fs ts →
      Matches (plusLevel :: fs) (t :: ts)
  | hash (ts : List (List UInt8)) : Matches [hashLevel] ts

/-- A well-formed filter: `+` and `#` stand only as whole levels, and `#` only as the last. -/
structure WellFormed (filter : List UInt8) : Prop where
  whole : ∀ l ∈ levels filter, l = plusLevel ∨ l = hashLevel ∨ (0x2B ∉ l ∧ 0x23 ∉ l)
  hashLast : hashLevel ∉ (levels filter).dropLast

/-! ## The relation, level by level -/

theorem matches_nil_iff {ts : List (List UInt8)} : Matches [] ts ↔ ts = [] := by
  constructor
  · rintro ⟨⟩
    rfl
  · rintro rfl
    exact .nil

theorem matches_literal_iff {l : List UInt8} (hl : Literal l) {fs ts : List (List UInt8)} :
    Matches (l :: fs) ts ↔ ∃ ts', ts = l :: ts' ∧ Matches fs ts' := by
  constructor
  · rintro (_ | ⟨_, h⟩ | ⟨t, h⟩ | _)
    · exact ⟨_, rfl, h⟩
    · exact absurd rfl hl.1
    · exact absurd rfl hl.2
  · rintro ⟨ts', rfl, h⟩
    exact .literal hl h

theorem matches_plus_iff {fs ts : List (List UInt8)} :
    Matches (plusLevel :: fs) ts ↔ ∃ t ts', ts = t :: ts' ∧ Matches fs ts' := by
  constructor
  · intro h
    generalize hfs : plusLevel :: fs = gs at h
    cases h with
    | nil => cases hfs
    | literal hl _ => exact absurd (List.cons.inj hfs).1.symm hl.1
    | plus t h =>
      obtain rfl := (List.cons.inj hfs).2
      exact ⟨t, _, rfl, h⟩
    | hash ts => exact absurd (List.cons.inj hfs).1 (by decide)
  · rintro ⟨t, ts', rfl, h⟩
    exact .plus t h

/-- Levels with `#` at most as the last: `#` ends them. -/
theorem eq_nil_of_hash_cons {fs : List (List UInt8)} (h : hashLevel ∉ (hashLevel :: fs).dropLast) :
    fs = [] := by
  cases fs with
  | nil => rfl
  | cons f fs => simp at h

theorem hashLast_tail {f : List UInt8} {fs : List (List UInt8)}
    (h : hashLevel ∉ (f :: fs).dropLast) : hashLevel ∉ fs.dropLast := by
  cases fs with
  | nil => simp
  | cons g gs =>
    rw [List.dropLast_cons_cons] at h
    exact fun hm => h (List.mem_cons_of_mem _ hm)

/-- Where `#` can only end the filter, matching levels one by one decides the relation. -/
theorem matchLevels_iff_matches :
    ∀ {fs : List (List UInt8)}, hashLevel ∉ fs.dropLast →
      ∀ ts, matchLevels fs ts = true ↔ Matches fs ts
  | [], _, ts => by rw [matchLevels_nil, matches_nil_iff]
  | f :: fs, hfs, ts => by
    have ih := @matchLevels_iff_matches fs (hashLast_tail hfs)
    by_cases hhash : f = hashLevel
    · subst hhash
      obtain rfl := eq_nil_of_hash_cons hfs
      simpa [matchLevels] using Matches.hash ts
    by_cases hplus : f = plusLevel
    · subst hplus
      simp only [matchLevels_plus_cons, matches_plus_iff, ih]
    · have hl : Literal f := ⟨hplus, hhash⟩
      simp only [matchLevels_literal_cons hl, matches_literal_iff hl, ih]

/-- Levels with `#` at most as the last match themselves. -/
theorem matches_self : ∀ {fs : List (List UInt8)}, hashLevel ∉ fs.dropLast → Matches fs fs
  | [], _ => .nil
  | f :: fs, hfs => by
    by_cases hhash : f = hashLevel
    · subst hhash
      obtain rfl := eq_nil_of_hash_cons hfs
      exact .hash _
    by_cases hplus : f = plusLevel
    · subst hplus
      exact .plus _ (matches_self (hashLast_tail hfs))
    · exact .literal ⟨hplus, hhash⟩ (matches_self (hashLast_tail hfs))

/-- Literal levels match only themselves. -/
theorem eq_of_matches_literals {fs ts : List (List UInt8)} (h : Matches fs ts)
    (hfs : ∀ l ∈ fs, Literal l) : ts = fs := by
  induction h with
  | nil => rfl
  | literal _ _ ih =>
    rw [ih fun l hl => hfs l (List.mem_cons_of_mem _ hl)]
  | plus t _ _ => exact absurd rfl (hfs plusLevel List.mem_cons_self).1
  | hash ts => exact absurd rfl (hfs hashLevel List.mem_cons_self).2

/-- A filter with no wildcard byte has only literal levels. -/
theorem literal_levels_of_any {filter : List UInt8}
    (hany : (filter.any fun b => b == 0x2B || b == 0x23) = false) :
    ∀ l ∈ levels filter, Literal l := by
  intro l hl
  have hsub := (mem_levels hl).2
  have hnone : ∀ b ∈ filter, (b == 0x2B || b == 0x23) = false := by
    simpa using hany
  constructor
  · rintro rfl
    simpa using hnone 0x2B (hsub (by decide))
  · rintro rfl
    simpa using hnone 0x23 (hsub (by decide))

/-! ## The client's test -/

/-- For a filter with `#` at most as its last level, the client's test is the relation. -/
theorem accepts_iff_matches {filter : List UInt8} (hf : hashLevel ∉ (levels filter).dropLast)
    (topic : List UInt8) : accepts filter topic = true ↔ Matches (levels filter) (levels topic) := by
  unfold accepts
  cases hany : filter.any fun b => b == 0x2B || b == 0x23
  · -- no wildcard byte: only the filter itself matches
    simp only [Bool.false_and, Bool.or_false, beq_iff_eq]
    constructor
    · rintro rfl
      exact matches_self hf
    · intro h
      exact (levels_injective (eq_of_matches_literals h (literal_levels_of_any hany))).symm
  · simp only [Bool.true_and, Bool.or_eq_true, beq_iff_eq, matchLevels_iff_matches hf]
    constructor
    · rintro (rfl | h)
      · exact matches_self hf
      · exact h
    · exact Or.inr

/-! ## Shared subscriptions -/

theorem levels_share : levels (Utf8.encode "$share") = [Utf8.encode "$share"] := by
  simp only [Utf8.encode_eq]
  decide

/-- A shared subscription is delivered as its filter, whatever its group. -/
theorem unshare_share {group : List UInt8} (hg : slash ∉ group) (filter : List UInt8) :
    unshare (Utf8.encode "$share/" ++ group ++ slash :: filter) = filter := by
  have hshare : Utf8.encode "$share/" = Utf8.encode "$share" ++ [slash] := by
    simp only [Utf8.encode_eq]
    decide
  have hlevels : levels (Utf8.encode "$share/" ++ group ++ slash :: filter) =
      Utf8.encode "$share" :: group :: levels filter := by
    rw [hshare, List.append_assoc, List.append_assoc, List.singleton_append, levels_append_slash,
      levels_append_slash, levels_share, levels_plain hg]
    rfl
  have hstart : (Utf8.encode "$share/").isPrefixOf (Utf8.encode "$share/" ++ group ++ slash :: filter)
      = true := by
    rw [List.isPrefixOf_iff_prefix, List.append_assoc]
    exact List.prefix_append _ _
  have hlen : 3 ≤ (levels (Utf8.encode "$share/" ++ group ++ slash :: filter)).length := by
    rw [hlevels, List.length_cons, List.length_cons]
    have := List.length_pos_iff.2 (levels_ne_nil filter)
    omega
  rw [unshare_of_isPrefixOf hstart hlen, hlevels]
  exact List.intercalate_splitOn slash

/-- Topic matching: for every well-formed filter the client's test is the level-by-level relation,
for every topic, those that start with `$` included; and a shared subscription matches as its
filter. -/
theorem topic_matching :
    (∀ filter topic : List UInt8, WellFormed filter →
      (accepts filter topic = true ↔ Matches (levels filter) (levels topic))) ∧
    ∀ group filter topic : List UInt8, slash ∉ group →
      accepts (unshare (Utf8.encode "$share/" ++ group ++ slash :: filter)) topic =
        accepts filter topic :=
  ⟨fun _ topic hf => accepts_iff_matches hf.hashLast topic,
    fun _ filter _ hg => by rw [unshare_share hg filter]⟩

/-- The shared subscription of the fleet's group to everything under `robot` matches the parent
level itself. -/
theorem topic_matching_robot_parent :
    WellFormed (Utf8.encode "robot/#") ∧
    (accepts (Utf8.encode "robot/#") (Utf8.encode "robot") = true ↔
      Matches (levels (Utf8.encode "robot/#")) (levels (Utf8.encode "robot"))) ∧
    slash ∉ Utf8.encode "fleet" ∧
    accepts (unshare (Utf8.encode "$share/" ++ Utf8.encode "fleet" ++ slash :: Utf8.encode "robot/#"))
        (Utf8.encode "robot") =
      accepts (Utf8.encode "robot/#") (Utf8.encode "robot") := by
  have hwf : WellFormed (Utf8.encode "robot/#") := by
    constructor <;> simp only [Utf8.encode_eq] <;> decide
  have hg : slash ∉ Utf8.encode "fleet" := by
    simp only [Utf8.encode_eq]
    decide
  exact ⟨hwf, topic_matching.1 _ _ hwf, hg, topic_matching.2 _ _ _ hg⟩

/-- A filter whose first level is `#` matches a topic that starts with `$`. -/
theorem hash_matches_system_topic :
    (levels (Utf8.encode "#")).head? = some hashLevel ∧
      (Utf8.encode "$SYS/uptime").head? = some 0x24 ∧
      accepts (Utf8.encode "#") (Utf8.encode "$SYS/uptime") = true := by
  have hlevels : levels (Utf8.encode "#") = [hashLevel] := by
    simp only [Utf8.encode_eq]
    decide
  refine ⟨by rw [hlevels]; rfl, by simp only [Utf8.encode_eq]; decide,
    (accepts_iff_matches (by rw [hlevels]; decide) _).2 ?_⟩
  rw [hlevels]
  exact .hash _

end DeliveryFleet.Filter
