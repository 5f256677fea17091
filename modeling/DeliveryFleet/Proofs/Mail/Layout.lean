import Mathlib
import DeliveryFleet.Mail.Message

/-!
# The layout of a mail

Mail text is read as lines, each ended by CR LF (`Mail.block`), and its header ends at the first
empty line, the first CR LF CR LF (`Mail.splitAtBlank`). A text that holds no CR LF is one line
(`Mail.OneLine`), and lines of that kind are read back from their block in one way only
(`Mail.block_inj`).

When the sender and the recipient are one line each, as the mail server's envelope commands
require of them, a mail splits at its first empty line into exactly its five header fields,
`From`, `To`, `Subject`, `MIME-Version` and `Content-Type` (`Mail.headerFields`), and the body
written with CR LF line ends and a final CR LF (`Mail.message_layout`). The subject has every line
break turned into a space, so whatever it holds it stays one field (`Mail.oneLine_subjectField`).
Writing the body's CR LFs back as line feeds (`Mail.lfText`) gives the body
(`Mail.lfText_crlfBody`).

A sender with a CR LF in it does add a field (`Mail.sender_line_break_adds_field`).
-/

namespace DeliveryFleet.Mail

/-- The end of a line of mail text. -/
def crlf : List Char := ['\r', '\n']

/-- Lines, each ended by CR LF. -/
def block (ls : List (List Char)) : List Char := (ls.map (· ++ crlf)).flatten

/-- Text with no CR LF in it. -/
def OneLine (l : List Char) : Prop := ¬ crlf <:+: l

instance : DecidablePred OneLine := fun l => inferInstanceAs (Decidable (¬ crlf <:+: l))

/-- Splits text at its first empty line, the first CR LF CR LF: the header block with its last
CR LF, and what follows the empty line. -/
def splitAtBlank : List Char → Option (List Char × List Char)
  | [] => none
  | c :: rest =>
    if crlf ++ crlf <+: c :: rest then some (crlf, rest.drop 3)
    else (splitAtBlank rest).map fun p => (c :: p.1, p.2)

/-- Text with each CR LF written back as a line feed, read from the left. -/
def lfText : List Char → List Char
  | '\r' :: '\n' :: rest => '\n' :: lfText rest
  | c :: rest => c :: lfText rest
  | [] => []

/-- The header fields of a mail, in order. -/
def headerFields (sender recipient subject : String) : List (List Char) :=
  [("From: " ++ sender).toList, ("To: " ++ recipient).toList,
    ("Subject: " ++ flatten subject).toList, "MIME-Version: 1.0".toList,
    "Content-Type: text/plain; charset=UTF-8".toList]

/-! ## Lines -/

theorem crlf_prefix_cons {c : Char} {l : List Char} :
    crlf <+: c :: l ↔ c = '\r' ∧ l.head? = some '\n' := by
  cases l with
  | nil => simp [crlf]
  | cons d l =>
    simp only [crlf, List.cons_prefix_cons, List.nil_prefix, and_true, List.head?_cons,
      Option.some.injEq]
    exact ⟨fun ⟨h₁, h₂⟩ => ⟨h₁.symm, h₂.symm⟩, fun ⟨h₁, h₂⟩ => ⟨h₁.symm, h₂.symm⟩⟩

theorem oneLine_cons {c : Char} {l : List Char} :
    OneLine (c :: l) ↔ ¬ (c = '\r' ∧ l.head? = some '\n') ∧ OneLine l := by
  simp only [OneLine, List.infix_cons_iff, crlf_prefix_cons, not_or]

theorem oneLine_of_not_mem {l : List Char} (h : '\r' ∉ l) : OneLine l :=
  fun hi => h (hi.subset (by simp [crlf]))

/-- A non-empty one-line text and its line end do not start with a line end. -/
theorem not_crlf_prefix_line {l : List Char} (hl : OneLine l) (hne : l ≠ []) (x : List Char) :
    ¬ crlf <+: l ++ crlf ++ x := by
  obtain ⟨c, l, rfl⟩ := List.exists_cons_of_ne_nil hne
  rw [List.cons_append, List.cons_append, crlf_prefix_cons]
  rintro ⟨rfl, hhead⟩
  cases l with
  | nil => simp [crlf] at hhead
  | cons d l => exact (oneLine_cons.1 hl).1 ⟨rfl, by simpa using hhead⟩

/-- A one-line text, its line end, and more: the line end is the first CR LF. -/
theorem append_crlf_inj :
    ∀ {l l' x x' : List Char}, OneLine l → OneLine l' → l ++ crlf ++ x = l' ++ crlf ++ x' →
      l = l' ∧ x = x'
  | [], [], _, _, _, _, h => ⟨rfl, by simpa [crlf] using h⟩
  -- an empty line against a non-empty one: the non-empty one would start with its line end
  | [], c :: l', x, _, _, hl', h =>
    absurd ⟨x, h⟩ (not_crlf_prefix_line hl' (List.cons_ne_nil c l') _)
  | c :: l, [], _, x', hl, _, h =>
    absurd ⟨x', h.symm⟩ (not_crlf_prefix_line hl (List.cons_ne_nil c l) _)
  | c :: l, c' :: l', _, _, hl, hl', h => by
    simp only [List.cons_append, List.cons.injEq] at h
    obtain ⟨rfl, h⟩ := h
    obtain ⟨rfl, rfl⟩ := append_crlf_inj (oneLine_cons.1 hl).2 (oneLine_cons.1 hl').2 h
    exact ⟨rfl, rfl⟩

/-- One-line texts are read back from their block in one way only. -/
theorem block_inj :
    ∀ {ls ls' : List (List Char)}, (∀ l ∈ ls, OneLine l) → (∀ l ∈ ls', OneLine l) →
      block ls = block ls' → ls = ls'
  | [], [], _, _, _ => rfl
  | [], l' :: _, _, _, h => by simp [block, crlf] at h
  | l :: _, [], _, _, h => by simp [block, crlf] at h
  | l :: ls, l' :: ls', hls, hls', h => by
    simp only [block, List.map_cons, List.flatten_cons] at h
    obtain ⟨rfl, hrest⟩ := append_crlf_inj (hls l List.mem_cons_self)
      (hls' l' List.mem_cons_self) (by simpa [List.append_assoc] using h)
    rw [block_inj (fun m hm => hls m (List.mem_cons_of_mem _ hm))
      (fun m hm => hls' m (List.mem_cons_of_mem _ hm)) hrest]

/-! ## The first empty line -/

/-- After a one-line text and its line end, the first empty line is either right there or
further on. -/
theorem splitAtBlank_line {l : List Char} (hl : OneLine l) (rest : List Char) :
    splitAtBlank (l ++ crlf ++ rest) =
      if crlf <+: rest then some (l ++ crlf, rest.drop 2)
      else (splitAtBlank rest).map fun p => (l ++ crlf ++ p.1, p.2) := by
  induction l with
  | nil =>
    have hlf : ¬ crlf ++ crlf <+: '\n' :: rest := by simp [crlf]
    have hcr : (crlf ++ crlf <+: '\r' :: '\n' :: rest) ↔ crlf <+: rest := by
      simp [crlf, List.cons_prefix_cons]
    rw [show [] ++ crlf ++ rest = '\r' :: '\n' :: rest from rfl, splitAtBlank, splitAtBlank,
      if_neg hlf]
    by_cases hp : crlf <+: rest
    · rw [if_pos (hcr.2 hp), if_pos hp]
      rfl
    · rw [if_neg (mt hcr.1 hp), if_neg hp, Option.map_map]
      rfl
  | cons c l ih =>
    -- the text starts with `c`, and no line end starts there, let alone an empty line
    have hno : ¬ crlf ++ crlf <+: c :: (l ++ crlf ++ rest) := fun hp =>
      not_crlf_prefix_line hl (List.cons_ne_nil c l) rest ((List.prefix_append crlf crlf).trans hp)
    rw [List.cons_append, List.cons_append, splitAtBlank, if_neg (by simpa using hno),
      ih (oneLine_cons.1 hl).2]
    split_ifs <;> simp [Option.map_map, Function.comp_def]

/-- A block of non-empty lines, then an empty line: the block is the header. -/
theorem splitAtBlank_block :
    ∀ {ls : List (List Char)}, ls ≠ [] → (∀ l ∈ ls, OneLine l ∧ l ≠ []) → ∀ r,
      splitAtBlank (block ls ++ crlf ++ r) = some (block ls, r)
  | [l], _, hls, r => by
    have hsplit := splitAtBlank_line (hls l List.mem_cons_self).1 (crlf ++ r)
    rw [if_pos (List.prefix_append _ _), show (crlf ++ r).drop 2 = r from rfl] at hsplit
    simpa [block, List.append_assoc] using hsplit
  | l :: l₂ :: ls, _, hls, r => by
    have htail : ∀ m ∈ l₂ :: ls, OneLine m ∧ m ≠ [] := fun m hm => hls m (List.mem_cons_of_mem _ hm)
    have hsplit := splitAtBlank_line (hls l List.mem_cons_self).1 (block (l₂ :: ls) ++ crlf ++ r)
    have hnext : ¬ crlf <+: block (l₂ :: ls) ++ crlf ++ r := by
      simpa [block, List.append_assoc] using
        not_crlf_prefix_line (htail l₂ List.mem_cons_self).1 (htail l₂ List.mem_cons_self).2
          (block ls ++ crlf ++ r)
    rw [if_neg hnext, splitAtBlank_block (List.cons_ne_nil _ _) htail r] at hsplit
    simpa [block, List.append_assoc] using hsplit

/-! ## The body -/

/-- The body with its line feeds written as CR LF. -/
theorem toList_crlfBody (b : String) :
    (crlfBody b).toList = b.toList.flatMap fun c => if c == '\n' then crlf else [c] := by
  simp [crlfBody, crlf]

theorem lfText_crlf_append (x : List Char) : lfText (crlf ++ x) = '\n' :: lfText x := by
  simp [crlf, lfText]

theorem lfText_cons_of_not {c : Char} {l : List Char} (h : ¬ (c = '\r' ∧ l.head? = some '\n')) :
    lfText (c :: l) = c :: lfText l := by
  match c, l, h with
  | c, [], _ => simp [lfText]
  | c, d :: l, h =>
    by_cases hc : c = '\r'
    · subst hc
      have hd : d ≠ '\n' := fun hd => h ⟨rfl, by simp [hd]⟩
      simp [lfText, hd]
    · simp [lfText, hc]

/-- A text written with CR LF line ends never starts with a bare line feed. -/
theorem head?_crlfText_ne (l : List Char) :
    (l.flatMap fun c => if c == '\n' then crlf else [c]).head? ≠ some '\n' := by
  cases l with
  | nil => simp
  | cons c l =>
    by_cases hc : c = '\n'
    · simp [hc, crlf]
    · simp [hc]

theorem lfText_crlfText (l : List Char) :
    lfText (l.flatMap fun c => if c == '\n' then crlf else [c]) = l := by
  induction l with
  | nil => simp [lfText]
  | cons c l ih =>
    rw [List.flatMap_cons]
    by_cases hc : c = '\n'
    · simp only [hc, beq_self_eq_true, if_true]
      rw [lfText_crlf_append, ih]
    · rw [if_neg (by simpa using hc), List.singleton_append,
        lfText_cons_of_not (fun h => head?_crlfText_ne l h.2), ih]

/-- Writing the CR LFs of a body back as line feeds gives the body. -/
theorem lfText_crlfBody (b : String) : lfText (crlfBody b).toList = b.toList := by
  rw [toList_crlfBody, lfText_crlfText]

/-! ## The mail -/

theorem message_toList (sender recipient subject body : String) :
    (message sender recipient subject body).toList =
      block (headerFields sender recipient subject) ++ crlf ++
        ((crlfBody body).toList ++ crlf) := by
  -- the line ends inside the text's literals
  have hend : "\r\n".toList = crlf := by simp [crlf]
  have hmime : "MIME-Version: 1.0\r\n".toList = "MIME-Version: 1.0".toList ++ crlf := by
    simp [crlf]
  have htype : "Content-Type: text/plain; charset=UTF-8\r\n".toList =
      "Content-Type: text/plain; charset=UTF-8".toList ++ crlf := by
    simp [crlf]
  unfold message
  simp only [String.toList_append, hend, hmime, htype, block, headerFields, List.map_cons,
    List.map_nil, List.flatten_cons, List.flatten_nil, List.append_nil, List.append_assoc]

/-- The subject has every line break turned into a space. -/
theorem toList_flatten (s : String) :
    (flatten s).toList = s.toList.map fun c => if c == '\r' || c == '\n' then ' ' else c := by
  simp [flatten]

theorem oneLine_subjectField (subject : String) :
    OneLine ("Subject: " ++ flatten subject).toList := by
  apply oneLine_of_not_mem
  simp only [String.toList_append, toList_flatten, List.mem_append, List.mem_map, not_or]
  refine ⟨by decide, ?_⟩
  rintro ⟨c, -, hc⟩
  split at hc <;> simp_all

theorem headerFields_oneLine {sender recipient : String} (hs : OneLine sender.toList)
    (hr : OneLine recipient.toList) (subject : String) :
    ∀ l ∈ headerFields sender recipient subject, OneLine l ∧ l ≠ [] := by
  simp only [headerFields, List.mem_cons, List.not_mem_nil, or_false]
  rintro l (rfl | rfl | rfl | rfl | rfl)
  · simpa [oneLine_cons] using hs
  · simpa [oneLine_cons] using hr
  · exact ⟨oneLine_subjectField subject, by simp⟩
  · decide
  · decide

/-- The layout of a mail whose sender and recipient are one line each: its text splits at the
first empty line into a header that reads, as one-line fields, exactly as the five header fields
and in no other way, and the body with CR LF line ends and a final CR LF; writing those CR LFs
back as line feeds gives the body. -/
theorem message_layout (sender recipient subject body : String) (hs : OneLine sender.toList)
    (hr : OneLine recipient.toList) :
    ∃ header, splitAtBlank (message sender recipient subject body).toList =
        some (header, (crlfBody body).toList ++ crlf) ∧
      (∀ ls, (∀ l ∈ ls, OneLine l) →
        (block ls = header ↔ ls = headerFields sender recipient subject)) ∧
      lfText (crlfBody body).toList = body.toList := by
  have hfields := headerFields_oneLine hs hr subject
  refine ⟨block (headerFields sender recipient subject), ?_, ?_, lfText_crlfBody body⟩
  · rw [message_toList, splitAtBlank_block (by simp [headerFields]) hfields]
  · intro ls hls
    exact ⟨block_inj hls (fun l hl => (hfields l hl).1), fun h => h ▸ rfl⟩

/-- The mail of the header-injection test: a subject that tries to add a `Bcc` field stays one
field. -/
theorem message_layout_bcc_subject :
    OneLine "a@x".toList ∧ OneLine "b@y".toList ∧
    ∃ header, splitAtBlank (message "a@x" "b@y" "code\r\nBcc: evil@z" "line1\nline2").toList =
        some (header, (crlfBody "line1\nline2").toList ++ crlf) ∧
      (∀ ls, (∀ l ∈ ls, OneLine l) →
        (block ls = header ↔ ls = headerFields "a@x" "b@y" "code\r\nBcc: evil@z")) ∧
      lfText (crlfBody "line1\nline2").toList = "line1\nline2".toList := by
  have hs : OneLine "a@x".toList := by decide
  have hr : OneLine "b@y".toList := by decide
  exact ⟨hs, hr, message_layout "a@x" "b@y" "code\r\nBcc: evil@z" "line1\nline2" hs hr⟩

/-- A sender with a CR LF in it adds a field: the header of its mail reads as six one-line
fields, and as nothing else. -/
theorem sender_line_break_adds_field :
    ∃ header, splitAtBlank (message "a\r\nBcc: evil@z" "b@y" "s" "b").toList =
        some (header, "b\r\n".toList) ∧
      ∀ ls, (∀ l ∈ ls, OneLine l) → block ls = header →
        ls = ["From: a".toList, "Bcc: evil@z".toList, "To: b@y".toList, "Subject: s".toList,
          "MIME-Version: 1.0".toList, "Content-Type: text/plain; charset=UTF-8".toList] := by
  have hfields : ∀ l ∈ ["From: a".toList, "Bcc: evil@z".toList, "To: b@y".toList,
      "Subject: s".toList, "MIME-Version: 1.0".toList,
      "Content-Type: text/plain; charset=UTF-8".toList], OneLine l ∧ l ≠ [] := by decide
  have htext : (message "a\r\nBcc: evil@z" "b@y" "s" "b").toList =
      block ["From: a".toList, "Bcc: evil@z".toList, "To: b@y".toList, "Subject: s".toList,
        "MIME-Version: 1.0".toList, "Content-Type: text/plain; charset=UTF-8".toList] ++ crlf ++
        "b\r\n".toList := by
    rw [message_toList, toList_crlfBody]
    simp only [headerFields, String.toList_append, toList_flatten]
    decide
  refine ⟨_, by rw [htext, splitAtBlank_block (by simp) hfields], ?_⟩
  intro ls hls hblock
  exact block_inj hls (fun l hl => (hfields l hl).1) hblock

end DeliveryFleet.Mail
