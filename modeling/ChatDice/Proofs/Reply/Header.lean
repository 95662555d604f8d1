import ChatDice.Proofs.Reply.Length

/-!
# The header of a reply

The reply to a finished roll has a header above what it shows of the roll, if there is room.

**Theorem (`fit_longest_header`).** A header leaves room if the transcript or the summary fits into
the limit together with it, whichever of the two is shorter. Of the headers with the name and the
title, with the name alone and none at all, the reply has the first that leaves room, and under it
the transcript if that fits and the summary if not. If none leaves room, the reply is the summary
alone. A limit of 118 characters, which is the longest a summary can be, is always kept.

What is tried under a header fits just if the header leaves room (`length_under_le_iff`), so the
headers before the first that leaves room are passed over one by one, whether they are themselves
too long or not (`value_fitWith_cons_of_not`). The last header tried is none at all, which is never
too long itself: if it leaves no room, what was tried under it stands.
-/

namespace ChatDice.Reply

/-! ## One header -/

/-- The transcript or the summary fits into the limit together with the header, whichever is
shorter. -/
def LeavesRoom (o : Outcome) (limit : Nat) (header : String) : Prop :=
  header.length + min (o.transcript .markdown).length (o.summary .markdown).length ≤ limit

/-- What is shown under a header: the transcript if it fits, and else the summary. -/
def shown (o : Outcome) (limit : Nat) (header : String) : String :=
  if header.length + (o.transcript .markdown).length ≤ limit then o.transcript .markdown
  else o.summary .markdown

variable {o : Outcome} {limit : Nat} {header : String}

theorem under_eq (h : header.length ≤ limit) :
    under o limit header = header ++ shown o limit header := by
  rw [under, Outcome.value_render, shown]
  by_cases fits : header.length + (o.transcript .markdown).length ≤ limit
  · rw [if_pos fits, if_neg (by omega)]
  · rw [if_neg fits, if_pos (by omega)]

/-- **What is tried under a header fits just if the header leaves room.** -/
theorem length_under_le_iff (h : header.length ≤ limit) :
    (under o limit header).length ≤ limit ↔ LeavesRoom o limit header := by
  rw [under_eq h, String.length_append, shown, LeavesRoom]
  split <;> omega

theorem LeavesRoom.length_le (h : LeavesRoom o limit header) : header.length ≤ limit :=
  (Nat.le_add_right _ _).trans h

/-! ## Headers in a row -/

theorem value_fitWith_cons_of_leavesRoom (h : LeavesRoom o limit header) (latest : String)
    (rest : List String) :
    (fitWith o limit latest (header :: rest)).value = header ++ shown o limit header := by
  have short := h.length_le
  rw [value_fitWith_cons, if_neg (Nat.not_lt.2 short), if_pos ((length_under_le_iff short).2 h),
    under_eq short]

theorem value_fitWith_cons_of_not (h : ¬LeavesRoom o limit header) (latest : String)
    (rest : List String) :
    ∃ tried, (fitWith o limit latest (header :: rest)).value =
      (fitWith o limit tried rest).value := by
  rw [value_fitWith_cons]
  by_cases long : limit < header.length
  · exact ⟨latest, if_pos long⟩
  · have beyond := mt (length_under_le_iff (Nat.le_of_not_lt long)).1 h
    exact ⟨under o limit header, by rw [if_neg long, if_neg beyond]⟩

/-- Headers that leave no room are passed over, one after the other. -/
theorem value_fitWith_append {before : List String} (h : ∀ g ∈ before, ¬LeavesRoom o limit g)
    (latest : String) (rest : List String) :
    ∃ tried, (fitWith o limit latest (before ++ rest)).value =
      (fitWith o limit tried rest).value := by
  induction before generalizing latest with
  | nil => exact ⟨latest, rfl⟩
  | cons g before ih =>
    obtain ⟨tried, passed⟩ :=
      value_fitWith_cons_of_not (h g List.mem_cons_self) latest (before ++ rest)
    obtain ⟨later, others⟩ := ih (fun g hg => h g (List.mem_cons_of_mem _ hg)) tried
    exact ⟨later, passed.trans others⟩

theorem value_fitWith_none (h : ¬LeavesRoom o limit "") (latest : String) :
    (fitWith o limit latest [""]).value = o.summary .markdown := by
  have short : "".length ≤ limit := Nat.zero_le _
  have beyond := mt (length_under_le_iff short).1 h
  rw [value_fitWith_cons, if_neg (Nat.not_lt.2 short), if_neg beyond, under_eq short]
  show "" ++ shown o limit "" = _
  rw [String.empty_append, shown, if_neg]
  -- A summary is shown only where the transcript is too long, and then it is too long as well.
  exact fun fits => h (Nat.le_trans (Nat.add_le_add_left (Nat.min_le_left _ _) _) fits)

/-! ## The reply to a finished roll -/

variable {name : String}

theorem value_fit_of_leavesRoom {before after : List String}
    (parts : headers o name = before ++ header :: after)
    (passed : ∀ g ∈ before, ¬LeavesRoom o limit g) (room : LeavesRoom o limit header) :
    (fit o name limit).value = header ++ shown o limit header := by
  obtain ⟨tried, skipped⟩ := value_fitWith_append passed "" (header :: after)
  rw [fit, parts, skipped, value_fitWith_cons_of_leavesRoom room]

theorem value_fit_of_forall (h : ∀ g ∈ headers o name, ¬LeavesRoom o limit g) :
    (fit o name limit).value = o.summary .markdown := by
  -- No header at all is the last one tried, and what is shown under it stands.
  have parts : headers o name =
      ((o.title.map (titleHeader name)).toList ++ [nameHeader name]) ++ [""] :=
    (List.append_assoc _ [nameHeader name] [""]).symm
  rw [parts] at h
  obtain ⟨tried, skipped⟩ :=
    value_fitWith_append (fun g hg => h g (List.mem_append_left _ hg)) "" [""]
  rw [fit, parts, skipped, value_fitWith_none (h "" (by simp))]

theorem value_rollReply_of_rolled {σ : Type} [Roller σ] {input : String} {limits : Limits}
    {source : σ} (h : ((Session.start limits.maxRolls source).play
      (Request.classify input).value).value.1 = .ok (.rolled o)) (name : String) :
    (rollReply (fun _ => false) input name limits source).value.1 =
      (fit o name limits.maxLength).value := by
  have whole : (attempt input name limits source).events.any (fun _ => false) = false := by simp
  rw [value_rollReply, whole, if_neg Bool.false_ne_true, h]
  rfl

/-- **The reply keeps the longest header that leaves room.** -/
theorem fit_longest_header {σ : Type} [Roller σ] (o : Outcome) (name : String) (limit : Nat) :
    let candidates :=
      (o.title.map fun title => name ++ " rolls for \"" ++ title ++ "\":\n").toList ++
        [name ++ " rolls:\n", ""]
    let transcript := o.transcript .markdown
    let summary := o.summary .markdown
    let least := min transcript.length summary.length
    let reply := (fit o name limit).value
    (∀ before header after, candidates = before ++ header :: after →
      (∀ g ∈ before, limit < g.length + least) → header.length + least ≤ limit →
      reply =
          header ++ (if header.length + transcript.length ≤ limit then transcript else summary) ∧
        reply.length ≤ limit) ∧
    ((∀ header ∈ candidates, limit < header.length + least) → reply = summary) ∧
    (118 ≤ limit → reply.length ≤ limit) ∧
    ∀ (input : String) (limits : Limits) (source : σ), limits.maxLength = limit →
      ((Session.start limits.maxRolls source).play (Request.classify input).value).value.1 =
        .ok (.rolled o) →
      (rollReply (fun _ => false) input name limits source).value.1 = reply := by
  intro candidates transcript summary least reply
  refine ⟨?first, ?none, ?enough, ?rolled⟩
  case first =>
    intro before header after parts passed room
    have noRoom : ∀ g ∈ before, ¬LeavesRoom o limit g := fun g hg => Nat.not_le.2 (passed g hg)
    have chosen : reply = header ++ shown o limit header :=
      value_fit_of_leavesRoom parts noRoom room
    -- That it fits is read off the room that the header leaves.
    have fits := (length_under_le_iff (LeavesRoom.length_le room)).2 room
    rw [under_eq (LeavesRoom.length_le room), ← chosen] at fits
    exact ⟨chosen, fits⟩
  case none =>
    intro passed
    exact value_fit_of_forall fun g hg => Nat.not_le.2 (passed g hg)
  case enough =>
    intro enough
    exact (fitWith_fits (List.mem_append_right _ (by simp)) (o.length_summary_le.trans enough)).2
  case rolled =>
    rintro input limits source rfl rolled
    exact value_rollReply_of_rolled rolled name

/-- A transcript of 33 characters fits into 50 under the name, but not under the name and the title.
Into ten characters not even the summary fits, which has 67. -/
theorem fit_longest_header_named :
    let o : Outcome :=
      { title := some "Init", advantage := .straight, first := .dice [⟨⟨1, .d6, none⟩, [4]⟩],
        later := [], modifier := none }
    let limits : Limits := { maxLength := 50 }
    let source := Steps.startingAt 4 1
    (o.transcript .markdown).length = 33 ∧ (o.summary .markdown).length = 67 ∧
      ((Session.start limits.maxRolls source).play
        (Request.classify "d6 for:\"Init\"").value).value.1 = .ok (.rolled o) ∧
      (rollReply (fun _ => false) "d6 for:\"Init\"" "will" limits source).value.1 =
        "will rolls:\n" ++ o.transcript .markdown ∧
      (fit o "will" 50).value.length ≤ 50 ∧
      (fit o "will" 10).value = o.summary .markdown ∧
      (fit o "will" 118).value.length ≤ 118 := by
  intro o limits source
  have transcript : (o.transcript .markdown).length = 33 := by decide +kernel
  have summary : (o.summary .markdown).length = 67 := by decide +kernel
  have rolled : ((Session.start limits.maxRolls source).play
      (Request.classify "d6 for:\"Init\"").value).value.1 = .ok (.rolled o) := by decide +kernel
  have titled : (titleHeader "will" "Init").length = 23 := by decide +kernel
  have named : (nameHeader "will").length = 12 := by decide +kernel
  obtain ⟨first, -, -, replied⟩ := fit_longest_header (σ := Steps) o "will" 50
  obtain ⟨chosen, fits⟩ := first [titleHeader "will" "Init"] (nameHeader "will") [""] rfl
    (by simp [titled, transcript, summary]) (by simp [named, transcript, summary])
  rw [if_pos (by simp [named, transcript])] at chosen
  have none := (fit_longest_header (σ := Steps) o "will" 10).2.1 (by
    intro header _
    rw [transcript, summary]
    omega)
  have enough := (fit_longest_header (σ := Steps) o "will" 118).2.2.1 (Nat.le_refl _)
  exact ⟨transcript, summary, rolled, (replied _ limits source rfl rolled).trans chosen, fits, none,
    enough⟩

end ChatDice.Reply
