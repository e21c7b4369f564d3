import Mathlib

/-! Machines that cut a stream into messages and are fed in chunks. A failure ends its chunk, and what the chunk
completed before is lost with it. -/
namespace Scanner
open List
variable {β γ ε : Type*}

/-- What a machine makes of the items it holds. -/
inductive Verdict (ε γ : Type*) where
  | waiting
  | failed (e : ε)
  | done (message : γ)

section Machine
variable (judge : List β → Verdict ε γ)

/-- One chunk, item by item. -/
def scan (held : List β) (messages : List γ) : List β → Except ε (List γ) × List β
  | [] => (.ok messages, held)
  | item :: rest =>
    match judge (held ++ [item]) with
    | .waiting => scan (held ++ [item]) messages rest
    | .failed e => (.error e, [])
    | .done message => scan [] (messages ++ [message]) rest

/-- Chunk after chunk, whether one fails or not. -/
def feed (held : List β) : List (List β) → List (Except ε (List γ)) × List β
  | [] => ([], held)
  | chunk :: rest =>
    ((scan judge held [] chunk).1 :: (feed (scan judge held [] chunk).2 rest).1, (feed (scan judge held [] chunk).2 rest).2)

/-- Nothing is decided before the held items are complete. -/
def Waits (held : List β) : Prop := ∀ front, front <+: held → front ≠ [] → judge front = .waiting

/-- Items that are judged when the last of them comes, and not before. -/
def Frame (items : List β) (verdict : Verdict ε γ) : Prop :=
  ∃ held item, items = held ++ [item] ∧ Waits judge held ∧ judge items = verdict

/-- No message begins anywhere in the stream. -/
def Sterile (stream : List β) : Prop :=
  ∀ skipped items after message, stream = skipped ++ items ++ after → ¬Frame judge items (.done message)

end Machine

/-- The messages of the chunks that did not fail. -/
def delivered (answers : List (Except ε (List γ))) : List γ := answers.flatMap fun answer => answer.toOption.getD []

variable {judge : List β → Verdict ε γ} {held items : List β} {messages : List γ}

theorem waits_nil : Waits judge [] := fun _ hfront hne => absurd (prefix_nil.mp hfront) hne

variable {item : β} {e : ε} {frames : List (List β)} {sent : List γ} {last front back broken : List β}

theorem Waits.concat (h : Waits judge held) (hitem : judge (held ++ [item]) = .waiting) :
    Waits judge (held ++ [item]) := by
  intro front hfront hne
  rcases prefix_concat_iff.mp hfront with rfl | hfront
  · exact hitem
  · exact h front hfront hne

theorem scan_waits (rest : List β) (h : Waits judge (held ++ items)) :
    scan judge held messages (items ++ rest) = scan judge (held ++ items) messages rest := by
  induction items generalizing held with
  | nil => rw [append_nil, nil_append]
  | cons item items ih =>
    have hsplit : held ++ item :: items = (held ++ [item]) ++ items := by
      rw [append_assoc]
      rfl
    rw [hsplit] at h ⊢
    rw [cons_append, scan, h (held ++ [item]) (prefix_append _ _) (by simp)]
    exact ih h

/-- The first item that decides something ends what is held. -/
theorem scan_decides (rest : List β) (h : Waits judge (held ++ items)) :
    scan judge held messages (items ++ item :: rest) =
      match judge (held ++ items ++ [item]) with
      | .waiting => scan judge (held ++ items ++ [item]) messages rest
      | .failed e => (.error e, [])
      | .done message => scan judge [] (messages ++ [message]) rest := by
  rw [scan_waits _ h, scan]

theorem Frame.scan_done {message : γ} (h : Frame judge items (.done message)) (rest : List β) :
    scan judge [] messages (items ++ rest) = scan judge [] (messages ++ [message]) rest := by
  obtain ⟨held, item, rfl, hwaits, hjudged⟩ := h
  rw [append_assoc, singleton_append, scan_decides rest (by rwa [nil_append]), nil_append, hjudged]

theorem Frame.scan_failed (h : Frame judge items (.failed e)) (rest : List β) :
    scan judge [] messages (items ++ rest) = (.error e, []) := by
  obtain ⟨held, item, rfl, hwaits, hjudged⟩ := h
  rw [append_assoc, singleton_append, scan_decides rest (by rwa [nil_append]), nil_append, hjudged]

theorem scan_frames (h : List.Forall₂ (fun frame message => Frame judge frame (.done message)) frames sent) :
    scan judge [] messages frames.flatten = (.ok (messages ++ sent), []) := by
  induction h generalizing messages with
  | nil => rw [append_nil]; rfl
  | cons hframe _ ih =>
    rw [flatten_cons, hframe.scan_done, ih, append_assoc]
    rfl

theorem scan_append (first second : List β) : scan judge held messages (first ++ second) =
    match scan judge held messages first with
    | (.ok found, held') => scan judge held' found second
    | (.error e, held') => (.error e, held') := by
  induction first generalizing held messages with
  | nil => rfl
  | cons item first ih =>
    rw [cons_append, scan, scan]
    cases judge (held ++ [item]) with
    | waiting => exact ih
    | failed e => rfl
    | done message => exact ih

theorem scan_messages (chunk : List β) : scan judge held messages chunk =
    match scan judge held [] chunk with
    | (.ok found, held') => (.ok (messages ++ found), held')
    | (.error e, held') => (.error e, held') := by
  induction chunk generalizing held messages with
  | nil => simp [scan]
  | cons item chunk ih =>
    rw [scan, scan]
    cases judge (held ++ [item]) with
    | waiting => exact ih
    | failed e => rfl
    | done message =>
      have hlater := @ih [] (messages ++ [message])
      have hfirst := @ih [] [message]
      change scan judge [] (messages ++ [message]) chunk = match scan judge [] [message] chunk with
        | (.ok found, held') => (.ok (messages ++ found), held')
        | (.error e, held') => (.error e, held')
      rw [hlater, hfirst]
      cases scan judge [] [] chunk with
      | mk answer held' => cases answer <;> simp

/-- How a stream that does not fail is cut does not matter. -/
theorem feed_cut (chunks : List (List β)) (h : scan judge held [] chunks.flatten = (.ok sent, last)) :
    ∃ returned : List (List γ), feed judge held chunks = (returned.map .ok, last) ∧ returned.flatten = sent := by
  induction chunks generalizing held sent with
  | nil =>
    obtain ⟨hsent, hlast⟩ := Prod.mk.inj h
    exact ⟨[], by rw [feed, hlast]; rfl, Except.ok.inj hsent⟩
  | cons chunk rest ih =>
    rw [flatten_cons, scan_append] at h
    rw [feed]
    cases hchunk : scan judge held [] chunk with
    | mk answer held' =>
      rw [hchunk] at h
      cases answer with
      | error e => cases h
      | ok found =>
        change scan judge held' found rest.flatten = (.ok sent, last) at h
        rw [scan_messages] at h
        cases hrest : scan judge held' [] rest.flatten with
        | mk later last' =>
          rw [hrest] at h
          cases later with
          | error e => cases h
          | ok others =>
            obtain ⟨hsent, rfl⟩ := Prod.mk.inj h
            obtain ⟨returned, hfeed, hflat⟩ := ih hrest
            refine ⟨found :: returned, ?_, ?_⟩
            · rw [hfeed]
              rfl
            · rw [flatten_cons, hflat]
              exact Except.ok.inj hsent

theorem delivered_ok (returned : List (List γ)) : delivered (returned.map (Except.ok (ε := ε))) = returned.flatten := by
  induction returned with
  | nil => rfl
  | cons first rest ih =>
    rw [map_cons, delivered, flatMap_cons, flatten_cons]
    exact congrArg (first ++ ·) ih

theorem feed_append (front back : List (List β)) : feed judge held (front ++ back) =
    ((feed judge held front).1 ++ (feed judge (feed judge held front).2 back).1,
      (feed judge (feed judge held front).2 back).2) := by
  induction front generalizing held with
  | nil => rfl
  | cons chunk front ih =>
    rw [cons_append, feed, feed, ih]
    rfl

theorem Frame.front_waits (h : Frame judge items verdict)
    (hsplit : items = front ++ back) (hfront : front ≠ []) (hback : back ≠ []) : judge front = .waiting := by
  obtain ⟨held, item, rfl, hwaits, _⟩ := h
  refine hwaits front ?_ hfront
  rcases prefix_concat_iff.mp ⟨back, hsplit.symm⟩ with hwhole | hfront
  · rw [hwhole, self_eq_append_right] at hsplit
    exact absurd hsplit hback
  · exact hfront

theorem delivered_append (front back : List (Except ε (List γ))) :
    delivered (front ++ back) = delivered front ++ delivered back :=
  flatMap_append

/-- A malformed part costs no message if the chunk that completes it holds only its bytes. -/
theorem feed_broken {front : List (List β)}
    (h : List.Forall₂ (fun frame message => Frame judge frame (.done message)) frames sent)
    (hbroken : Frame judge broken (.failed e)) (hcut : front.flatten ++ last = frames.flatten ++ broken) (hlast : last ≠ [])
    (hlength : last.length ≤ broken.length) :
    ∃ returned : List (List γ), feed judge [] (front ++ [last]) = (returned.map .ok ++ [.error e], []) ∧ returned.flatten = sent := by
  obtain ⟨part, hpart⟩ := suffix_of_suffix_length_le (hcut ▸ suffix_append _ _ : last <:+ frames.flatten ++ broken)
    (suffix_append _ _) hlength
  have hfront : front.flatten = frames.flatten ++ part := by
    rw [← hpart, ← append_assoc] at hcut
    exact append_cancel_right hcut
  have hwaits : Waits judge part := by
    intro start hstart hne
    obtain ⟨more, rfl⟩ := hstart
    have hsplit : broken = start ++ (more ++ last) := by
      rw [← hpart, append_assoc]
    exact hbroken.front_waits hsplit hne (by simp [hlast])
  have hscan : scan judge [] [] front.flatten = (.ok sent, part) := by
    rw [hfront, scan_append, scan_frames h]
    have hheld := @scan_waits _ _ _ judge [] part sent [] (by rwa [nil_append])
    rw [append_nil, nil_append] at hheld
    exact hheld
  have hfails : scan judge part [] last = (.error e, []) := by
    have hwhole := @Frame.scan_failed _ _ _ judge broken [] e hbroken []
    rw [append_nil, ← hpart, scan_waits _ (by rwa [nil_append]), nil_append] at hwhole
    exact hwhole
  obtain ⟨returned, hfeed, hflat⟩ := feed_cut front hscan
  refine ⟨returned, ?_, hflat⟩
  rw [feed_append, hfeed, feed, hfails]
  rfl

/-- A stream with a malformed part fails when it comes in one chunk. -/
theorem scan_frames_failed (h : ∀ frame ∈ frames, ∃ verdict, Frame judge frame verdict ∧ verdict ≠ .waiting)
    (hbroken : broken ∈ frames) (hfailed : Frame judge broken (.failed e)) :
    ∃ e, scan judge [] messages frames.flatten = (.error e, []) := by
  induction frames generalizing messages with
  | nil => cases hbroken
  | cons frame rest ih =>
    obtain ⟨verdict, hframe, hdecided⟩ := h frame mem_cons_self
    rw [flatten_cons]
    cases verdict with
    | waiting => exact absurd rfl hdecided
    | failed e => exact ⟨e, hframe.scan_failed _⟩
    | done message =>
      rw [hframe.scan_done]
      rcases mem_cons.mp hbroken with rfl | hrest
      · obtain ⟨_, _, _, _, hdone⟩ := hframe
        obtain ⟨_, _, _, _, hfailed⟩ := hfailed
        cases hdone.symm.trans hfailed
      · exact ih (fun frame hmem => h frame (mem_cons_of_mem _ hmem)) hrest

theorem Sterile.suffix (h : Sterile judge (front ++ back)) : Sterile judge back := by
  intro skipped items after message hsplit
  refine h (front ++ skipped) items after message ?_
  rw [hsplit]
  simp [append_assoc]

/-- The machine holds a beginning without a message: none begins in it, or none after a malformed part at its
front. -/
def Barren (judge : List β → Verdict ε γ) (held rest : List β) : Prop :=
  Waits judge held ∧ (Sterile judge (held ++ rest) ∨ ∃ items after e, held ++ rest = items ++ after ∧
    Frame judge items (.failed e) ∧ held.length < items.length ∧ Sterile judge after)

theorem Barren.step (h : Barren judge held (item :: rest)) :
    match judge (held ++ [item]) with
    | .waiting => Barren judge (held ++ [item]) rest
    | .failed _ => Sterile judge rest
    | .done _ => False := by
  obtain ⟨hwaits, hrest⟩ := h
  have hshift : held ++ item :: rest = (held ++ [item]) ++ rest := by
    rw [append_assoc]
    rfl
  rw [hshift] at hrest
  rcases hrest with hsterile | ⟨items, after, e, hsplit, hframe, hlength, hsterile⟩
  · cases hjudge : judge (held ++ [item]) with
    | waiting => exact ⟨hwaits.concat hjudge, .inl hsterile⟩
    | failed e => exact hsterile.suffix
    | done message => exact hsterile [] _ rest message rfl ⟨held, item, rfl, hwaits, hjudge⟩
  · have hfront : held ++ [item] <+: items := by
      refine prefix_of_prefix_length_le (prefix_append _ rest) ⟨after, hsplit.symm⟩ ?_
      rw [length_append]
      exact hlength
    obtain ⟨back, hback⟩ := hfront
    by_cases hempty : back = []
    · rw [hempty, append_nil] at hback
      obtain ⟨_, _, _, _, hjudged⟩ := hframe
      rw [hback, hjudged]
      rw [hback] at hsplit
      obtain rfl := append_cancel_left hsplit
      exact hsterile
    · have hjudge := hframe.front_waits hback.symm (by simp) hempty
      rw [hjudge]
      refine ⟨hwaits.concat hjudge, .inr ⟨items, after, e, hsplit, hframe, ?_, hsterile⟩⟩
      have hlater : (held ++ [item] ++ back).length = (held ++ [item]).length + back.length := length_append
      rw [← hback, hlater]
      exact Nat.lt_add_of_pos_right (length_pos_of_ne_nil hempty)

theorem Barren.of_sterile (h : Sterile judge rest) : Barren judge [] rest := ⟨waits_nil, .inl h⟩

theorem Barren.scan {chunk more : List β} (h : Barren judge held (chunk ++ more)) :
    (∃ held', Scanner.scan judge held messages chunk = (.ok messages, held') ∧ Barren judge held' more) ∨
      ∃ e, Scanner.scan judge held messages chunk = (.error e, []) ∧ Barren judge [] more := by
  induction chunk generalizing held with
  | nil => exact .inl ⟨held, rfl, h⟩
  | cons item chunk ih =>
    have hstep := h.step
    rw [Scanner.scan]
    revert hstep
    cases judge (held ++ [item]) with
    | waiting => exact fun hstep => ih hstep
    | failed e => exact fun hstep => .inr ⟨e, rfl, .of_sterile (.suffix hstep)⟩
    | done message => exact False.elim

theorem Barren.feed {chunks : List (List β)} (h : Barren judge held chunks.flatten) :
    delivered (Scanner.feed judge held chunks).1 = [] := by
  induction chunks generalizing held with
  | nil => rfl
  | cons chunk rest ih =>
    rw [flatten_cons] at h
    rw [Scanner.feed]
    rcases @Barren.scan β γ ε judge held [] chunk rest.flatten h with ⟨held', hscan, hrest⟩ | ⟨e, hscan, hrest⟩
    · rw [hscan]
      exact ih hrest
    · rw [hscan]
      exact ih hrest

end Scanner
