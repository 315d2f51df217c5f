import Dialogue.EventStream.Pump
import Dialogue.Proofs.EventStream.Framing

/-!
# What a stream sends

The rules of framing give a body its course: which frames are dispatched and when, and
how it ends, if it does (`Body.course`). Of these a listener with limited patience hears
those that come in time, each counted from the frame before (`Course.heard`), and then one
reason why it hears no more.

* `events_eq`: the pump sends the events among what is heard, up to the first terminal
  one, or the failure if there is none;
* `received_events`: so it sends events that end nothing and then one that ends the turn,
  and nothing for what comes later.
-/

namespace Dialogue.EventStream

/-! ## The course of a body -/

/-- What the rules of framing make of a body. -/
structure Course where
  /-- The frames, each with the time at which it is dispatched. -/
  frames : List (Nat × Frame)
  /-- When and why no more come; nothing if the body stays open. -/
  ending : Option (Nat × Failure)
  deriving DecidableEq, Repr

/-- The failure of a body that ends. -/
def Backlog.closing (k : Backlog) : Failure :=
  match Text.Utf8.head k.octets with
  | .empty => .closed
  | .invalid length => .notText (.invalid length)
  | _ => .notText .incomplete

/-- The course of what arrives from a time on. -/
def Course.following (staysOpen : Bool) (k : Backlog) (now : Nat) : List Arrival → Course
  | [] => { frames := [], ending := if staysOpen then none else some (now, k.closing) }
  | .failure message :: _ => { frames := [], ending := some (now, .broken message) }
  | .pause time :: rest => following staysOpen k (now + time) rest
  | .octets piece :: rest =>
    let (k, frames) := k.take piece
    let course := following staysOpen k now rest
    { course with frames := frames.map (now, ·) ++ course.frames }

/-- The course of a body. -/
def Body.course (body : Body) : Course :=
  .following body.staysOpen {} 0 body.arrivals

/-! ## What is heard of it -/

/-- The frames that come in time after the last one, each within the longest wait after the
    one before it, and why there are no more. -/
def hearing (idle : Nat) (ending : Option (Nat × Failure)) (last : Nat) :
    List (Nat × Frame) → List Frame × Failure
  | [] =>
    match ending with
    | some (time, failure) => ([], if time ≤ last + idle then failure else .idle idle)
    | none => ([], .idle idle)
  | (time, frame) :: rest =>
    if time ≤ last + idle then
      let (frames, failure) := hearing idle ending time rest
      (frame :: frames, failure)
    else ([], .idle idle)

/-- What is heard of a body, given the longest wait for a frame in milliseconds. -/
def Body.heard (idle : Nat) (body : Body) : List Frame × Failure :=
  hearing idle body.course.ending 0 body.course.frames

variable {idle last now : Nat} {staysOpen : Bool} {k : Backlog}

theorem Course.following_octets (piece : List UInt8) (rest : List Arrival) :
    Course.following staysOpen k now (.octets piece :: rest) =
      { frames := (k.take piece).2.map (now, ·) ++
          (Course.following staysOpen (k.take piece).1 now rest).frames
        ending := (Course.following staysOpen (k.take piece).1 now rest).ending } := rfl

/-- The frames that come at once are heard, and with the last of them the wait begins
    anew. -/
theorem hearing_map_append (ending : Option (Nat × Failure)) (h : now ≤ last + idle)
    (frames : List Frame) (more : List (Nat × Frame)) :
    hearing idle ending last (frames.map (now, ·) ++ more) =
      (frames ++ (hearing idle ending (if frames.isEmpty then last else now) more).1,
        (hearing idle ending (if frames.isEmpty then last else now) more).2) := by
  induction frames generalizing last with
  | nil => rfl
  | cons frame frames ih =>
    rw [List.map_cons, List.cons_append, hearing, if_pos h, ih (Nat.le_add_right now idle)]
    cases frames <;> rfl

/-- What comes too late is not heard. -/
theorem hearing_following_of_lt (h : last + idle < now) (arrivals : List Arrival) :
    hearing idle (Course.following staysOpen k now arrivals).ending last
      (Course.following staysOpen k now arrivals).frames = ([], .idle idle) := by
  induction arrivals generalizing k now with
  | nil =>
    cases staysOpen
    · simp [Course.following, hearing, Nat.not_le.2 h]
    · rfl
  | cons a rest ih =>
    cases a with
    | failure message => simp [Course.following, hearing, Nat.not_le.2 h]
    | pause time => exact ih (by omega)
    | octets piece =>
      rw [Course.following_octets]
      cases (k.take piece).2 with
      | nil => exact ih h
      | cons frame frames => simp [hearing, Nat.not_le.2 h]

/-! ## The events among the frames -/

/-- The event of a frame is what its name and its data mean; a frame without a name of its
    own, one that means nothing and one whose data cannot be used have none. -/
theorem Frame.event?_eq_some_iff {f : Frame} {e : TurnEvent} :
    f.event? = some e ↔ f.event ≠ "message" ∧ TurnEvent.decode f.event f.data = .event e := by
  rw [Frame.event?]
  split_ifs with h
  · simp [h]
  · cases TurnEvent.decode f.event f.data <;> simp [h]

variable {es before after : List TurnEvent} {e : TurnEvent}

theorem upToTerminal_of_none (h : ∀ e ∈ es, e.isTerminal = false) :
    upToTerminal es = (es, false) := by
  induction es with
  | nil => rfl
  | cons e es ih =>
    obtain ⟨he, hes⟩ := List.forall_mem_cons.1 h
    simp only [upToTerminal, he, ih hes, Bool.false_eq_true, if_false]

theorem upToTerminal_of_terminal (hb : ∀ e ∈ before, e.isTerminal = false)
    (hl : e.isTerminal = true) (after : List TurnEvent) :
    upToTerminal (before ++ e :: after) = (before ++ [e], true) := by
  induction before with
  | nil => simp only [List.nil_append, upToTerminal, hl, if_true]
  | cons b before ih =>
    obtain ⟨hb, hbs⟩ := List.forall_mem_cons.1 hb
    simp only [List.cons_append, upToTerminal, hb, ih hbs, Bool.false_eq_true, if_false]

theorem upToTerminal_append (a b : List TurnEvent) :
    upToTerminal (a ++ b) =
      if (upToTerminal a).2 then upToTerminal a
      else ((upToTerminal a).1 ++ (upToTerminal b).1, (upToTerminal b).2) := by
  induction a with
  | nil => rfl
  | cons e a ih =>
    rw [List.cons_append, upToTerminal, upToTerminal, ih]
    split_ifs <;> simp_all

/-- What is sent of what is heard: the events up to the first terminal one, or all and the
    failure. -/
def sending (heard : List Frame × Failure) : List TurnEvent :=
  let (sent, ended) := upToTerminal (heard.1.filterMap Frame.event?)
  if ended then sent else sent ++ [heard.2.event]

theorem sending_of_none {frames : List Frame}
    (h : ∀ e ∈ frames.filterMap Frame.event?, e.isTerminal = false) (why : Failure) :
    sending (frames, why) = frames.filterMap Frame.event? ++ [why.event] := by
  simp only [sending, upToTerminal_of_none h, Bool.false_eq_true, if_false]

theorem sending_of_terminal {frames : List Frame}
    (he : frames.filterMap Frame.event? = before ++ e :: after)
    (hb : ∀ e ∈ before, e.isTerminal = false) (hl : e.isTerminal = true) (why : Failure) :
    sending (frames, why) = before ++ [e] := by
  simp only [sending, he, upToTerminal_of_terminal hb hl, if_true]

/-- What a pump still sends. -/
def Pump.rest (idle : Nat) (p : Pump) (staysOpen : Bool) (arrivals : List Arrival) :
    List TurnEvent :=
  match p.run idle arrivals with
  | (sent, none) => sent
  | (sent, some p) => sent ++ [(p.ending idle staysOpen).event]

theorem sending_append (frames more : List Frame) (why : Failure) :
    sending (frames ++ more, why) =
      if (upToTerminal (frames.filterMap Frame.event?)).2 then
        (upToTerminal (frames.filterMap Frame.event?)).1
      else (upToTerminal (frames.filterMap Frame.event?)).1 ++ sending (more, why) := by
  simp only [sending, List.filterMap_append, upToTerminal_append]
  split_ifs <;> simp_all

theorem Pump.rest_cons (p : Pump) (a : Arrival) (more : List Arrival) :
    p.rest idle staysOpen (a :: more) =
      match p.step idle a with
      | (sent, none) => sent
      | (sent, some p) => sent ++ p.rest idle staysOpen more := by
  rw [rest, run]
  rcases p.step idle a with ⟨sent, _ | p⟩
  · rfl
  · simp only [rest]
    rcases p.run idle more with ⟨later, _ | p⟩
    · rfl
    · exact List.append_assoc ..

theorem Pump.ending_eq {p : Pump} (h : p.reader.Keeps k) :
    p.ending idle staysOpen = if staysOpen then .idle idle else k.closing := by
  rw [ending, Pump.closing, h.octets.fault?, Backlog.closing]
  cases Text.Utf8.head k.octets <;> rfl

/-- A pump sends what is heard of what arrives from now on. -/
theorem Pump.rest_eq {p : Pump} (h : p.reader.Keeps k) (hw : p.waited ≤ idle)
    (arrivals : List Arrival) :
    p.rest idle staysOpen arrivals =
      sending (hearing idle (Course.following staysOpen k (last + p.waited) arrivals).ending last
        (Course.following staysOpen k (last + p.waited) arrivals).frames) := by
  -- What carries the induction is that no more time passed since the last frame than may.
  induction arrivals generalizing p k last with
  | nil =>
    change [(p.ending idle staysOpen).event] = _
    rw [ending_eq h]
    cases staysOpen
    · simp [Course.following, hearing, hw, sending, upToTerminal]
    · rfl
  | cons a more ih =>
    rw [rest_cons]
    cases a with
    | failure message => simp [Course.following, hearing, hw, sending, upToTerminal, step]
    | pause time =>
      rw [step]
      split_ifs with hlate
      · rw [Course.following, hearing_following_of_lt (by omega)]
        rfl
      · rw [Course.following, Nat.add_assoc]
        exact ih h (Nat.le_of_not_lt hlate)
    | octets piece =>
      obtain ⟨hf, hk⟩ := h.feed piece
      rw [Course.following_octets, hearing_map_append _ (Nat.add_le_add_left hw last),
        sending_append, ← hf]
      simp only [step]
      split_ifs with hend hnone
      · rfl
      · exact congrArg _ (ih (p := ⟨(p.reader.feed piece).1, p.waited⟩) hk hw)
      · exact congrArg _ (ih (p := ⟨(p.reader.feed piece).1, 0⟩) hk (Nat.zero_le idle))

/-- What is sent is what is heard of the body, up to the first terminal event. -/
theorem events_eq (idle : Nat) (body : Body) : events idle body = sending (body.heard idle) :=
  (Pump.rest_eq Reader.keeps_start (Nat.zero_le idle) body.arrivals : _)

/-! ## What comes later -/

/-- Later arrivals add frames at the end. -/
theorem Course.frames_prefix (arrivals more : List Arrival) (staysOpen' : Bool) :
    (Course.following staysOpen k now arrivals).frames <+:
      (Course.following staysOpen' k now (arrivals ++ more)).frames := by
  induction arrivals generalizing k now with
  | nil => exact List.nil_prefix
  | cons a rest ih =>
    cases a with
    | failure message => exact List.prefix_rfl
    | pause time => exact ih
    | octets piece => exact (List.prefix_append_right_inj _).2 ih

theorem hearing_prefix (ending ending' : Option (Nat × Failure))
    {frames frames' : List (Nat × Frame)} (h : frames <+: frames') :
    (hearing idle ending last frames).1 <+: (hearing idle ending' last frames').1 := by
  obtain ⟨more, rfl⟩ := h
  induction frames generalizing last with
  | nil =>
    have : (hearing idle ending last []).1 = [] := by
      cases ending <;> rfl
    rw [this]
    exact List.nil_prefix
  | cons f frames ih =>
    simp only [List.cons_append, hearing]
    split_ifs
    · exact (List.cons_prefix_cons).2 ⟨rfl, ih⟩
    · exact List.prefix_rfl

/-- What is heard of a body is heard of it when more arrives. -/
theorem Body.heard_prefix (body : Body) (more : List Arrival) (staysOpen : Bool) :
    (body.heard idle).1 <+: (Body.heard idle ⟨body.arrivals ++ more, staysOpen⟩).1 :=
  hearing_prefix _ _ (Course.frames_prefix body.arrivals more staysOpen)

/-! ## Exactly one end -/

/-- Events that end nothing and then one that ends the turn. -/
def EndsOnce (es : List TurnEvent) : Prop :=
  ∃ before last, es = before ++ [last] ∧ (∀ e ∈ before, e.isTerminal = false) ∧
    last.isTerminal = true

/-- The first terminal event is the last that is sent, and without one the failure is. -/
theorem sending_cases (frames : List Frame) (why : Failure) :
    (∃ before e after, frames.filterMap Frame.event? = before ++ e :: after ∧
        (∀ e ∈ before, e.isTerminal = false) ∧ e.isTerminal = true ∧
        sending (frames, why) = before ++ [e]) ∨
      (∀ e ∈ frames.filterMap Frame.event?, e.isTerminal = false) ∧
        sending (frames, why) = frames.filterMap Frame.event? ++ [why.event] := by
  cases h : (frames.filterMap Frame.event?).find? TurnEvent.isTerminal with
  | none =>
    have hnone : ∀ e ∈ frames.filterMap Frame.event?, e.isTerminal = false :=
      fun e he => Bool.eq_false_iff.2 (List.find?_eq_none.1 h e he)
    exact .inr ⟨hnone, sending_of_none hnone why⟩
  | some e =>
    obtain ⟨hl, before, after, he, hb⟩ := List.find?_eq_some_iff_append.1 h
    have hb : ∀ e ∈ before, e.isTerminal = false := by simpa using hb
    exact .inl ⟨before, e, after, he, hb, hl, sending_of_terminal he hb hl why⟩

theorem endsOnce_events (idle : Nat) (body : Body) : EndsOnce (events idle body) := by
  rw [events_eq]
  obtain ⟨before, e, _, _, hb, hl, hs⟩ | ⟨hes, hs⟩ := sending_cases (body.heard idle).1
    (body.heard idle).2
  · exact ⟨before, e, hs, hb, hl⟩
  · exact ⟨_, _, hs, hes, rfl⟩

/-- A stream sends events that end nothing and then one that ends the turn. These are the
    events of what is heard of its body up to the first terminal one, and nothing that
    arrives later changes them; or none of them is terminal, and a failure says why no more
    is heard. -/
theorem received_events (idle : Nat) (body : Body) :
    ∃ before last, received true (events idle body) = before ++ [last] ∧
      (∀ e ∈ before, e.isTerminal = false) ∧ last.isTerminal = true ∧
      ((∃ after, (body.heard idle).1.filterMap Frame.event? = before ++ last :: after ∧
          ∀ more staysOpen,
            received true (events idle ⟨body.arrivals ++ more, staysOpen⟩) = before ++ [last]) ∨
        (body.heard idle).1.filterMap Frame.event? = before ∧
          last = (body.heard idle).2.event) := by
  obtain ⟨before, last, after, he, hb, hl, hs⟩ | ⟨hes, hs⟩ := sending_cases (body.heard idle).1
    (body.heard idle).2
  · refine ⟨before, last, (events_eq ..).trans hs, hb, hl, .inl ⟨after, he, fun more open' => ?_⟩⟩
    obtain ⟨frames, hf⟩ : (body.heard idle).1 <+: _ := body.heard_prefix more open'
    have hmore : (Body.heard idle ⟨body.arrivals ++ more, open'⟩).1.filterMap Frame.event? =
        before ++ last :: (after ++ frames.filterMap Frame.event?) := by
      rw [← hf, List.filterMap_append, he, List.append_assoc, List.cons_append]
    exact (events_eq ..).trans (sending_of_terminal hmore hb hl _)
  · exact ⟨_, _, (events_eq ..).trans hs, hes, rfl, .inr ⟨rfl, rfl⟩⟩

/-- A frame that means nothing counts against the clock, and one that comes exactly in time
    is in time. -/
example :
    events 10 ⟨[.octets (Text.Utf8.encode "event: noise\n"), .pause 10,
      .octets (Text.Utf8.encode "data: 1\n\n"), .pause 10,
      .octets (Text.Utf8.encode "event: completed\ndata:\n\n"), .pause 11], true⟩ =
      [.completed none] := by
  decide +kernel

/-- The first mark is no part of the text, wherever it is cut; a second one is part of the name
    of a field, which then means nothing. -/
example :
    events 10 ⟨[.octets [0xEF, 0xBB], .octets [0xBF],
      .octets (Text.Utf8.encode "event: token\n\uFEFFevent: completed\ndata: €\n\n")], false⟩ =
      [.token "€", Failure.closed.event] := by
  decide +kernel

/-! ## Cuts -/

/-- Pieces that arrive one after the other are one piece. -/
theorem Course.following_pieces (h : k.Settled) (pieces : List (List UInt8))
    (rest : List Arrival) :
    Course.following staysOpen k now (pieces.map .octets ++ rest) =
      Course.following staysOpen k now (.octets pieces.flatten :: rest) := by
  induction pieces generalizing k with
  | nil => rw [following_octets, List.flatten_nil, h.take_nil]; rfl
  | cons piece pieces ih =>
    rw [List.map_cons, List.cons_append, following_octets, ih (k.settled_take piece),
      following_octets, following_octets, List.flatten_cons, k.take_append, List.map_append,
      List.append_assoc]

/-- It does not matter how the octets of a body are cut into pieces. -/
theorem events_of_flatten_eq {pieces others : List (List UInt8)}
    (h : pieces.flatten = others.flatten) (idle : Nat) (rest : List Arrival) (staysOpen : Bool) :
    events idle ⟨pieces.map .octets ++ rest, staysOpen⟩ =
      events idle ⟨others.map .octets ++ rest, staysOpen⟩ := by
  simp only [events_eq, Body.heard, Body.course,
    Course.following_pieces Reader.keeps_start.settled, h]

theorem events_of_flatten_eq_split_character :
    let whole := [Text.Utf8.encode "event: token\r\ndata: €\r\n\r\n"]
    let pieces := [Text.Utf8.encode "eve", Text.Utf8.encode "nt: token\r", [],
      Text.Utf8.encode "\ndata: " ++ [0xE2], [0x82, 0xAC], Text.Utf8.encode "\r",
      Text.Utf8.encode "\n\r\n"]
    pieces.flatten = whole.flatten ∧
      events 600000 ⟨pieces.map .octets ++ [.failure "reset"], false⟩ =
        [.token "€", .error "SSE stream error: Transport error: reset"] := by
  intro whole pieces
  have h : pieces.flatten = whole.flatten := by decide +kernel
  refine ⟨h, (events_of_flatten_eq h 600000 [.failure "reset"] false).trans ?_⟩
  decide +kernel

end Dialogue.EventStream
