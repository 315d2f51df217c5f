import Dialogue.EventStream.Delivery
import Dialogue.Proofs.EventStream.Pumping

/-!
# One end for every delivery

The reading hand and the switch both put ends on the belt, and the other hand gives to the
session what is there, in any order of moves. What was put on the belt so far, given or
not, are the envelopes that are `sent`:

* `Delivery.Keeps.run`: until the reading hand is gone they are what was read, and then
  all the stream brings, or a part of it that ends nothing and the failure of a stream
  that was given up;
* `Delivery.sent_run_of_cancelled`: a switch that was thrown while the hand reads on adds
  that failure and nothing else;
* `Delivery.run_of_finished`: once the hand is gone, only the other one counts;
* `Delivery.isOver_flush_read`: the two hands can always bring a stream to its end;
* `delivered_ends_once`: so a session is given one end at most, as the last, and exactly
  one by a stream that is over.
-/

namespace Dialogue.EventStream

/-! ## What a stream brings -/

/-- The events of a stream: those of its body, or one failure if it could not be opened. -/
def brought (idle : Nat) : Except Error Body → List TurnEvent
  | .ok body => events idle body
  | .error e => [.error e.message]

theorem endsOnce_brought (idle : Nat) (opened : Except Error Body) :
    EndsOnce (brought idle opened) := by
  cases opened with
  | ok body => exact endsOnce_events idle body
  | error e => exact ⟨[], .error e.message, rfl, fun _ h => absurd h List.not_mem_nil, rfl⟩

variable {es before after : List TurnEvent} {e : TurnEvent}

theorem EndsOnce.ne_nil (h : EndsOnce es) : es ≠ [] := by
  obtain ⟨before, last, rfl, _⟩ := h
  exact List.concat_ne_nil _ _

/-- What comes before the end ends nothing. -/
theorem EndsOnce.of_append (h : EndsOnce (before ++ after)) (ha : after ≠ []) :
    ∀ e ∈ before, e.isTerminal = false := by
  obtain ⟨init, last, he, hi, _⟩ := h
  have hinit : init = before ++ after.dropLast := by
    rw [← List.dropLast_append_of_ne_nil ha, he, List.dropLast_concat]
  intro e hm
  exact hi e (hinit ▸ List.mem_append_left _ hm)

/-- Nothing follows the end. -/
theorem EndsOnce.of_terminal (h : EndsOnce (before ++ e :: after)) (he : e.isTerminal = true) :
    after = [] := by
  by_contra ha
  rw [List.append_cons] at h
  exact Bool.false_ne_true ((h.of_append ha e (by simp)).symm.trans he)

/-! ## What is sent -/

namespace Delivery

variable {d : Delivery} {generation : Nat} {events : List TurnEvent}

/-- Events as they are given to the session. -/
def stamped (d : Delivery) (es : List TurnEvent) : List Envelope :=
  es.map (⟨d.generation, ·⟩)

/-- What was put on the belt so far, whether or not it was given to the session. -/
def sent (d : Delivery) : List Envelope :=
  d.delivered ++ d.stamped d.belt

theorem sent_append_belt (d : Delivery) (es unread : List TurnEvent) (finished : Bool) :
    { d with unread, belt := d.belt ++ es, finished }.sent = d.sent ++ d.stamped es := by
  simp [sent, stamped]

/-- Giving an envelope to the session sends nothing new. -/
theorem step_forward (d : Delivery) : ∃ belt delivered,
    d.step .forward = { d with belt, delivered } ∧ (d.step .forward).sent = d.sent := by
  cases hb : d.belt with
  | nil => exact ⟨d.belt, d.delivered, by simp only [step, hb, and_true]; rw [← hb]⟩
  | cons e belt =>
    refine ⟨belt, d.delivered ++ [⟨d.generation, e⟩], ?_⟩
    simp [step, hb, sent, stamped]

@[simp]
theorem generation_step (d : Delivery) (m : Move) : (d.step m).generation = d.generation := by
  cases m with
  | cancel => rfl
  | read count =>
    rw [step]
    split_ifs <;> rfl
  | forward =>
    obtain ⟨belt, delivered, hd, -⟩ := d.step_forward
    rw [hd]

theorem run_cons (d : Delivery) (m : Move) (moves : List Move) :
    d.run (m :: moves) = (d.step m).run moves := rfl

theorem generation_run (d : Delivery) (moves : List Move) :
    (d.run moves).generation = d.generation := by
  induction moves generalizing d with
  | nil => rfl
  | cons m moves ih => exact (ih _).trans (d.generation_step m)

/-- How a delivery stands to the events of its stream: what is sent was read, and once the
    reading hand is gone it is all of them, or a part and the failure of a stream that was
    given up. -/
structure Keeps (d : Delivery) (events : List TurnEvent) : Prop where
  reading : d.finished = false → d.unread ≠ [] ∧
    ∃ read, read ++ d.unread = events ∧ d.sent = d.stamped read
  finished : d.finished = true → d.sent = d.stamped events ∨
    ∃ read unread, read ++ unread = events ∧ unread ≠ [] ∧
      d.sent = d.stamped (read ++ [givenUp])

theorem keeps_start (generation : Nat) (h : events ≠ []) :
    (start generation events).Keeps events where
  reading _ := ⟨h, [], rfl, rfl⟩
  finished h := by cases h

theorem Keeps.step (h : d.Keeps events) (m : Move) : (d.step m).Keeps events := by
  cases m with
  | cancel => exact ⟨h.reading, h.finished⟩
  | forward =>
    obtain ⟨belt, delivered, hd, hs⟩ := d.step_forward
    rw [hd] at hs ⊢
    exact ⟨fun hf => hs ▸ h.reading hf, fun hf => hs ▸ h.finished hf⟩
  | read count =>
    rw [Delivery.step]
    split_ifs with hf hc
    · exact h
    · obtain ⟨hne, read, hread, hs⟩ := h.reading (Bool.eq_false_iff.2 hf)
      refine ⟨fun h => Bool.noConfusion h, fun _ => .inr ⟨read, d.unread, hread, hne, ?_⟩⟩
      rw [sent_append_belt, hs]
      exact List.map_append.symm
    · obtain ⟨-, read, hread, hs⟩ := h.reading (Bool.eq_false_iff.2 hf)
      have hparts : (read ++ d.unread.take count) ++ d.unread.drop count = events := by
        rw [List.append_assoc, List.take_append_drop, hread]
      have hsent : d.sent ++ d.stamped (d.unread.take count) =
          d.stamped (read ++ d.unread.take count) := by
        rw [hs]
        exact List.map_append.symm
      refine ⟨fun hleft => ⟨?_, _, hparts, (d.sent_append_belt ..).trans hsent⟩,
        fun hleft => .inl ?_⟩
      · exact fun hnil => List.isEmpty_eq_false_iff.1 hleft hnil
      · rw [List.isEmpty_iff.1 hleft, List.append_nil] at hparts
        rw [sent_append_belt, hsent, hparts]
        rfl

theorem Keeps.run (h : d.Keeps events) (moves : List Move) : (d.run moves).Keeps events := by
  induction moves generalizing d with
  | nil => exact h
  | cons m moves ih => exact ih (h.step m)

/-- What is sent carries the generation of the stream. -/
theorem Keeps.generation_of_mem (h : d.Keeps events) {e : Envelope} (he : e ∈ d.sent) :
    e.generation = d.generation := by
  have hs : ∃ es, d.sent = d.stamped es := by
    cases hf : d.finished with
    | false =>
      obtain ⟨-, read, -, hs⟩ := h.reading hf
      exact ⟨read, hs⟩
    | true =>
      obtain hs | ⟨_, _, _, _, hs⟩ := h.finished hf <;> exact ⟨_, hs⟩
  obtain ⟨es, hs⟩ := hs
  rw [hs] at he
  obtain ⟨_, _, rfl⟩ := List.mem_map.1 he
  rfl

theorem map_event_stamped (d : Delivery) (es : List TurnEvent) :
    (d.stamped es).map (·.event) = es := by
  rw [stamped, List.map_map]
  exact List.map_id es

/-- Once the reading hand is gone, what is sent ends the turn once. -/
theorem Keeps.endsOnce_of_finished (h : d.Keeps events) (he : EndsOnce events)
    (hf : d.finished = true) : EndsOnce (d.sent.map (·.event)) := by
  obtain hs | ⟨read, unread, rfl, hne, hs⟩ := h.finished hf
  · rwa [hs, map_event_stamped]
  · rw [hs, map_event_stamped]
    exact ⟨read, givenUp, rfl, he.of_append hne, rfl⟩

/-- The reading hand goes exactly when it sends the end of the turn. -/
theorem Keeps.finished_iff (h : d.Keeps events) (he : EndsOnce events) :
    d.finished = true ↔ ∃ e ∈ d.sent, e.event.isTerminal = true := by
  refine ⟨fun hf => ?_, fun ⟨e, hm, ht⟩ => ?_⟩
  · obtain ⟨before, last, hs, -, hl⟩ := h.endsOnce_of_finished he hf
    obtain ⟨e, hm, rfl⟩ := List.mem_map.1 (hs ▸ List.mem_concat_self : last ∈ d.sent.map (·.event))
    exact ⟨e, hm, hl⟩
  · by_contra hf
    obtain ⟨hne, read, rfl, hs⟩ := h.reading (Bool.eq_false_iff.2 hf)
    rw [hs] at hm
    obtain ⟨e', hr, rfl⟩ := List.mem_map.1 hm
    exact Bool.false_ne_true ((he.of_append hne e' hr).symm.trans ht)

/-! ## What is given to the session -/

theorem isOver_iff (d : Delivery) : d.isOver = true ↔ d.finished = true ∧ d.belt = [] := by
  rw [isOver, Bool.and_eq_true, List.isEmpty_iff]

theorem delivered_of_isOver (h : d.isOver = true) : d.delivered = d.sent := by
  rw [sent, (d.isOver_iff.1 h).2]
  exact (List.append_nil _).symm

/-- Nothing is given to the session after an end. -/
theorem Keeps.nothing_after (h : d.Keeps events) (he : EndsOnce events)
    {before after : List Envelope} {e : Envelope} (hd : d.delivered = before ++ e :: after)
    (ht : e.event.isTerminal = true) :
    after = [] ∧ ∀ b ∈ before, b.event.isTerminal = false := by
  have hsent : d.sent = before ++ e :: (after ++ d.stamped d.belt) := by
    rw [sent, hd, List.append_assoc, List.cons_append]
  have hf := (h.finished_iff he).2 ⟨e, by rw [hsent]; simp, ht⟩
  have hends := h.endsOnce_of_finished he hf
  rw [hsent, List.map_append, List.map_cons] at hends
  refine ⟨?_, fun b hb => ?_⟩
  · exact (List.append_eq_nil_iff.1 (List.map_eq_nil_iff.1 (hends.of_terminal ht))).1
  · exact hends.of_append (List.cons_ne_nil _ _) _ (List.mem_map_of_mem hb)

/-! ## The switch -/

theorem step_read_of_finished (hf : d.finished = true) (count : Nat) :
    d.step (.read count) = d :=
  if_pos hf

/-- Once the reading hand is gone nothing more is sent. -/
theorem sent_run_of_finished (hf : d.finished = true) (moves : List Move) :
    (d.run moves).sent = d.sent ∧ (d.run moves).finished = true := by
  induction moves generalizing d with
  | nil => exact ⟨rfl, hf⟩
  | cons m moves ih =>
    cases m with
    | cancel => exact ih (d := d.step .cancel) hf
    | read count => rw [run_cons, step_read_of_finished hf]; exact ih hf
    | forward =>
      obtain ⟨belt, delivered, hd, hs⟩ := d.step_forward
      rw [run_cons, ← hs]
      exact ih (by rw [hd]; exact hf)

/-- A switch that was thrown while the reading hand is there adds the failure of a stream
    that was given up, and nothing else. -/
theorem sent_run_of_cancelled (hc : d.cancelled = true) (hf : d.finished = false)
    (moves : List Move) :
    (d.run moves).sent = d.sent ∧ (d.run moves).finished = false ∨
      (d.run moves).sent = d.sent ++ d.stamped [givenUp] ∧ (d.run moves).finished = true := by
  induction moves generalizing d with
  | nil => exact .inl ⟨rfl, hf⟩
  | cons m moves ih =>
    cases m with
    | cancel => exact ih (d := d.step .cancel) rfl hf
    | read count =>
      have hd : d.step (.read count) =
          { d with belt := d.belt ++ [givenUp], finished := true } := by
        simp only [step, hf, hc, Bool.false_eq_true, if_false, if_true]
      obtain ⟨hs, hf⟩ := sent_run_of_finished (d := d.step (.read count)) (by rw [hd]) moves
      refine .inr ⟨?_, hf⟩
      rw [run_cons, hs, hd]
      exact d.sent_append_belt ..
    | forward =>
      obtain ⟨belt, delivered, hd, hs⟩ := d.step_forward
      have hstamped : (d.step .forward).stamped [givenUp] = d.stamped [givenUp] := by rw [hd]; rfl
      rw [run_cons, ← hs, ← hstamped]
      exact ih (by rw [hd]; exact hc) (by rw [hd]; exact hf)

/-- Once the reading hand is gone only the other hand's moves count: each gives one
    envelope more to the session. -/
theorem run_of_finished (hf : d.finished = true) (moves : List Move) :
    (d.run moves).belt = d.belt.drop (moves.count .forward) ∧
      (d.run moves).delivered = d.delivered ++ d.stamped (d.belt.take (moves.count .forward)) := by
  induction moves generalizing d with
  | nil => exact ⟨rfl, (List.append_nil _).symm⟩
  | cons m moves ih =>
    cases m with
    | cancel => exact ih (d := d.step .cancel) hf
    | read count => rw [run_cons, step_read_of_finished hf]; exact ih hf
    | forward =>
      rw [run_cons, List.count_cons_self]
      cases hb : d.belt with
      | nil =>
        have hd : d.step .forward = d := by simp only [step, hb]
        simpa [hd, hb] using ih hf
      | cons e belt =>
        have hd : d.step .forward =
            { d with belt, delivered := d.delivered ++ [⟨d.generation, e⟩] } := by
          simp only [step, hb]
        have := ih (d := d.step .forward) (by rw [hd]; exact hf)
        simp only [hd] at this ⊢
        rw [this.1, this.2, List.append_assoc]
        exact ⟨rfl, rfl⟩

/-- A stream is over when the reading hand reads to the end and the other hand empties the
    belt. -/
theorem isOver_flush_read (d : Delivery) :
    ((d.step (.read d.unread.length)).flush).isOver = true := by
  have hf : (d.step (.read d.unread.length)).finished = true := by
    rw [step]
    split_ifs with hf
    · exact hf
    · rfl
    · simp
  refine (isOver_iff _).2 ⟨(sent_run_of_finished hf _).2, ?_⟩
  rw [flush, (run_of_finished hf _).1, List.count_replicate_self, List.drop_length]

end Delivery

/-- For every stream and every order of moves: what the session is given carries the
    generation of the stream, holds one end at most and nothing after it, and exactly one
    once the stream is over. A switch that is thrown before the end was sent makes the end
    the failure of a stream that was given up, after what was sent before; thrown later, it
    changes nothing. And whatever was done so far, the stream can still be over. -/
theorem delivered_ends_once (generation idle : Nat) (opened : Except Error Body)
    (moves : List Move) :
    let d := (Delivery.start generation (brought idle opened)).run moves
    (∀ e ∈ d.delivered, e.generation = generation) ∧
      (∀ before e after, d.delivered = before ++ e :: after → e.event.isTerminal = true →
        after = [] ∧ ∀ b ∈ before, b.event.isTerminal = false) ∧
      (d.isOver = true → EndsOnce (d.delivered.map (·.event))) ∧
      (d.cancelled = true → (∀ e ∈ d.sent, e.event.isTerminal = false) → ∀ later,
        (d.run later).isOver = true →
          (d.run later).delivered = d.delivered ++ (d.belt ++ [givenUp]).map (⟨generation, ·⟩)) ∧
      ((∃ e ∈ d.sent, e.event.isTerminal = true) → ∀ later,
        (d.run later).delivered = (d.run (later.filter (· ≠ .cancel))).delivered ∧
          (d.run later).isOver = (d.run (later.filter (· ≠ .cancel))).isOver) ∧
      ∃ later, (d.run later).isOver = true := by
  intro d
  have he := endsOnce_brought idle opened
  have hk : d.Keeps (brought idle opened) :=
    (Delivery.keeps_start generation he.ne_nil).run moves
  have hg : d.generation = generation := Delivery.generation_run _ moves
  refine ⟨fun e hm => ?_, fun _ _ _ => hk.nothing_after he, fun ho => ?_, fun hc hn later ho => ?_,
    fun ht later => ?_, _ :: _, d.isOver_flush_read⟩
  · rw [← hg]
    exact hk.generation_of_mem (List.mem_append_left _ hm)
  · rw [Delivery.delivered_of_isOver ho]
    exact hk.endsOnce_of_finished he (d.isOver_iff.1 ho).1
  · have hf : d.finished = false := by
      refine Bool.eq_false_iff.2 fun hf => ?_
      obtain ⟨e, hm, ht⟩ := (hk.finished_iff he).1 hf
      exact Bool.false_ne_true ((hn e hm).symm.trans ht)
    obtain ⟨-, hl⟩ | ⟨hs, -⟩ := Delivery.sent_run_of_cancelled hc hf later
    · rw [((d.run later).isOver_iff.1 ho).1] at hl
      cases hl
    · rw [Delivery.delivered_of_isOver ho, hs, Delivery.sent, List.append_assoc, ← hg,
        List.map_append]
      rfl
  · have hf := (hk.finished_iff he).2 ht
    have hcount : (later.filter (· ≠ .cancel)).count .forward = later.count .forward :=
      List.count_filter rfl
    obtain ⟨hb, hd⟩ := Delivery.run_of_finished hf later
    obtain ⟨hb', hd'⟩ := Delivery.run_of_finished hf (later.filter (· ≠ .cancel))
    rw [hcount] at hb' hd'
    refine ⟨hd.trans hd'.symm, ?_⟩
    rw [Delivery.isOver, Delivery.isOver, hb, hb', (Delivery.sent_run_of_finished hf _).2,
      (Delivery.sent_run_of_finished hf _).2]

theorem delivered_ends_once_cancelled :
    let body : Body :=
      ⟨[.octets (Text.Utf8.encode "event: token\ndata: a\n\nevent: completed\ndata:\n\n")], false⟩
    let d := (Delivery.start 7 (brought 600000 (.ok body))).run [.read 1, .forward, .cancel]
    let ended := d.run [.cancel, .read 1, .forward]
    d.delivered = [⟨7, .token "a"⟩] ∧ ended.isOver = true ∧
      ended.delivered = [⟨7, .token "a"⟩, ⟨7, .error "turn stream cancelled"⟩] := by
  intro body d ended
  obtain ⟨-, -, -, hcancelled, -⟩ :=
    delivered_ends_once 7 600000 (.ok body) [.read 1, .forward, .cancel]
  have hd : d.delivered = [⟨7, .token "a"⟩] := by decide +kernel
  have hb : d.belt = [] := by decide +kernel
  have ho : ended.isOver = true := by decide +kernel
  have hs : ∀ e ∈ d.sent, e.event.isTerminal = false := by decide +kernel
  refine ⟨hd, ho, (hcancelled (by decide +kernel) hs [.cancel, .read 1, .forward] ho).trans ?_⟩
  exact congrArg₂ (fun x y => x ++ (y ++ [givenUp]).map (⟨7, ·⟩)) hd hb

end Dialogue.EventStream
