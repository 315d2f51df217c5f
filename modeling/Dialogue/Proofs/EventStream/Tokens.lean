import Dialogue.Event.Decode
import Dialogue.Proofs.EventStream.Pumping
import Dialogue.Proofs.EventStream.Writing
import Dialogue.Proofs.Json.Parsing
import Dialogue.Proofs.Session.Answering

/-!
# Tokens

The data of a token may carry its text in JSON, as a string or in an object under `text`
(`Carries`); else they are the text themselves (`Delivers`).

* `tokenText_eq_iff`: the text that is read is the one that the data deliver;
* `events_of_framesOf`: a stream whose octets are frames, however they are cut, sends the
  events of the frames;
* `token_texts_delivered`: so the texts of tokens arrive, and joined they are the answer of
  the turn.
-/

namespace Dialogue

open Json

namespace EventStream

variable {data text : String}

/-! ## What the data of a token are -/

/-- Data carry a text: they are a JSON string that spells it, or a JSON object that has the
    string under `text`, where the last member with that key counts. -/
inductive Carries (data text : String) : Prop
  | string : IsText Tree.levelLimit (.string text) data → Carries data text
  | object {ms : List (Option String × Tree)} : IsText Tree.levelLimit (.object ms) data →
      lastUnder? "text" ms = some (.string text) → Carries data text

/-- Data deliver the text that they carry, or themselves if they carry none. -/
inductive Delivers (data : String) : String → Prop
  | carried {text : String} : Carries data text → Delivers data text
  | verbatim : (∀ text, ¬ Carries data text) → Delivers data data

theorem value?_eq_string {t : Tree} (h : t.value? = some (.string text)) : t = .string text := by
  cases t <;> simp_all [Tree.value?]

theorem value?_eq_object {t : Tree} {members : List (String × Value)}
    (h : t.value? = some (.object members)) :
    ∃ ms, t = .object ms ∧ Tree.memberValues? [] ms = some members := by
  cases t <;> simp_all [Tree.value?]

/-- What data carry, told by the value that they are read as. -/
theorem carries_iff : Carries data text ↔ ∃ v, Value.parse? data = some v ∧
    (v = .string text ∨ v.get? "text" = some (.string text)) := by
  constructor
  · rintro (h | ⟨h, hl⟩)
    · exact ⟨_, parse?_eq_some_iff.2 ⟨_, h, rfl⟩, .inl rfl⟩
    · obtain ⟨v, hv⟩ := Option.isSome_iff_exists.1 h.readable
      obtain ⟨members, hm, rfl⟩ := Option.map_eq_some_iff.1 hv
      refine ⟨_, parse?_eq_some_iff.2 ⟨_, h, hv⟩, .inr ?_⟩
      rw [Value.get?, lookup_memberValues? hm, hl]
      rfl
  · rintro ⟨v, hp, hv⟩
    obtain ⟨t, ht, he⟩ := parse?_eq_some_iff.1 hp
    obtain rfl | hv := hv
    · exact .string (value?_eq_string he ▸ ht)
    · cases v with
      | object members =>
        obtain ⟨ms, rfl, hm⟩ := value?_eq_object he
        rw [Value.get?, lookup_memberValues? hm] at hv
        cases hl : lastUnder? "text" ms with
        | none =>
          rw [hl] at hv
          cases hv
        | some t =>
          rw [hl] at hv
          exact .object ht (hl.trans (congrArg some (value?_eq_string hv)))
      | _ => cases hv

theorem Carries.tokenText (h : Carries data text) : Payload.tokenText data = text := by
  obtain ⟨v, hp, rfl | hv⟩ := carries_iff.1 h
  · rw [Payload.tokenText, hp]
  · rw [Payload.tokenText, hp]
    cases v with
    | object members =>
      simp only [hv]
      rfl
    | _ => cases hv

theorem tokenText_of_not_carries (h : ∀ text, ¬ Carries data text) :
    Payload.tokenText data = data := by
  rw [Payload.tokenText]
  split
  · next text hp => exact absurd (carries_iff.2 ⟨_, hp, .inl rfl⟩) (h text)
  · next v _ hp =>
    cases hv : (v.get? "text").bind Value.string? with
    | none => rfl
    | some text =>
      obtain ⟨w, hw, hs⟩ := Option.bind_eq_some_iff.1 hv
      cases w with
      | string s => exact absurd (carries_iff.2 ⟨v, hp, .inr hw⟩) (h s)
      | _ => cases hs
  · rfl

/-- The text of a token is the one that its data deliver. -/
theorem tokenText_eq_iff : Payload.tokenText data = text ↔ Delivers data text := by
  constructor
  · rintro rfl
    by_cases h : ∃ text, Carries data text
    · obtain ⟨text, h⟩ := h
      rw [h.tokenText]
      exact .carried h
    · have h' := not_exists.1 h
      rw [tokenText_of_not_carries h']
      exact .verbatim h'
  · rintro (h | h)
    · exact h.tokenText
    · exact tokenText_of_not_carries h

/-! ## Tokens on the way -/

/-- A token on the wire: its data, and the text that they deliver. -/
structure Token where
  data : String
  text : String
  delivers : Delivers data text

/-- The frame of a token. -/
def Token.frame (t : Token) : Frame :=
  ⟨"token", t.data⟩

theorem Token.event?_frame (t : Token) : t.frame.event? = some (.token t.text) := by
  rw [Frame.event?_eq_some_iff, ← tokenText_eq_iff.2 t.delivers]
  exact ⟨(by decide : "token" ≠ "message"), rfl⟩

/-- The frames of octets that arrive at once are heard, however they are cut. -/
theorem framesOf_prefix_heard (pieces : List (List UInt8)) (idle : Nat) (rest : List Arrival)
    (staysOpen : Bool) :
    framesOf pieces.flatten <+: (Body.heard idle ⟨pieces.map .octets ++ rest, staysOpen⟩).1 := by
  rw [Body.heard, Body.course, Course.following_pieces Reader.keeps_start.settled,
    Course.following_octets, hearing_map_append _ (Nat.zero_le _)]
  exact List.prefix_append _ _

/-- A stream whose octets are frames, however they are cut, sends the events of the frames up
    to the first terminal one. -/
theorem events_of_framesOf {pieces : List (List UInt8)} {before after : List TurnEvent}
    {last : TurnEvent}
    (h : (framesOf pieces.flatten).filterMap Frame.event? = before ++ last :: after)
    (hb : ∀ e ∈ before, e.isTerminal = false) (hl : last.isTerminal = true) (idle : Nat)
    (rest : List Arrival) (staysOpen : Bool) :
    events idle ⟨pieces.map .octets ++ rest, staysOpen⟩ = before ++ [last] := by
  obtain ⟨more, hm⟩ := framesOf_prefix_heard pieces idle rest staysOpen
  have he : (Body.heard idle ⟨pieces.map .octets ++ rest, staysOpen⟩).1.filterMap Frame.event? =
      before ++ last :: (after ++ more.filterMap Frame.event?) := by
    rw [← hm, List.filterMap_append, h, List.append_assoc, List.cons_append]
  rw [events_eq]
  exact sending_of_terminal he hb hl _

/-- The frame that completes a turn. -/
def completion (data : String) : Frame :=
  ⟨"completed", data⟩

theorem event?_completion {time : Option Count}
    (h : TurnEvent.decode "completed" data = .event (.completed time)) :
    (completion data).event? = some (.completed time) :=
  Frame.event?_eq_some_iff.2 ⟨(by decide : "completed" ≠ "message"), h⟩

/-- The frames of tokens and the completion after them can be written, if their data hold no
    carriage return. -/
theorem writable_tokens {tokens : List Token} (ht : ∀ t ∈ tokens, '\r' ∉ t.data.toList)
    (hd : '\r' ∉ data.toList) : ∀ f ∈ tokens.map Token.frame ++ [completion data], f.Writable := by
  refine List.forall_mem_append.2 ⟨fun f hf => ?_, List.forall_mem_singleton.2 ?_⟩
  · obtain ⟨t, hm, rfl⟩ := List.mem_map.1 hf
    have hname : "token".toList.all (!lineEnd.isEnd ·) = true := by decide
    exact ⟨(by decide : "token" ≠ ""), isEnd_of_all hname, ht t hm⟩
  · have hname : "completed".toList.all (!lineEnd.isEnd ·) = true := by decide
    exact ⟨(by decide : "completed" ≠ ""), isEnd_of_all hname, hd⟩

/-- However the octets of tokens and of the completion after them are cut, the stream sends
    the texts one by one and then that the turn is complete. -/
theorem events_tokens {tokens : List Token} {time : Option Count}
    (hc : TurnEvent.decode "completed" data = .event (.completed time))
    {pieces : List (List UInt8)}
    (hp : framesOf pieces.flatten = tokens.map Token.frame ++ [completion data]) (idle : Nat)
    (rest : List Arrival) (staysOpen : Bool) :
    events idle ⟨pieces.map .octets ++ rest, staysOpen⟩ =
      tokens.map (.token ·.text) ++ [.completed time] := by
  have htokens : (tokens.map Token.frame).filterMap Frame.event? =
      tokens.map (.token ·.text) := by
    rw [List.filterMap_map, ← List.filterMap_eq_map]
    exact List.filterMap_congr fun t _ => t.event?_frame
  have hframes : (framesOf pieces.flatten).filterMap Frame.event? =
      tokens.map (.token ·.text) ++ .completed time :: [] := by
    rw [hp, List.filterMap_append, htokens, List.filterMap_cons_some (event?_completion hc)]
    rfl
  refine events_of_framesOf hframes (fun e he => ?_) rfl idle rest staysOpen
  obtain ⟨t, _, rfl⟩ := List.mem_map.1 he
  rfl

/-- The texts of tokens survive the way. Their frames, and the completion after them, can be
    written as long as no data hold a carriage return. However the octets of these frames are
    cut, and whatever follows them, the stream sends the texts one by one and then that the
    turn is complete. In a new turn that has written nothing before, this becomes an answer
    with all of the texts, joined. -/
theorem token_texts_delivered (tokens : List Token) {time : Option Count}
    (hc : TurnEvent.decode "completed" data = .event (.completed time)) :
    ((∀ t ∈ tokens, '\r' ∉ t.data.toList) → '\r' ∉ data.toList →
      ∀ b, framesOf (written b (tokens.map Token.frame ++ [completion data])) =
        tokens.map Token.frame ++ [completion data]) ∧
    ∀ pieces, framesOf (List.flatten pieces) = tokens.map Token.frame ++ [completion data] →
      ∀ idle rest staysOpen,
        let sent := events idle ⟨pieces.map .octets ++ rest, staysOpen⟩
        sent = tokens.map (.token ·.text) ++ [.completed time] ∧
        ∀ s : Session, s.Reachable → (∃ turn, s.turn = some turn ∧ turn.kind = .newTurn) →
          s.transcript.inProgress = none →
          s.Answered (s.run (Session.streamInputs s.generation sent))
            (String.join (tokens.map Token.text)) := by
  refine ⟨fun ht hd b => framesOf_written b (writable_tokens ht hd),
    fun pieces hp idle rest staysOpen => ?_⟩
  intro sent
  have hsent : sent = tokens.map (.token ·.text) ++ [.completed time] :=
    events_tokens hc hp idle rest staysOpen
  refine ⟨hsent, fun s hs ⟨turn, ht, hk⟩ hn => ?_⟩
  have htexts : tokens.map (TurnEvent.token ·.text) = (tokens.map Token.text).map .token :=
    List.map_map.symm
  rw [hsent, htexts]
  exact Session.answered_run hs ht hk hn _ time

theorem token_texts_delivered_quoted :
    let data : List String := ["\"say \\\"hi\\\"\\n\"", "\x7b\"n\":[1],\"text\":\"€\"\x7d", "[1"]
    let octets := written .returnAndFeed (data.map (⟨"token", ·⟩) ++ [completion "\x7b\x7d"])
    let pieces := [octets.take 50, (octets.drop 50).take 26, octets.drop 76]
    let sent := events 600000 ⟨pieces.map .octets, false⟩
    let s := (Session.start "c" 100 0 ⟨toString, 0⟩).run [.command (.submit "go")]
    sent = [.token "say \"hi\"\n", .token "€", .token "[1", .completed none] ∧
      s.Answered (s.run (Session.streamInputs s.generation sent)) "say \"hi\"\n€[1" := by
  intro data octets pieces sent s
  let tokens : List Token := [
    ⟨_, "say \"hi\"\n", tokenText_eq_iff.1 (by decide +kernel : Payload.tokenText data[0] = _)⟩,
    ⟨_, "€", tokenText_eq_iff.1 (by decide +kernel : Payload.tokenText data[1] = _)⟩,
    ⟨_, "[1", tokenText_eq_iff.1 (by decide +kernel : Payload.tokenText data[2] = _)⟩]
  obtain ⟨hwritten, hcut⟩ := token_texts_delivered tokens
    (by decide +kernel : TurnEvent.decode "completed" "\x7b\x7d" = .event (.completed none))
  have hflatten : pieces.flatten = octets := by decide +kernel
  have hframes := hwritten (by decide +kernel) (by decide +kernel) .returnAndFeed
  obtain ⟨hsent, hanswered⟩ := hcut pieces (hflatten ▸ hframes) 600000 [] false
  refine ⟨hsent, hanswered s ⟨_, _, _, _, _, rfl⟩ ⟨_, rfl, rfl⟩ rfl⟩

/-! ## Data that are nested too deep -/

/-- Empty arrays in one another, so many and one more. -/
def nested : Nat → Tree
  | 0 => .array []
  | n + 1 => .array [nested n]

/-- Their text. -/
def nestedChars : Nat → List Char
  | 0 => ['[', ']']
  | n + 1 => '[' :: (nestedChars n ++ [']'])

theorem spells_nested (n : Nat) : Spells (n + 1) (nested n) ((nestedChars n).map some) := by
  induction n with
  | zero => exact .emptyArray (List.forall_mem_nil _)
  | succ n ih =>
    have h := Listing.singleton ih (List.forall_mem_nil _)
    rw [List.append_nil] at h
    rw [nestedChars, List.map_cons, List.map_append]
    exact .array h

/-- A member with its text next to its key. -/
theorem spellsMember_quoted {P : Tree → List Symbol → Prop} {t : Tree} {chars : List Char}
    (key : String) (h : P t (chars.map some)) :
    SpellsMember P (some key, t) ((quoted key ++ ':' :: chars).map some) := by
  have hmember := SpellsMember.intro (spellsString_quoted key) (List.forall_mem_nil _)
    (List.forall_mem_nil _) h
  rw [List.map_append, List.map_cons]
  exact hmember

/-- The members of an object with a text, and with arrays in one another beside it. -/
def deepMembers (n : Nat) : List (Option String × Tree) :=
  [(some "text", .string "hi"), (some "x", nested n)]

/-- The characters of the object. -/
def deepChars (n : Nat) : List Char :=
  '{' :: ((quoted "text" ++ ':' :: quoted "hi") ++
    ',' :: ((quoted "x" ++ ':' :: nestedChars n) ++ ['}']))

/-- The text of the object. -/
def deepObject (n : Nat) : String :=
  String.ofList (deepChars n)

theorem isText_deepObject (n : Nat) :
    IsText (n + 2) (.object (deepMembers n)) (deepObject n) := by
  have hspaced {P : List Symbol → Prop} {text : List Symbol} (h : P text) : Spaced P text := by
    have := Spaced.intro (List.forall_mem_nil _) h (List.forall_mem_nil _)
    rwa [List.append_nil] at this
  have htext := spellsMember_quoted "text"
    (Spells.scalar (.string (spellsString_quoted "hi")) (n + 1))
  have hdeep := spellsMember_quoted "x" (spells_nested n)
  have hobject := SpellsValue.object (.cons (hspaced htext) (.last (hspaced hdeep)))
  have hchars : (deepChars n).map some = some '{' ::
      ((((quoted "text" ++ ':' :: quoted "hi").map some) ++
        some ',' :: ((quoted "x" ++ ':' :: nestedChars n).map some)) ++ [some '}']) := by
    simp only [deepChars, List.map_cons, List.map_append, List.map_nil, List.append_assoc,
      List.cons_append]
  rw [IsText, deepObject, String.toList_ofList, hchars]
  exact hspaced hobject

theorem parse?_deepObject : Value.parse? (deepObject 126) = none := by
  rw [Value.parse?, Tree.parse?, deepObject, String.toList_ofList]
  decide +kernel

/-- A token with the object as its data. -/
def deepToken : Token where
  data := deepObject 126
  text := deepObject 126
  delivers := .verbatim fun text h => by
    obtain ⟨v, hp, _⟩ := carries_iff.1 h
    rw [parse?_deepObject] at hp
    cases hp

/-- An object of 128 levels has a text, and yet is not read: it is delivered itself. -/
theorem deep_object_delivered_verbatim :
    let octets := written .feed [⟨"token", deepObject 126⟩, completion "\x7b\x7d"]
    IsText 128 (.object (deepMembers 126)) (deepObject 126) ∧
      lastUnder? "text" (deepMembers 126) = some (.string "hi") ∧
      framesOf octets = [⟨"token", deepObject 126⟩, completion "\x7b\x7d"] ∧
      events 600000 ⟨[.octets octets], false⟩ = [.token (deepObject 126), .completed none] ∧
      deepObject 126 ≠ "hi" := by
  intro octets
  have hreturn : ∀ t ∈ [deepToken], '\r' ∉ t.data.toList := by
    refine List.forall_mem_singleton.2 ?_
    change '\r' ∉ (deepObject 126).toList
    rw [deepObject, String.toList_ofList]
    decide +kernel
  have hframes : framesOf octets = [deepToken].map Token.frame ++ [completion "\x7b\x7d"] :=
    framesOf_written .feed (writable_tokens hreturn (by decide))
  have hpieces : framesOf (List.flatten [octets]) =
      [deepToken].map Token.frame ++ [completion "\x7b\x7d"] := by
    rw [List.flatten_singleton, hframes]
  have hdone : TurnEvent.decode "completed" "\x7b\x7d" = .event (.completed none) := by
    decide +kernel
  refine ⟨isText_deepObject 126, rfl, hframes, events_tokens hdone hpieces 600000 [] false, ?_⟩
  rw [deepObject, Ne, ← String.toList_inj, String.toList_ofList]
  decide +kernel

end EventStream

end Dialogue
