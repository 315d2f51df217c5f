import Dialogue.Proofs.Session.Retelling
import Dialogue.Terminal.Renderer

/-!
# What the terminal shows of an answer

Of a message that is told again the terminal writes what follows the octets that it wrote before
(`restAfter`). It remembers no more than their number, so this is right only if the message goes
on as what it was, and then what it writes for a message, taken together, is the message.

What is written is taken apart into pieces (`Piece`): headers and slices of messages, and what
else there is, lines of calls and news of the queue. The text is what the pieces come to
(`joined_piecesAll`).

* `restAfter_append`: what follows the octets of a text is what was appended to it;
* `knows_latest`: what was written of an answer is its header and slices that come to the latest
  version of it (`latest?`), and nothing if there is none;
* `every_answer_shown_once`: so it is after any inputs, at any time.
-/

namespace Dialogue.Terminal

/-! ## Text by octets -/

theorem dropOctets?_cons (c : Char) (n : Nat) (cs : List Char) :
    dropOctets? (c.utf8Size + n) (c :: cs) = dropOctets? n cs := by
  obtain ⟨k, hk⟩ : ∃ k, c.utf8Size + n = k + 1 :=
    Nat.exists_eq_succ_of_ne_zero (Nat.ne_of_gt (Nat.add_pos_left c.utf8Size_pos n))
  rw [hk, dropOctets?, ← hk, if_pos (Nat.le_add_right _ _), Nat.add_sub_cancel_left]

theorem dropOctets?_octets (cs ds : List Char) : dropOctets? (octets cs) (cs ++ ds) = some ds := by
  induction cs with
  | nil =>
    rw [octets, List.nil_append, dropOctets?]
  | cons c cs ih => rw [octets, List.cons_append, dropOctets?_cons, ih]

theorem octets_append (cs ds : List Char) : octets (cs ++ ds) = octets cs + octets ds := by
  induction cs with
  | nil => exact (Nat.zero_add _).symm
  | cons c cs ih => rw [List.cons_append, octets, ih, octets, Nat.add_assoc]

/-- What follows the octets of a text is what was appended to it. -/
theorem restAfter_append (text more : String) :
    restAfter (octets text.toList) (text ++ more) = more.toList := by
  rw [restAfter, String.toList_append, dropOctets?_octets]
  rfl

/-! ## Pieces -/

/-- A piece of what is written. -/
inductive Piece where
  /-- The header of a message. -/
  | header (id : String)
  /-- A slice of the text of a message. -/
  | slice (id text : String)
  /-- Anything else. -/
  | other (text : String)
  deriving DecidableEq, Repr

namespace Piece

/-- What is written for a piece. -/
def text : Piece → String
  | .header _ => "\nassistant> "
  | .slice _ text => text
  | .other text => text

/-- Whether a piece is of a message. -/
def isOf (id : String) : Piece → Bool
  | .header i => i = id
  | .slice i _ => i = id
  | .other _ => false

end Piece

namespace Renderer

/-- The pieces of what is written for a message. -/
def messagePieces (r : Renderer) (m : Message) (finalized : Bool) : List Piece :=
  if m.isAssistant then
    let known := r.printed.lookup m.id
    (if known.isNone then [.header m.id] else []) ++
      [.other (tools r.shown m.executions).1,
        .slice m.id (String.ofList (restAfter (known.getD 0) m.content))] ++
      (if finalized then [.other "\n"] else [])
  else []

/-- The pieces of what is written for an update. -/
def pieces (r : Renderer) : Update → List Piece
  | .messageUpdated m => r.messagePieces m false
  | .messageFinalized m => r.messagePieces m true
  | u => [.other (r.render u).1]

/-- The pieces of what is written for updates. -/
def piecesAll (r : Renderer) : List Update → List Piece
  | [] => []
  | u :: us => r.pieces u ++ (r.render u).2.piecesAll us

/-- What pieces come to. -/
def joined (ps : List Piece) : String :=
  String.join (ps.map Piece.text)

theorem joined_messagePieces (r : Renderer) (m : Message) (finalized : Bool) :
    joined (r.messagePieces m finalized) = (r.message m finalized).1 := by
  rw [messagePieces, message]
  split
  · simp only [joined]
    cases r.printed.lookup m.id <;> cases finalized <;> simp [Piece.text, String.append_assoc]
  · rfl

theorem joined_singleton (p : Piece) : joined [p] = p.text := by
  rw [joined, List.map_singleton, String.join_cons, String.join_nil, String.append_empty]

theorem joined_append (ps qs : List Piece) : joined (ps ++ qs) = joined ps ++ joined qs := by
  rw [joined, List.map_append, String.join_append]
  rfl

theorem joined_pieces (r : Renderer) (u : Update) : joined (r.pieces u) = (r.render u).1 := by
  cases u with
  | messageUpdated m => exact r.joined_messagePieces m false
  | messageFinalized m => exact r.joined_messagePieces m true
  | _ => exact joined_singleton _

/-- Other updates leave no trace. -/
theorem render_of_untold {r : Renderer} {u : Update} (h : u.message? = none) :
    (r.render u).2 = r := by
  unfold render
  split
  · exact absurd h (Option.some_ne_none _)
  · exact absurd h (Option.some_ne_none _)
  all_goals rfl

theorem renderAll_cons (r : Renderer) (u : Update) (us : List Update) :
    r.renderAll (u :: us) =
      ((r.render u).1 ++ ((r.render u).2.renderAll us).1, ((r.render u).2.renderAll us).2) :=
  Prod.ext String.join_cons rfl

/-- The pieces come to the text that is written. -/
theorem joined_piecesAll (r : Renderer) (us : List Update) :
    joined (r.piecesAll us) = (r.renderAll us).1 := by
  induction us generalizing r with
  | nil => rfl
  | cons u us ih => rw [piecesAll, joined_append, joined_pieces, ih, renderAll_cons]

theorem renderAll_concat (r : Renderer) (us : List Update) (u : Update) :
    (r.renderAll (us ++ [u])).2 = ((r.renderAll us).2.render u).2 := by
  induction us generalizing r with
  | nil => rfl
  | cons v us ih => rw [List.cons_append, renderAll_cons, renderAll_cons, ih]

theorem piecesAll_concat (r : Renderer) (us : List Update) (u : Update) :
    r.piecesAll (us ++ [u]) = r.piecesAll us ++ (r.renderAll us).2.pieces u := by
  induction us generalizing r with
  | nil => exact List.append_nil _
  | cons v us ih =>
    rw [List.cons_append, piecesAll, piecesAll, ih, renderAll_cons, List.append_assoc]

end Renderer

/-! ## Answers -/

/-- The versions of an answer that updates tell. -/
def answers (id : String) (us : List Update) : List Message :=
  (versions us).filter fun m => m.isAssistant && m.id = id

/-- The latest version of an answer, if there is one. -/
def latest? (id : String) (us : List Update) : Option Message :=
  (answers id us).getLast?

theorem latest?_concat (id : String) (us : List Update) (u : Update) :
    latest? id (us ++ [u]) = ((latest? id [u]).or (latest? id us)) := by
  rw [latest?, answers, versions_append, List.filter_append, List.getLast?_append]
  rfl

/-- Pieces of an answer show a version of it: the header comes first, and then the text in
    slices. Without a version there are none. -/
def Shows (id : String) (ps : List Piece) : Option Message → Prop
  | none => ps = []
  | some m => ∃ slices : List String, ps = .header id :: slices.map (.slice id) ∧
      String.join slices = m.content

namespace Renderer

variable {r : Renderer} {id : String} {latest : Option Message} {ps : List Piece} {m : Message}

/-- How many octets of a message were written, before and after. -/
theorem printed_message (r : Renderer) (ha : m.isAssistant = true) (finalized : Bool) :
    (r.message m finalized).2.printed = Keyed.put m.id
      ((r.printed.lookup m.id).getD 0 +
        octets (restAfter ((r.printed.lookup m.id).getD 0) m.content)) r.printed := by
  rw [message, if_pos ha]

theorem filter_messagePieces (r : Renderer) (ha : m.isAssistant = true) (finalized : Bool) :
    (r.messagePieces m finalized).filter (·.isOf id) = if m.id = id then
      (if (r.printed.lookup m.id).isNone then [.header m.id] else []) ++
        [.slice m.id (String.ofList (restAfter ((r.printed.lookup m.id).getD 0) m.content))]
      else [] := by
  rw [messagePieces, if_pos ha]
  by_cases hid : m.id = id <;> cases r.printed.lookup m.id <;> cases finalized <;>
    simp [Piece.isOf, hid]

/-- What was written of an answer shows its latest version, and the renderer knows how much that
    is. -/
structure Knows (r : Renderer) (id : String) (latest : Option Message) (ps : List Piece) :
    Prop where
  printed : r.printed.lookup id = latest.map fun m => octets m.content.toList
  shows : Shows id (ps.filter (·.isOf id)) latest

/-- What is not of the answer does not matter. -/
theorem Knows.append (h : r.Knows id latest ps) {r' : Renderer} {qs : List Piece}
    (hr : r'.printed.lookup id = r.printed.lookup id) (hq : qs.filter (·.isOf id) = []) :
    r'.Knows id latest (ps ++ qs) where
  printed := hr.trans h.printed
  shows := by
    rw [List.filter_append, hq, List.append_nil]
    exact h.shows

/-- A message that is not the answer is written without a piece of the answer, and leaves what
    the renderer knows of it. -/
theorem Knows.message_other (h : r.Knows id latest ps) (finalized : Bool)
    (hm : ¬(m.isAssistant && m.id = id) = true) :
    (r.message m finalized).2.Knows id latest (ps ++ r.messagePieces m finalized) := by
  cases ha : m.isAssistant with
  | false =>
    rw [Renderer.message, messagePieces, if_neg (by rw [ha]; exact Bool.noConfusion),
      if_neg (by rw [ha]; exact Bool.noConfusion)]
    exact h.append rfl rfl
  | true =>
    have hid : m.id ≠ id := fun hid => hm (by rw [ha, hid]; simp)
    refine h.append ?_ ?_
    · rw [printed_message r ha, Keyed.lookup_put, if_neg hid.symm]
    · rw [filter_messagePieces r ha, if_neg hid]

/-- The next version of an answer is shown: what follows the octets of the version before is what
    is new in it. -/
theorem Knows.message (h : r.Knows id latest ps) (finalized : Bool)
    (ha : m.isAssistant = true) (hid : m.id = id) (hg : ∀ k ∈ latest, k.Extends m) :
    (r.message m finalized).2.Knows id (some m) (ps ++ r.messagePieces m finalized) := by
  subst hid
  have hk := h.printed
  have hs := h.shows
  obtain ⟨more, hmore⟩ : ∃ more, m.content = (latest.elim "" (·.content)) ++ more := by
    cases latest with
    | none => exact ⟨m.content, String.empty_append.symm⟩
    | some k => exact (hg k rfl).content
  have hb : (r.printed.lookup m.id).getD 0 = octets (latest.elim "" (·.content)).toList := by
    rw [hk]
    cases latest <;> rfl
  have hrest : restAfter ((r.printed.lookup m.id).getD 0) m.content = more.toList := by
    rw [hb, hmore, restAfter_append]
  constructor
  · rw [printed_message r ha, Keyed.lookup_put, if_pos rfl, hrest, hb, ← octets_append,
      ← String.toList_append, ← hmore]
    rfl
  · rw [List.filter_append, filter_messagePieces r ha, if_pos rfl, hrest, String.ofList_toList, hk]
    cases latest with
    | none =>
      have hn : ps.filter (·.isOf m.id) = [] := hs
      refine ⟨[more], by rw [hn]; rfl, ?_⟩
      rw [hmore, String.join_cons, String.join_nil, String.append_empty]
      exact String.empty_append.symm
    | some k =>
      obtain ⟨slices, hps, hj⟩ := hs
      refine ⟨slices ++ [more], by rw [hps]; simp, ?_⟩
      rw [String.join_append, hj, hmore, String.join_cons, String.join_nil, String.append_empty]
      rfl

/-- A message that is told is shown if it is the answer, which it must go on from. -/
theorem Knows.told (h : r.Knows id latest ps) (finalized : Bool)
    (hg : ∀ k ∈ latest, m.id = id → k.Extends m) :
    (r.message m finalized).2.Knows id
      (([m].filter fun m => m.isAssistant && m.id = id).getLast?.or latest)
      (ps ++ r.messagePieces m finalized) := by
  by_cases hm : (m.isAssistant && m.id = id) = true
  · have hf : ([m].filter fun m => m.isAssistant && m.id = id) = [m] := by
      rw [List.filter_singleton, hm]
      rfl
    rw [Bool.and_eq_true, decide_eq_true_iff] at hm
    rw [hf]
    exact h.message finalized hm.1 hm.2 fun k hk => hg k hk hm.2
  · have hf : ([m].filter fun m => m.isAssistant && m.id = id) = [] :=
      List.filter_eq_nil_iff.2 fun k hk => List.mem_singleton.1 hk ▸ hm
    rw [hf]
    exact h.message_other finalized hm

/-- After updates in which every version of a message goes on as the later ones, what was written
    of each answer shows its latest version. -/
theorem knows_latest {us : List Update} (hp : (versions us).Pairwise Message.GoesOnAs)
    (id : String) : (renderAll {} us).2.Knows id (latest? id us) (piecesAll {} us) := by
  induction us using List.reverseRecOn with
  | nil => exact ⟨rfl, rfl⟩
  | append_singleton us u ih =>
    rw [versions_append, List.pairwise_append] at hp
    have h := ih hp.1
    have hg {m : Message} (hm : m ∈ versions [u]) (k : Message) (hk : k ∈ latest? id us)
        (hid : m.id = id) : k.Extends m := by
      obtain ⟨hkv, hka⟩ := List.mem_filter.1 (List.mem_of_getLast? hk)
      rw [Bool.and_eq_true, decide_eq_true_iff] at hka
      exact hp.2.2 k hkv m hm (hid.trans hka.2.symm)
    rw [renderAll_concat, piecesAll_concat, latest?_concat]
    cases u with
    | messageUpdated m => exact h.told false (hg List.mem_cons_self)
    | messageFinalized m => exact h.told true (hg List.mem_cons_self)
    | _ => exact h.append (congrArg (·.printed.lookup id) (render_of_untold rfl)) rfl

end Renderer

open Session Effect in
/-- Whatever the inputs, a renderer that is given every update in order has at any time written of
    each answer its header, once, and then slices of text that come to the latest version of the
    answer that it was given; of an answer that it was not told of it has written nothing. The
    identifiers must tell messages apart. -/
theorem every_answer_shown_once (conversationId : String) (interval now : Nat) (ids : Ids)
    (inputs : List Input)
    (hn : (((start conversationId interval now ids).run inputs).transcript.messages.map
      (·.id)).Nodup)
    {us : List Update}
    (hu : us <+: updates ((start conversationId interval now ids).run inputs).outbox) :
    let ps := Renderer.piecesAll {} us
    (Renderer.renderAll {} us).1 = String.join (ps.map Piece.text) ∧
      ∀ id, (latest? id us = none → ∀ p ∈ ps, p.isOf id = false) ∧
        ∀ m, latest? id us = some m → ∃ slices : List String,
          ps.filter (·.isOf id) = .header id :: slices.map (.slice id) ∧
            String.join slices = m.content := by
  intro ps
  have hp : (versions us).Pairwise Message.GoesOnAs := by
    obtain ⟨rest, hr⟩ := hu
    have hg := versions_go_on conversationId interval now ids inputs hn
    rw [← hr, versions_append] at hg
    exact (List.pairwise_append.1 hg).1
  refine ⟨(Renderer.joined_piecesAll {} us).symm, fun id => ?_⟩
  have hs := (Renderer.knows_latest hp id).shows
  constructor
  · intro hm p hmem
    rw [hm] at hs
    exact Bool.not_eq_true _ ▸ List.filter_eq_nil_iff.1 hs p hmem
  · intro m hm
    rw [hm] at hs
    exact hs

open Session Effect in
/-- A loaded answer goes on after a decision, with more input waiting, and is followed by another
    one. -/
theorem every_answer_shown_once_resumed :
    let call := { ToolExecution.bare "t" .pending with requiresApproval := true }
    let answer := { Message.beginAssistant "a" 0 with
      content := "Grü", segments := [.text "s" "Grü", .ofExecution call] }
    let inputs : List Input := [.command (.hydrate [answer]),
      .command (.decideSingle "t" true none), .command (.submit "next"),
      .event ⟨1, .tool .approved (.withStatus "t" .approved)⟩, .event ⟨1, .token "ße"⟩,
      .event ⟨1, .completed none⟩, .event ⟨2, .token "x"⟩]
    let s := (start "c" 100 0 ⟨toString, 0⟩).run inputs
    (s.transcript.messages.map (·.id)).Nodup ∧
      ∃ slices : List String, (Renderer.piecesAll {} (updates s.outbox)).filter (·.isOf "a") =
        .header "a" :: slices.map (.slice "a") ∧ String.join slices = "Grüße" := by
  intro call answer inputs s
  have hn : (s.transcript.messages.map (·.id)).Nodup := by decide
  have hl : (latest? "a" (updates s.outbox)).map (·.content) = some "Grüße" := by decide
  obtain ⟨m, hm, hc⟩ := Option.map_eq_some_iff.1 hl
  have hshown := every_answer_shown_once "c" 100 0 ⟨toString, 0⟩ inputs hn (List.prefix_refl _)
  have h := (hshown.2 "a").2 m hm
  exact ⟨hn, hc ▸ h⟩

end Dialogue.Terminal
