import Dialogue.Proofs.Event.Decoding

/-!
# The reasons of failures

A failure ends the turn, whatever its data is. Its reason is looked for under `message` and then
under `error`: there may be a text, or an object that has a text under `message` (`reasons`). An
empty text is passed over if it stands under the key itself. If it is that of an object it is
taken, although it says nothing and the next key might say something (`Hollow`).

* `reasonUnder?_eq_spoken?`, `reasonUnder?_hollow`: what is found under one key;
* `failure_gives_reason`: the first text that says anything is the reason, unless the payload is
  hollow.
-/

namespace Dialogue

open Json

namespace Payload

variable {v : Value} {key : String}

/-- The text under a key. -/
def textUnder? (v : Value) (key : String) : Option String :=
  (v.get? key).bind Value.string?

/-- The message of an object under a key. -/
def nestedUnder? (v : Value) (key : String) : Option String :=
  ((v.get? key).bind (·.get? "message")).bind Value.string?

/-- The texts under a key that may be the reason of a failure. -/
def reasonsUnder (v : Value) (key : String) : List String :=
  (textUnder? v key).toList ++ (nestedUnder? v key).toList

/-- The texts that may be the reason of a failure, the first to be looked at in front. -/
def reasons (v : Value) : List String :=
  reasonsUnder v "message" ++ reasonsUnder v "error"

/-- The first of some texts that says anything. -/
def spoken? (texts : List String) : Option String :=
  texts.find? (· ≠ "")

/-- An object has an empty message, and nothing before it says anything. -/
def Hollow (v : Value) : Prop :=
  nestedUnder? v "message" = some "" ∨
    spoken? (reasonsUnder v "message") = none ∧ nestedUnder? v "error" = some ""

instance (v : Value) : Decidable (Hollow v) :=
  inferInstanceAs (Decidable (_ ∨ _))

theorem ne_empty_of_spoken? {texts : List String} {text : String} (h : spoken? texts = some text) :
    text ≠ "" := by
  simpa using List.find?_some h

/-- An empty message of an object is taken. -/
theorem reasonUnder?_hollow (h : nestedUnder? v key = some "") : reasonUnder? v key = some "" := by
  rw [nestedUnder?] at h
  rw [reasonUnder?]
  cases hk : v.get? key with
  | none =>
    rw [hk] at h
    cases h
  | some found =>
    rw [hk] at h
    cases found with
    | object members => exact h
    | _ => cases h

/-- Otherwise what is found under a key is the first text there that says anything. -/
theorem reasonUnder?_eq_spoken? (h : nestedUnder? v key ≠ some "") :
    reasonUnder? v key = spoken? (reasonsUnder v key) := by
  rw [nestedUnder?] at h
  rw [reasonUnder?, reasonsUnder, textUnder?, nestedUnder?]
  cases hk : v.get? key with
  | none => rfl
  | some found =>
    rw [hk] at h
    cases found with
    | string text =>
      -- A text has no members.
      have hn (text : String) : (Value.string text).get? "message" = none := rfl
      by_cases ht : text = "" <;> simp [ht, spoken?, hn, Value.string?]
    | object members =>
      simp only [Option.bind_some] at h ⊢
      cases hm : ((Value.object members).get? "message").bind Value.string? with
      | none => rfl
      | some text =>
        have ht : text ≠ "" := fun ht => h (by rw [hm, ht])
        simp [ht, spoken?, Value.string?]
    | _ => rfl

theorem spoken?_append (texts texts' : List String) :
    spoken? (texts ++ texts') = (spoken? texts).or (spoken? texts') :=
  List.find?_append

theorem reason?_eq (v : Value) :
    reason? v = (reasonUnder? v "message").or (reasonUnder? v "error") := by
  rw [reason?, List.findSome?_cons, List.findSome?_cons, List.findSome?_nil]
  cases reasonUnder? v "message" <;> cases reasonUnder? v "error" <;> rfl

theorem reason?_hollow (h : Hollow v) : reason? v = some "" := by
  rw [reason?_eq]
  rcases h with h | ⟨hs, h⟩
  · rw [reasonUnder?_hollow h, Option.some_or]
  · by_cases hm : nestedUnder? v "message" = some ""
    · rw [reasonUnder?_hollow hm, Option.some_or]
    · rw [reasonUnder?_eq_spoken? hm, hs, Option.none_or, reasonUnder?_hollow h]

theorem reason?_of_not_hollow (h : ¬Hollow v) : reason? v = spoken? (reasons v) := by
  obtain ⟨hm, he⟩ := not_or.1 h
  rw [reason?_eq, reasons, spoken?_append, reasonUnder?_eq_spoken? hm]
  cases hs : spoken? (reasonsUnder v "message") with
  | none => rw [reasonUnder?_eq_spoken? fun hn => he ⟨hs, hn⟩]
  | some text => rfl

/-- What a text is as a value, or `null`, in which nothing is found, if it cannot be read as one. -/
def valueOf (data : String) : Value :=
  (Value.parse? data).getD .null

theorem reason?_valueOrEmpty? (data : String) :
    (valueOrEmpty? data).bind reason? = reason? (valueOf data) := by
  have hnull : reason? .null = none := rfl
  rw [valueOrEmpty?, valueOf]
  split_ifs with hb
  · -- A blank text cannot be read, and is taken for an object in which there is nothing either.
    cases hp : Tree.parse? data with
    | none =>
      rw [Value.parse?, hp]
      rfl
    | some t => exact Bool.noConfusion (hb.symm.trans (isBlank_of_parse? hp))
  · cases Value.parse? data with
    | none => exact hnull.symm
    | some v => rfl

end Payload

namespace TurnEvent

open Payload

/-- Under each name of a failure, and whatever the data is, the turn ends with an error. Unless the
    payload is hollow, it has a reason: the first text that says anything, or else a text that is
    always the same. If the payload is hollow the reason is empty. -/
theorem failure_gives_reason {event : String} (h : event ∈ failureNames) (data : String) :
    ∃ reason, decode event data = .event (.error reason) ∧
      (TurnEvent.error reason).isTerminal = true ∧
      (¬Hollow (valueOf data) →
        reason = (spoken? (reasons (valueOf data))).getD unknownReason ∧ reason ≠ "") ∧
      (Hollow (valueOf data) → reason = "") := by
  refine ⟨_, decode_failure h data, rfl, ?_, ?_⟩
  · intro hn
    rw [reason?_valueOrEmpty?, reason?_of_not_hollow hn]
    refine ⟨rfl, ?_⟩
    cases hs : spoken? (reasons (valueOf data)) with
    | none => decide
    | some text => exact ne_empty_of_spoken? hs
  · intro hh
    rw [reason?_valueOrEmpty?, reason?_hollow hh]
    rfl

/-- An empty text and an object without a text are passed over. -/
theorem failure_gives_reason_nested :
    let data := "\x7b\"error\":\x7b\"message\":\"quota\"\x7d,\"message\":\"\"\x7d"
    "workflow_error" ∈ failureNames ∧ ¬Hollow (valueOf data) ∧
      decode "workflow_error" data = .event (.error "quota") := by
  intro data
  have hm : "workflow_error" ∈ failureNames := by decide
  have hn : ¬Hollow (valueOf data) := by decide +kernel
  have hs : spoken? (reasons (valueOf data)) = some "quota" := by decide +kernel
  obtain ⟨reason, hd, -, hr, -⟩ := failure_gives_reason hm data
  have hq : reason = "quota" := by
    rw [(hr hn).1, hs]
    rfl
  exact ⟨hm, hn, hq ▸ hd⟩

/-- The empty message of an object hides the reason behind it. -/
theorem empty_message_hides_reason :
    let data := "\x7b\"message\":\x7b\"message\":\"\"\x7d,\"error\":\"out of memory\"\x7d"
    spoken? (reasons (valueOf data)) = some "out of memory" ∧
      decode "error" data = .event (.error "") :=
  ⟨by decide +kernel, by decide +kernel⟩

end TurnEvent

end Dialogue
