import Dialogue.Event.Decode
import Dialogue.Proofs.Event.Wording

/-!
# Events in other words

What an event means does not depend on how the server words it, but for tokens, whose data may be
the text itself.

* `SamePayload`: when two payloads, under names of the same event, say the same;
* `SpeltTwice`: when a payload gives a field under two of its spellings;
* `decode_worded_alike`: the former decode to the same event, and the latter to none.
-/

namespace Dialogue

open Json

namespace Payload

/-! ## Texts that are not blank -/

theorem digit?_of_blank {c : Char} (h : Text.isBlankChar c = true) :
    Tree.digit? (some c) = none := by
  have hn : ¬('0' ≤ c ∧ c ≤ '9') := by
    rintro ⟨h0, h9⟩
    have h0 : 48 ≤ c.toNat := h0
    have h9 : c.toNat ≤ 57 := h9
    simp only [Text.isBlankChar, Bool.or_eq_true, Bool.and_eq_true, decide_eq_true_eq,
      beq_iff_eq] at h
    omega
  exact if_neg hn

/-- No value begins with a blank. -/
theorem value_of_blank {c : Char} (h : Text.isBlankChar c = true) (fuel level : Nat)
    (rest : List Symbol) : Tree.value fuel level (some c :: rest) = none := by
  cases fuel with
  | zero => rw [Tree.value]
  | succ fuel =>
    have hn (d : Char) (hd : Text.isBlankChar d = false) (more : List Symbol) :
        some c :: rest = some d :: more → False := by
      rintro ⟨⟩
      exact Bool.noConfusion (h.symm.trans hd)
    rw [Tree.value]
    · rw [literal?_eq, Tree.digits, digit?_of_blank h]
      rfl
    all_goals exact hn _ (by decide)

/-- A text that is read is not blank. -/
theorem isBlank_of_parse? {data : String} {t : Tree} (h : Tree.parse? data = some t) :
    Text.isBlank data = false := by
  rw [Bool.eq_false_iff]
  intro hb
  rw [Tree.parse?, Tree.parseSymbols?] at h
  obtain ⟨r, hv, _⟩ := Option.bind_eq_some_iff.1 h
  cases hs : Tree.skipSpaces (data.toList.map some) with
  | nil =>
    have hnil (fuel : Nat) : Tree.value (fuel + 1) 0 [] = none := by
      rw [Tree.value]
      · rfl
      all_goals simp
    rw [hs, hnil] at hv
    cases hv
  | cons s rest =>
    have hm : s ∈ Tree.skipSpaces (data.toList.map some) := by
      rw [hs]
      exact List.mem_cons_self
    obtain ⟨c, hc, rfl⟩ := List.mem_map.1 ((List.dropWhile_sublist Tree.isSpace).subset hm)
    rw [hs, value_of_blank (List.all_eq_true.1 hb c hc)] at hv
    cases hv

theorem valueOrEmpty?_of_parse? {data : String} {t : Tree} (h : Tree.parse? data = some t) :
    valueOrEmpty? data = t.value? := by
  rw [valueOrEmpty?, isBlank_of_parse? h, Value.parse?, h]
  rfl

end Payload

namespace TurnEvent

open Payload

variable {event event' data data' : String} {ms ms' : List (Option String × Tree)}

/-! ## What the names of events mean -/

theorem decode_ready (data : String) : decode "ready" data =
    orMalformed "ready" data (((Tree.parse? data).bind runId?).map .ready) :=
  if_pos rfl

theorem decode_toolsPending (data : String) : decode "tools.pending" data =
    orMalformed "tools.pending" data
      (((Tree.parse? data).bind pendingTools?).map .toolsPending) := by
  rw [decode, if_neg (by decide), if_neg (by decide), if_pos rfl]

theorem decode_usage (h : event ∈ usageNames) (data : String) : decode event data =
    orMalformed event data
      (((Tree.parse? data).bind report?).map fun (report, source) => .usage report source) := by
  have hr : (Value.parse? data).bind usageReport? = (Tree.parse? data).bind report? :=
    Option.bind_assoc _ _ _
  rcases List.mem_pair.1 h with rfl | rfl <;>
    rw [decode, if_neg (by decide), if_neg (by decide), if_neg (by decide), if_pos (by decide), hr]

theorem decode_tool (kind : ToolEvent) (data : String) : decode kind.name data =
    orMalformed kind.name data (((Tree.parse? data).bind ToolUpdate.ofTree?).map fun u =>
      .tool kind (u.orStatus kind.impliedStatus)) := by
  have hk : ToolEvent.ofName? kind.name = some kind := by cases kind <;> rfl
  rw [decode, if_neg (by cases kind <;> decide), if_neg (by cases kind <;> decide),
    if_neg (by cases kind <;> decide), if_neg (by cases kind <;> decide),
    if_neg (by cases kind <;> decide), if_neg (by cases kind <;> decide),
    if_neg (by cases kind <;> decide), if_neg (by cases kind <;> decide), hk]

theorem decode_completed (data : String) : decode "completed" data =
    orMalformed "completed" data
      ((valueOrEmpty? data).map fun v => .completed (timeUnder? ["duration_ms"] v)) := by
  rw [decode, if_neg (by decide), if_neg (by decide), if_neg (by decide), if_neg (by decide),
    if_neg (by decide), if_pos rfl]

theorem decode_workflowComplete (data : String) : decode "workflow_complete" data =
    orMalformed "workflow_complete" data
      ((valueOrEmpty? data).map fun _ => .completed none) := by
  rw [decode, if_neg (by decide), if_neg (by decide), if_neg (by decide), if_neg (by decide),
    if_neg (by decide), if_neg (by decide), if_pos rfl]

theorem decode_failure (h : event ∈ failureNames) (data : String) : decode event data =
    .event (.error (((valueOrEmpty? data).bind reason?).getD unknownReason)) := by
  have hall : ∀ event ∈ failureNames, decode event data =
      .event (.error (((valueOrEmpty? data).bind reason?).getD unknownReason)) := by
    simp only [failureNames, List.forall_mem_cons]
    refine ⟨?_, ?_, ?_, List.forall_mem_nil _⟩ <;>
      rw [decode, if_neg (by decide), if_neg (by decide), if_neg (by decide), if_neg (by decide),
        if_neg (by decide), if_neg (by decide), if_neg (by decide), if_pos (by decide)]
  exact hall event h

theorem decode_firstToken_iff {data : String} {e : TurnEvent} : decode "ttft" data = .event e ↔
    ∃ v time, Value.parse? data = some v ∧
      timeUnder? ["duration_ms", "duration"] v = some time ∧ e = .firstToken time := by
  rw [decode, if_neg (by decide), if_neg (by decide), if_neg (by decide), if_neg (by decide),
    if_pos rfl]
  cases Value.parse? data with
  | none => simp
  | some v =>
    cases ht : timeUnder? ["duration_ms", "duration"] v with
    | none => simp [ht]
    | some time => simp [ht, eq_comm]

theorem orMalformed_eq_event_iff {o : Option TurnEvent} {e : TurnEvent} :
    orMalformed event data o = .event e ↔ o = some e := by
  cases o with
  | none => exact iff_of_false Decoded.noConfusion (Option.some_ne_none e).symm
  | some e' =>
    exact ⟨fun h => congrArg some (Decoded.event.inj h), fun h => congrArg _ (Option.some.inj h)⟩

/-! ## Payloads in other words -/

/-- Payloads that say the same, under names of the same event. -/
inductive SamePayload : String → String →
    List (Option String × Tree) → List (Option String × Tree) → Prop
  | ready {ms ms' : List (Option String × Tree)} : Rewording runFields anything ms ms' →
      SamePayload "ready" "ready" ms ms'
  | toolsPending {ms ms' : List (Option String × Tree)} :
      Rewording pendingFields anything ms ms' →
      SamePayload "tools.pending" "tools.pending" ms ms'
  | tool {ms ms' : List (Option String × Tree)} (kind : ToolEvent) :
      Rewording updateFields anything ms ms' → SamePayload kind.name kind.name ms ms'
  | usage {event event' : String} {ms ms' : List (Option String × Tree)} :
      event ∈ usageNames → event' ∈ usageNames → SameReport ms ms' →
      SamePayload event event' ms ms'
  | firstToken {ms ms' : List (Option String × Tree)} :
      Rewording firstTokenFields Readable ms ms' → SamePayload "ttft" "ttft" ms ms'
  | completed {ms ms' : List (Option String × Tree)} :
      Rewording completionFields Readable ms ms' → SamePayload "completed" "completed" ms ms'
  | workflowComplete {ms ms' : List (Option String × Tree)} : Rewording [] Readable ms ms' →
      SamePayload "workflow_complete" "workflow_complete" ms ms'
  | failure {event event' : String} {ms ms' : List (Option String × Tree)} :
      event ∈ failureNames → event' ∈ failureNames → Rewording failureFields Readable ms ms' →
      SamePayload event event' ms ms'

/-- A payload of its event that gives a field under two spellings. An account is given where its
    report has it. -/
inductive SpeltTwice : String → List (Option String × Tree) → Prop
  | ready {ms : List (Option String × Tree)} : GivesTwice [["run_id", "runId"]] ms →
      SpeltTwice "ready" ms
  | toolsPending {ms : List (Option String × Tree)} : GivesTwice [["executions", "tools"]] ms →
      SpeltTwice "tools.pending" ms
  | execution {ms inner : List (Option String × Tree)} {key : String} {ts : List Tree} :
      key ∈ ["executions", "tools"] → (some key, .array ts) ∈ ms → .object inner ∈ ts →
      GivesTwice toolSpellings inner → SpeltTwice "tools.pending" ms
  | tool {ms : List (Option String × Tree)} (kind : ToolEvent) : GivesTwice toolSpellings ms →
      SpeltTwice kind.name ms
  | nested {event : String} {ms account : List (Option String × Tree)} : event ∈ usageNames →
      lastUnder? "usage" ms = some (.object account) → GivesTwice Usage.spellings account →
      SpeltTwice event ms
  | flat {event : String} {ms : List (Option String × Tree)} : event ∈ usageNames → ¬Nested ms →
      GivesTwice Usage.spellings ms → SpeltTwice event ms

theorem decode_same {e : TurnEvent} (h : SamePayload event event' ms ms')
    (hd : Tree.parse? data = some (.object ms)) (hd' : Tree.parse? data' = some (.object ms'))
    (he : decode event data = .event e) : decode event' data' = .event e := by
  cases h with
  | ready h =>
    rw [decode_ready, orMalformed_eq_event_iff, hd, Option.bind_some, Option.map_eq_some_iff] at he
    obtain ⟨runId, hr, rfl⟩ := he
    rw [decode_ready, hd', Option.bind_some, keeps_runId? _ _ _ (.object h) hr]
    rfl
  | toolsPending h =>
    rw [decode_toolsPending, orMalformed_eq_event_iff, hd, Option.bind_some,
      Option.map_eq_some_iff] at he
    obtain ⟨us, hr, rfl⟩ := he
    rw [decode_toolsPending, hd', Option.bind_some, pendingTools?_reworded h hr]
    rfl
  | tool kind h =>
    rw [decode_tool, orMalformed_eq_event_iff, hd, Option.bind_some, Option.map_eq_some_iff] at he
    obtain ⟨u, hr, rfl⟩ := he
    rw [decode_tool, hd', Option.bind_some, keeps_update _ _ _ (.object h) hr]
    rfl
  | usage hn hn' h =>
    rw [decode_usage hn, orMalformed_eq_event_iff, hd, Option.bind_some,
      Option.map_eq_some_iff] at he
    obtain ⟨r, hr, rfl⟩ := he
    rw [decode_usage hn', hd', Option.bind_some, report?_same h hr]
    rfl
  | firstToken h =>
    obtain ⟨v, time, hv, ht, rfl⟩ := decode_firstToken_iff.1 he
    rw [Value.parse?, hd, Option.bind_some] at hv
    obtain ⟨vs', hv'⟩ := (h.readable_iff_of_plain.1 (readable_of_value? hv)).exists_object
    have hg : ∀ key ∈ ["duration_ms", "duration"], v.get? key = (Value.object vs').get? key := by
      intro key hk
      rcases List.mem_pair.1 hk with rfl | rfl
      · exact h.get?_eq (by decide) List.mem_cons_self hv hv'
      · exact h.get?_eq (by decide) (List.mem_cons_of_mem _ List.mem_cons_self) hv hv'
    refine decode_firstToken_iff.2 ⟨_, time, ?_, timeUnder?_congr hg ▸ ht, rfl⟩
    rw [Value.parse?, hd', Option.bind_some, hv']
  | completed h =>
    rw [decode_completed, orMalformed_eq_event_iff, valueOrEmpty?_of_parse? hd,
      Option.map_eq_some_iff] at he
    obtain ⟨v, hv, rfl⟩ := he
    obtain ⟨vs', hv'⟩ := (h.readable_iff_of_plain.1 (readable_of_value? hv)).exists_object
    have hg : ∀ key ∈ ["duration_ms"], (Value.object vs').get? key = v.get? key :=
      List.forall_mem_singleton.2 (h.get?_eq (by decide) List.mem_cons_self hv hv').symm
    rw [decode_completed, valueOrEmpty?_of_parse? hd', hv', Option.map_some, timeUnder?_congr hg]
    rfl
  | workflowComplete h =>
    rw [decode_workflowComplete, orMalformed_eq_event_iff, valueOrEmpty?_of_parse? hd,
      Option.map_eq_some_iff] at he
    obtain ⟨v, hv, rfl⟩ := he
    have hiff := h.readable_iff (fun _ hf => absurd hf List.not_mem_nil) fun _ h => h
    obtain ⟨vs', hv'⟩ := (hiff.1 (readable_of_value? hv)).exists_object
    rw [decode_workflowComplete, valueOrEmpty?_of_parse? hd', hv']
    rfl
  | failure hn hn' h =>
    rw [decode_failure hn, valueOrEmpty?_of_parse? hd, reason?_reworded h] at he
    rw [decode_failure hn', valueOrEmpty?_of_parse? hd', he]

/-! ## Fields that are given twice -/

theorem update_of_givesTwice (h : GivesTwice toolSpellings ms) :
    ToolUpdate.ofTree? (.object ms) = none := by
  rw [ToolUpdate.ofTree?, h.fields?_eq_none distinct_toolSpellings]
  rfl

/-- An account is not told if it gives a counter or a time twice. -/
theorem account?_of_givesTwice (h : GivesTwice Usage.spellings ms) :
    account? (.object ms) = none := by
  rw [account?]
  cases hv : (Tree.object ms).value? with
  | none => rfl
  | some v =>
    obtain ⟨vs, _, rfl⟩ := Option.map_eq_some_iff.1 hv
    rw [Option.bind_some, Usage.ofTree?, h.fields?_toTree_eq_none distinct_account hv]
    rfl

theorem report?_of_account?_eq_none {account : Tree}
    (h : ∀ v, (Tree.object ms).value? = some v → usageAccount? v = account? account)
    (ha : account? account = none) : report? (.object ms) = none := by
  refine Option.eq_none_iff_forall_ne_some.2 fun r hr => ?_
  obtain ⟨v, hv, _, hu⟩ := report?_eq_some_iff.1 hr
  rw [h v hv, ha] at hu
  cases hu

/-- Calls are not told if one of them is not. -/
theorem pendingTools?_of_update {ts : List Tree} {key : String} {t : Tree}
    (hk : key ∈ ["executions", "tools"]) (hm : (some key, .array ts) ∈ ms) (ht : t ∈ ts)
    (hu : ToolUpdate.ofTree? t = none) : pendingTools? (.object ms) = none := by
  refine Option.eq_none_iff_forall_ne_some.2 fun us h => ?_
  obtain ⟨fs, hf, h⟩ := Option.bind_eq_some_iff.1 h
  obtain ⟨_, hl, rfl⟩ := (fields?_object_iff (by decide)).1 hf
  have hmem : .array ts ∈ under ["executions", "tools"] ms :=
    List.mem_map.2 ⟨_, List.mem_filter.2 ⟨hm, isUnder_some.2 hk⟩, rfl⟩
  -- They are the calls that were given, as nothing else is.
  obtain ⟨_, he⟩ := List.length_eq_one_iff.1 (Nat.le_antisymm
    (hl _ List.mem_cons_self) (List.length_pos_of_mem hmem))
  obtain rfl := List.mem_singleton.1 (he ▸ hmem)
  obtain ⟨vs, hv, _⟩ := Option.bind_eq_some_iff.1 h
  obtain ⟨before, after, rfl⟩ := List.append_of_mem ht
  dsimp only at hv
  rw [he, Tree.required?, List.getLast?_singleton, Option.bind_some, Tree.list?, List.mapM_append,
    List.mapM_cons, hu] at hv
  obtain ⟨_, _, hv⟩ := Option.bind_eq_some_iff.1 hv
  cases hv

theorem decode_speltTwice (h : SpeltTwice event ms)
    (hd : Tree.parse? data = some (.object ms)) :
    decode event data = .malformed (.payload event data) := by
  cases h with
  | ready h =>
    have hr : runId? (.object ms) = none := by
      rw [runId?, h.fields?_eq_none (by decide)]
      rfl
    rw [decode_ready, hd, Option.bind_some, hr]
    rfl
  | toolsPending h =>
    have hr : pendingTools? (.object ms) = none := by
      rw [pendingTools?, h.fields?_eq_none (by decide)]
      rfl
    rw [decode_toolsPending, hd, Option.bind_some, hr]
    rfl
  | execution hk hm ht h =>
    rw [decode_toolsPending, hd, Option.bind_some,
      pendingTools?_of_update hk hm ht (update_of_givesTwice h)]
    rfl
  | tool kind h =>
    rw [decode_tool, hd, Option.bind_some, update_of_givesTwice h]
    rfl
  | nested hn hl h =>
    rw [decode_usage hn, hd, Option.bind_some, report?_of_account?_eq_none
      (fun _ hv => usageAccount?_nested hv hl) (account?_of_givesTwice h)]
    rfl
  | flat hn hf h =>
    rw [decode_usage hn, hd, Option.bind_some, report?_of_account?_eq_none
      (fun _ hv => usageAccount?_flat hv hf) (account?_of_givesTwice h)]
    rfl

/-! ## Every event -/

theorem name_of_ofName? {kind : ToolEvent} (h : ToolEvent.ofName? event = some kind) :
    kind.name = event := by
  rw [ToolEvent.ofName?] at h
  have hk := List.find?_some h
  exact beq_iff_eq.1 hk

theorem sameReport_refl (ms : List (Option String × Tree)) : SameReport ms ms := by
  by_cases h : Nested ms
  · exact .nested h (.refl ms)
  · exact .flat h h (.refl ms)

/-- Every event but a token may be in other words. -/
theorem samePayload_refl {e : TurnEvent} (ht : event ≠ "token") (he : decode event data = .event e)
    (ms : List (Option String × Tree)) : SamePayload event event ms ms := by
  unfold decode at he
  split_ifs at he with hready hpending husage hfirst hcompleted hworkflow hfailure
  · exact hready ▸ .ready (.refl ms)
  · exact hpending ▸ .toolsPending (.refl ms)
  · have hn : event ∈ usageNames := List.contains_iff_mem.1 husage
    exact .usage hn hn (sameReport_refl ms)
  · exact hfirst ▸ .firstToken (.refl ms)
  · exact hcompleted ▸ .completed (.refl ms)
  · exact hworkflow ▸ .workflowComplete (.refl ms)
  · have hn : event ∈ failureNames := List.contains_iff_mem.1 hfailure
    exact .failure hn hn (.refl ms)
  · split at he
    · next kind hk => exact name_of_ofName? hk ▸ .tool kind (.refl ms)
    · cases he

/-- Every event but a token may come in other words, and means the same in them. A payload that
    gives a field under two spellings means nothing. -/
theorem decode_worded_alike :
    (∀ {event data : String} {ms : List (Option String × Tree)} {e : TurnEvent},
      event ≠ "token" → decode event data = .event e → SamePayload event event ms ms) ∧
    (∀ {event event' data data' : String} {ms ms' : List (Option String × Tree)} {e : TurnEvent},
      SamePayload event event' ms ms' → Tree.parse? data = some (.object ms) →
      Tree.parse? data' = some (.object ms') → decode event data = .event e →
      decode event' data' = .event e) ∧
    ∀ {event data : String} {ms : List (Option String × Tree)}, SpeltTwice event ms →
      Tree.parse? data = some (.object ms) →
      decode event data = .malformed (.payload event data) :=
  ⟨fun ht he => samePayload_refl ht he _, decode_same, decode_speltTwice⟩

/-- The account of a report is moved under `usage`, with another spelling in another order, and
    a member that means nothing is added. -/
theorem decode_worded_alike_nested :
    let flat := "\x7b\"prompt_tokens\":3,\"ttft_ms\":40,\"source\":\"main\"\x7d"
    let nested := "\x7b\"x\":[],\"usage\":\x7b\"ttft_ms\":40,\"promptTokens\":3\x7d," ++
      "\"source\":\"main\"\x7d"
    let twice := "\x7b\"call_id\":\"a\",\"callId\":\"a\"\x7d"
    let prompt (key : String) : Option String × Tree := (some key, .number (.int 3))
    let time : Option String × Tree := (some "ttft_ms", .number (.int 40))
    let source : Option String × Tree := (some "source", .string "main")
    let ms := [prompt "prompt_tokens", time, source]
    let ms' :=
      [(some "x", .array []), (some "usage", .object [time, prompt "promptTokens"]), source]
    let report := TurnEvent.usage { prompt := 3, firstToken := some 40 } .main
    SamePayload "token_usage" "token.usage" ms ms' ∧ Tree.parse? flat = some (.object ms) ∧
      Tree.parse? nested = some (.object ms') ∧ decode "token_usage" flat = .event report ∧
      decode "token.usage" nested = .event report ∧
      decode "tool.result" twice = .malformed (.payload "tool.result" twice) := by
  intro flat nested twice prompt time source ms ms' report
  have hflat (key : String) (h : key ≠ "usage") : ¬Nested [prompt key, time, source] := by
    rintro ⟨_, hl⟩
    rw [lastUnder?_eq, under_cons_of_not_mem (by simpa using h)] at hl
    cases hl
  have hnested : Nested [(some "usage", .object [prompt "promptTokens", time]), source] :=
    ⟨_, by rw [lastUnder?_eq]; rfl⟩
  have hmoves : Moves [prompt "promptTokens", time] [source] :=
    ⟨by decide +kernel, by simp [Usage.spellings, under, isUnder, source]⟩
  have hrespelled : SameReport ms [prompt "promptTokens", time, source] := by
    refine .flat (hflat _ (by decide +kernel)) (hflat _ (by decide +kernel)) ?_
    exact @Rewording.respelled _ _ [] _ ⟨["promptTokens", "prompt_tokens"], Reordered⟩ _ _ _
      (List.mem_cons_of_mem _ List.mem_cons_self) (by decide +kernel) (by decide +kernel)
      (by decide +kernel)
  have hswapped : Rewording nestedFields Readable
      [(some "usage", .object [prompt "promptTokens", time]), source]
      [(some "usage", .object [time, prompt "promptTokens"]), source] :=
    @Rewording.replaced _ _ [] _ ⟨["usage"], SameRecord accountFields Readable⟩ _ _ _
      (List.mem_cons_of_mem _ List.mem_cons_self) (by decide +kernel)
      (.object (.moved (by decide +kernel) (.swap _ _ _)))
  have hadded : Rewording nestedFields Readable
      [(some "usage", .object [time, prompt "promptTokens"]), source] ms' :=
    @Rewording.added _ _ [] _ "x" _ (by simp [nestedFields]) rfl
  have hs : SamePayload "token_usage" "token.usage" ms ms' :=
    .usage (by decide +kernel) (by decide +kernel)
      (hrespelled.trans ((SameReport.nest hmoves).trans (.nested hnested (hswapped.trans hadded))))
  have hu : SpeltTwice "tool.result"
      [(some "call_id", .string "a"), (some "callId", .string "a")] :=
    .tool .result ⟨["callId", "call_id"], by decide +kernel, "callId", by decide +kernel,
      "call_id", by decide +kernel, by decide +kernel, by decide +kernel, by decide +kernel⟩
  have he : decode "token_usage" flat = .event report := by decide +kernel
  have hp : Tree.parse? flat = some (.object ms) := by decide +kernel
  have hp' : Tree.parse? nested = some (.object ms') := by decide +kernel
  have ht : Tree.parse? twice =
    some (.object [(some "call_id", .string "a"), (some "callId", .string "a")]) := by decide +kernel
  obtain ⟨_, hsame, htwice⟩ := decode_worded_alike
  exact ⟨hs, hp, hp', he, hsame hs hp hp' he, htwice hu ht⟩

/-- A number that is too large for the format is skipped by no one who reads a value, and an
    account beside the one under `usage` is not looked at. -/
theorem decode_worded_apart :
    let extra := "\x7b\"duration_ms\":5,\"x\":1e999\x7d"
    let beside := "\x7b\"usage\":\x7b\x7d,\"prompt_tokens\":1,\"promptTokens\":2\x7d"
    decode "completed" "\x7b\"duration_ms\":5\x7d" = .event (.completed (some 5)) ∧
      ((Tree.parse? extra).bind (·.fields? [["duration_ms"]])).isSome = true ∧
      decode "completed" extra = .malformed (.payload "completed" extra) ∧
      decode "token_usage" beside = .event (.usage .empty .main) :=
  ⟨by decide +kernel, by decide +kernel, by decide +kernel, by decide +kernel⟩

end TurnEvent

end Dialogue
