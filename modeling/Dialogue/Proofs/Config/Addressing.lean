import Dialogue.Proofs.Config.Placing
import Dialogue.Proofs.Text.Percent
import Mathlib.Data.List.DropRight

/-!
# Addresses

A client asks at the address of its server, with a path behind it. In a path there may be an
identifier, encoded, in the place of a placeholder. It does not add to the shape of the address,
and it can be read off it.

The slashes at the end of the server's address are left out. If nothing else stands behind its
protocol, the slashes of the protocol are left out too; such a configuration is accepted all the
same.

* `identifies_substitute`: what is put in the place of a placeholder can be told;
* `validate_eq_ok_iff`: which configurations are accepted;
* `addresses_identify`: the addresses of two identifiers have the same shape and are not the same;
* `addresses_begin_at_server`: how the addresses of an accepted configuration begin.
-/

namespace Dialogue.Config

/-! ## Identifiers in addresses -/

/-- The characters that shape an address, in their order. -/
def shape (address : String) : List Char :=
  address.toList.filter (['/', '?', '#', '{'].contains ·)

/-- Addresses that say which identifier they were made for. -/
structure Identifies (base placeholder path : String) (address : String → String) : Prop where
  injective : ∀ id id', address id = address id' → id = id'
  /-- The shape is that of the address without an identifier. -/
  shape_eq : ∀ id, shape (address id) = shape (address "")
  /-- In the place of each placeholder stands a text that is read back as the identifier. -/
  placed : ∃ parts, 2 ≤ parts.length ∧ CutAt placeholder.toList path.toList parts ∧
    ∀ id, ∃ text, (address id).toList = base.toList ++ text.intercalate parts ∧
      Text.Percent.decoded? text = some id

variable {c : Config} {placeholder path : String}

theorem exists_parts_substitute (hp : placeholder.toList ≠ []) (path : String) :
    ∃ part parts, CutAt placeholder.toList path.toList (part :: parts) ∧
      ∀ id, (substitute placeholder id path).toList =
        (Text.Percent.encode id).toList.intercalate (part :: parts) := by
  have hlen : path.toList.length ≤ path.length := String.length_toList.le
  obtain ⟨part, parts, hc, hs⟩ := exists_parts hp hlen
  refine ⟨part, parts, hc, fun id => ?_⟩
  rw [substitute, String.toList_ofList]
  exact hs _

/-- No character of an encoded text shapes an address. -/
theorem shape_encode (id : String) : shape (Text.Percent.encode id) = [] := by
  refine List.filter_eq_nil_iff.2 fun c hc hs => ?_
  have hp : Text.Percent.isPlain c = true := Text.Percent.isPlain_of_mem_encode hc
  simp only [List.contains_iff_mem, List.mem_cons, List.not_mem_nil, or_false] at hs
  rcases hs with rfl | rfl | rfl | rfl <;> exact absurd hp (by decide)

/-- An identifier can be told from a path with a placeholder that it was put into. -/
theorem identifies_substitute (hp : placeholder.toList ≠ [])
    (hi : placeholder.toList <:+: path.toList) (base : String) :
    Identifies base placeholder path fun id => base ++ substitute placeholder id path := by
  obtain ⟨part, parts, hc, hs⟩ := exists_parts_substitute hp path
  have hlen : 2 ≤ (part :: parts).length := hc.two_le_length (List.cons_ne_nil _ _) hi
  have hurl (id : String) : (base ++ substitute placeholder id path).toList =
      base.toList ++ (Text.Percent.encode id).toList.intercalate (part :: parts) := by
    rw [String.toList_append, hs]
  refine ⟨fun id id' h => ?_, fun id => ?_, part :: parts, hlen, hc, fun id => ?_⟩
  · -- The parts are the same for both, so what stands between them is too.
    have he : (Text.Percent.encode id).toList = (Text.Percent.encode id').toList :=
      intercalate_injective hlen <| List.append_cancel_left <| by
        rw [← hurl, ← hurl]
        exact congrArg String.toList h
    exact Text.Percent.encode_injective (String.toList_injective he)
  · have hshape (id : String) : shape (base ++ substitute placeholder id path) =
        shape base ++ [].intercalate ((part :: parts).map
          (List.filter (['/', '?', '#', '{'].contains ·))) := by
      rw [shape, hurl, List.filter_append, filter_intercalate, ← shape, ← shape, shape_encode]
    rw [hshape, hshape]
  · exact ⟨_, hurl id, Text.Percent.decoded?_encode id⟩

/-- Where a call is decided and where a conversation is stored can be told apart for different
    identifiers, and the shape of these addresses is the same for all, if there is a placeholder
    for them in the path. In its place stands the identifier, encoded. -/
theorem addresses_identify (c : Config) :
    (callPlaceholder.toList <:+: c.approvalPath.toList →
      Identifies c.base callPlaceholder c.approvalPath c.approvalUrl) ∧
    (conversationPlaceholder.toList <:+: c.conversationPath.toList →
      Identifies c.base conversationPlaceholder c.conversationPath c.conversationUrl) :=
  ⟨fun h => identifies_substitute (by decide) h c.base,
    fun h => identifies_substitute (by decide) h c.base⟩

/-- A call whose identifier looks like a path with a placeholder, twice in a path. -/
theorem addresses_identify_twice :
    let c : Config := { approvalPath := "/\x7bcall_id\x7d/of/\x7bcall_id\x7d?now" }
    c.approvalUrl "a/\x7bcall_id\x7d%" =
        "http://127.0.0.1:8000/a%2F%7Bcall_id%7D%25/of/a%2F%7Bcall_id%7D%25?now" ∧
      Identifies c.base callPlaceholder c.approvalPath c.approvalUrl ∧
      Identifies c.base conversationPlaceholder c.conversationPath c.conversationUrl :=
  ⟨by decide, (addresses_identify _).1 (by decide), (addresses_identify _).2 (by decide)⟩

/-! ## Accepted configurations -/

theorem startsWith_iff {start text : String} :
    startsWith start text = true ↔ start.toList <+: text.toList :=
  List.isPrefixOf_iff_prefix

/-- The protocols of the web. -/
def protocols : List String := ["http:", "https:"]

theorem isHttp_iff {url : String} :
    isHttp url = true ↔ ∃ protocol ∈ protocols, startsWith (protocol ++ "//") url = true := by
  simp only [isHttp, Bool.or_eq_true, protocols, List.exists_mem_cons_iff, List.not_mem_nil,
    false_and, exists_false, or_false]
  rfl

theorem isBlank_of_isHttp {url : String} (h : isHttp url = true) : Text.isBlank url = false := by
  rw [isHttp, Bool.or_eq_true, startsWith_iff, startsWith_iff] at h
  refine List.all_eq_false.2 ⟨'h', ?_, by decide⟩
  rcases h with h | h <;> exact h.subset List.mem_cons_self

theorem relativePath?_eq_none_iff :
    c.relativePath? = none ↔ ∀ p ∈ c.paths, startsWith "/" p.2 = true := by
  simp only [relativePath?, List.find?_eq_none, Bool.not_eq_true', Bool.not_eq_false]

/-- Accepted is what names a server of the web, has paths that start with a slash, and waits for
    answers and connections. -/
theorem validate_eq_ok_iff :
    c.validate = .ok () ↔ isHttp c.serverUrl = true ∧ (∀ p ∈ c.paths, startsWith "/" p.2 = true) ∧
      c.idleTimeout ≠ 0 ∧ c.connectTimeout ≠ 0 := by
  have hfault : c.validate = .ok () ↔ c.fault? = none := by
    rw [validate]
    cases c.fault? <;> simp
  rw [hfault, ← relativePath?_eq_none_iff, ← not_or, fault?]
  -- What names a server of the web is not blank.
  by_cases hs : isHttp c.serverUrl = true
  · cases hp : c.relativePath? <;> simp [hs, isBlank_of_isHttp hs]
  · split <;> simp [hs]

/-! ## Where addresses begin -/

/-- What the address of a server is made of: the protocol with its slashes, a rest, and the slashes
    at the end. -/
structure MadeOf (address protocol rest slashes : String) : Prop where
  joined : address = protocol ++ "//" ++ rest ++ slashes
  protocol : protocol ∈ protocols
  /-- The slashes at the end are all there are. -/
  rest : rest.toList.getLast? ≠ some '/'
  slashes : ∀ ch ∈ slashes.toList, ch = '/'

theorem exists_madeOf {address : String} (h : isHttp address = true) :
    ∃ protocol rest slashes, MadeOf address protocol rest slashes := by
  obtain ⟨protocol, hp, hs⟩ := isHttp_iff.1 h
  obtain ⟨behind, hb⟩ := startsWith_iff.1 hs
  refine ⟨protocol, .ofList (behind.rdropWhile (· == '/')), .ofList (behind.rtakeWhile (· == '/')),
    ?_, hp, fun hl => ?_, fun ch hc => ?_⟩
  · rw [← String.toList_inj, String.toList_append, String.toList_append, String.toList_ofList,
      String.toList_ofList, List.append_assoc, List.rdropWhile_append_rtakeWhile, hb]
  · rw [String.toList_ofList] at hl
    obtain ⟨front, hf⟩ := List.getLast?_eq_some_iff.1 hl
    have hne : behind.rdropWhile (· == '/') ≠ [] := by simp [hf]
    refine List.rdropWhile_last_not _ _ hne ?_
    simp [hf]
  · rw [String.toList_ofList] at hc
    have hs := List.mem_rtakeWhile_imp hc
    exact beq_iff_eq.1 hs

theorem toList_base (c : Config) :
    c.base.toList = c.serverUrl.toList.rdropWhile (· == '/') := by
  rw [base, String.toList_ofList, List.rdropWhile]

/-- All slashes at the end of the server's address are left out. -/
theorem base_eq {front back : String} (h : c.serverUrl = front ++ back)
    (hf : front.toList.getLast? ≠ some '/') (hb : ∀ ch ∈ back.toList, ch = '/') :
    c.base = front := by
  -- From the back, all of `back` is left out and nothing of `front`.
  have hback : ∀ ch ∈ back.toList.reverse, (ch == '/') = true := fun ch hc =>
    beq_iff_eq.2 (hb ch (List.mem_reverse.1 hc))
  have hfront : front.toList.rdropWhile (· == '/') = front.toList := by
    refine List.rdropWhile_eq_self_iff.2 fun hne hl => hf ?_
    rw [List.getLast?_eq_some_getLast hne, beq_iff_eq.1 hl]
  rw [← String.toList_inj, toList_base, h, String.toList_append, List.rdropWhile,
    List.reverse_append, List.dropWhile_append_of_pos hback, ← List.rdropWhile, hfront]

variable {protocol rest slashes : String}

theorem MadeOf.base_eq_of_ne (h : MadeOf c.serverUrl protocol rest slashes) (hr : rest ≠ "") :
    c.base = protocol ++ "//" ++ rest := by
  have hne : rest.toList ≠ [] := mt String.toList_eq_nil_iff.1 hr
  refine base_eq h.joined ?_ h.slashes
  rw [String.toList_append, List.getLast?_append_of_ne_nil _ hne]
  exact h.rest

/-- Without a rest, the slashes of the protocol are left out too. -/
theorem MadeOf.base_eq_of_eq (h : MadeOf c.serverUrl protocol "" slashes) : c.base = protocol := by
  have hj : c.serverUrl = protocol ++ ("//" ++ slashes) := by
    rw [h.joined, String.append_empty, String.append_assoc]
  refine base_eq hj ?_ fun ch hc => ?_
  · have hp := h.protocol
    simp only [protocols, List.mem_cons, List.not_mem_nil, or_false] at hp
    rcases hp with rfl | rfl <;> decide
  · rw [String.toList_append, List.mem_append] at hc
    rcases hc with hc | hc
    · simpa using hc
    · exact h.slashes ch hc

/-- A path still starts with a slash when an identifier is put into it. -/
theorem startsWith_substitute (hp : placeholder.toList.head? = some '{')
    (h : startsWith "/" path = true) (id : String) :
    startsWith "/" (substitute placeholder id path) = true := by
  obtain ⟨rest, hr⟩ : ∃ rest, '/' :: rest = path.toList := startsWith_iff.1 h
  -- No placeholder starts with a slash, so this one is kept.
  have hn : ¬placeholder.toList.isPrefixOf ('/' :: rest) = true := by
    obtain ⟨name, hname⟩ := List.head?_eq_some_iff.1 hp
    rw [hname, List.isPrefixOf_iff_prefix, List.cons_prefix_cons]
    exact fun hc => absurd hc.1 (by decide)
  have hlen : path.length = rest.length + 1 := by
    rw [← String.length_toList, ← hr, List.length_cons]
  have hs : (substitute placeholder id path).toList = '/' ::
      substituteFrom placeholder.toList (Text.Percent.encode id).toList rest.length rest := by
    rw [substitute, String.toList_ofList, hlen, ← hr, substituteFrom, if_neg hn]
  exact startsWith_iff.2 ⟨_, hs.symm⟩

/-- The addresses that a client asks at, each after its path. -/
def addresses (c : Config) (callId conversationId : String) : List (String × String) :=
  [(c.chatPath, c.chatUrl),
    (substitute callPlaceholder callId c.approvalPath, c.approvalUrl callId),
    (c.stopPath, c.stopUrl),
    (substitute conversationPlaceholder conversationId c.conversationPath,
      c.conversationUrl conversationId)]

theorem eq_of_mem_addresses {callId conversationId url : String}
    (h : (path, url) ∈ c.addresses callId conversationId) : url = c.base ++ path := by
  simp only [addresses, List.mem_cons, List.not_mem_nil, or_false, Prod.mk.injEq] at h
  rcases h with ⟨rfl, rfl⟩ | ⟨rfl, rfl⟩ | ⟨rfl, rfl⟩ | ⟨rfl, rfl⟩ <;> rfl

theorem startsWith_of_mem_addresses {callId conversationId url : String}
    (hv : ∀ p ∈ c.paths, startsWith "/" p.2 = true)
    (h : (path, url) ∈ c.addresses callId conversationId) : startsWith "/" path = true := by
  simp only [paths, List.forall_mem_cons] at hv
  obtain ⟨hchat, happroval, hstop, hconversation, -⟩ := hv
  simp only [addresses, List.mem_cons, List.not_mem_nil, or_false, Prod.mk.injEq] at h
  rcases h with ⟨rfl, -⟩ | ⟨rfl, -⟩ | ⟨rfl, -⟩ | ⟨rfl, -⟩
  · exact hchat
  · exact startsWith_substitute (by decide) happroval callId
  · exact hstop
  · exact startsWith_substitute (by decide) hconversation conversationId

/-- The addresses of an accepted configuration are the address of its server, but for the slashes
    at its end, with the path behind it, which starts with a slash. If there are only slashes behind
    the protocol, its own are missing. -/
theorem addresses_begin_at_server (c : Config) (h : c.validate = .ok ()) :
    (∃ protocol rest slashes, MadeOf c.serverUrl protocol rest slashes) ∧
    ∀ protocol rest slashes, MadeOf c.serverUrl protocol rest slashes →
      ∀ callId conversationId path url, (path, url) ∈ c.addresses callId conversationId →
        startsWith "/" path = true ∧
        (url = protocol ++ "//" ++ rest ++ path ↔ rest ≠ "") ∧
        (rest = "" → url = protocol ++ path) := by
  obtain ⟨hhttp, hpaths, -, -⟩ := validate_eq_ok_iff.1 h
  refine ⟨exists_madeOf hhttp, ?_⟩
  intro protocol rest slashes hm callId conversationId path url hmem
  have hurl : url = c.base ++ path := eq_of_mem_addresses hmem
  refine ⟨startsWith_of_mem_addresses hpaths hmem, ⟨fun he hr => ?_, fun hr => ?_⟩, fun hr => ?_⟩
  · -- The address is shorter than that by the two slashes.
    subst hr
    rw [hurl, hm.base_eq_of_eq] at he
    have hlen := congrArg String.length he
    simp only [String.length_append] at hlen
    have hslashes : "//".length = 2 := rfl
    omega
  · rw [hurl, hm.base_eq_of_ne hr]
  · subst hr
    rw [hurl, hm.base_eq_of_eq]

/-- A server below a path, with two slashes at the end of its address. -/
theorem addresses_begin_at_server_nested :
    let c : Config := { serverUrl := "https://localhost/api//" }
    c.validate = .ok () ∧ MadeOf c.serverUrl "https:" "localhost/api" "//" ∧
      ∀ callId conversationId path url, (path, url) ∈ c.addresses callId conversationId →
        startsWith "/" path = true ∧ url = "https://localhost/api" ++ path := by
  intro c
  have hv : c.validate = .ok () := by decide
  have hm : MadeOf c.serverUrl "https:" "localhost/api" "//" :=
    ⟨by decide, by decide, by decide, by simp⟩
  refine ⟨hv, hm, fun callId conversationId path url hmem => ?_⟩
  obtain ⟨hp, hurl, -⟩ :=
    (addresses_begin_at_server c hv).2 _ _ _ hm callId conversationId path url hmem
  exact ⟨hp, hurl.2 (by decide)⟩

/-- Without a host, the slashes of the protocol are missing. -/
theorem address_without_host :
    let c : Config := { serverUrl := "http://" }
    c.validate = .ok () ∧ c.chatUrl = "http:/agent/chat" ∧
      startsWith "http://" c.chatUrl = false := by
  decide

end Dialogue.Config
