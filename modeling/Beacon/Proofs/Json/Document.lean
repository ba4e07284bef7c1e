import Beacon.Json.Node
import Beacon.Proofs.Json.Spelling

/-!
# The grammar of documents

`Node.IsJson` says that a text is one JSON value with nothing but blanks around its tokens. What is
parsed to its end are the JSON texts (`Document.parse_eq_iff`). So the text that spells the tokens
of a value is parsed as this value, whatever blanks and escapes it uses (`Document.parse_spelling`),
and the compact text of a value is such a text (`Node.spelling_write`), if the value has one
(`Node.IsWritable`).

Reading goes through the value in the order of its tokens, with a frame for each container around
the place that has been reached; `Document.build_tokens` follows it from one value to what comes
after it. In the other direction, a value that is read to its end is made of its tokens
(`Document.exists_value`), because a container whose end is not reached is never whole.
-/

namespace Beacon.Json

namespace Node

mutual

/-- Whether a value was read to its end, with all that it contains. -/
def isComplete : Node → Bool
  | .array items closed => closed && areComplete items
  | .object members closed => closed && areCompleteMembers members
  | .broken => false
  | _ => true

/-- Whether all items were read to their ends. -/
def areComplete : List Node → Bool
  | [] => true
  | item :: rest => isComplete item && areComplete rest

/-- Whether all values of members were read to their ends. -/
def areCompleteMembers : List (StringBody × Node) → Bool
  | [] => true
  | (_, value) :: rest => isComplete value && areCompleteMembers rest

end

theorem isWhole_of_isComplete {node : Node} (h : node.isComplete = true) : node.isWhole = true := by
  cases node <;> simp_all [isComplete, isWhole]

end Node

namespace Document

/-- What becomes of a document when a value is complete in some containers, and tokens are left. -/
def resume (value : Node) (more : List Token) : List Frame → Document
  | [] => ⟨value, more⟩
  | frame :: outer => build .more (frame.add value :: outer) more

theorem build_of_finish {expecting : Expecting} {frames outer : List Frame} {token : Token}
    {value : Node} (h : step expecting frames token = .finish value outer) (more : List Token) :
    build expecting frames (token :: more) = resume value more outer := by
  rw [build, h]
  cases outer <;> rfl

theorem build_of_more {expecting next : Expecting} {frames frames' : List Frame} {token : Token}
    (h : step expecting frames token = .more next frames') (more : List Token) :
    build expecting frames (token :: more) = build next frames' more := by
  rw [build, h]

/-- Where the first item of an array is read, no value looks like the end of the array. -/
theorem build_first (outer : List Frame) (more : List Token) (node : Node) :
    build .first (.items [] :: outer) (node.tokens ++ more) =
      build .value (.items [] :: outer) (node.tokens ++ more) := by
  cases node <;> rfl

open Node in
mutual

/-- A value is read from its tokens. -/
theorem build_tokens (frames : List Frame) (more : List Token) :
    (node : Node) → node.isComplete = true →
      build .value frames (node.tokens ++ more) = resume node more frames
  | .null, _ => build_of_finish rfl more
  | .bool _, _ => build_of_finish rfl more
  | .number _, _ => build_of_finish rfl more
  | .string _, _ => build_of_finish rfl more
  | .array [] closed, h => by
    obtain rfl : closed = true := by simpa [isComplete, areComplete] using h
    exact (build_of_more rfl _).trans (build_of_finish rfl more)
  | .array (item :: rest) closed, h => by
    simp only [isComplete, areComplete, Bool.and_eq_true] at h
    obtain ⟨rfl, hitem, hrest⟩ := h
    have htokens : (Node.array (item :: rest) true).tokens ++ more =
        .openArray :: (item.tokens ++ (moreItemTokens rest ++ .closeArray :: more)) := by
      simp [tokens, itemTokens]
    rw [htokens, build_of_more rfl, build_first, build_tokens _ _ item hitem]
    exact build_moreItemTokens frames more [item] rest hrest
  | .object [] closed, h => by
    obtain rfl : closed = true := by simpa [isComplete, areCompleteMembers] using h
    exact (build_of_more rfl _).trans (build_of_finish rfl more)
  | .object ((key, value) :: rest) closed, h => by
    simp only [isComplete, areCompleteMembers, Bool.and_eq_true] at h
    obtain ⟨rfl, hvalue, hrest⟩ := h
    have htokens : (Node.object ((key, value) :: rest) true).tokens ++ more =
        .openObject :: .string key :: .colon ::
          (value.tokens ++ (moreMemberTokens rest ++ .closeObject :: more)) := by
      simp [tokens, memberTokens]
    rw [htokens, build_of_more rfl, build_of_more rfl, build_of_more rfl,
      build_tokens _ _ value hvalue]
    exact build_moreMemberTokens frames more [(key, value)] rest hrest

/-- Items are read from their tokens, after those before them. -/
theorem build_moreItemTokens (outer : List Frame) (more : List Token) (before : List Node) :
    (items : List Node) → areComplete items = true →
      build .more (.items before :: outer) (moreItemTokens items ++ .closeArray :: more) =
        resume (.array (before.reverse ++ items) true) more outer
  | [], _ => by
    rw [List.append_nil]
    exact build_of_finish rfl more
  | item :: rest, h => by
    simp only [areComplete, Bool.and_eq_true] at h
    have htokens : moreItemTokens (item :: rest) ++ .closeArray :: more =
        .comma :: (item.tokens ++ (moreItemTokens rest ++ .closeArray :: more)) := by
      simp [moreItemTokens]
    have hrest := build_moreItemTokens outer more (item :: before) rest h.2
    rw [List.reverse_cons, List.append_assoc, List.singleton_append] at hrest
    rw [htokens, build_of_more rfl, build_tokens _ _ item h.1]
    exact hrest

/-- Members are read from their tokens, after those before them. -/
theorem build_moreMemberTokens (outer : List Frame) (more : List Token)
    (before : List (StringBody × Node)) :
    (members : List (StringBody × Node)) → areCompleteMembers members = true →
      build .more (.members before :: outer) (moreMemberTokens members ++ .closeObject :: more) =
        resume (.object (before.reverse ++ members) true) more outer
  | [], _ => by
    rw [List.append_nil]
    exact build_of_finish rfl more
  | (key, value) :: rest, h => by
    simp only [areCompleteMembers, Bool.and_eq_true] at h
    have htokens : moreMemberTokens ((key, value) :: rest) ++ .closeObject :: more =
        .comma :: .string key :: .colon ::
          (value.tokens ++ (moreMemberTokens rest ++ .closeObject :: more)) := by
      simp [moreMemberTokens]
    have hrest := build_moreMemberTokens outer more ((key, value) :: before) rest h.2
    rw [List.reverse_cons, List.append_assoc, List.singleton_append] at hrest
    rw [htokens, build_of_more rfl, build_of_more rfl, build_of_more rfl,
      build_tokens _ _ value h.1]
    exact hrest

end

/-! ### What is read to its end -/

/-- No value is whole where the text stops being JSON. -/
theorem isWhole_broken (frames : List Frame) : (broken frames).root.isWhole = false := by
  cases frames with
  | nil => rfl
  | cons frame outer =>
    rw [broken]
    have hafter : frame.breakAfter.isWhole = false := by cases frame <;> rfl
    generalize frame.breakAfter = inner at hafter
    induction outer generalizing inner with
    | nil => exact hafter
    | cons frame outer ih => exact ih _ (by cases frame <;> rfl)

theorem not_isWhole_nil {expecting : Expecting} {frames : List Frame} :
    ¬ (build expecting frames []).root.isWhole = true := by
  rw [build, isWhole_broken]
  exact Bool.false_ne_true

theorem not_isWhole_of_stop {expecting : Expecting} {frames : List Frame} {token : Token}
    {rest : List Token} (h : step expecting frames token = .stop) :
    ¬ (build expecting frames (token :: rest)).root.isWhole = true := by
  rw [build, h, isWhole_broken]
  exact Bool.false_ne_true

/-- The first item of an array is read as any other value, unless the array ends there. -/
theorem build_first_items (outer : List Frame) {token : Token} (h : token ≠ .closeArray)
    (rest : List Token) :
    build .first (.items [] :: outer) (token :: rest) =
      build .value (.items [] :: outer) (token :: rest) := by
  cases token <;> first | rfl | exact absurd rfl h

/-- The first member of an object is read as any other one, unless the object ends there. -/
theorem build_first_members (outer : List Frame) {token : Token} (h : token ≠ .closeObject)
    (rest : List Token) :
    build .first (.members [] :: outer) (token :: rest) =
      build .key (.members [] :: outer) (token :: rest) := by
  cases token <;> first | rfl | exact absurd rfl h

open Node in
mutual

/-- A value that is read to its end is made of its tokens. -/
theorem exists_value {frames : List Frame} {tokens : List Token}
    (h : (build .value frames tokens).root.isWhole = true) :
    ∃ (node : Node) (more : List Token), node.isComplete = true ∧ tokens = node.tokens ++ more := by
  match tokens with
  | [] => exact absurd h not_isWhole_nil
  | token :: rest =>
    cases token with
    | null => exact ⟨.null, rest, rfl, rfl⟩
    | bool value => exact ⟨.bool value, rest, rfl, rfl⟩
    | number text => exact ⟨.number text, rest, rfl, rfl⟩
    | string body => exact ⟨.string body, rest, rfl, rfl⟩
    | openArray =>
      rw [build_of_more rfl] at h
      cases rest with
      | nil => exact absurd h not_isWhole_nil
      | cons token rest =>
        by_cases hclose : token = .closeArray
        · subst hclose
          exact ⟨.array [] true, rest, rfl, rfl⟩
        · rw [build_first_items _ hclose] at h
          obtain ⟨item, more, hitem, heq⟩ := exists_value h
          rw [heq, build_tokens _ _ item hitem] at h
          obtain ⟨items, more, hitems, rfl⟩ := exists_items h
          exact ⟨.array (item :: items) true, more,
            by simp [isComplete, areComplete, hitem, hitems],
            by simp [heq, Node.tokens, itemTokens]⟩
    | openObject =>
      rw [build_of_more rfl] at h
      cases rest with
      | nil => exact absurd h not_isWhole_nil
      | cons token rest =>
        by_cases hclose : token = .closeObject
        · subst hclose
          exact ⟨.object [] true, rest, rfl, rfl⟩
        · rw [build_first_members _ hclose] at h
          obtain ⟨key, value, members, more, hvalue, hmembers, heq⟩ := exists_member h
          exact ⟨.object ((key, value) :: members) true, more,
            by simp [isComplete, areCompleteMembers, hvalue, hmembers],
            by simp [heq, Node.tokens, memberTokens]⟩
    | closeObject | closeArray | comma | colon | junk =>
      exact absurd h (not_isWhole_of_stop rfl)
termination_by tokens.length
decreasing_by
  all_goals
    simp_all only [List.length_cons, List.length_append]
    omega

/-- So are items up to the end of their array. -/
theorem exists_items {outer : List Frame} {before : List Node} {tokens : List Token}
    (h : (build .more (.items before :: outer) tokens).root.isWhole = true) :
    ∃ items more, areComplete items = true ∧
      tokens = moreItemTokens items ++ .closeArray :: more := by
  match tokens with
  | [] => exact absurd h not_isWhole_nil
  | token :: rest =>
    cases token with
    | closeArray => exact ⟨[], rest, rfl, rfl⟩
    | comma =>
      rw [build_of_more rfl] at h
      obtain ⟨item, more, hitem, rfl⟩ := exists_value h
      rw [build_tokens _ _ item hitem] at h
      obtain ⟨items, more, hitems, rfl⟩ := exists_items h
      exact ⟨item :: items, more, by simp [areComplete, hitem, hitems], by simp [moreItemTokens]⟩
    | openObject | closeObject | openArray | colon | null | bool | number | string | junk =>
      exact absurd h (not_isWhole_of_stop rfl)
termination_by tokens.length
decreasing_by
  all_goals
    simp_all only [List.length_cons, List.length_append]
    omega

/-- So are a member of an object and those after it. -/
theorem exists_member {outer : List Frame} {before : List (StringBody × Node)}
    {tokens : List Token} (h : (build .key (.members before :: outer) tokens).root.isWhole = true) :
    ∃ (key : StringBody) (value : Node) (members : List (StringBody × Node)) (more : List Token),
      value.isComplete = true ∧ areCompleteMembers members = true ∧
        tokens = .string key :: .colon ::
          (value.tokens ++ (moreMemberTokens members ++ .closeObject :: more)) := by
  match tokens with
  | [] => exact absurd h not_isWhole_nil
  | token :: rest =>
    cases token with
    | string key =>
      rw [build_of_more rfl] at h
      cases rest with
      | nil => exact absurd h not_isWhole_nil
      | cons token rest =>
        cases token with
        | colon =>
          rw [build_of_more rfl] at h
          obtain ⟨value, more, hvalue, rfl⟩ := exists_value h
          rw [build_tokens _ _ value hvalue] at h
          obtain ⟨members, more, hmembers, rfl⟩ := exists_members h
          exact ⟨key, value, members, more, hvalue, hmembers, rfl⟩
        | openObject | closeObject | openArray | closeArray | comma | null | bool | number | string
        | junk =>
          exact absurd h (not_isWhole_of_stop rfl)
    | openObject | closeObject | openArray | closeArray | comma | colon | null | bool | number
    | junk =>
      exact absurd h (not_isWhole_of_stop rfl)
termination_by tokens.length
decreasing_by
  all_goals
    simp_all only [List.length_cons, List.length_append]
    omega

/-- So are members up to the end of their object. -/
theorem exists_members {outer : List Frame} {before : List (StringBody × Node)}
    {tokens : List Token}
    (h : (build .more (.members before :: outer) tokens).root.isWhole = true) :
    ∃ members more, areCompleteMembers members = true ∧
      tokens = moreMemberTokens members ++ .closeObject :: more := by
  match tokens with
  | [] => exact absurd h not_isWhole_nil
  | token :: rest =>
    cases token with
    | closeObject => exact ⟨[], rest, rfl, rfl⟩
    | comma =>
      rw [build_of_more rfl] at h
      obtain ⟨key, value, members, more, hvalue, hmembers, rfl⟩ := exists_member h
      exact ⟨(key, value) :: members, more, by simp [areCompleteMembers, hvalue, hmembers],
        by simp [moreMemberTokens]⟩
    | openObject | openArray | closeArray | colon | null | bool | number | string | junk =>
      exact absurd h (not_isWhole_of_stop rfl)
termination_by tokens.length
decreasing_by
  all_goals
    simp_all only [List.length_cons]
    omega

end

end Document

/-! ### JSON texts -/

namespace Node

mutual

/-- A value that was read to its end contains no place where the text stops being JSON. -/
theorem junk_not_mem_tokens :
    (node : Node) → node.isComplete = true → Token.junk ∉ node.tokens
  | .null, _ | .bool _, _ | .number _, _ | .string _, _ => by simp [tokens]
  | .array [] _, _ | .object [] _, _ => by simp [tokens, itemTokens, memberTokens]
  | .array (item :: rest) _, h => by
    simp only [isComplete, areComplete, Bool.and_eq_true] at h
    simp [tokens, itemTokens, junk_not_mem_tokens item h.2.1,
      junk_not_mem_moreItemTokens rest h.2.2]
  | .object ((key, value) :: rest) _, h => by
    simp only [isComplete, areCompleteMembers, Bool.and_eq_true] at h
    simp [tokens, memberTokens, junk_not_mem_tokens value h.2.1,
      junk_not_mem_moreMemberTokens rest h.2.2]

/-- So with items. -/
theorem junk_not_mem_moreItemTokens :
    (items : List Node) → areComplete items = true → Token.junk ∉ moreItemTokens items
  | [], _ => by simp [moreItemTokens]
  | item :: rest, h => by
    simp only [areComplete, Bool.and_eq_true] at h
    simp [moreItemTokens, junk_not_mem_tokens item h.1, junk_not_mem_moreItemTokens rest h.2]

/-- So with members. -/
theorem junk_not_mem_moreMemberTokens :
    (members : List (StringBody × Node)) → areCompleteMembers members = true →
      Token.junk ∉ moreMemberTokens members
  | [], _ => by simp [moreMemberTokens]
  | (key, value) :: rest, h => by
    simp only [areCompleteMembers, Bool.and_eq_true] at h
    simp [moreMemberTokens, junk_not_mem_tokens value h.1, junk_not_mem_moreMemberTokens rest h.2]

end

/-- A text that is one JSON value with nothing but blanks before, inside and after it. -/
structure IsJson (node : Node) (text : Bytes) : Prop where
  /-- The value goes to its end. -/
  complete : node.isComplete = true
  /-- The text consists of the tokens of the value. -/
  isText : Token.Text node.tokens text

end Node

namespace Document

variable {node : Node} {text : Bytes}

/-- What is parsed to its end, with nothing after it, are the JSON texts. -/
theorem parse_eq_iff :
    parse text = ⟨node, []⟩ ∧ node.isWhole = true ↔ node.IsJson text := by
  constructor
  · rintro ⟨hparse, hwhole⟩
    have hbuild : build .value [] (Token.scan text) = ⟨node, []⟩ := hparse
    obtain ⟨found, more, hcomplete, htokens⟩ := exists_value (by rw [hbuild]; exact hwhole)
    rw [htokens, build_tokens _ _ found hcomplete, resume] at hbuild
    obtain ⟨rfl, rfl⟩ := Document.mk.inj hbuild
    rw [List.append_nil] at htokens
    exact ⟨hcomplete, Token.scan_eq_iff.1 ⟨htokens, found.junk_not_mem_tokens hcomplete⟩⟩
  · rintro ⟨hcomplete, hText⟩
    have hbuild := build_tokens [] [] node hcomplete
    rw [List.append_nil] at hbuild
    rw [parse, (Token.scan_eq_iff.2 hText).1, hbuild]
    exact ⟨rfl, Node.isWhole_of_isComplete hcomplete⟩

/-- A text that spells the tokens of a value is parsed as this value. -/
theorem parse_spelling (complete : node.isComplete = true)
    (h : Token.Spelling node.tokens text) : parse text = ⟨node, []⟩ :=
  (parse_eq_iff.2 ⟨complete, h.isText⟩).1

end Document

/-- A text is the JSON text of one value only. -/
theorem Node.IsJson.unique {node node' : Node} {text : Bytes} (h : node.IsJson text)
    (h' : node'.IsJson text) : node' = node := by
  have hparse := (Document.parse_eq_iff.2 h).1
  rw [(Document.parse_eq_iff.2 h').1] at hparse
  exact (Document.mk.inj hparse).1

/-! ### Compact texts -/

namespace Node

open Token

variable {more : List Token} {text : Bytes}

theorem isApart_moreItemTokens (items : List Node) :
    IsApart ((moreItemTokens items).flatMap Token.write ++ (Token.closeArray.write ++ text)) := by
  cases items with
  | nil => exact isApart_sign (b := 0x5D) rfl
  | cons item rest => exact isApart_sign (b := 0x2C) rfl

theorem isApart_moreMemberTokens (members : List (StringBody × Node)) :
    IsApart ((moreMemberTokens members).flatMap Token.write ++
      (Token.closeObject.write ++ text)) := by
  cases members with
  | nil => exact isApart_sign (b := 0x7D) rfl
  | cons member rest => exact isApart_sign (b := 0x2C) rfl

mutual

/-- The compact text of a value spells its tokens, in front of what does not continue a number. -/
theorem spelling_tokens {more : List Token} {text : Bytes} (hmore : Spelling more text)
    (apart : IsApart text) :
    (node : Node) → (∀ token ∈ node.tokens, token.isWritable = true) →
      Spelling (node.tokens ++ more) (node.tokens.flatMap Token.write ++ text)
  | .null, _ => spelling_cons rfl nofun hmore
  | .bool true, _ => spelling_cons rfl nofun hmore
  | .bool false, _ => spelling_cons rfl nofun hmore
  | .number _, h => by
    simpa [tokens] using spelling_cons (h _ List.mem_cons_self) (fun _ => apart) hmore
  | .string _, h => by
    simpa [tokens] using spelling_cons (h _ List.mem_cons_self) nofun hmore
  | .array [] _, _ => spelling_cons rfl nofun (spelling_cons rfl nofun hmore)
  | .array (item :: rest) _, h => by
    simp only [tokens, itemTokens, List.mem_cons, List.mem_append, forall_eq_or_imp] at h
    have hrest := spelling_moreItemTokens hmore rest fun token ht => h.2 token (.inl (.inr ht))
    have hitem := spelling_tokens hrest (isApart_moreItemTokens rest) item
      fun token ht => h.2 token (.inl (.inl ht))
    have hopen : Spelling (.openArray :: _) _ := spelling_cons rfl nofun hitem
    simpa [tokens, itemTokens] using hopen
  | .object [] _, _ => spelling_cons rfl nofun (spelling_cons rfl nofun hmore)
  | .object ((key, value) :: rest) _, h => by
    simp only [tokens, memberTokens, List.mem_cons, List.mem_append, forall_eq_or_imp,
      List.cons_append] at h
    obtain ⟨-, hkey, -, h⟩ := h
    have hrest := spelling_moreMemberTokens hmore rest fun token ht => h token (.inl (.inr ht))
    have hvalue := spelling_tokens hrest (isApart_moreMemberTokens rest) value
      fun token ht => h token (.inl (.inl ht))
    have hcolon : Spelling (.colon :: _) _ := spelling_cons rfl nofun hvalue
    have hopen : Spelling (.openObject :: _) _ :=
      spelling_cons rfl nofun (spelling_cons hkey nofun hcolon)
    simpa [tokens, memberTokens] using hopen
  | .broken, h => absurd (h .junk List.mem_cons_self) nofun

/-- So do the compact texts of items up to the end of their array. -/
theorem spelling_moreItemTokens {more : List Token} {text : Bytes} (hmore : Spelling more text) :
    (items : List Node) → (∀ token ∈ moreItemTokens items, token.isWritable = true) →
      Spelling (moreItemTokens items ++ .closeArray :: more)
        ((moreItemTokens items).flatMap Token.write ++ (Token.closeArray.write ++ text))
  | [], _ => spelling_cons rfl nofun hmore
  | item :: rest, h => by
    simp only [moreItemTokens, List.mem_cons, List.mem_append, forall_eq_or_imp] at h
    have hrest := spelling_moreItemTokens hmore rest fun token ht => h.2 token (.inr ht)
    have hitem := spelling_tokens hrest (isApart_moreItemTokens rest) item
      fun token ht => h.2 token (.inl ht)
    have hcomma : Spelling (.comma :: _) _ := spelling_cons rfl nofun hitem
    simpa [moreItemTokens] using hcomma

/-- So do the compact texts of members up to the end of their object. -/
theorem spelling_moreMemberTokens {more : List Token} {text : Bytes} (hmore : Spelling more text) :
    (members : List (StringBody × Node)) →
      (∀ token ∈ moreMemberTokens members, token.isWritable = true) →
      Spelling (moreMemberTokens members ++ .closeObject :: more)
        ((moreMemberTokens members).flatMap Token.write ++ (Token.closeObject.write ++ text))
  | [], _ => spelling_cons rfl nofun hmore
  | (key, value) :: rest, h => by
    simp only [moreMemberTokens, List.mem_cons, List.mem_append, forall_eq_or_imp] at h
    obtain ⟨-, hkey, -, h⟩ := h
    have hrest := spelling_moreMemberTokens hmore rest fun token ht => h token (.inr ht)
    have hvalue := spelling_tokens hrest (isApart_moreMemberTokens rest) value
      fun token ht => h token (.inl ht)
    have hcolon : Spelling (.colon :: _) _ := spelling_cons rfl nofun hvalue
    have hcomma : Spelling (.comma :: _) _ :=
      spelling_cons rfl nofun (spelling_cons hkey nofun hcolon)
    simpa [moreMemberTokens] using hcomma

end

/-- The compact text of a value spells its tokens. -/
theorem spelling_write {node : Node} (h : ∀ token ∈ node.tokens, token.isWritable = true) :
    Spelling node.tokens node.write := by
  have hspelling := spelling_tokens (.nil rfl) isApart_nil node h
  rwa [List.append_nil, List.append_nil] at hspelling

/-- A value with a compact text: it was read to its end, and so can be written. -/
structure IsWritable (node : Node) : Prop where
  /-- The value goes to its end. -/
  complete : node.isComplete = true
  /-- The tokens have texts. -/
  tokens : ∀ token ∈ node.tokens, token.isWritable = true

/-- A value is parsed from its compact text. -/
theorem parse_write {node : Node} (h : node.IsWritable) : Document.parse node.write = ⟨node, []⟩ :=
  Document.parse_spelling h.complete (spelling_write h.tokens)

theorem isWritable_ofString (text : String) : (string (.ofString text)).IsWritable :=
  ⟨rfl, by simp [Node.tokens, Token.isWritable, StringBody.ofString]⟩

theorem isWritable_array {items : List Node} (h : ∀ item ∈ items, item.IsWritable) :
    (array items true).IsWritable := by
  have hmore : areComplete items = true ∧
      ∀ token ∈ moreItemTokens items, token.isWritable = true := by
    induction items with
    | nil => exact ⟨rfl, List.forall_mem_nil _⟩
    | cons item rest ih =>
      obtain ⟨hitem, hrest⟩ := List.forall_mem_cons.1 h
      obtain ⟨hcomplete, htokens⟩ := ih hrest
      refine ⟨by rw [areComplete, hitem.complete, hcomplete]; rfl, ?_⟩
      rw [moreItemTokens, List.forall_mem_cons, List.forall_mem_append]
      exact ⟨rfl, hitem.tokens, htokens⟩
  refine ⟨by rw [isComplete, hmore.1]; rfl, ?_⟩
  rw [Node.tokens, List.forall_mem_cons, List.forall_mem_append]
  refine ⟨rfl, ?_, by simp [Token.isWritable]⟩
  -- the first item has no comma
  cases items with
  | nil => exact List.forall_mem_nil _
  | cons item rest => exact fun token ht => hmore.2 token (List.mem_cons_of_mem _ ht)

theorem isWritable_object {members : List (StringBody × Node)}
    (h : ∀ m ∈ members, m.1.paired = true ∧ m.2.IsWritable) : (object members true).IsWritable := by
  have hmore : areCompleteMembers members = true ∧
      ∀ token ∈ moreMemberTokens members, token.isWritable = true := by
    induction members with
    | nil => exact ⟨rfl, List.forall_mem_nil _⟩
    | cons member rest ih =>
      obtain ⟨key, value⟩ := member
      obtain ⟨⟨hkey, hvalue⟩, hrest⟩ := List.forall_mem_cons.1 h
      obtain ⟨hcomplete, htokens⟩ := ih hrest
      refine ⟨by rw [areCompleteMembers, hvalue.complete, hcomplete]; rfl, ?_⟩
      rw [moreMemberTokens, List.forall_mem_cons, List.forall_mem_cons, List.forall_mem_cons,
        List.forall_mem_append]
      exact ⟨rfl, hkey, rfl, hvalue.tokens, htokens⟩
  refine ⟨by rw [isComplete, hmore.1]; rfl, ?_⟩
  rw [Node.tokens, List.forall_mem_cons, List.forall_mem_append]
  refine ⟨rfl, ?_, by simp [Token.isWritable]⟩
  cases members with
  | nil => exact List.forall_mem_nil _
  | cons member rest => exact fun token ht => hmore.2 token (List.mem_cons_of_mem _ ht)

end Node

end Beacon.Json
