import Beacon.Json.Value
import Beacon.Proofs.Json.Fields

/-!
# Members of free values

A free value is read from an object by putting its members in their places one after the other, in
the order of the text; a later member takes the place of an earlier one with its name. So every
member of the value is the last one with its name in the text: `Value.member?_of_ofMembers` says so
for all members that are read, and `Value.exists_members_of_ofNode` for the texts in an object.
-/

namespace Beacon.Json

namespace Value

variable {room : Nat} {members : List (StringBody × Node)} {done values : List (String × Value)}

/-- A member that is put in its place is found there, and the others as before, in whatever order
they are. -/
theorem member?_insertMember (name other : String) (value : Value) :
    member? other (.object (insertMember name value done)) =
      if name = other then some value else member? other (.object done) := by
  simp only [member?]
  induction done with
  | nil => by_cases h : name = other <;> simp [insertMember, h]
  | cons first rest ih =>
    obtain ⟨n, v⟩ := first
    rw [insertMember]
    split
    · by_cases h : name = other <;> simp [h]
    · split
      · next heq =>
        subst heq
        by_cases h : name = other <;> simp [h]
      · next hne =>
        by_cases hn : n = other
        · have h : ¬ name = other := fun e => hne (e.trans hn.symm)
          simp [hn, h]
        · simpa [hn] using ih

/-- A member of what is read is read from the last node with its name, or else it was there
before. -/
theorem member?_of_ofMembers (h : ofMembers room members done = .ok values) (name : String)
    (value : Value) :
    member? name (.object values) = some value ↔
      (∃ node, (named members name).getLast? = some node ∧ ofNode room node = .ok value) ∨
        named members name = [] ∧ member? name (.object done) = some value := by
  induction members generalizing done with
  | nil =>
    cases h
    simp [named]
  | cons first rest ih =>
    obtain ⟨key, node⟩ := first
    rw [ofMembers] at h
    rw [named_cons]
    split at h
    · cases h
    · next n hname =>
      split at h
      · next v hread =>
        rw [ih h, member?_insertMember, hname]
        by_cases heq : n = name
        · -- the value of this node lasts if no other node with the name follows
          rw [if_pos heq, if_pos (by rw [heq]), List.singleton_append]
          cases hrest : named rest name with
          | nil => simp [hread]
          | cons next more => simp
        · rw [if_neg heq, if_neg (by simpa using heq), List.nil_append]
      · cases h

/-- Objects are read from objects whose end was reached. -/
theorem ofNode_eq_object {node : Node} (h : ofNode room node = .ok (.object values)) :
    ∃ members inner, node = .object members true ∧ ofMembers inner members [] = .ok values := by
  cases node with
  | object members closed =>
    cases room with
    | zero => cases h
    | succ inner =>
      rw [ofNode] at h
      cases hmembers : ofMembers inner members [] with
      | error e =>
        rw [hmembers] at h
        cases h
      | ok found =>
        rw [hmembers] at h
        cases closed with
        | false => cases h
        | true =>
          cases h
          exact ⟨members, inner, rfl, hmembers⟩
  | array items closed =>
    cases room with
    | zero => cases h
    | succ inner =>
      rw [ofNode] at h
      grind
  | number text =>
    rw [ofNode] at h
    grind
  | string body =>
    rw [ofNode] at h
    grind
  | null | bool | broken => cases h

/-- Texts are read from strings that can be decoded. -/
theorem ofNode_eq_string_iff {node : Node} {text : String} :
    ofNode room node = .ok (.string text) ↔
      ∃ body, node = .string body ∧ body.toString? = some text := by
  cases node with
  | string body => cases h : body.toString? <;> simp [ofNode, h]
  | object members closed =>
    cases room <;> simp [ofNode]
    grind
  | array items closed =>
    cases room <;> simp [ofNode]
    grind
  | number text =>
    simp [ofNode]
    grind
  | null | bool | broken => simp [ofNode]

/-- A member of an object that is read is a text if and only if the last node with its name is a
string of this text. -/
theorem exists_members_of_ofNode {node : Node} (h : ofNode room node = .ok (.object values)) :
    ∃ members, node = .object members true ∧ ∀ name text,
      member? name (.object values) = some (.string text) ↔
        ∃ body, (named members name).getLast? = some (.string body) ∧
          body.toString? = some text := by
  obtain ⟨members, inner, rfl, hmembers⟩ := ofNode_eq_object h
  refine ⟨members, rfl, fun name text => ?_⟩
  have hnone : member? name (.object []) = none := rfl
  rw [member?_of_ofMembers hmembers, hnone]
  simp only [ofNode_eq_string_iff, reduceCtorEq, and_false, or_false]
  constructor
  · rintro ⟨_, hlast, body, rfl, htext⟩
    exact ⟨body, hlast, htext⟩
  · rintro ⟨body, hlast, htext⟩
    exact ⟨_, hlast, body, rfl, htext⟩

end Value

end Beacon.Json
