/-
# Responder.Proofs.Json.Strip -- values without their null members

`strip` takes the members whose value is null out of every object in a value, at any
depth; items of arrays stay, null or not.  As long as no object has two members of one
key, a key then has the value that it had, stripped, where a key that is missing counts
as one that has null (`getD_lookup_stripMembers`): what was null is missing now, and no
other member comes to light.  Keys are apart in every value that a text denotes
(`keysApart_of_parse?`), since the reader puts the members of an object in order.
-/
import Responder.Proofs.Json.Nesting

namespace Responder.Json

set_option autoImplicit false

mutual

/-- A value without the members of objects, at any depth, whose value is null. -/
def strip : Json → Json
  | .array items => .array (stripItems items)
  | .object members => .object (stripMembers members)
  | value => value

/-- Items, null or not, without the null members inside them. -/
def stripItems : List Json → List Json
  | [] => []
  | item :: rest => strip item :: stripItems rest

/-- Members without those whose value is null, and without such members inside the others. -/
def stripMembers : List (String × Json) → List (String × Json)
  | [] => []
  | (_, .null) :: rest => stripMembers rest
  | (key, value) :: rest => (key, strip value) :: stripMembers rest

end

/-- Whether no object in a value has two members of one key. -/
inductive KeysApart : Json → Prop where
  | null : KeysApart .null
  | bool (b : Bool) : KeysApart (.bool b)
  | number (n : Number) : KeysApart (.number n)
  | string (s : String) : KeysApart (.string s)
  | array {items : List Json} (each : ∀ item ∈ items, KeysApart item) : KeysApart (.array items)
  | object {members : Members} (apart : (members.map Prod.fst).Nodup)
      (each : ∀ m ∈ members, KeysApart m.2) : KeysApart (.object members)

/-! ## Members -/

theorem mem_of_lookup {key : String} {value : Json} {members : Members}
    (found : Members.lookup key members = some value) : (key, value) ∈ members := by
  induction members with
  | nil => cases found
  | cons m rest ih =>
      unfold Members.lookup at found
      split at found
      · rename_i same
        cases found
        rw [← same]
        exact List.mem_cons_self
      · exact List.mem_cons_of_mem m (ih found)

theorem KeysApart.getD_lookup {members : Members} (each : ∀ m ∈ members, KeysApart m.2) (key : String) :
    ((Members.lookup key members).getD .null).KeysApart := by
  cases found : Members.lookup key members with
  | none => exact .null
  | some value => exact each _ (mem_of_lookup found)

theorem KeysApart.getD_field? {v : Json} (apart : v.KeysApart) (name : String) :
    ((v.field? name).getD .null).KeysApart := by
  cases apart with
  | object _ each => exact KeysApart.getD_lookup each name
  | _ => exact .null

theorem stripMembers_cons_of_ne_null {value : Json} (present : value ≠ .null) (key : String) (rest : Members) :
    stripMembers ((key, value) :: rest) = (key, value.strip) :: stripMembers rest := by
  cases value with
  | null => exact absurd rfl present
  | _ => rfl

/-- A key has what it had, stripped, where null and a missing key are the same. -/
theorem getD_lookup_stripMembers {members : Members} (apart : (members.map Prod.fst).Nodup) (key : String) :
    (Members.lookup key (stripMembers members)).getD .null =
      ((Members.lookup key members).getD .null).strip := by
  induction members with
  | nil => rfl
  | cons m rest ih =>
      obtain ⟨k, value⟩ := m
      obtain ⟨notLater, apartLater⟩ := List.nodup_cons.1 apart
      have later := ih apartLater
      by_cases absent : value = .null
      · subst absent
        show (Members.lookup key (stripMembers rest)).getD .null = _
        rw [later, Members.lookup]
        split
        · rename_i same
          -- the key is not repeated further back, so nothing shows in the place of this null
          subst same
          cases found : Members.lookup k rest with
          | none => rfl
          | some hidden => exact absurd (List.mem_map_of_mem (mem_of_lookup found)) notLater
        · rfl
      · rw [stripMembers_cons_of_ne_null absent, Members.lookup, Members.lookup]
        split
        · rfl
        · exact later

/-! ## What strip leaves -/

@[simp] theorem shape_strip (v : Json) : v.strip.shape = v.shape := by cases v <;> rfl

@[simp] theorem string?_strip (v : Json) : v.strip.string? = v.string? := by cases v <;> rfl

/-- A value that holds no others is left as it is. -/
theorem strip_eq_self {v : Json} (noArray : v.shape ≠ .array) (noObject : v.shape ≠ .object) : v.strip = v := by
  cases v with
  | array items => exact absurd rfl noArray
  | object members => exact absurd rfl noObject
  | _ => rfl

theorem getD_field?_strip {v : Json} (apart : v.KeysApart) (name : String) :
    (v.strip.field? name).getD .null = ((v.field? name).getD .null).strip := by
  cases apart with
  | object apart _ => exact getD_lookup_stripMembers apart name
  | _ => rfl

/-! ## Keys of what is read -/

/-- What was read into an open container has its keys apart, and members are in order. -/
def Frame.KeysApart : Frame → Prop
  | .array items => ∀ item ∈ items, item.KeysApart
  | .object members _ => (members.map Prod.fst).Pairwise (· < ·) ∧ ∀ m ∈ members, m.2.KeysApart

namespace Reader

/-- All that was read has its keys apart. -/
def KeysApart : Reader → Prop
  | .finished v => v.KeysApart
  | reader => ∀ frame ∈ reader.frames, frame.KeysApart

theorem keysApart_object {members : Members} (sorted : (members.map Prod.fst).Pairwise (· < ·))
    (each : ∀ m ∈ members, m.2.KeysApart) : Json.KeysApart (.object members) := by
  refine .object (sorted.imp ?_) each
  rintro a _ less rfl
  exact String.lt_irrefl a less

theorem deliver_keysApart {outer : List Frame} {v : Json} (around : ∀ frame ∈ outer, frame.KeysApart)
    (apart : v.KeysApart) : (deliver v outer).KeysApart := by
  match outer, around with
  | [], _ => exact apart
  | .array items :: outer, around =>
      obtain ⟨inside, around⟩ := List.forall_mem_cons.1 around
      exact List.forall_mem_cons.2 ⟨List.forall_mem_cons.2 ⟨apart, inside⟩, around⟩
  | .object members k :: outer, around =>
      obtain ⟨⟨sorted, inside⟩, around⟩ := List.forall_mem_cons.1 around
      refine List.forall_mem_cons.2 ⟨⟨sorted_insert sorted k v, fun m member => ?_⟩, around⟩
      rcases mem_insert member with rfl | old
      · exact apart
      · exact inside m old

theorem beginValue_keysApart {outer : List Frame} {t : Token} {r : Reader}
    (around : ∀ frame ∈ outer, frame.KeysApart) (plain : ∀ v, t = .scalar v → v.KeysApart)
    (found : beginValue outer t = some r) : r.KeysApart := by
  cases t with
  | scalar v =>
      cases found
      exact deliver_keysApart around (plain v rfl)
  | string s =>
      cases found
      exact deliver_keysApart around (.string s)
  | openArray =>
      rw [beginValue] at found
      split at found
      · cases found
        exact List.forall_mem_cons.2 ⟨List.forall_mem_nil _, around⟩
      · cases found
  | openObject =>
      rw [beginValue] at found
      split at found
      · cases found
        exact List.forall_mem_cons.2 ⟨⟨.nil, List.forall_mem_nil _⟩, around⟩
      · cases found
  | closeArray | closeObject | colon | comma => cases found

theorem step_keysApart {r r' : Reader} {t : Token} (apart : r.KeysApart)
    (plain : ∀ v, t = .scalar v → v.KeysApart) (found : r.step t = some r') : r'.KeysApart := by
  fun_cases step r t
  case case1 outer => exact beginValue_keysApart apart plain found
  case case2 outer =>
    obtain ⟨inside, around⟩ := List.forall_mem_cons.1 apart
    cases found
    exact deliver_keysApart around (.array inside)
  case case3 outer noEnd =>
    rw [step] at found
    · exact beginValue_keysApart apart plain found
    · assumption
  case case5 items outer =>
    obtain ⟨inside, around⟩ := List.forall_mem_cons.1 apart
    cases found
    exact deliver_keysApart around (.array fun item member => inside item (List.mem_reverse.1 member))
  case case6 outer =>
    obtain ⟨⟨sorted, inside⟩, around⟩ := List.forall_mem_cons.1 apart
    cases found
    exact deliver_keysApart around (keysApart_object sorted inside)
  case case11 members outer =>
    obtain ⟨⟨sorted, inside⟩, around⟩ := List.forall_mem_cons.1 apart
    cases found
    exact deliver_keysApart around (keysApart_object sorted inside)
  case case7 | case8 =>
    -- the key whose value comes next is noted with the members that were read before
    obtain ⟨inside, around⟩ := List.forall_mem_cons.1 apart
    cases found
    exact List.forall_mem_cons.2 ⟨inside, around⟩
  case case4 | case9 | case10 =>
    cases found
    exact apart
  case case12 =>
    rw [step] at found
    · cases found
    all_goals assumption

theorem run_keysApart {r r' : Reader} {words : List Token} (apart : r.KeysApart)
    (plain : ∀ v, .scalar v ∈ words → v.KeysApart) (found : r.run words = some r') : r'.KeysApart := by
  induction words generalizing r with
  | nil =>
      cases found
      exact apart
  | cons t words ih =>
      rw [run_cons, Option.bind_eq_some_iff] at found
      obtain ⟨next, stepped, later⟩ := found
      have here := step_keysApart apart (fun v same => plain v (same ▸ List.mem_cons_self)) stepped
      exact ih here (fun v member => plain v (List.mem_cons_of_mem _ member)) later

end Reader

/-- **No object that a text denotes has two members of one key.** -/
theorem keysApart_of_parse? {text : String} {v : Json} (found : parse? text = some v) : v.KeysApart := by
  obtain ⟨words, scanned, read⟩ := Option.bind_eq_some_iff.1 found
  obtain ⟨r, ran, result⟩ := Option.bind_eq_some_iff.1 read
  have start : (Reader.value []).KeysApart := List.forall_mem_nil _
  have plain (w : Json) (member : .scalar w ∈ words) : w.KeysApart := by
    rcases scalar_of_scan scanned member with rfl | ⟨b, rfl⟩ | ⟨n, rfl⟩
    · exact .null
    · exact .bool b
    · exact .number n
  have apart := Reader.run_keysApart start plain ran
  cases r <;> cases result
  exact apart

end Responder.Json
