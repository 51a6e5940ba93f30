/-
# Responder.Proofs.Json.Nesting -- what is read can be written and read again

Every value that a text denotes has its members in order of key and nests no deeper
than the reader allows, so its compact text is read back as this value, if the texts
of its floats are (`formed_of_parse?`).  The reader keeps an invariant for this: the
deeper a container that is still open stands, the less room is left inside it, and
what was read into it fits this room (`Nested`).  A word preserves it
(`step_sound`), and so does a text (`run_sound`).
-/
import Responder.Proofs.Json.RoundTrip

namespace Responder.Json

set_option autoImplicit false

/-! ## Floats of a value -/

mutual

/-- The floats anywhere in a value. -/
def floats : Json → List Numeral.Binary64
  | .number (.float x) => [x]
  | .array items => itemFloats items
  | .object members => memberFloats members
  | _ => []

/-- The floats anywhere in items. -/
def itemFloats : List Json → List Numeral.Binary64
  | [] => []
  | item :: rest => floats item ++ itemFloats rest

/-- The floats anywhere in the values of members. -/
def memberFloats : List (String × Json) → List Numeral.Binary64
  | [] => []
  | (_, value) :: rest => floats value ++ memberFloats rest

end

theorem mem_itemFloats {items : List Json} {x : Numeral.Binary64} :
    x ∈ itemFloats items ↔ ∃ item ∈ items, x ∈ item.floats := by
  induction items with
  | nil => simp [itemFloats]
  | cons item rest ih => simp [itemFloats, ih]

theorem mem_memberFloats {members : Members} {x : Numeral.Binary64} :
    x ∈ memberFloats members ↔ ∃ m ∈ members, x ∈ m.2.floats := by
  induction members with
  | nil => simp [memberFloats]
  | cons m rest ih => simp [memberFloats, ih]

/-! ## Values that fit -/

/-- More room does no harm. -/
theorem Writable.succ {room : Nat} {v : Json} (writable : Writable room v) : Writable (room + 1) v := by
  induction writable with
  | null => exact .null
  | bool b => exact .bool b
  | number reads => exact .number reads
  | string s => exact .string s
  | array _ ih => exact .array ih
  | object sorted _ ih => exact .object sorted ih

/-- Whether nothing but the floats of a value can keep its text from being read back, with room for so
many containers inside one another. -/
def Formed (room : Nat) (v : Json) : Prop :=
  (∀ x ∈ v.floats, (Number.float x).ReadsBack) → Writable room v

variable {room : Nat}

theorem formed_number (n : Number) : Formed room (.number n) := by
  intro reads
  cases n with
  | integer i inRange => exact .number (readsBack_integer i inRange)
  | float x => exact .number (reads x (List.mem_singleton_self x))

theorem formed_array {items : List Json} (each : ∀ item ∈ items, Formed room item) :
    Formed (room + 1) (.array items) :=
  fun reads => .array fun item member =>
    each item member fun x inside => reads x (mem_itemFloats.2 ⟨item, member, inside⟩)

theorem formed_object {members : Members} (sorted : (members.map Prod.fst).Pairwise (· < ·))
    (each : ∀ m ∈ members, Formed room m.2) : Formed (room + 1) (.object members) :=
  fun reads => .object sorted fun m member =>
    each m member fun x inside => reads x (mem_memberFloats.2 ⟨m, member, inside⟩)

/-! ## Members in order -/

theorem mem_insert {key : String} {value : Json} {members : Members} {m : String × Json}
    (member : m ∈ members.insert key value) : m = (key, value) ∨ m ∈ members := by
  induction members with
  | nil => exact .inl (List.mem_singleton.1 member)
  | cons first rest ih =>
      unfold Members.insert at member
      split at member
      · exact List.mem_cons.1 member
      · split at member
        · exact (List.mem_cons.1 member).imp_right (List.mem_cons_of_mem _)
        · rcases List.mem_cons.1 member with rfl | later
          · exact .inr List.mem_cons_self
          · exact (ih later).imp_right (List.mem_cons_of_mem _)

/-- Inserting a member keeps the order of keys. -/
theorem sorted_insert {members : Members} (sorted : (members.map Prod.fst).Pairwise (· < ·)) (key : String)
    (value : Json) : ((members.insert key value).map Prod.fst).Pairwise (· < ·) := by
  induction members with
  | nil => exact List.pairwise_singleton _ _
  | cons first rest ih =>
      obtain ⟨least, later⟩ := List.pairwise_cons.1 sorted
      unfold Members.insert
      split
      · rename_i less
        refine List.pairwise_cons.2 ⟨fun other member => ?_, sorted⟩
        rcases List.mem_cons.1 member with rfl | behind
        · exact less
        · exact String.lt_trans less (least other behind)
      · split
        · rename_i same
          subst same
          exact sorted
        · rename_i noLess other
          have greater : first.1 < key := Std.lt_of_le_of_ne noLess (Ne.symm other)
          refine List.pairwise_cons.2 ⟨fun k member => ?_, ih later⟩
          obtain ⟨m, inserted, rfl⟩ := List.mem_map.1 member
          rcases mem_insert inserted with rfl | old
          · exact greater
          · exact least m.1 (List.mem_map_of_mem old)

/-! ## The reader's invariant -/

/-- What was read into an open container fits the room inside it, and members are in order. -/
def Frame.Fits (room : Nat) : Frame → Prop
  | .array items => ∀ item ∈ items, Formed room item
  | .object members _ => (members.map Prod.fst).Pairwise (· < ·) ∧ ∀ m ∈ members, Formed room m.2

/-- What was read into the open containers, of which the innermost has so much room inside, fits. -/
def Nested : Nat → List Frame → Prop
  | room, [] => room = maxDepth
  | room, frame :: outer => frame.Fits room ∧ Nested (room + 1) outer

/-- With less than the greatest number of containers open there is room for one more. -/
theorem Nested.exists_succ {outer : List Frame} (nested : Nested room outer) (fewer : outer.length < maxDepth) :
    ∃ inside, room = inside + 1 := by
  have whole : room + outer.length = maxDepth := by
    clear fewer
    induction outer generalizing room with
    | nil => exact nested
    | cons frame outer ih =>
        have behind := ih nested.2
        rw [List.length_cons]
        omega
  exact ⟨room - 1, by omega⟩

namespace Reader

/-- The containers that are open, an array or object that has begun among them. -/
def frames : Reader → List Frame
  | .value outer => outer
  | .firstItem outer => .array [] :: outer
  | .nextItem items outer => .array items :: outer
  | .firstKey outer => .object [] "" :: outer
  | .key members outer => .object members "" :: outer
  | .colon members k outer => .object members k :: outer
  | .nextKey members outer => .object members "" :: outer
  | .finished _ => []

/-- All that was read fits the room that it stands in. -/
def Sound : Reader → Prop
  | .finished v => Formed maxDepth v
  | reader => ∃ room, Nested room reader.frames

theorem deliver_sound {outer : List Frame} {v : Json} (nested : Nested room outer) (formed : Formed room v) :
    (deliver v outer).Sound := by
  match outer, nested with
  | [], whole =>
      cases (whole : room = maxDepth)
      exact formed
  | .array items :: outer, ⟨fits, nested⟩ =>
      exact ⟨room, List.forall_mem_cons.2 ⟨formed, fits⟩, nested⟩
  | .object members k :: outer, ⟨⟨sorted, fits⟩, nested⟩ =>
      refine ⟨room, ⟨sorted_insert sorted k v, fun m member => ?_⟩, nested⟩
      rcases mem_insert member with rfl | old
      · exact formed
      · exact fits m old

theorem beginValue_sound {outer : List Frame} {t : Token} {r : Reader} (nested : Nested room outer)
    (plain : ∀ v, t = .scalar v → ∀ room, Formed room v) (found : beginValue outer t = some r) : r.Sound := by
  fun_cases beginValue outer t
  case case1 v =>
    cases found
    exact deliver_sound nested (plain v rfl room)
  case case2 s =>
    cases found
    exact deliver_sound nested fun _ => .string s
  case case3 fewer =>
    obtain ⟨inside, rfl⟩ := nested.exists_succ fewer
    rw [beginValue, if_pos fewer] at found
    cases found
    exact ⟨inside, List.forall_mem_nil _, nested⟩
  case case4 full =>
    rw [beginValue, if_neg full] at found
    cases found
  case case5 fewer =>
    obtain ⟨inside, rfl⟩ := nested.exists_succ fewer
    rw [beginValue, if_pos fewer] at found
    cases found
    exact ⟨inside, ⟨List.Pairwise.nil, List.forall_mem_nil _⟩, nested⟩
  case case6 full =>
    rw [beginValue, if_neg full] at found
    cases found
  case case7 =>
    rw [beginValue] at found
    · cases found
    all_goals assumption

theorem step_sound {r r' : Reader} {t : Token} (sound : r.Sound)
    (plain : ∀ v, t = .scalar v → ∀ room, Formed room v) (found : r.step t = some r') : r'.Sound := by
  fun_cases step r t
  case case1 outer =>
    obtain ⟨room, nested⟩ := sound
    exact beginValue_sound nested plain found
  case case2 outer =>
    obtain ⟨room, fits, nested⟩ := sound
    cases found
    exact deliver_sound nested (formed_array fits)
  case case3 outer noEnd =>
    obtain ⟨room, nested⟩ := sound
    rw [step] at found
    · exact beginValue_sound nested plain found
    · assumption
  case case4 items outer =>
    cases found
    exact sound
  case case5 items outer =>
    obtain ⟨room, fits, nested⟩ := sound
    cases found
    exact deliver_sound nested (formed_array fun item member => fits item (List.mem_reverse.1 member))
  case case6 outer =>
    obtain ⟨room, ⟨sorted, fits⟩, nested⟩ := sound
    cases found
    exact deliver_sound nested (formed_object sorted fits)
  case case7 outer k =>
    cases found
    exact sound
  case case8 members outer k =>
    cases found
    exact sound
  case case9 members k outer =>
    cases found
    exact sound
  case case10 members outer =>
    cases found
    exact sound
  case case11 members outer =>
    obtain ⟨room, ⟨sorted, fits⟩, nested⟩ := sound
    cases found
    exact deliver_sound nested (formed_object sorted fits)
  case case12 =>
    rw [step] at found
    · cases found
    all_goals assumption

theorem run_sound {r r' : Reader} {words : List Token} (sound : r.Sound)
    (plain : ∀ v, .scalar v ∈ words → ∀ room, Formed room v) (found : r.run words = some r') : r'.Sound := by
  induction words generalizing r with
  | nil =>
      cases found
      exact sound
  | cons t words ih =>
      rw [run_cons, Option.bind_eq_some_iff] at found
      obtain ⟨next, stepped, later⟩ := found
      have here := step_sound sound (fun v same => plain v (same ▸ List.mem_cons_self)) stepped
      exact ih here (fun v member => plain v (List.mem_cons_of_mem _ member)) later

end Reader

/-! ## Texts -/

/-- A word that is a value by itself is null, a boolean or a number. -/
theorem scalar_of_next {cs rest : List Char} {v : Json} (found : Token.next cs = some (.scalar v, rest)) :
    v = .null ∨ (∃ b, v = .bool b) ∨ ∃ n, v = .number n := by
  fun_cases Token.next cs
  -- a quote begins a word that is no scalar, as a mark does; a number is all that no case before reads
  case case7 =>
    obtain ⟨p, -, same⟩ := Option.map_eq_some_iff.1 found
    cases same
  case case11 =>
    rw [Token.next] at found
    · obtain ⟨⟨literal, behind⟩, -, read⟩ := Option.bind_eq_some_iff.1 found
      obtain ⟨n, -, same⟩ := Option.bind_eq_some_iff.1 read
      cases same
      exact .inr (.inr ⟨n, rfl⟩)
    all_goals assumption
  all_goals cases found
  case case8.refl => exact .inl rfl
  case case9.refl => exact .inr (.inl ⟨true, rfl⟩)
  case case10.refl => exact .inr (.inl ⟨false, rfl⟩)

/-- The scalars of a text nest nothing. -/
theorem scalar_of_scan {cs : List Char} {words : List Token} (found : Token.scan cs = some words) {v : Json}
    (member : .scalar v ∈ words) : v = .null ∨ (∃ b, v = .bool b) ∨ ∃ n, v = .number n := by
  fun_induction Token.scan cs generalizing words
  case case1 =>
    cases found
    cases member
  case case2 ih => exact ih found member
  case case3 => cases found
  case case4 t rest first ih =>
    obtain ⟨later, scanned, rfl⟩ := Option.map_eq_some_iff.1 found
    rcases List.mem_cons.1 member with rfl | behind
    · exact scalar_of_next first
    · exact ih scanned behind

theorem formed_of_scan {cs : List Char} {words : List Token} (found : Token.scan cs = some words) {v : Json}
    (member : .scalar v ∈ words) : Formed room v := by
  rcases scalar_of_scan found member with rfl | ⟨b, rfl⟩ | ⟨n, rfl⟩
  · exact fun _ => .null
  · exact fun _ => .bool b
  · exact formed_number n

/-- **What is read can be written and read again**, if this is so for its floats. -/
theorem formed_of_parse? {text : String} {v : Json} (found : parse? text = some v) : Formed maxDepth v := by
  obtain ⟨words, scanned, read⟩ := Option.bind_eq_some_iff.1 found
  obtain ⟨r, ran, result⟩ := Option.bind_eq_some_iff.1 read
  have start : (Reader.value []).Sound := ⟨maxDepth, rfl⟩
  have sound := Reader.run_sound start (fun w member room => formed_of_scan scanned member) ran
  cases r <;> cases result
  exact sound

end Responder.Json
