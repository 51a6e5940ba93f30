/-
# Responder.Proofs.Json.RoundTrip -- compact text is read back as the value it was written from

The words of a value take a reader that waits for a value to the place where this
value has been delivered, whatever containers are open around it, as long as there
is room for the containers inside (`Writable.delivers`).  So the compact text of
every value that nests no deeper than the reader allows denotes this value and no
other (`Writable.parse?_compact`), and two such values with one text are the same
(`Writable.eq_of_compact_eq`).
-/
import Responder.Json.Parser
import Responder.Proofs.Json.Words

namespace Responder.Json

set_option autoImplicit false

/-! ## Members in order -/

/-- A member whose key comes after all others is put behind them. -/
theorem insert_of_lt {members : Members} {key : String} (value : Json) (after : ∀ m ∈ members, m.1 < key) :
    members.insert key value = members ++ [(key, value)] := by
  induction members with
  | nil => rfl
  | cons m members ih =>
      have less : m.1 < key := after m List.mem_cons_self
      have other : key ≠ m.1 := fun same => String.lt_irrefl key (by rwa [← same] at less)
      rw [Members.insert, if_neg (String.lt_asymm less), if_neg other,
        ih fun other member => after other (List.mem_cons_of_mem _ member), List.cons_append]

/-! ## Reading words -/

namespace Reader

theorem run_cons (r : Reader) (t : Token) (ts : List Token) :
    r.run (t :: ts) = (r.step t).bind fun next => next.run ts := List.foldlM_cons

/-- Whether the words of a value deliver it into every nest of containers with room for those inside. -/
def Delivers (room : Nat) (v : Json) : Prop :=
  ∀ outer ts, outer.length + room ≤ maxDepth →
    run (.value outer) (v.words ++ ts) = run (deliver v outer) ts

/-- The first item of an array is read as any other. -/
theorem run_firstItem (v : Json) (outer : List Frame) (ts : List Token) :
    run (.firstItem outer) (v.words ++ ts) = run (.value (.array [] :: outer)) (v.words ++ ts) := by
  cases v <;> rfl

variable {room : Nat} {outer : List Frame}

/-- Room for a container around others is room for these inside it. -/
theorem fits_cons (frame : Frame) (fits : outer.length + (room + 1) ≤ maxDepth) :
    (frame :: outer).length + room ≤ maxDepth := by
  rw [List.length_cons]
  omega

theorem run_moreItemWords {items : List Json} (each : ∀ item ∈ items, Delivers room item)
    (fits : outer.length + (room + 1) ≤ maxDepth) (read : List Json) (ts : List Token) :
    run (.nextItem read outer) (moreItemWords items ++ .closeArray :: ts) =
      run (deliver (.array (read.reverse ++ items)) outer) ts := by
  induction items generalizing read with
  | nil =>
      rw [moreItemWords, List.nil_append, run_cons, List.append_nil]
      rfl
  | cons item items ih =>
      have here := each item List.mem_cons_self (.array read :: outer)
        (moreItemWords items ++ .closeArray :: ts) (fits_cons _ fits)
      have later := ih (fun other member => each other (List.mem_cons_of_mem _ member)) (item :: read)
      rw [List.reverse_cons, List.append_assoc, List.singleton_append] at later
      rw [moreItemWords, List.cons_append, List.append_assoc, run_cons, ← later]
      exact here

theorem delivers_array {items : List Json} (each : ∀ item ∈ items, Delivers room item) :
    Delivers (room + 1) (.array items) := by
  intro outer ts fits
  have roomLeft : outer.length < maxDepth := by omega
  rw [words, List.cons_append, List.append_assoc, List.singleton_append, run_cons]
  simp only [step, beginValue, if_pos roomLeft, Option.bind_some]
  cases items with
  | nil =>
      rw [itemWords, List.nil_append, run_cons]
      rfl
  | cons item items =>
      have here := each item List.mem_cons_self (.array [] :: outer)
        (moreItemWords items ++ .closeArray :: ts) (fits_cons _ fits)
      have later := run_moreItemWords (fun other member => each other (List.mem_cons_of_mem _ member))
        fits [item] ts
      rw [itemWords, List.append_assoc, run_firstItem, here]
      exact later

theorem run_moreMemberWords (read : Members) {members : Members}
    (sorted : ((read ++ members).map Prod.fst).Pairwise (· < ·)) (each : ∀ m ∈ members, Delivers room m.2)
    (fits : outer.length + (room + 1) ≤ maxDepth) (ts : List Token) :
    run (.nextKey read outer) (moreMemberWords members ++ .closeObject :: ts) =
      run (deliver (.object (read ++ members)) outer) ts := by
  induction members generalizing read with
  | nil =>
      rw [moreMemberWords, List.nil_append, run_cons, List.append_nil]
      rfl
  | cons m members ih =>
      obtain ⟨key, value⟩ := m
      have here := each (key, value) List.mem_cons_self (.object read key :: outer)
        (moreMemberWords members ++ .closeObject :: ts) (fits_cons _ fits)
      -- the key comes after all that were read, so its member is put behind theirs as it stood in the text
      have last : read.insert key value = read ++ [(key, value)] := by
        rw [List.map_append, List.pairwise_append] at sorted
        exact insert_of_lt value fun m member =>
          sorted.2.2 m.1 (List.mem_map_of_mem member) key List.mem_cons_self
      have later := ih (read ++ [(key, value)]) (by rwa [List.append_assoc, List.singleton_append])
        (fun other member => each other (List.mem_cons_of_mem _ member))
      rw [List.append_assoc, List.singleton_append, ← last] at later
      simp only [moreMemberWords, List.cons_append, List.append_assoc]
      rw [← later]
      exact here

theorem delivers_object {members : Members} (sorted : (members.map Prod.fst).Pairwise (· < ·))
    (each : ∀ m ∈ members, Delivers room m.2) : Delivers (room + 1) (.object members) := by
  intro outer ts fits
  have roomLeft : outer.length < maxDepth := by omega
  rw [words, List.cons_append, List.append_assoc, List.singleton_append, run_cons]
  simp only [step, beginValue, if_pos roomLeft, Option.bind_some]
  cases members with
  | nil =>
      rw [memberWords, List.nil_append, run_cons]
      rfl
  | cons m members =>
      obtain ⟨key, value⟩ := m
      have here := each (key, value) List.mem_cons_self (.object [] key :: outer)
        (moreMemberWords members ++ .closeObject :: ts) (fits_cons _ fits)
      have later := run_moreMemberWords [(key, value)] sorted
        (fun other member => each other (List.mem_cons_of_mem _ member)) fits ts
      simp only [memberWords, List.cons_append, List.append_assoc]
      exact here.trans later

end Reader

/-- **The words of a value deliver it.** -/
theorem Writable.delivers {room : Nat} {v : Json} (writable : Writable room v) : Reader.Delivers room v := by
  induction writable with
  | null => exact fun _ _ _ => rfl
  | bool b => exact fun _ _ _ => rfl
  | number reads => exact fun _ _ _ => rfl
  | string s => exact fun _ _ _ => rfl
  | array each ih => exact Reader.delivers_array ih
  | object sorted each ih => exact Reader.delivers_object sorted ih

/-! ## Texts -/

/-- **Compact text is read back as the value it was written from.** -/
theorem Writable.parse?_compact {v : Json} (writable : Writable maxDepth v) : parse? v.compact = some v := by
  have ends : NumberEnds [] := fun c none => by cases none
  have scanned := writable.shows [] ends
  have read := writable.delivers [] [] (Nat.zero_add _).le
  rw [List.append_nil, Token.scan, Option.map_some, List.append_nil] at scanned
  rw [List.append_nil] at read
  rw [parse?, compact, String.toList_ofList, scanned, Option.bind_some, ofTokens?, read]
  rfl

/-- Values with one text are the same. -/
theorem Writable.eq_of_compact_eq {v w : Json} (first : Writable maxDepth v) (second : Writable maxDepth w)
    (same : v.compact = w.compact) : v = w := by
  have read := first.parse?_compact
  rw [same, second.parse?_compact] at read
  exact (Option.some.inj read).symm

end Responder.Json
