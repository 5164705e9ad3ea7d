/-
# Which keys are held

Of the relayed events of a keyboard only strokes count: a key goes down or up.
What a station holds is in order, has each key once, and has it exactly if the
key's last stroke was down (`Held`), whatever was repeated, pressed twice or
released without having been pressed. One event keeps this up, so it holds after
any number of events.

Key definitions: `RelayEvent.isStroke`, `lastStroke?`, `Held`, `keysAfter`.
Key theorems: `mem_holdKey`, `sorted_holdKey`, `Held.foldl`,
`Station.relayedKeys_relayEvent`.
-/
import PointerShare.Station.Working

namespace PointerShare

/-- A key of the relayed keyboard goes down or up; repeats and mouse buttons are no strokes. -/
def RelayEvent.isStroke (e : RelayEvent) : Bool :=
  e.source == .keyboard && (e.value == 1 || e.value == 0)

/-- The last stroke of a key. -/
def lastStroke? (events : List RelayEvent) (code : UInt32) : Option RelayEvent :=
  (events.filter fun e => e.isStroke && e.code == code).getLast?

/-- The keys are those whose last stroke was down, in order and each once. -/
structure Held (keys : List UInt32) (events : List RelayEvent) : Prop where
  sorted : keys.Pairwise (· < ·)
  mem : ∀ code, code ∈ keys ↔ ∃ e, lastStroke? events code = some e ∧ e.value = 1

/-- The keys held after one more event. -/
def keysAfter (keys : List UInt32) (e : RelayEvent) : List UInt32 :=
  if e.source == .keyboard then
    if e.value = 1 then Station.holdKey keys e.code
    else if e.value = 0 then keys.filter fun k => k != e.code
    else keys
  else keys

theorem held_nil : Held [] [] := ⟨.nil, fun code => by simp [lastStroke?]⟩

/-! ### A key that goes down -/

theorem mem_holdKey (keys : List UInt32) (code c : UInt32) :
    c ∈ Station.holdKey keys code ↔ c = code ∨ c ∈ keys := by
  have hkeys : c ∈ keys ↔ c ∈ keys.takeWhile (· < code) ∨ c ∈ keys.dropWhile (· < code) := by
    rw [← List.mem_append, List.takeWhile_append_dropWhile]
  have hrest : c ∈ keys.dropWhile (· < code) → c = code ∨
      c ∈ (keys.dropWhile (· < code)).dropWhile (· == code) := by
    intro h
    rw [← List.takeWhile_append_dropWhile (p := (· == code)) (l := keys.dropWhile (· < code)),
      List.mem_append] at h
    exact h.imp_left fun h => by simpa using List.all_eq_true.mp List.all_takeWhile c h
  have hback : c ∈ (keys.dropWhile (· < code)).dropWhile (· == code) →
      c ∈ keys.dropWhile (· < code) := fun h => (List.dropWhile_sublist _).subset h
  unfold Station.holdKey
  rw [List.mem_append, List.mem_cons, hkeys]
  constructor
  · rintro (h | h | h)
    · exact .inr (.inl h)
    · exact .inl h
    · exact .inr (.inr (hback h))
  · rintro (h | h | h)
    · exact .inr (.inl h)
    · exact .inl h
    · exact .inr (hrest h)

/-- What is left behind a key's place is greater. -/
theorem lt_of_mem_rest {keys : List UInt32} (h : keys.Pairwise (· < ·)) (code : UInt32) :
    ∀ c ∈ (keys.dropWhile (· < code)).dropWhile (· == code), code < c := by
  induction keys with
  | nil => exact nofun
  | cons k ks ih =>
    obtain ⟨hk, hks⟩ := List.pairwise_cons.mp h
    by_cases hlt : k < code
    · rw [List.dropWhile_cons_of_pos (by simpa using hlt)]
      exact ih hks
    rw [List.dropWhile_cons_of_neg (by simpa using hlt)]
    by_cases heq : k = code
    · subst heq
      rw [List.dropWhile_cons_of_pos (by simp)]
      exact fun c hc => hk c ((List.dropWhile_sublist _).subset hc)
    · rw [List.dropWhile_cons_of_neg (by simpa using heq)]
      have hgt : code < k := UInt32.lt_of_le_of_ne (UInt32.not_lt.mp hlt) (Ne.symm heq)
      intro c hc
      rcases List.mem_cons.mp hc with rfl | hc
      · exact hgt
      · exact UInt32.lt_trans hgt (hk c hc)

theorem sorted_holdKey {keys : List UInt32} (h : keys.Pairwise (· < ·)) (code : UInt32) :
    (Station.holdKey keys code).Pairwise (· < ·) := by
  have hfirst : ∀ c ∈ keys.takeWhile (· < code), c < code := fun c hc => by
    simpa using List.all_eq_true.mp List.all_takeWhile c hc
  have hlast := lt_of_mem_rest h code
  have hrest : ((keys.dropWhile (· < code)).dropWhile (· == code)).Pairwise (· < ·) :=
    h.sublist ((List.dropWhile_sublist _).trans (List.dropWhile_sublist _))
  refine List.pairwise_append.mpr ⟨h.sublist (List.takeWhile_sublist _),
    List.pairwise_cons.mpr ⟨hlast, hrest⟩, fun a ha b hb => ?_⟩
  rcases List.mem_cons.mp hb with rfl | hb
  · exact hfirst a ha
  · exact UInt32.lt_trans (hfirst a ha) (hlast b hb)

/-! ### One more event -/

theorem lastStroke?_concat (events : List RelayEvent) (e : RelayEvent) (code : UInt32) :
    lastStroke? (events ++ [e]) code =
      if e.isStroke && e.code == code then some e else lastStroke? events code := by
  unfold lastStroke?
  rw [List.filter_append, List.filter_cons, List.filter_nil]
  split
  · exact List.getLast?_concat
  · rw [List.append_nil]

/-- An event that is no stroke changes nothing. -/
theorem keysAfter_of_not_stroke (keys : List UInt32) {e : RelayEvent} (h : e.isStroke = false) :
    keysAfter keys e = keys := by
  unfold RelayEvent.isStroke at h
  unfold keysAfter
  split
  · rename_i hk
    rw [hk, Bool.true_and, Bool.or_eq_false_iff] at h
    obtain ⟨hdown, hup⟩ := h
    rw [if_neg (by simpa using hdown), if_neg (by simpa using hup)]
  · rfl

theorem Held.concat {keys : List UInt32} {events : List RelayEvent} (h : Held keys events)
    (e : RelayEvent) : Held (keysAfter keys e) (events ++ [e]) := by
  cases hs : e.isStroke with
  | false =>
    rw [keysAfter_of_not_stroke keys hs]
    refine ⟨h.sorted, fun code => ?_⟩
    rw [h.mem code, lastStroke?_concat, hs, Bool.false_and, if_neg Bool.false_ne_true]
  | true =>
    have hlast (code : UInt32) : lastStroke? (events ++ [e]) code =
        if e.code = code then some e else lastStroke? events code := by
      rw [lastStroke?_concat, hs, Bool.true_and]
      simp
    obtain ⟨hk, hv⟩ := Bool.and_eq_true_iff.mp hs
    unfold keysAfter
    rw [if_pos hk]
    by_cases hdown : e.value = 1
    · rw [if_pos hdown]
      refine ⟨sorted_holdKey h.sorted e.code, fun code => ?_⟩
      rw [mem_holdKey, hlast, h.mem]
      by_cases hc : e.code = code
      · simp [hc, hdown]
      · simp [hc, Ne.symm hc]
    · have hup : e.value = 0 := by simpa [hdown] using hv
      rw [if_neg hdown, if_pos hup]
      refine ⟨h.sorted.filter _, fun code => ?_⟩
      rw [List.mem_filter, hlast, h.mem]
      by_cases hc : e.code = code
      · simp [hc, hup]
      · simp [hc, Ne.symm hc]

/-- However many events come, the keys held are those whose last stroke was down. -/
theorem Held.foldl (events' : List RelayEvent) : ∀ {keys : List UInt32} {events : List RelayEvent},
    Held keys events → Held (events'.foldl keysAfter keys) (events ++ events') := by
  induction events' with
  | nil => exact fun h => (List.append_nil _).symm ▸ h
  | cons e es ih =>
    intro keys events h
    rw [List.foldl_cons, ← List.singleton_append, ← List.append_assoc]
    exact ih (h.concat e)

/-- What a relay event does to an outbound station. -/
theorem Station.relayedKeys_relayEvent {s : Station} (ho : s.role.isOutbound = true)
    (e : RelayEvent) : (s.relayEvent e).relayedKeys = keysAfter s.relayedKeys e := by
  unfold relayEvent keysAfter
  rw [ho, Bool.true_and]
  repeat' split
  all_goals rfl

end PointerShare
