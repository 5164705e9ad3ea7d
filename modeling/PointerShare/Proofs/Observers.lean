/-
# Observers hear their own part of the history

Observers come and go while notices are published, any of them may fail on
any notice, and the readers of a channel may go away. An observer is handed
the notices that are published from its own subscription until its own
unsubscription, each once and in order, whatever it and the others do with
them: a subscription's number is never given again, so neither another
unsubscription nor a later subscription touches its part.

Key definitions: `Notifier.Act`, `Notifier.step`, `Notifier.run`,
`Notifier.numbers`, `Notifier.handed`, `Notifier.named`.
Key theorems: `Notifier.named_step`, `Notifier.handed_step`,
`Notifier.handed_run`, `Notifier.ids_run`, `Notifier.hears_its_own_part`.
-/
import PointerShare.Notifier
import Mathlib.Data.List.Basic

namespace PointerShare

namespace Notifier

/-! ## Histories -/

/-- What happens to a notifier. -/
inductive Act where
  | subscribe (tag : String) (observer : Observer)
  | unsubscribe (id : Nat)
  /-- A notice is published, and the observers receive it in some way. -/
  | publish (receive : Subscriber → Notice → Reception) (notice : Notice)
  /-- Nobody reads the channels of that name any more. -/
  | stopReading (tag : String)

namespace Act

/-- Whether it ends the subscription of that number. -/
def ends (id : Nat) : Act → Bool
  | .unsubscribe k => k == id
  | _ => false

theorem ends_iff {id : Nat} {a : Act} : a.ends id = true ↔ a = .unsubscribe id := by
  cases a <;> simp [ends]

/-- The notice that is published, if one is. -/
def notice? : Act → Option Notice
  | .publish _ notice => some notice
  | _ => none

end Act

/-- The notices that are published, in order. -/
def published (acts : List Act) : List Notice := acts.filterMap Act.notice?

def step (n : Notifier) : Act → Notifier
  | .subscribe tag observer => (n.subscribe tag observer).2
  | .unsubscribe id => (n.unsubscribe id).2
  | .publish receive notice => (n.publishBy receive notice).2
  | .stopReading tag => n.stopReading tag

def run (n : Notifier) (acts : List Act) : Notifier := acts.foldl step n

theorem run_cons (n : Notifier) (a : Act) (acts : List Act) : n.run (a :: acts) = (n.step a).run acts :=
  rfl

theorem run_append (n : Notifier) (acts acts' : List Act) :
    n.run (acts ++ acts') = (n.run acts).run acts' :=
  List.foldl_append

/-- The number that a subscription gets. -/
def numberOf (n : Notifier) : Act → List Nat
  | .subscribe tag observer => [(n.subscribe tag observer).1]
  | _ => []

/-- The numbers that the subscriptions of a history get, in order. -/
def numbers : Notifier → List Act → List Nat
  | _, [] => []
  | n, a :: acts => n.numberOf a ++ (n.step a).numbers acts

/-- The numbers of the current subscriptions. -/
def ids (n : Notifier) : List Nat := n.subscribers.map (·.id)

/-- The observers that are subscribed under a number. -/
def named (id : Nat) (n : Notifier) : List (String × Observer) :=
  (n.subscribers.filter (·.id == id)).map fun s => (s.tag, s.observer)

/-- What has been handed out under a number: to whom, and what. -/
def handed (id : Nat) (n : Notifier) : List ((String × Observer) × Notice) :=
  (n.handovers.filter (·.subscriber.id == id)).map fun h =>
    ((h.subscriber.tag, h.subscriber.observer), h.notice)

/-! ## Numbers -/

section numbers

variable (n : Notifier)

theorem issued_step (a : Act) : (n.step a).issued = n.issued + (n.numberOf a).length := by
  cases a <;> rfl

/-- Numbers grow. -/
theorem numbers_bounds (acts : List Act) : ∀ n : Notifier,
    (∀ k ∈ n.numbers acts, n.issued < k ∧ k ≤ (n.run acts).issued) ∧
      n.issued ≤ (n.run acts).issued ∧ (n.numbers acts).Pairwise (· < ·) := by
  induction acts with
  | nil => exact fun n => ⟨nofun, Nat.le_refl _, .nil⟩
  | cons a acts ih =>
    intro n
    obtain ⟨hbounds, hmono, hpairwise⟩ := ih (n.step a)
    have hissued := issued_step n a
    have hnumber : ∀ k ∈ n.numberOf a, k = n.issued + 1 ∧ k = (n.step a).issued := by
      cases a with
      | subscribe tag observer => exact fun k hk => ⟨List.mem_singleton.mp hk, List.mem_singleton.mp hk⟩
      | _ => exact nofun
    have hfirst : (n.numberOf a).Pairwise (· < ·) := by
      cases a <;> simp [numberOf]
    rw [run_cons]
    refine ⟨fun k hk => ?_, by omega, ?_⟩
    · rcases List.mem_append.mp hk with hk | hk
      · have := hnumber k hk
        omega
      · have := hbounds k hk
        omega
    · refine List.pairwise_append.mpr ⟨hfirst, hpairwise, fun k hk l hl => ?_⟩
      have := hnumber k hk
      have := hbounds l hl
      omega

theorem ids_step (a : Act) : (n.step a).ids.Sublist (n.ids ++ n.numberOf a) := by
  cases a with
  | subscribe tag observer => simp [ids, step, subscribe, numberOf]
  | unsubscribe id =>
    simp only [numberOf, List.append_nil]
    exact List.filter_sublist.map _
  | publish receive notice => simp [ids, step, publishBy, numberOf]
  | stopReading tag =>
    have h : (n.stopReading tag).ids = n.ids := by
      simp only [ids, stopReading, List.map_map]
      refine List.map_congr_left fun s _ => ?_
      simp only [Function.comp_apply]
      split <;> rfl
    simp [step, h, numberOf]

/-- The current subscriptions are some of those there were, in the same order. -/
theorem ids_run (acts : List Act) : ∀ n : Notifier,
    (n.run acts).ids.Sublist (n.ids ++ n.numbers acts) := by
  induction acts with
  | nil => exact fun n => by simp [numbers, run]
  | cons a acts ih =>
    intro n
    have h := (ids_step n a).append (List.Sublist.refl ((n.step a).numbers acts))
    rw [List.append_assoc] at h
    exact (ih (n.step a)).trans h

/-- Only who subscribed is handed anything. -/
theorem handovers_run (acts : List Act) : ∀ n : Notifier, ∀ h ∈ (n.run acts).handovers,
    h ∈ n.handovers ∨ h.subscriber.id ∈ n.ids ++ n.numbers acts := by
  induction acts with
  | nil => exact fun n h hh => .inl hh
  | cons a acts ih =>
    intro n h hh
    have hstep : h ∈ (n.step a).handovers → h ∈ n.handovers ∨ h.subscriber.id ∈ n.ids := by
      cases a with
      | publish receive notice =>
        intro hh
        refine (List.mem_append.mp hh).imp_right fun hh => ?_
        obtain ⟨s, hs, rfl⟩ := List.mem_map.mp hh
        exact List.mem_map_of_mem hs
      | _ => exact .inl
    rcases ih (n.step a) h hh with hh | hid
    · exact (hstep hh).imp_right (List.mem_append_left _)
    · refine .inr ?_
      rw [numbers, ← List.append_assoc]
      exact ((ids_step n a).append (List.Sublist.refl _)).subset hid

end numbers

/-! ## One subscription -/

section subscription

variable {id : Nat} {n : Notifier}

/-- A subscription lasts until its own unsubscription. -/
theorem named_step (hid : id ≤ n.issued) (a : Act) :
    (n.step a).named id = if a.ends id then [] else n.named id := by
  cases a with
  | subscribe tag observer =>
    have : n.issued + 1 ≠ id := by omega
    simp [named, step, subscribe, Act.ends, this]
  | unsubscribe k =>
    by_cases hk : k = id
    · simp [named, step, unsubscribe, Act.ends, hk, List.filter_filter]
    · have h : ∀ s : Subscriber, (s.id == id && s.id != k) = (s.id == id) := by
        intro s
        by_cases hs : s.id = id
        · simp [hs, Ne.symm hk]
        · simp [hs]
      simp [named, step, unsubscribe, Act.ends, hk, List.filter_filter, h]
  | publish receive notice => rfl
  | stopReading tag =>
    simp only [named, step, stopReading, Act.ends, Bool.false_eq_true, if_false, List.filter_map,
      List.map_map]
    have hsame : ((fun s : Subscriber => s.id == id) ∘ fun s : Subscriber =>
        if s.observer = .channel ∧ s.tag = tag then { s with isRead := false } else s) =
          fun s => s.id == id := by
      funext s
      simp only [Function.comp_apply]
      split <;> rfl
    rw [hsame]
    refine List.map_congr_left fun s _ => ?_
    simp only [Function.comp_apply]
    split <;> rfl

/-- A published notice is handed to the current subscriptions, once each. -/
theorem handed_step (n : Notifier) (a : Act) :
    (n.step a).handed id =
      n.handed id ++ a.notice?.toList.flatMap fun notice => (n.named id).map (·, notice) := by
  cases a with
  | publish receive notice =>
    have h : (fun h : Handover => h.subscriber.id == id) ∘
        (fun s => (⟨s, notice, receive s notice⟩ : Handover)) = fun s => s.id == id := rfl
    simp only [handed, named, step, publishBy, handoversBy, List.filter_append, List.map_append,
      List.filter_map, List.map_map, h, Act.notice?, Option.toList, List.flatMap_cons,
      List.flatMap_nil, List.append_nil]
    rfl
  | _ => exact (List.append_nil _).symm

theorem named_run (acts : List Act) : ∀ {n : Notifier}, id ≤ n.issued →
    (n.run acts).named id = if acts.any (·.ends id) then [] else n.named id := by
  induction acts with
  | nil => exact fun _ => rfl
  | cons a acts ih =>
    intro n hid
    have hissued : id ≤ (n.step a).issued := by rw [issued_step]; omega
    rw [run_cons, ih hissued, named_step hid, List.any_cons]
    cases a.ends id <;> simp

/-- What is handed out under a number is what is published until the unsubscription. -/
theorem handed_run (acts : List Act) : ∀ {n : Notifier}, id ≤ n.issued →
    (n.run acts).handed id = n.handed id ++
      (published (acts.takeWhile fun a => !a.ends id)).flatMap fun notice =>
        (n.named id).map (·, notice) := by
  induction acts with
  | nil => exact fun _ => by simp [published, run]
  | cons a acts ih =>
    intro n hid
    have hissued : id ≤ (n.step a).issued := by rw [issued_step]; omega
    rw [run_cons, ih hissued, handed_step, named_step hid, List.append_assoc]
    congr 1
    cases hends : a.ends id with
    | true =>
      -- nobody of that number is left, and the unsubscription publishes nothing
      rw [Act.ends_iff.mp hends]
      simp [Act.notice?, published, Act.ends]
    | false =>
      rw [List.takeWhile_cons_of_pos (by simp [hends])]
      cases hnotice : a.notice? <;> simp [published, hnotice]

end subscription

/-- Who subscribes has not been handed anything, and is subscribed under the new number alone. -/
theorem subscribe_fresh {acts : List Act} {n : Notifier} (hn : n = empty.run acts) (tag : String)
    (observer : Observer) :
    let new := n.subscribe tag observer
    new.2.named new.1 = [(tag, observer)] ∧ new.2.handed new.1 = [] := by
  have hnumber : ∀ k ∈ empty.numbers acts, k ≠ n.issued + 1 := fun k hk => by
    have := ((numbers_bounds acts empty).1 k hk).2
    rw [← hn] at this
    omega
  constructor
  · have hnone : n.subscribers.filter (·.id == n.issued + 1) = [] := by
      refine List.filter_eq_nil_iff.mpr fun s hs => ?_
      have h := (ids_run acts empty).subset (hn ▸ List.mem_map_of_mem hs)
      simpa using hnumber s.id h
    simp [named, subscribe, hnone]
  · have hnone : n.handovers.filter (·.subscriber.id == n.issued + 1) = [] := by
      refine List.filter_eq_nil_iff.mpr fun h hh => ?_
      rcases handovers_run acts empty h (hn ▸ hh) with hh | hh
      · cases hh
      · simpa using hnumber _ hh
    simp [handed, subscribe, hnone]

/-! ## Delivery -/

/-- **Each observer hears its own part of the history.** Observers subscribe and unsubscribe and
notices are published in any order, and any observer may fail on any notice. Then an observer has been
handed the notices published from its subscription until its own unsubscription, each once and in
order, and is subscribed just as long as it has not been unsubscribed. Nobody else has been handed
anything. The numbers of the subscriptions are all different, the next one is new, and the current
subscriptions stand in the order in which they were made. Publishing a notice hands it to the current
subscribers in that order, says how many of them did not fail, and leaves all of them subscribed.
Unsubscribing says whether the number was subscribed, and removes that subscription alone. -/
theorem hears_its_own_part (acts : List Act) :
    let n := empty.run acts
    (∀ before tag observer after, acts = before ++ .subscribe tag observer :: after →
      let id := ((empty.run before).subscribe tag observer).1
      n.handed id = (published (after.takeWhile fun a => !a.ends id)).map ((tag, observer), ·) ∧
        (.unsubscribe id ∉ after → n.named id = [(tag, observer)]) ∧
        (.unsubscribe id ∈ after → n.named id = [])) ∧
    (∀ h ∈ n.handovers, h.subscriber.id ∈ empty.numbers acts) ∧
    (empty.numbers acts).Nodup ∧ n.ids.Sublist (empty.numbers acts) ∧
    (∀ tag observer, (n.subscribe tag observer).1 ∉ empty.numbers acts) ∧
    (∀ receive notice, let after := n.publishBy receive notice
      after.2.handovers = n.handovers ++ n.subscribers.map (fun s => ⟨s, notice, receive s notice⟩) ∧
        after.1 = n.subscribers.countP (fun s => receive s notice != .failed) ∧
        after.2.subscribers = n.subscribers) ∧
    (∀ id, let after := n.unsubscribe id
      (after.1 = true ↔ id ∈ n.ids) ∧ after.2.ids = n.ids.filter (· != id) ∧
        ∀ k ≠ id, after.2.named k = n.named k) := by
  intro n
  refine ⟨?_, ?_, ?_, ids_run acts empty, ?_, ?_, ?_⟩
  · rintro before tag observer after rfl id
    have hrun : n = ((empty.run before).step (.subscribe tag observer)).run after := by
      rw [← run_cons, ← run_append]
    obtain ⟨hnamed, hhanded⟩ := @subscribe_fresh before _ rfl tag observer
    have hid : id ≤ ((empty.run before).step (.subscribe tag observer)).issued := Nat.le_refl _
    have hlasts := named_run after hid
    rw [← hrun] at hlasts
    have hany : after.any (·.ends id) = true ↔ .unsubscribe id ∈ after := by
      simp [List.any_eq_true, Act.ends_iff]
    refine ⟨?_, fun h => ?_, fun h => ?_⟩
    · rw [hrun, handed_run after hid]
      show handed id ((empty.run before).subscribe tag observer).2 ++ _ = _
      rw [hhanded, List.nil_append]
      show (published _).flatMap (fun notice =>
        (named id ((empty.run before).subscribe tag observer).2).map _) = _
      rw [hnamed]
      simp only [List.map_cons, List.map_nil]
      exact List.map_eq_flatMap.symm
    · rw [hlasts, if_neg (mt hany.mp h)]
      exact hnamed
    · rw [hlasts, if_pos (hany.mpr h)]
  · exact fun h hh => (handovers_run acts empty h hh).resolve_left (List.not_mem_nil)
  · exact (numbers_bounds acts empty).2.2.imp (fun h => Nat.ne_of_lt h)
  · intro tag observer hmem
    have h := ((numbers_bounds acts empty).1 _ hmem).2
    exact absurd h (Nat.not_succ_le_self _)
  · intro receive notice
    refine ⟨rfl, ?_, rfl⟩
    simp [publishBy, handoversBy, List.countP_map, Function.comp_def]
  · intro id
    refine ⟨?_, ?_, fun k hk => ?_⟩
    · simp [unsubscribe, ids]
    · simp [unsubscribe, ids, List.filter_map, Function.comp_def]
    · have h : ∀ s : Subscriber, (s.id == k && s.id != id) = (s.id == k) := by
        intro s
        by_cases hs : s.id = k
        · simp [hs, hk]
        · simp [hs]
      simp [named, unsubscribe, List.filter_filter, h]

/-- The first of three observers fails on everything, and the second one leaves after the first
notice, twice. -/
theorem failing_neighbour_and_leaver :
    let fails : Subscriber → Notice → Reception := fun s _ => if s.id = 1 then .failed else .taken
    let on : Notice := .of .stateOn ⟨"b"⟩
    let off : Notice := .of .stateOff ⟨"b"⟩
    let n := empty.run [.subscribe "a" .channel, .subscribe "b" .channel, .publish fails on,
      .unsubscribe 2, .subscribe "c" .channel, .unsubscribe 2, .publish fails off]
    n.handed 1 = [(("a", .channel), on), (("a", .channel), off)] ∧
      n.handed 2 = [(("b", .channel), on)] ∧ n.handed 3 = [(("c", .channel), off)] ∧
      (n.publishBy fails off).1 = 1 ∧ (n.unsubscribe 2).1 = false := by
  intro fails on off n
  obtain ⟨hparts, -, -, -, -, hpublish, hunsubscribe⟩ := hears_its_own_part
    [.subscribe "a" .channel, .subscribe "b" .channel, .publish fails on, .unsubscribe 2,
      .subscribe "c" .channel, .unsubscribe 2, .publish fails off]
  refine ⟨(hparts [] _ _ _ rfl).1, (hparts [.subscribe "a" .channel] _ _ _ rfl).1,
    (hparts [.subscribe "a" .channel, .subscribe "b" .channel, .publish fails on, .unsubscribe 2]
      _ _ _ rfl).1, (hpublish fails off).2.1, ?_⟩
  refine Bool.eq_false_iff.mpr fun h => ?_
  exact absurd ((hunsubscribe 2).1.mp h) (by decide)

end Notifier

end PointerShare
